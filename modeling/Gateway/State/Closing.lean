import Gateway.State.Delivery
import Gateway.State.Eviction

namespace Gateway
namespace State

open Foundation

/-!
# Evicted connections end in a close frame

Two things are kept by every operation.  The registered connections belong to
different client instances and have no close frame on their channels.  A channel
that no registered connection sends on keeps its messages as they are.

An eviction turns the one into the other.  It puts a close frame on a channel
without one, and takes out the only connection that sends on it.
-/

def OutboundMessage.isClose : OutboundMessage -> Bool
  | .text _ => false
  | .close _ _ => true

/-- The connections that an operation evicts. -/
def Operation.evicted (state : GatewayState) : Operation -> List ConnectionInfo
  | .registerConnection order now connectionId userId clientInstanceId subjects connectedAt =>
      (state.registerConnection order now connectionId userId clientInstanceId subjects
        connectedAt).1.evicted
  | .markSessionReady order now connectionId userId =>
      (state.markSessionReady order now connectionId userId).1
  | _ => []

/-- No two connections of a user belong to one client instance. -/
def InstancesUnique (state : GatewayState) : Prop :=
  forall left right leftHandle rightHandle,
    state.connections.lookup left = some leftHandle ->
    state.connections.lookup right = some rightHandle ->
    leftHandle.info.userId = rightHandle.info.userId ->
    leftHandle.info.clientInstanceId = rightHandle.info.clientInstanceId ->
    leftHandle.info.clientInstanceId ≠ "" -> left = right

/-- No registered connection has a close frame on its channel. -/
def NoneClosed (state : GatewayState) : Prop :=
  forall id handle channel, state.connections.lookup id = some handle ->
    state.channels[handle.sender]? = some channel ->
    forall message, message ∈ channel.sent -> message.isClose = false

/-- The connection was registered before.  If its receiver was alive then, its
channel holds what it held then, without a close frame, and one close frame. -/
def EndsInClose (before after : GatewayState) (info : ConnectionInfo) : Prop :=
  Exists fun handle : ConnectionHandle => Exists fun channel : Channel =>
    before.connections.lookup info.connectionId = some handle /\ handle.info = info /\
    before.channels[handle.sender]? = some channel /\
    (channel.receiverAlive = true ->
      (forall message, message ∈ channel.sent -> message.isClose = false) /\
      Exists fun close : OutboundMessage => close.isClose = true /\
        after.channels[handle.sender]?.map Channel.sent = some (channel.sent ++ [close]))

/-! ## Channels that nobody sends on -/

/-- Nobody sends on the channel, and it holds this content. -/
structure Sealed (index : Nat) (content : List OutboundMessage) (state : GatewayState) :
    Prop where
  unused : forall id handle, state.connections.lookup id = some handle -> handle.sender ≠ index
  content : state.channels[index]?.map Channel.sent = some content

namespace Sealed

variable {index : Nat} {content : List OutboundMessage} {state : GatewayState}

theorem unregisterConnection (closed : Sealed index content state) (connectionId : String) :
    Sealed index content (state.unregisterConnection connectionId).2 := by
  refine ⟨?_, ?_⟩
  · intro id handle found
    rw [GatewayState.lookup_unregisterConnection] at found
    split at found
    · cases found
    · exact closed.unused id handle found
  · rw [GatewayState.unregisterConnection_channels]
    exact closed.content

/-- A message to a registered connection goes to another channel. -/
theorem sendOn (closed : Sealed index content state) {connectionId : String}
    {handle : ConnectionHandle} (found : state.connections.lookup connectionId = some handle)
    (message : OutboundMessage) :
    Sealed index content
      { state with channels := (State.sendOn state.channels handle.sender message).2 } := by
  refine ⟨closed.unused, ?_⟩
  rw [getElem?_sendOn, if_neg (Ne.symm (closed.unused connectionId handle found))]
  exact closed.content

theorem evictConnection (closed : Sealed index content state) (connectionId : String)
    (close : Option (Nat × String)) :
    Sealed index content (state.evictConnection connectionId close).2 := by
  unfold GatewayState.evictConnection
  apply unregisterConnection
  split
  · next found => exact closed.sendOn found _
  · exact closed

theorem dropReceiver (closed : Sealed index content state) (receiver : Nat) :
    Sealed index content (state.dropReceiver receiver) := by
  refine ⟨closed.unused, ?_⟩
  rw [← closed.content]
  simp only [GatewayState.dropReceiver, List.getElem?_modify, Option.map_eq_map,
    Option.map_map]
  congr 1
  funext channel
  by_cases same : receiver = index <;> simp [same]

theorem kept (index : Nat) (content : List OutboundMessage) :
    KeptByChanges (Sealed index content) where
  text := fun _ _ _ text found closed => closed.sendOn found (.text text)
  unregister := fun _ connectionId closed => closed.unregisterConnection connectionId
  evict := fun _ connectionId close closed => closed.evictConnection connectionId close
  tables := fun _ _ _ _ _ closed => ⟨closed.unused, closed.content⟩
  alive := by
    intro state connectionId timestamp closed
    refine ⟨?_, closed.content⟩
    intro id handle found
    simp only [GatewayState.markConnectionAlive, HashTable.lookup_modify] at found
    split at found
    · rcases Option.map_eq_some_iff.mp found with ⟨old, oldFound, rfl⟩
      exact closed.unused connectionId old oldFound
    · exact closed.unused id handle found
  drop := fun _ receiver closed => closed.dropReceiver receiver

/-- A new connection sends on a new channel. -/
theorem insertConnection (closed : Sealed index content state) (info : ConnectionInfo) :
    Sealed index content (state.insertConnection info) := by
  rcases Option.map_eq_some_iff.mp closed.content with ⟨channel, stored, _⟩
  have inside : index < state.channels.length := (List.getElem?_eq_some_iff.mp stored).1
  refine ⟨?_, ?_⟩
  · intro id handle found
    simp only [GatewayState.insertConnection, HashTable.lookup_insert_ite] at found
    split at found
    · rw [← Option.some.inj found]
      exact Ne.symm (Nat.ne_of_lt inside)
    · exact closed.unused id handle found
  · simp only [GatewayState.insertConnection]
    rw [List.getElem?_append_left inside]
    exact closed.content

theorem apply (closed : Sealed index content state) (toLowercase : String -> String)
    (operation : Operation) : Sealed index content (operation.apply toLowercase state) := by
  refine (kept index content).toKeptByCalls.apply toLowercase operation
    (fun _ => ⟨closed.unused, closed.content⟩) (fun receiver _ => closed.dropReceiver receiver)
    (fun order now connectionId userId _ =>
      (kept index content).toKeptByDelivery.markSessionReady order now connectionId userId
        (fun _ _ => ⟨closed.unused, closed.content⟩) closed) ?_ closed
  intro order now connectionId userId clientInstanceId subjects connectedAt _
  exact ((kept index content).toKeptByDelivery.evictSameInstance order connectionId userId
    clientInstanceId closed).insertConnection _

theorem foldl (closed : Sealed index content state) (toLowercase : String -> String)
    (operations : List Operation) :
    Sealed index content (operations.foldl (Operation.apply toLowercase) state) :=
  foldl_invariant (Sealed index content) closed
    (fun _ operation before => before.apply toLowercase operation) operations

end Sealed

/-! ## Receivers that nobody dropped -/

/-- Every receiver is alive that was not dropped. -/
def Listening (dropped : Nat -> Prop) (state : GatewayState) : Prop :=
  forall index channel, state.channels[index]? = some channel ->
    ¬dropped index -> channel.receiverAlive = true

namespace Listening

variable {dropped : Nat -> Prop} {state : GatewayState}

/-- A message does not wake or stop a receiver. -/
theorem sendOn (listening : Listening dropped state) (sender : Nat) (message : OutboundMessage) :
    Listening dropped { state with channels := (State.sendOn state.channels sender message).2 } := by
  intro index channel stored spared
  rw [getElem?_sendOn] at stored
  split at stored
  · rcases Option.map_eq_some_iff.mp stored with ⟨before, beforeStored, rfl⟩
    rw [Channel.receive_receiverAlive]
    exact listening index before beforeStored spared
  · exact listening index channel stored spared

theorem unregisterConnection (listening : Listening dropped state) (connectionId : String) :
    Listening dropped (state.unregisterConnection connectionId).2 := by
  intro index channel stored
  rw [GatewayState.unregisterConnection_channels] at stored
  exact listening index channel stored

theorem kept (dropped : Nat -> Prop) : KeptByCalls (Listening dropped) where
  text := fun _ _ handle text _ listening => listening.sendOn handle.sender (.text text)
  unregister := fun _ connectionId listening => listening.unregisterConnection connectionId
  evict := by
    intro state connectionId close listening
    unfold GatewayState.evictConnection
    apply unregisterConnection
    split
    · exact listening.sendOn _ _
    · exact listening
  tables := fun _ _ _ _ _ listening => listening
  alive := fun _ _ _ listening => listening

theorem insertConnection (listening : Listening dropped state) (info : ConnectionInfo) :
    Listening dropped (state.insertConnection info) := by
  intro index channel stored spared
  simp only [GatewayState.insertConnection] at stored
  rw [List.getElem?_append] at stored
  split at stored
  · exact listening index channel stored spared
  · rw [List.getElem?_singleton] at stored
    split at stored
    · rw [← Option.some.inj stored]
    · cases stored

theorem dropReceiver (listening : Listening dropped state) {receiver : Nat}
    (marked : dropped receiver) : Listening dropped (state.dropReceiver receiver) := by
  intro index channel stored spared
  simp only [GatewayState.dropReceiver, List.getElem?_modify] at stored
  rcases Option.map_eq_some_iff.mp stored with ⟨before, beforeStored, rfl⟩
  split
  · next same => exact absurd (same ▸ marked) spared
  · exact listening index before beforeStored spared

theorem apply (listening : Listening dropped state) (toLowercase : String -> String)
    (operation : Operation)
    (marked : forall receiver, operation = .dropReceiver receiver -> dropped receiver) :
    Listening dropped (operation.apply toLowercase state) := by
  refine (kept dropped).apply toLowercase operation (fun _ => listening)
    (fun receiver drops => listening.dropReceiver (marked receiver drops))
    (fun order now connectionId userId _ =>
      (kept dropped).toKeptByDelivery.markSessionReady order now connectionId userId
        (fun _ _ => listening) listening) ?_ listening
  intro order now connectionId userId clientInstanceId subjects connectedAt _
  exact ((kept dropped).toKeptByDelivery.evictSameInstance order connectionId userId
    clientInstanceId listening).insertConnection _

theorem run (toLowercase : String -> String) (maxConnectionsPerUser : Option Nat)
    (operations : List Operation) :
    Listening (fun index => .dropReceiver index ∈ operations)
      (GatewayState.run toLowercase maxConnectionsPerUser operations) := by
  refine foldl_history
    (fun history state => Listening (fun index => .dropReceiver index ∈ history) state) ?_ ?_
    operations
  · intro index channel stored
    cases stored
  · intro history state operation before
    have later : Listening (fun index => .dropReceiver index ∈ history ++ [operation]) state :=
      fun index channel stored spared =>
        before index channel stored fun member => spared (List.mem_append_left _ member)
    refine later.apply toLowercase operation ?_
    rintro receiver rfl
    exact List.mem_append_right _ List.mem_cons_self

end Listening

/-! ## The registered connections -/

/-- What the operations keep true of the registered connections. -/
structure Separate (state : GatewayState) : Prop where
  senders : GatewayState.SendersDistinct state
  instances : InstancesUnique state
  unclosed : NoneClosed state

namespace Separate

variable {state : GatewayState}

theorem new (maxConnectionsPerUser : Option Nat) :
    Separate (GatewayState.new maxConnectionsPerUser) where
  senders := GatewayState.SendersDistinct.new maxConnectionsPerUser
  instances := by
    intro left right leftHandle rightHandle found
    simp [GatewayState.new] at found
  unclosed := by
    intro id handle channel found
    simp [GatewayState.new] at found

theorem unregisterConnection (separate : Separate state) (connectionId : String) :
    Separate (state.unregisterConnection connectionId).2 := by
  have older : forall id handle,
      (state.unregisterConnection connectionId).2.connections.lookup id = some handle ->
      state.connections.lookup id = some handle := by
    intro id handle found
    rw [GatewayState.lookup_unregisterConnection] at found
    split at found
    · cases found
    · exact found
  refine ⟨separate.senders.unregisterConnection connectionId, ?_, ?_⟩
  · intro left right leftHandle rightHandle leftFound rightFound
    exact separate.instances left right leftHandle rightHandle (older _ _ leftFound)
      (older _ _ rightFound)
  · intro id handle channel found stored
    rw [GatewayState.unregisterConnection_channels] at stored
    exact separate.unclosed id handle channel (older id handle found) stored

theorem sendText (separate : Separate state) (sender : Nat) (text : String) :
    Separate { state with channels := (sendOn state.channels sender (.text text)).2 } := by
  refine ⟨GatewayState.SendersDistinct.kept.channels state _ (length_sendOn _ _ _)
    separate.senders, separate.instances, ?_⟩
  intro id handle channel found stored message member
  rw [getElem?_sendOn] at stored
  split at stored
  · rcases Option.map_eq_some_iff.mp stored with ⟨before, beforeStored, rfl⟩
    have unclosed := separate.unclosed id handle before found beforeStored
    unfold Channel.receive at member
    split at member
    · rcases List.mem_append.mp member with earlier | last
      · exact unclosed message earlier
      · rw [List.mem_singleton.mp last]
        rfl
    · exact unclosed message member
  · exact separate.unclosed id handle channel found stored message member

/-- The close frame goes to the one connection that is taken out. -/
theorem evictConnection (separate : Separate state) (connectionId : String)
    (close : Option (Nat × String)) :
    Separate (state.evictConnection connectionId close).2 := by
  have different : forall id handle,
      (state.evictConnection connectionId close).2.connections.lookup id = some handle ->
      id ≠ connectionId /\ state.connections.lookup id = some handle := by
    intro id handle found
    rw [GatewayState.lookup_evictConnection] at found
    split at found
    · cases found
    · next elsewhere => exact ⟨elsewhere, found⟩
  refine ⟨GatewayState.SendersDistinct.kept.delivery.evict state connectionId close
    separate.senders, ?_, ?_⟩
  · intro left right leftHandle rightHandle leftFound rightFound
    exact separate.instances left right leftHandle rightHandle (different _ _ leftFound).2
      (different _ _ rightFound).2
  · intro id handle channel found stored
    rcases different id handle found with ⟨elsewhere, registered⟩
    cases close with
    | none =>
        have same := GatewayState.unregisterConnection_channels state connectionId
        exact separate.unclosed id handle channel registered (same ▸ stored)
    | some close =>
        have unaddressed := separate.senders.not_addressed registered
          fun member => elsewhere (List.mem_singleton.mp member)
        rw [GatewayState.getElem?_evictConnection, unaddressed] at stored
        rcases Option.map_eq_some_iff.mp stored with ⟨before, beforeStored, same⟩
        rw [if_neg Bool.false_ne_true] at same
        exact separate.unclosed id handle channel registered (same ▸ beforeStored)

theorem kept : KeptByChanges Separate where
  text := fun _ _ handle text _ separate => separate.sendText handle.sender text
  unregister := fun _ connectionId separate => separate.unregisterConnection connectionId
  evict := fun _ connectionId close separate => separate.evictConnection connectionId close
  tables := fun _ _ _ _ _ separate =>
    ⟨⟨separate.senders.bound, separate.senders.distinct⟩, separate.instances, separate.unclosed⟩
  alive := by
    intro state connectionId timestamp separate
    have older : forall id handle,
        (state.markConnectionAlive connectionId timestamp).connections.lookup id = some handle ->
        Exists fun old => state.connections.lookup id = some old /\ old.sender = handle.sender /\
          old.info.userId = handle.info.userId /\
          old.info.clientInstanceId = handle.info.clientInstanceId := by
      intro id handle found
      simp only [GatewayState.markConnectionAlive, HashTable.lookup_modify] at found
      split at found
      · next same =>
        rcases Option.map_eq_some_iff.mp found with ⟨old, oldFound, rfl⟩
        rw [← same] at oldFound
        exact ⟨old, oldFound, rfl, rfl, rfl⟩
      · exact ⟨handle, found, rfl, rfl, rfl⟩
    refine ⟨separate.senders.markConnectionAlive connectionId timestamp, ?_, ?_⟩
    · intro left right leftHandle rightHandle leftFound rightFound
      rcases older left leftHandle leftFound with ⟨leftOld, leftStored, _, leftUser, leftInstance⟩
      rcases older right rightHandle rightFound with
        ⟨rightOld, rightStored, _, rightUser, rightInstance⟩
      rw [← leftUser, ← leftInstance, ← rightUser, ← rightInstance]
      exact separate.instances left right leftOld rightOld leftStored rightStored
    · intro id handle channel found stored
      rcases older id handle found with ⟨old, oldFound, sameSender, _⟩
      exact separate.unclosed id old channel oldFound (sameSender ▸ stored)
  drop := by
    intro state receiver separate
    refine ⟨GatewayState.SendersDistinct.kept.channels state _ (List.length_modify _ _ _)
      separate.senders, separate.instances, ?_⟩
    intro id handle channel found stored
    simp only [GatewayState.dropReceiver, List.getElem?_modify] at stored
    rcases Option.map_eq_some_iff.mp stored with ⟨before, beforeStored, rfl⟩
    have unclosed := separate.unclosed id handle before found beforeStored
    split
    · exact unclosed
    · exact unclosed

/-- A registration first evicts the other connections of its instance. -/
theorem insertConnection (separate : Separate state) (order : HashOrder String)
    (info : ConnectionInfo) :
    Separate ((state.evictSameInstance order info.connectionId info.userId
      info.clientInstanceId).2.insertConnection info) := by
  have evicted := kept.toKeptByDelivery.evictSameInstance order info.connectionId info.userId
    info.clientInstanceId separate
  have alone : forall id handle,
      (state.evictSameInstance order info.connectionId info.userId
        info.clientInstanceId).2.connections.lookup id = some handle ->
      handle.info.userId = info.userId -> handle.info.clientInstanceId = info.clientInstanceId ->
      info.clientInstanceId ≠ "" -> id = info.connectionId := by
    intro id handle found sameUser sameInstance named
    rw [GatewayState.evictSameInstance_eq, GatewayState.lookup_evictEach,
      GatewayState.predecessors, if_neg named] at found
    split at found
    · cases found
    · next spared =>
      by_contra elsewhere
      exact spared ((GatewayState.mem_sameInstanceConnections order state _ _ _ id).mpr
        ⟨elsewhere, handle, found, sameUser, sameInstance⟩)
  generalize (state.evictSameInstance order info.connectionId info.userId
    info.clientInstanceId).2 = cleared at evicted alone
  have known : forall id handle,
      (cleared.insertConnection info).connections.lookup id = some handle ->
      (id = info.connectionId /\ handle = ⟨info, cleared.channels.length⟩) \/
        (id ≠ info.connectionId /\ cleared.connections.lookup id = some handle) := by
    intro id handle found
    simp only [GatewayState.insertConnection, HashTable.lookup_insert_ite] at found
    split at found
    · next same => exact Or.inl ⟨same, (Option.some.inj found).symm⟩
    · next different => exact Or.inr ⟨different, found⟩
  refine ⟨evicted.senders.insertConnection info, ?_, ?_⟩
  · intro left right leftHandle rightHandle leftFound rightFound sameUser sameInstance named
    rcases known left leftHandle leftFound with ⟨leftNew, rfl⟩ | ⟨leftOld, leftStored⟩
    · rcases known right rightHandle rightFound with ⟨rightNew, _⟩ | ⟨_, rightStored⟩
      · rw [leftNew, rightNew]
      · rw [leftNew]
        exact (alone right rightHandle rightStored sameUser.symm sameInstance.symm named).symm
    · rcases known right rightHandle rightFound with ⟨rightNew, rfl⟩ | ⟨_, rightStored⟩
      · rw [rightNew]
        exact alone left leftHandle leftStored sameUser sameInstance (sameInstance ▸ named)
      · exact evicted.instances left right leftHandle rightHandle leftStored rightStored sameUser
          sameInstance named
  · intro id handle channel found stored message member
    simp only [GatewayState.insertConnection] at stored
    rcases known id handle found with ⟨_, rfl⟩ | ⟨_, older⟩
    · rw [List.getElem?_concat_length] at stored
      cases stored
      cases member
    · rw [List.getElem?_append_left (evicted.senders.bound id handle older)] at stored
      exact evicted.unclosed id handle channel older stored message member

theorem apply (separate : Separate state) (toLowercase : String -> String)
    (operation : Operation) : Separate (operation.apply toLowercase state) := by
  refine kept.toKeptByCalls.apply toLowercase operation
    (fun _ => ⟨⟨separate.senders.bound, separate.senders.distinct⟩, separate.instances,
      separate.unclosed⟩)
    (fun receiver _ => kept.drop state receiver separate)
    (fun order now connectionId userId _ =>
      kept.toKeptByDelivery.markSessionReady order now connectionId userId
        (fun _ _ => ⟨⟨separate.senders.bound, separate.senders.distinct⟩, separate.instances,
          separate.unclosed⟩) separate) ?_ separate
  intro order now connectionId userId clientInstanceId subjects connectedAt _
  exact separate.insertConnection order
    ⟨connectionId, userId, clientInstanceId, subjects, connectedAt, connectedAt⟩

theorem run (toLowercase : String -> String) (maxConnectionsPerUser : Option Nat)
    (operations : List Operation) :
    Separate (GatewayState.run toLowercase maxConnectionsPerUser operations) :=
  foldl_invariant Separate (new maxConnectionsPerUser)
    (fun _ operation before => before.apply toLowercase operation) operations

end Separate

/-! ## Evictions -/

namespace GatewayState

variable {state : GatewayState}

theorem registered_of_mem_infos {code : Nat} {reason : String} {ids : List String}
    {result : List ConnectionInfo × GatewayState}
    (evictions : Evictions state code reason ids result) {info : ConnectionInfo}
    (evicted : info ∈ result.1) : Exists fun id => id ∈ ids /\
      Exists fun handle => state.connections.lookup id = some handle /\ handle.info = info := by
  rw [evictions.infos] at evicted
  rcases List.mem_filterMap.mp evicted with ⟨id, member, reported⟩
  rcases Option.map_eq_some_iff.mp reported with ⟨handle, found, same⟩
  exact ⟨id, member, handle, found, same⟩

/-- The channel of an evicted connection holds a close frame in the end, and
nobody sends on it any more. -/
theorem Evictions.sealed (senders : SendersDistinct state) {code : Nat} {reason : String}
    {ids : List String} {result : List ConnectionInfo × GatewayState}
    (evictions : Evictions state code reason ids result) {id : String} (member : id ∈ ids)
    {handle : ConnectionHandle} (found : state.connections.lookup id = some handle)
    {channel : Channel} (stored : state.channels[handle.sender]? = some channel)
    (alive : channel.receiverAlive = true) :
    Sealed handle.sender (channel.sent ++ [.close code reason]) result.2 := by
  refine ⟨?_, ?_⟩
  · intro other otherHandle otherFound same
    rw [evictions.connections] at otherFound
    split at otherFound
    · cases otherFound
    · next spared =>
      have sameId := senders.distinct other id otherHandle handle otherFound found same
      exact spared (sameId ▸ member)
  · have addressed : state.addressed ids handle.sender = true :=
      (addressed_iff state ids handle.sender).mpr ⟨id, member, handle, found, rfl⟩
    rw [evictions.channels, stored, Option.map_some, if_pos addressed, Option.map_some,
      Channel.receive_of_alive alive]

end GatewayState

/-- Whoever an operation evicts was registered, and its channel is sealed with a
close frame. -/
theorem Operation.sealed_of_evicted {state : GatewayState}
    (senders : GatewayState.SendersDistinct state) (toLowercase : String -> String)
    {operation : Operation} {info : ConnectionInfo} (evicted : info ∈ operation.evicted state) :
    Exists fun id => Exists fun handle =>
      state.connections.lookup id = some handle /\ handle.info = info /\
        forall channel : Channel, state.channels[handle.sender]? = some channel ->
          channel.receiverAlive = true ->
          Exists fun close : OutboundMessage => close.isClose = true /\
            Sealed handle.sender (channel.sent ++ [close])
              (operation.apply toLowercase state) := by
  cases operation with
  | registerConnection order now connectionId userId clientInstanceId subjects connectedAt =>
      have evictions := GatewayState.evictEach_evictions senders 1000 "reconnect"
        (GatewayState.nodup_predecessors order state connectionId userId clientInstanceId)
      rw [← GatewayState.evictSameInstance_eq] at evictions
      rcases GatewayState.registered_of_mem_infos evictions evicted with
        ⟨id, member, handle, found, same⟩
      refine ⟨id, handle, found, same, ?_⟩
      intro channel stored alive
      refine ⟨.close 1000 "reconnect", rfl, ?_⟩
      have closed := evictions.sealed senders member found stored alive
      exact (Sealed.kept _ _).toKeptByCalls.registerConnection order now connectionId userId
        clientInstanceId subjects connectedAt (closed.insertConnection _)
  | markSessionReady order now connectionId userId =>
      have marked := senders.markReady now connectionId userId
      have evictions := GatewayState.evictEach_evictions marked 4409 "session_replaced"
        (GatewayState.nodup_overflowing order (state.markReady now connectionId userId)
          connectionId userId)
      rw [← GatewayState.markSessionReady_eq senders] at evictions
      rcases GatewayState.registered_of_mem_infos evictions evicted with
        ⟨id, member, handle, found, same⟩
      rw [GatewayState.markReady_connections] at found
      refine ⟨id, handle, found, same, ?_⟩
      intro channel stored alive
      rw [← GatewayState.markReady_channels now state connectionId userId] at stored
      rw [← GatewayState.markReady_connections now state connectionId userId] at found
      exact ⟨.close 4409 "session_replaced", rfl,
        evictions.sealed marked member found stored alive⟩
  | _ => cases evicted

/-- In every run the connections of a user have different client instances, no
registered connection has a close frame on its channel, and the channel of
everybody who was evicted ends with the only close frame on it. -/
theorem evicted_connections_end_in_close (toLowercase : String -> String)
    (maxConnectionsPerUser : Option Nat) (operations : List Operation)
    (fresh : FreshIds operations) :
    InstancesUnique (GatewayState.run toLowercase maxConnectionsPerUser operations) /\
      NoneClosed (GatewayState.run toLowercase maxConnectionsPerUser operations) /\
      forall earlier operation later, operations = earlier ++ operation :: later ->
        forall info,
          info ∈ Operation.evicted
            (GatewayState.run toLowercase maxConnectionsPerUser earlier) operation ->
          EndsInClose (GatewayState.run toLowercase maxConnectionsPerUser earlier)
            (GatewayState.run toLowercase maxConnectionsPerUser operations) info := by
  have separate := Separate.run toLowercase maxConnectionsPerUser operations
  refine ⟨separate.instances, separate.unclosed, ?_⟩
  rintro earlier operation later rfl info evicted
  have before := Separate.run toLowercase maxConnectionsPerUser earlier
  have wellFormed := WellFormed.run toLowercase maxConnectionsPerUser earlier fresh.of_append
  rcases Operation.sealed_of_evicted before.senders toLowercase evicted with
    ⟨id, handle, found, rfl, closed⟩
  have bound := before.senders.bound id handle found
  refine ⟨handle, _, ?_, rfl, List.getElem?_eq_getElem bound, ?_⟩
  · rw [wellFormed.consistent.ids id handle found]
    exact found
  · intro alive
    refine ⟨before.unclosed id handle _ found (List.getElem?_eq_getElem bound), ?_⟩
    rcases closed _ (List.getElem?_eq_getElem bound) alive with ⟨close, isClose, closedThen⟩
    have closedNow := closedThen.foldl toLowercase later
    rw [GatewayState.run, List.foldl_append, List.foldl_cons, ← GatewayState.run]
    exact ⟨close, isClose, closedNow.content⟩

/-- A reconnect evicts the connection of its instance. -/
theorem evicted_connections_end_in_close_of_reconnect :
    FreshIds
        [.registerConnection .sorted 0 "c1" "u" "tab" [] 0,
          .registerConnection .sorted 1 "c2" "u" "tab" [] 1, .sendToConnection "c1" "late"] /\
      EndsInClose
        (GatewayState.run asciiLowercase none [.registerConnection .sorted 0 "c1" "u" "tab" [] 0])
        (GatewayState.run asciiLowercase none
          [.registerConnection .sorted 0 "c1" "u" "tab" [] 0,
            .registerConnection .sorted 1 "c2" "u" "tab" [] 1, .sendToConnection "c1" "late"])
        ⟨"c1", "u", "tab", [], 0, 0⟩ := by
  have fresh : FreshIds
      [.registerConnection .sorted 0 "c1" "u" "tab" [] 0,
        .registerConnection .sorted 1 "c2" "u" "tab" [] 1, .sendToConnection "c1" "late"] := by
    decide
  refine ⟨fresh, ?_⟩
  refine (evicted_connections_end_in_close asciiLowercase none _ fresh).2.2
    [.registerConnection .sorted 0 "c1" "u" "tab" [] 0]
    (.registerConnection .sorted 1 "c2" "u" "tab" [] 1) [.sendToConnection "c1" "late"] rfl _ ?_
  decide +kernel

end State
end Gateway

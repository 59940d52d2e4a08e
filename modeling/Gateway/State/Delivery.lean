import Gateway.State.SubjectIndex

namespace Gateway
namespace State

open Foundation

/-!
# Delivery and buffering of one dispatch

A dispatch puts its message on the channel of every addressed connection whose
receiver is alive.  Whether it also buffers the message is decided once for the
whole call, from the number of these channels.
-/

/-- The index agrees with the connections and no two connections share a
channel. -/
structure WellFormed (state : GatewayState) : Prop where
  consistent : IndexConsistent state
  senders : GatewayState.SendersDistinct state

namespace GatewayState.SendersDistinct

theorem new (maxConnectionsPerUser : Option Nat) :
    SendersDistinct (GatewayState.new maxConnectionsPerUser) where
  bound := by
    intro id handle found
    simp [GatewayState.new] at found
  distinct := by
    intro left right leftHandle rightHandle found
    simp [GatewayState.new] at found

theorem unregisterConnection {state : GatewayState} (senders : SendersDistinct state)
    (connectionId : String) : SendersDistinct (state.unregisterConnection connectionId).2 := by
  have older : forall id handle,
      (state.unregisterConnection connectionId).2.connections.lookup id = some handle ->
      state.connections.lookup id = some handle := by
    intro id handle found
    rw [lookup_unregisterConnection] at found
    split at found
    · cases found
    · exact found
  constructor
  · intro id handle found
    rw [unregisterConnection_channels]
    exact senders.bound id handle (older id handle found)
  · intro left right leftHandle rightHandle leftFound rightFound
    exact senders.distinct left right leftHandle rightHandle (older _ _ leftFound)
      (older _ _ rightFound)

theorem markConnectionAlive {state : GatewayState} (senders : SendersDistinct state)
    (connectionId : String) (timestamp : Int) :
    SendersDistinct (state.markConnectionAlive connectionId timestamp) := by
  have older : forall id handle,
      (state.markConnectionAlive connectionId timestamp).connections.lookup id = some handle ->
      Exists fun old => state.connections.lookup id = some old /\ old.sender = handle.sender := by
    intro id handle found
    simp only [GatewayState.markConnectionAlive, HashTable.lookup_modify] at found
    split at found
    · next same =>
      rcases Option.map_eq_some_iff.mp found with ⟨old, oldFound, rfl⟩
      rw [← same] at oldFound
      exact ⟨old, oldFound, rfl⟩
    · exact ⟨handle, found, rfl⟩
  constructor
  · intro id handle found
    rcases older id handle found with ⟨old, oldFound, same⟩
    rw [← same]
    exact senders.bound id old oldFound
  · intro left right leftHandle rightHandle leftFound rightFound same
    rcases older left leftHandle leftFound with ⟨leftOld, leftOldFound, leftSame⟩
    rcases older right rightHandle rightFound with ⟨rightOld, rightOldFound, rightSame⟩
    exact senders.distinct left right leftOld rightOld leftOldFound rightOldFound
      (leftSame.trans (same.trans rightSame.symm))

/-- A new connection gets a new channel. -/
theorem insertConnection {state : GatewayState} (senders : SendersDistinct state)
    (info : ConnectionInfo) : SendersDistinct (state.insertConnection info) := by
  have known : forall id handle,
      (state.insertConnection info).connections.lookup id = some handle ->
      (id = info.connectionId /\ handle.sender = state.channels.length) \/
        (id ≠ info.connectionId /\ state.connections.lookup id = some handle) := by
    intro id handle found
    simp only [GatewayState.insertConnection, HashTable.lookup_insert_ite] at found
    split at found
    · next same =>
      rw [← Option.some.inj found]
      exact Or.inl ⟨same, rfl⟩
    · next different => exact Or.inr ⟨different, found⟩
  have length : (state.insertConnection info).channels.length = state.channels.length + 1 := by
    simp [GatewayState.insertConnection]
  constructor
  · intro id handle found
    rw [length]
    rcases known id handle found with ⟨_, sender⟩ | ⟨_, older⟩
    · omega
    · have bound := senders.bound id handle older
      omega
  · intro left right leftHandle rightHandle leftFound rightFound same
    rcases known left leftHandle leftFound with ⟨leftId, leftSender⟩ | ⟨_, leftOlder⟩
    · rcases known right rightHandle rightFound with ⟨rightId, _⟩ | ⟨_, rightOlder⟩
      · rw [leftId, rightId]
      · have bound := senders.bound right rightHandle rightOlder
        omega
    · rcases known right rightHandle rightFound with ⟨_, rightSender⟩ | ⟨_, rightOlder⟩
      · have bound := senders.bound left leftHandle leftOlder
        omega
      · exact senders.distinct left right leftHandle rightHandle leftOlder rightOlder same

theorem kept : KeptByOperations SendersDistinct where
  channels := fun _ _ length senders =>
    ⟨fun id handle found => length ▸ senders.bound id handle found, senders.distinct⟩
  unregister := fun _ connectionId senders => senders.unregisterConnection connectionId
  tables := fun _ _ _ _ _ _ _ senders => ⟨senders.bound, senders.distinct⟩
  alive := fun _ connectionId timestamp senders =>
    senders.markConnectionAlive connectionId timestamp

end GatewayState.SendersDistinct

namespace WellFormed

theorem kept : KeptByOperations WellFormed where
  channels := fun state channels length wellFormed =>
    ⟨IndexConsistent.kept.channels state channels length wellFormed.consistent,
      GatewayState.SendersDistinct.kept.channels state channels length wellFormed.senders⟩
  unregister := fun _ connectionId wellFormed =>
    ⟨wellFormed.consistent.unregisterConnection connectionId,
      wellFormed.senders.unregisterConnection connectionId⟩
  tables := fun _ _ _ _ _ _ _ wellFormed =>
    ⟨IndexConsistent.kept.tables _ _ _ _ _ _ _ wellFormed.consistent,
      GatewayState.SendersDistinct.kept.tables _ _ _ _ _ _ _ wellFormed.senders⟩
  alive := fun _ connectionId timestamp wellFormed =>
    ⟨wellFormed.consistent.markConnectionAlive connectionId timestamp,
      wellFormed.senders.markConnectionAlive connectionId timestamp⟩

theorem withRoutes {state : GatewayState} (wellFormed : WellFormed state)
    (routes : RequestRouteTable) : WellFormed { state with requestRoutes := routes } :=
  kept.tables state state.pendingBySubject routes state.relayContextsBySubject
    state.relayReplayCache state.relayRateCounters state.readyConnections wellFormed

theorem insertConnection {state : GatewayState} (wellFormed : WellFormed state)
    {info : ConnectionInfo} (absent : state.connections.lookup info.connectionId = none) :
    WellFormed (state.insertConnection info) :=
  ⟨wellFormed.consistent.insertConnection absent, wellFormed.senders.insertConnection info⟩

theorem run (toLowercase : String -> String) (maxConnectionsPerUser : Option Nat)
    (operations : List Operation) (fresh : FreshIds operations) :
    WellFormed (GatewayState.run toLowercase maxConnectionsPerUser operations) :=
  kept.run toLowercase maxConnectionsPerUser
    ⟨IndexConsistent.new maxConnectionsPerUser,
      GatewayState.SendersDistinct.new maxConnectionsPerUser⟩
    (fun _ _ absent evicted => evicted.insertConnection absent) operations fresh

end WellFormed

namespace GatewayState

theorem mem_targetIds (state : GatewayState) (subjects : List String) (id : String) :
    id ∈ state.targetIds subjects <->
      Exists fun subject => subject ∈ subjects /\ id ∈ state.subjects.members subject := by
  have collected : forall targets : Finset String,
      id ∈ subjects.foldl (fun targets subject => targets ∪ state.subjects.members subject)
        targets <->
      id ∈ targets \/
        Exists fun subject => subject ∈ subjects /\ id ∈ state.subjects.members subject := by
    induction subjects with
    | nil => simp
    | cons subject subjects ih =>
        intro targets
        rw [List.foldl_cons, ih, Finset.mem_union]
        simp only [List.mem_cons, exists_eq_or_imp, or_assoc]
  rw [targetIds, collected]
  simp

/-- The connection is registered for some subject of the list. -/
def Addressee (state : GatewayState) (subjects : List String) (id : String) : Prop :=
  Exists fun handle => state.connections.lookup id = some handle /\
    Exists fun subject => subject ∈ subjects /\ subject ∈ handle.info.subjects

theorem mem_targetIds_iff_addressee {state : GatewayState} (consistent : IndexConsistent state)
    (subjects : List String) (id : String) :
    id ∈ state.targetIds subjects <-> state.Addressee subjects id := by
  rw [mem_targetIds]
  constructor
  · rintro ⟨subject, member, listed⟩
    rcases (consistent.index.mem_iff id subject).mp listed with ⟨handle, found, subscribed⟩
    exact ⟨handle, found, subject, member, subscribed⟩
  · rintro ⟨handle, found, subject, member, subscribed⟩
    exact ⟨subject, member, (consistent.index.mem_iff id subject).mpr
      ⟨handle, found, subscribed⟩⟩

/-! ## What a dispatch changes -/

theorem unregisterEach_channels (state : GatewayState) (connectionIds : List String) :
    (state.unregisterEach connectionIds).2.channels = state.channels :=
  foldl_invariant (fun removed : List ConnectionInfo × GatewayState =>
      removed.2.channels = state.channels) rfl
    (fun removed connectionId before =>
      (unregisterConnection_channels removed.2 connectionId).trans before) connectionIds

theorem unregisterEach_pending (state : GatewayState) (connectionIds : List String) :
    (state.unregisterEach connectionIds).2.pendingBySubject = state.pendingBySubject :=
  foldl_invariant (fun removed : List ConnectionInfo × GatewayState =>
      removed.2.pendingBySubject = state.pendingBySubject) rfl
    (fun removed connectionId before =>
      (unregisterConnection_pending removed.2 connectionId).trans before) connectionIds

theorem lookup_unregisterEach (state : GatewayState) (connectionIds : List String) (id : String) :
    (state.unregisterEach connectionIds).2.connections.lookup id =
      if id ∈ connectionIds then none else state.connections.lookup id := by
  refine foldl_history (fun history (removed : List ConnectionInfo × GatewayState) =>
    removed.2.connections.lookup id =
      if id ∈ history then none else state.connections.lookup id) rfl ?_ connectionIds
  intro history removed connectionId before
  dsimp only
  rw [lookup_unregisterConnection, before]
  by_cases same : id = connectionId
  · rw [if_pos same, if_pos (List.mem_append_right _ (List.mem_singleton.mpr same))]
  · have listed : id ∈ history ++ [connectionId] <-> id ∈ history := by
      rw [List.mem_append, List.mem_singleton, or_iff_left same]
    rw [if_neg same, if_congr listed rfl rfl]

theorem lookup_unregisterEach_of_not_mem {state : GatewayState} {connectionIds : List String}
    {id : String} (kept : id ∉ connectionIds) :
    (state.unregisterEach connectionIds).2.connections.lookup id =
      state.connections.lookup id := by
  rw [lookup_unregisterEach, if_neg kept]

/-- The pending queues after a message was buffered for all subjects. -/
def requeued (now : Int) (pending : PendingTable) (subjects : List String) (message : String) :
    PendingTable :=
  subjects.foldl
    (enqueuePending { text := message, enqueuedAt := now, stickyKey := none } fun _ => true)
    pending

theorem requeueForSubjects_eq (now : Int) (state : GatewayState) {subjects : List String}
    (nonempty : subjects ≠ []) {message : String} (visible : message ≠ "") :
    state.requeueForSubjects now subjects message =
      { state with
        pendingBySubject := requeued now state.pendingBySubject subjects message } := by
  rw [requeueForSubjects, if_neg (not_or.mpr ⟨nonempty, visible⟩)]
  rfl

section Dispatch

variable (order : HashOrder String) (stickyNow now : Int) (state : GatewayState)
  {subjects : List String} {message : String}

theorem sendToSubjects_eq (nonempty : subjects ≠ []) (visible : message ≠ "")
    (bufferIfUndelivered : Bool) :
    state.sendToSubjects order stickyNow now subjects message bufferIfUndelivered none =
      state.deliverToSubjects order now subjects message bufferIfUndelivered := by
  rw [sendToSubjects, if_neg (not_or.mpr ⟨nonempty, visible⟩)]
  rfl

theorem deliverToSubjects_channels (bufferIfUndelivered : Bool) :
    (state.deliverToSubjects order now subjects message bufferIfUndelivered).2.channels =
      (state.sendToTargets message (order.enumerate (state.targetIds subjects))).channels := by
  unfold deliverToSubjects
  dsimp only
  split
  · rcases requeueForSubjects_touches now
      ({ state with channels := _ }.unregisterEach _).2 subjects message with ⟨pending, touched⟩
    rw [touched]
    exact unregisterEach_channels _ _
  · exact unregisterEach_channels _ _

theorem deliverToSubjects_connections (bufferIfUndelivered : Bool) :
    (state.deliverToSubjects order now subjects message bufferIfUndelivered).2.connections =
      ({ state with
        channels :=
          (state.sendToTargets message (order.enumerate (state.targetIds subjects))).channels
        }.unregisterEach (state.sendToTargets message
          (order.enumerate (state.targetIds subjects))).staleIds).2.connections := by
  unfold deliverToSubjects
  dsimp only
  split
  · rcases requeueForSubjects_touches now
      ({ state with channels := _ }.unregisterEach _).2 subjects message with ⟨pending, touched⟩
    rw [touched]
  · rfl

theorem deliverToSubjects_pending (nonempty : subjects ≠ []) (visible : message ≠ "") :
    (state.deliverToSubjects order now subjects message true).2.pendingBySubject =
      if (state.sendToTargets message (order.enumerate (state.targetIds subjects))).enqueued = 0
      then requeued now state.pendingBySubject subjects message
      else state.pendingBySubject := by
  unfold deliverToSubjects
  dsimp only
  by_cases unsent : (state.sendToTargets message
      (order.enumerate (state.targetIds subjects))).enqueued = 0
  · rw [if_pos ⟨unsent, rfl⟩, if_pos unsent, requeueForSubjects_eq now _ nonempty visible]
    dsimp only
    rw [unregisterEach_pending]
  · rw [if_neg fun both => unsent both.1, if_neg unsent, unregisterEach_pending]

end Dispatch

end GatewayState

section Receivers

variable {state : GatewayState} {subjects : List String} {message : String}

/-- The broadcast of a dispatch, with its targets in iteration order. -/
theorem WellFormed.broadcast (wellFormed : WellFormed state) (order : HashOrder String)
    (subjects : List String) (message : String) :
    GatewayState.Broadcast state message (order.enumerate (state.targetIds subjects))
      (state.sendToTargets message (order.enumerate (state.targetIds subjects))) :=
  GatewayState.sendToTargets_broadcast wellFormed.senders message _ (order.nodup _)

theorem WellFormed.mem_enumerate_targetIds (wellFormed : WellFormed state)
    (order : HashOrder String) (id : String) :
    id ∈ order.enumerate (state.targetIds subjects) <-> state.Addressee subjects id := by
  rw [order.mem_iff, GatewayState.mem_targetIds_iff_addressee wellFormed.consistent]

/-- A channel is addressed by a dispatch exactly if its connection is. -/
theorem WellFormed.addressed_iff_addressee (wellFormed : WellFormed state)
    (order : HashOrder String) {id : String} {handle : ConnectionHandle}
    (found : state.connections.lookup id = some handle) :
    state.addressed (order.enumerate (state.targetIds subjects)) handle.sender = true <->
      state.Addressee subjects id := by
  rw [GatewayState.addressed_iff]
  constructor
  · rintro ⟨other, member, otherHandle, otherFound, sameSender⟩
    have same := wellFormed.senders.distinct other id otherHandle handle otherFound found sameSender
    rw [← same]
    exact (wellFormed.mem_enumerate_targetIds order other).mp member
  · intro addressee
    exact ⟨id, (wellFormed.mem_enumerate_targetIds order id).mpr addressee, handle, found, rfl⟩

/-- An addressed connection is offered the message. -/
theorem WellFormed.dispatch_receives (wellFormed : WellFormed state) (order : HashOrder String)
    (stickyNow now : Int) (nonempty : subjects ≠ []) (visible : message ≠ "")
    (bufferIfUndelivered : Bool) {id : String} {handle : ConnectionHandle}
    (found : state.connections.lookup id = some handle)
    (addressee : state.Addressee subjects id) :
    (state.sendToSubjects order stickyNow now subjects message bufferIfUndelivered
      none).2.channels[handle.sender]? =
      state.channels[handle.sender]?.map (Channel.receive (.text message)) := by
  rw [GatewayState.sendToSubjects_eq order stickyNow now state nonempty visible,
    GatewayState.deliverToSubjects_channels, (wellFormed.broadcast order subjects message).channels,
    (wellFormed.addressed_iff_addressee order found).mpr addressee]
  rfl

/-- The channels of all other connections stay as they are. -/
theorem WellFormed.dispatch_keeps (wellFormed : WellFormed state) (order : HashOrder String)
    (stickyNow now : Int) (nonempty : subjects ≠ []) (visible : message ≠ "")
    (bufferIfUndelivered : Bool) {id : String} {handle : ConnectionHandle}
    (found : state.connections.lookup id = some handle)
    (other : Not (state.Addressee subjects id)) :
    (state.sendToSubjects order stickyNow now subjects message bufferIfUndelivered
      none).2.channels[handle.sender]? = state.channels[handle.sender]? := by
  have notAddressed : state.addressed (order.enumerate (state.targetIds subjects))
      handle.sender = false := by
    rw [← Bool.not_eq_true, wellFormed.addressed_iff_addressee order found]
    exact other
  rw [GatewayState.sendToSubjects_eq order stickyNow now state nonempty visible,
    GatewayState.deliverToSubjects_channels, (wellFormed.broadcast order subjects message).channels,
    notAddressed]
  exact Option.map_id'

/-- Nothing is buffered if the message reached some addressed connection. -/
theorem WellFormed.dispatch_pending_of_reached (wellFormed : WellFormed state)
    (order : HashOrder String) (stickyNow now : Int) (nonempty : subjects ≠ [])
    (visible : message ≠ "") {id : String} (addressee : state.Addressee subjects id)
    (reached : state.reaches id = true) :
    (state.sendToSubjects order stickyNow now subjects message true none).2.pendingBySubject =
      state.pendingBySubject := by
  have counted : (state.sendToTargets message
      (order.enumerate (state.targetIds subjects))).enqueued ≠ 0 := by
    rw [(wellFormed.broadcast order subjects message).enqueued]
    intro unsent
    exact List.countP_eq_zero.mp unsent id
      ((wellFormed.mem_enumerate_targetIds order id).mpr addressee) reached
  rw [GatewayState.sendToSubjects_eq order stickyNow now state nonempty visible,
    GatewayState.deliverToSubjects_pending order now state nonempty visible, if_neg counted]

/-- A message that reached nobody is buffered for all subjects of the list. -/
theorem WellFormed.dispatch_pending_of_unreached (wellFormed : WellFormed state)
    (order : HashOrder String) (stickyNow now : Int) (nonempty : subjects ≠ [])
    (visible : message ≠ "")
    (unreached : forall id, state.Addressee subjects id -> state.reaches id = false) :
    (state.sendToSubjects order stickyNow now subjects message true none).2.pendingBySubject =
      GatewayState.requeued now state.pendingBySubject subjects message := by
  have counted : (state.sendToTargets message
      (order.enumerate (state.targetIds subjects))).enqueued = 0 := by
    rw [(wellFormed.broadcast order subjects message).enqueued, List.countP_eq_zero]
    intro id member
    rw [unreached id ((wellFormed.mem_enumerate_targetIds order id).mp member)]
    exact Bool.false_ne_true
  rw [GatewayState.sendToSubjects_eq order stickyNow now state nonempty visible,
    GatewayState.deliverToSubjects_pending order now state nonempty visible, if_pos counted]

end Receivers

/-- The message is the newest entry of the pending queue of the subject. -/
def NewestPending (state : GatewayState) (subject message : String) : Prop :=
  Exists fun queue => Exists fun item =>
    state.pendingBySubject.lookup subject = some queue /\
    queue.getLast? = some item /\ item.text = message

theorem lookup_requeued_newest (now : Int) (pending : PendingTable) (subjects : List String)
    (message : String) {subject : String} (member : subject ∈ subjects) :
    Exists fun queue =>
      (GatewayState.requeued now pending subjects message).lookup subject = some queue /\
      queue.getLast? = some { text := message, enqueuedAt := now, stickyKey := none } := by
  refine foldl_history (fun history (table : PendingTable) => subject ∈ history ->
    Exists fun queue => table.lookup subject = some queue /\
      queue.getLast? = some { text := message, enqueuedAt := now, stickyKey := none })
    (fun member => absurd member List.not_mem_nil) ?_ subjects member
  intro history table other before listed
  unfold enqueuePending
  rw [HashTable.lookup_insert_ite]
  by_cases same : subject = other
  · rw [if_pos same]
    rcases prunePendingQueue_concat (((table.lookup other).getD []).filter fun _ => true)
      { text := message, enqueuedAt := now, stickyKey := none } with ⟨earlier, pruned⟩
    refine ⟨_, rfl, ?_⟩
    rw [pruned]
    exact List.getLast?_concat
  · rw [if_neg same]
    apply before
    rcases List.mem_append.mp listed with earlier | last
    · exact earlier
    · exact absurd (List.mem_singleton.mp last) same

/-! ## Delivered or buffered, for the call as a whole -/

/-- The connection had the message appended to its outbound queue. -/
def Received (before after : GatewayState) (id message : String) : Prop :=
  Exists fun handle => Exists fun channel =>
    before.connections.lookup id = some handle /\
    before.channels[handle.sender]? = some channel /\
    after.channels[handle.sender]? =
      some { channel with sent := channel.sent ++ [.text message] }

/-- Every subject of the list has a subscriber that received the message, or has
the message as the newest entry of its pending queue. -/
def NoSubjectSkipped (before after : GatewayState) (subjects : List String)
    (message : String) : Prop :=
  forall subject, subject ∈ subjects ->
    (Exists fun id => Subscribed before.connections id subject /\
      Received before after id message) \/ NewestPending after subject message

theorem WellFormed.received_of_reaches {state : GatewayState} (wellFormed : WellFormed state)
    (order : HashOrder String) (stickyNow now : Int) {subjects : List String} {message : String}
    (nonempty : subjects ≠ []) (visible : message ≠ "") {id : String}
    (addressee : state.Addressee subjects id) (reached : state.reaches id = true) :
    Received state (state.sendToSubjects order stickyNow now subjects message true none).2 id
      message := by
  rcases Option.any_eq_true _ _ |>.mp reached with ⟨handle, found, live⟩
  rcases Option.any_eq_true _ _ |>.mp live with ⟨channel, atSender, alive⟩
  refine ⟨handle, channel, found, atSender, ?_⟩
  rw [wellFormed.dispatch_receives order stickyNow now nonempty visible true found addressee,
    atSender, Option.map_some, Channel.receive_of_alive alive]

/-- The buffering decision is made once for the whole call.  All live subscribers
receive the message; if there is one for some subject of the list, nothing is
buffered, and otherwise the message is buffered for every subject. -/
theorem dispatch_received_or_buffered (toLowercase : String -> String)
    (maxConnectionsPerUser : Option Nat) (operations : List Operation)
    (fresh : FreshIds operations) (order : HashOrder String) (stickyNow now : Int)
    (subjects : List String) (message : String) (nonempty : subjects ≠ [])
    (visible : message ≠ "") :
    let before := GatewayState.run toLowercase maxConnectionsPerUser operations
    let after := (before.sendToSubjects order stickyNow now subjects message true none).2
    (forall subject, subject ∈ subjects -> forall id, Subscribed before.connections id subject ->
      before.reaches id = true -> Received before after id message) /\
    (((Exists fun subject => subject ∈ subjects /\ Exists fun id =>
        Subscribed before.connections id subject /\ Received before after id message) /\
        after.pendingBySubject = before.pendingBySubject) \/
      forall subject, subject ∈ subjects -> NewestPending after subject message) := by
  intro before after
  have wellFormed : WellFormed before :=
    WellFormed.run toLowercase maxConnectionsPerUser operations fresh
  have addressee : forall subject, subject ∈ subjects -> forall id,
      Subscribed before.connections id subject -> before.Addressee subjects id := by
    rintro subject member id ⟨handle, found, subscribed⟩
    exact ⟨handle, found, subject, member, subscribed⟩
  refine ⟨?_, ?_⟩
  · intro subject member id subscribed reached
    exact wellFormed.received_of_reaches order stickyNow now nonempty visible
      (addressee subject member id subscribed) reached
  · by_cases reached : Exists fun id =>
        before.Addressee subjects id /\ before.reaches id = true
    · rcases reached with ⟨id, ⟨handle, found, subject, member, subscribed⟩, live⟩
      have addressed : before.Addressee subjects id :=
        ⟨handle, found, subject, member, subscribed⟩
      refine Or.inl ⟨⟨subject, member, id, ⟨handle, found, subscribed⟩, ?_⟩, ?_⟩
      · exact wellFormed.received_of_reaches order stickyNow now nonempty visible addressed live
      · exact wellFormed.dispatch_pending_of_reached order stickyNow now nonempty visible addressed
          live
    · refine Or.inr ?_
      intro subject member
      have unreached : forall id, before.Addressee subjects id -> before.reaches id = false := by
        intro id addressed
        rw [← Bool.not_eq_true]
        exact fun live => reached ⟨id, addressed, live⟩
      rcases lookup_requeued_newest now before.pendingBySubject subjects message member with
        ⟨queue, found, newest⟩
      refine ⟨queue, _, ?_, newest, rfl⟩
      rw [wellFormed.dispatch_pending_of_unreached order stickyNow now nonempty visible unreached]
      exact found

/-- A message for an online and a dead recipient, and for a subject nobody is
subscribed to. -/
theorem dispatch_received_or_buffered_mixed :
    let before := GatewayState.run asciiLowercase none
      [.registerConnection .sorted 0 "c1" "a" "" ["user:a"] 0,
        .registerConnection .sorted 0 "c2" "b" "" ["user:b"] 0, .dropReceiver 1]
    let after := (before.sendToSubjects .sorted 1 1 ["user:a", "user:b", "user:c"] "m" true
      none).2
    (forall subject, subject ∈ ["user:a", "user:b", "user:c"] -> forall id,
      Subscribed before.connections id subject ->
      before.reaches id = true -> Received before after id "m") /\
    (((Exists fun subject => subject ∈ ["user:a", "user:b", "user:c"] /\ Exists fun id =>
        Subscribed before.connections id subject /\ Received before after id "m") /\
        after.pendingBySubject = before.pendingBySubject) \/
      forall subject, subject ∈ ["user:a", "user:b", "user:c"] ->
        NewestPending after subject "m") :=
  dispatch_received_or_buffered asciiLowercase none _ (by decide) .sorted 1 1 _ "m" (by decide)
    (by decide)

/-- With one recipient online, the copy of an offline recipient is dropped. -/
theorem offline_recipient_skipped :
    let before := GatewayState.run asciiLowercase none
      [.registerConnection .sorted 0 "c1" "a" "" ["user:a"] 0]
    Not (NoSubjectSkipped before
      (before.sendToSubjects .sorted 1 1 ["user:a", "user:b"] "m" true none).2
      ["user:a", "user:b"] "m") := by
  intro before kept
  have subscribers : forall id, Not (Subscribed before.connections id "user:b") := by
    intro id
    rintro ⟨handle, found, subscribed⟩
    have onlyConnection : before.connections = AList.insert "c1"
        { info := ⟨"c1", "a", "", ["user:a"], 0, 0⟩, sender := 0 } ∅ := rfl
    rw [onlyConnection, HashTable.lookup_insert_ite] at found
    split at found
    · rw [← Option.some.inj found] at subscribed
      exact absurd subscribed (by decide)
    · cases found
  rcases kept "user:b" (by decide) with ⟨id, subscribed, _⟩ | ⟨queue, item, found, _⟩
  · exact subscribers id subscribed
  · have nothing : (before.sendToSubjects .sorted 1 1 ["user:a", "user:b"] "m" true
        none).2.pendingBySubject.lookup "user:b" = none := by decide +kernel
    rw [nothing] at found
    cases found

end State
end Gateway

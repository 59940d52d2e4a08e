import Gateway.State.Replay
import Gateway.State.Silence

namespace Gateway
namespace State

open Foundation

/-!
# Where texts come from

A text gets on the channel of a connection or into the queue of a subject only
because some operation has addressed it there: to the connection itself, to one
of the subjects that the connection is registered for, or to the subject of the
queue.  This holds over whole runs, also when the text waited in a queue and was
replayed later.
-/

namespace Operation

/-- The operation sends the text to the subject or buffers it for the
subject. -/
def AddressesSubject (operation : Operation) (subject text : String) : Prop :=
  match operation with
  | .sendToSubjects _ _ _ subjects message _ _ => subject ∈ subjects /\ message = text
  | .requeueForSubjects _ subjects message => subject ∈ subjects /\ message = text
  | .bufferLatestForSubjects _ subjects message _ => subject ∈ subjects /\ message = text
  | _ => False

/-- The operation sends the text to the connection. -/
def AddressesConnection (operation : Operation) (connectionId text : String) : Prop :=
  match operation with
  | .sendToConnection id message => id = connectionId /\ message = text
  | _ => False

end Operation

/-- A queue gains only what is put in. -/
theorem mem_pendingOf_enqueuePending {item queued : PendingMessage}
    {retain : PendingMessage -> Bool} {pending : PendingTable} {subject asked : String}
    (member : queued ∈ pendingOf (enqueuePending item retain pending subject) asked) :
    queued ∈ pendingOf pending asked \/ (asked = subject /\ queued = item) := by
  rw [pendingOf, enqueuePending, HashTable.lookup_insert_ite] at member
  by_cases same : asked = subject
  · rw [if_pos same, Option.getD_some] at member
    have pushed := (prunePendingQueue_sublist _ _).subset member
    rcases List.mem_append.mp pushed with older | last
    · rw [same]
      exact Or.inl (List.mem_of_mem_filter older)
    · exact Or.inr ⟨same, List.mem_singleton.mp last⟩
  · rw [if_neg same] at member
    exact Or.inl member

theorem mem_pendingOf_enqueueAll {item queued : PendingMessage}
    {retain : PendingMessage -> Bool} {pending : PendingTable} {subjects : List String}
    {asked : String}
    (member : queued ∈ pendingOf (subjects.foldl (enqueuePending item retain) pending) asked) :
    queued ∈ pendingOf pending asked \/ (asked ∈ subjects /\ queued = item) := by
  refine foldl_history (fun history (table : PendingTable) => queued ∈ pendingOf table asked ->
    queued ∈ pendingOf pending asked \/ (asked ∈ history /\ queued = item)) Or.inl ?_ subjects
    member
  intro history table subject before present
  rcases mem_pendingOf_enqueuePending present with older | ⟨rfl, same⟩
  · exact (before older).imp_right fun listed =>
      ⟨List.mem_append_left _ listed.1, listed.2⟩
  · exact Or.inr ⟨List.mem_append_right _ (List.mem_singleton.mpr rfl), same⟩

theorem mem_pendingOf_takePending {now : Int} {taken : List String × PendingTable}
    {subject asked : String} {queued : PendingMessage}
    (member : queued ∈ pendingOf (takePending now taken subject).2 asked) :
    queued ∈ pendingOf taken.2 asked := by
  by_cases same : asked = subject
  · unfold takePending at member
    split at member
    · exact member
    · rw [same, pendingOf, AList.lookup_erase] at member
      exact absurd member List.not_mem_nil
  · rw [pendingOf_takePending_of_ne now taken same] at member
    exact member

/-- A replay takes texts out of the queues of its subjects. -/
theorem takePending_sources (now : Int) (pending : PendingTable) (subjects : List String) :
    let taken := subjects.foldl (takePending now) ([], pending)
    (forall text, text ∈ taken.1 -> Exists fun subject => subject ∈ subjects /\
      Exists fun item => item ∈ pendingOf pending subject /\ item.text = text) /\
    forall asked item, item ∈ pendingOf taken.2 asked -> item ∈ pendingOf pending asked := by
  refine foldl_history (fun history (taken : List String × PendingTable) =>
    (forall text, text ∈ taken.1 -> Exists fun subject => subject ∈ history /\
      Exists fun item => item ∈ pendingOf pending subject /\ item.text = text) /\
    forall asked item, item ∈ pendingOf taken.2 asked -> item ∈ pendingOf pending asked)
    ⟨fun text member => absurd member List.not_mem_nil, fun _ _ member => member⟩ ?_ subjects
  rintro history taken subject ⟨sources, remaining⟩
  refine ⟨?_, fun asked item member => remaining asked item (mem_pendingOf_takePending member)⟩
  intro text member
  rw [takePending_fst, mem_collect] at member
  rcases member with earlier | recent
  · rcases sources text earlier with ⟨source, listed, waits⟩
    exact ⟨source, List.mem_append_left _ listed, waits⟩
  · rcases List.mem_map.mp recent with ⟨item, pruned, same⟩
    have queued := (prunePendingQueue_sublist _ _).subset pruned
    exact ⟨subject, List.mem_append_right _ (List.mem_singleton.mpr rfl), item,
      remaining subject item queued, same⟩

/-! ## What an operation adds to the queues -/

namespace Operation

/-- The operations that send and buffer no text and register nobody. -/
def isSilent : Operation -> Bool
  | .registerConnection .. => false
  | .sendToSubjects .. => false
  | .sendToConnection .. => false
  | .requeueForSubjects .. => false
  | .bufferLatestForSubjects .. => false
  | _ => true

theorem silent_apply (toLowercase : String -> String) (state : GatewayState)
    {operation : Operation} (silent : operation.isSilent = true) :
    GatewayState.Silent state (operation.apply toLowercase state) := by
  have tables : forall {after : GatewayState}, after.channels = state.channels ->
      after.pendingBySubject = state.pendingBySubject ->
      after.connections = state.connections -> GatewayState.Silent state after := by
    intro after channels pending connections
    refine ⟨fun index => ?_, pending, fun id handle found => ⟨handle, ?_, rfl⟩⟩
    · rw [GatewayState.textsOn, channels, GatewayState.textsOn]
    · rw [← connections]
      exact found
  cases operation with
  | registerConnection => cases silent
  | sendToSubjects => cases silent
  | sendToConnection => cases silent
  | requeueForSubjects => cases silent
  | bufferLatestForSubjects => cases silent
  | unregisterConnection connectionId =>
      exact GatewayState.unregisterConnection_silent state connectionId
  | markSessionReady order now connectionId userId =>
      exact GatewayState.markSessionReady_silent order now state connectionId userId
  | markConnectionAlive connectionId timestamp =>
      exact GatewayState.markConnectionAlive_silent state connectionId timestamp
  | pruneStaleConnections order now staleAfterSeconds =>
      rw [apply]
      unfold GatewayState.pruneStaleConnections
      split
      · exact GatewayState.Silent.refl state
      · exact foldl_invariant
          (fun removed : List ConnectionInfo × GatewayState => GatewayState.Silent state removed.2)
          (GatewayState.Silent.refl state)
          (fun removed connectionId before =>
            before.trans (GatewayState.unregisterConnection_silent removed.2 connectionId)) _
  | bindRequestRoute now requestId connectionId userId =>
      exact GatewayState.bindRequestRoute_silent now state requestId connectionId userId
  | clearRequestRoute requestId =>
      rcases GatewayState.clearRequestRoute_touches state requestId with ⟨routes, touched⟩
      rw [apply, touched]
      exact tables rfl rfl rfl
  | resolveRequestRoute now requestId subjects =>
      rcases GatewayState.resolveRequestRoute_touches now state requestId subjects with
        ⟨routes, touched⟩
      rw [apply, touched]
      exact tables rfl rfl rfl
  | applyRelayContextSnapshot now snapshot =>
      rcases GatewayState.applyRelayContextSnapshot_touches toLowercase now state snapshot with
        ⟨contexts, touched⟩
      rw [apply, touched]
      exact tables rfl rfl rfl
  | authorizeRelayHotpath senderEmail commandName authSpec operationKey targetEmails replayNonce
      payloadSizeHint now =>
      exact GatewayState.authorizeRelayHotpath_silent toLowercase state senderEmail commandName
        authSpec operationKey targetEmails replayNonce payloadSizeHint now
  | dropReceiver receiver =>
      refine ⟨fun index => ?_, rfl, fun id handle found => ⟨handle, found, rfl⟩⟩
      rw [apply, GatewayState.textsOn, GatewayState.textsOn, GatewayState.dropReceiver,
        List.getElem?_modify]
      cases state.channels[index]? with
      | none => rfl
      | some channel =>
          by_cases same : receiver = index <;> simp [same, Channel.texts]

end Operation

theorem GatewayState.evictSameInstance_silent (order : HashOrder String) (state : GatewayState)
    (connectionId userId clientInstanceId : String) :
    Silent state (state.evictSameInstance order connectionId userId clientInstanceId).2 := by
  unfold evictSameInstance
  split
  · exact Silent.refl state
  · exact foldl_invariant
      (fun evicted : List ConnectionInfo × GatewayState => Silent state evicted.2)
      (Silent.refl state)
      (fun evicted id before => before.trans (evictConnection_silent evicted.2 id _)) _

theorem mem_pendingOf_requeueForSubjects {now : Int} {state : GatewayState}
    {subjects : List String} {message asked : String} {item : PendingMessage}
    (member : item ∈ pendingOf (state.requeueForSubjects now subjects message).pendingBySubject
      asked) :
    item ∈ pendingOf state.pendingBySubject asked \/ (asked ∈ subjects /\ message = item.text) := by
  unfold GatewayState.requeueForSubjects at member
  split at member
  · exact Or.inl member
  · rcases mem_pendingOf_enqueueAll member with older | ⟨listed, rfl⟩
    · exact Or.inl older
    · exact Or.inr ⟨listed, rfl⟩

theorem mem_pendingOf_bufferLatestForSubjects {now : Int} {state : GatewayState}
    {subjects : List String} {message stickyKey asked : String} {item : PendingMessage}
    (member : item ∈ pendingOf (state.bufferLatestForSubjects now subjects message
      stickyKey).pendingBySubject asked) :
    item ∈ pendingOf state.pendingBySubject asked \/ (asked ∈ subjects /\ message = item.text) := by
  unfold GatewayState.bufferLatestForSubjects at member
  split at member
  · exact Or.inl member
  · rcases mem_pendingOf_enqueueAll member with older | ⟨listed, rfl⟩
    · exact Or.inl older
    · exact Or.inr ⟨listed, rfl⟩

theorem mem_pendingOf_deliverToSubjects {order : HashOrder String} {now : Int}
    {state : GatewayState} {subjects : List String} {message asked : String}
    {bufferIfUndelivered : Bool} {item : PendingMessage}
    (member : item ∈ pendingOf (state.deliverToSubjects order now subjects message
      bufferIfUndelivered).2.pendingBySubject asked) :
    item ∈ pendingOf state.pendingBySubject asked \/ (asked ∈ subjects /\ message = item.text) := by
  unfold GatewayState.deliverToSubjects at member
  dsimp only at member
  split at member
  · rcases mem_pendingOf_requeueForSubjects member with older | addressed
    · rw [GatewayState.unregisterEach_pending] at older
      exact Or.inl older
    · exact Or.inr addressed
  · rw [GatewayState.unregisterEach_pending] at member
    exact Or.inl member

theorem mem_pendingOf_sendToSubjects {order : HashOrder String} {stickyNow now : Int}
    {state : GatewayState} {subjects : List String} {message asked : String}
    {bufferIfUndelivered : Bool} {stickyKey : Option String} {item : PendingMessage}
    (member : item ∈ pendingOf (state.sendToSubjects order stickyNow now subjects message
      bufferIfUndelivered stickyKey).2.pendingBySubject asked) :
    item ∈ pendingOf state.pendingBySubject asked \/ (asked ∈ subjects /\ message = item.text) := by
  unfold GatewayState.sendToSubjects at member
  split at member
  · exact Or.inl member
  · rcases mem_pendingOf_deliverToSubjects member with sticky | addressed
    · cases stickyKey with
      | none => exact Or.inl sticky
      | some key => exact mem_pendingOf_bufferLatestForSubjects sticky
    · exact Or.inr addressed

theorem mem_pendingOf_registerConnection {order : HashOrder String} {now : Int}
    {state : GatewayState} {connectionId userId clientInstanceId : String}
    {subjects : List String} {connectedAt : Int} {asked : String} {item : PendingMessage}
    (member : item ∈ pendingOf (state.registerConnection order now connectionId userId
      clientInstanceId subjects connectedAt).2.pendingBySubject asked) :
    item ∈ pendingOf state.pendingBySubject asked := by
  have evicted := GatewayState.evictSameInstance_pending order state connectionId userId
    clientInstanceId
  rw [← evicted]
  exact (takePending_sources now _ subjects).2 asked item member

/-- A text is added to the queue of a subject only by an operation that
addresses it to the subject. -/
theorem pending_of_apply {toLowercase : String -> String} {state : GatewayState}
    {operation : Operation} {subject : String} {item : PendingMessage}
    (member : item ∈ pendingOf (operation.apply toLowercase state).pendingBySubject subject) :
    item ∈ pendingOf state.pendingBySubject subject \/
      operation.AddressesSubject subject item.text := by
  by_cases silent : operation.isSilent = true
  · rw [(Operation.silent_apply toLowercase state silent).pending] at member
    exact Or.inl member
  · cases operation with
    | registerConnection => exact Or.inl (mem_pendingOf_registerConnection member)
    | sendToSubjects => exact mem_pendingOf_sendToSubjects member
    | requeueForSubjects => exact mem_pendingOf_requeueForSubjects member
    | bufferLatestForSubjects => exact mem_pendingOf_bufferLatestForSubjects member
    | sendToConnection connectionId message =>
        rw [Operation.apply, GatewayState.sendToConnection_pending] at member
        exact Or.inl member
    | _ => exact absurd rfl silent

/-! ## What an operation adds to the channels -/

theorem mem_texts_receive {channel : Channel} {message text : String}
    (member : text ∈ (channel.receive (.text message)).texts) :
    text ∈ channel.texts \/ message = text := by
  unfold Channel.receive at member
  split at member
  · simp only [Channel.texts, List.filterMap_append, List.mem_append, List.filterMap_cons,
      List.filterMap_nil, List.mem_singleton] at member
    exact member.imp_right Eq.symm
  · exact Or.inl member

/-- A dispatch puts its message only on channels of connections that are
registered for one of its subjects. -/
theorem textsOn_sendToSubjects {state : GatewayState} (wellFormed : WellFormed state)
    {order : HashOrder String} {stickyNow now : Int} {subjects : List String}
    {message text : String} {bufferIfUndelivered : Bool} {stickyKey : Option String}
    {id : String} {handle : ConnectionHandle}
    (found : state.connections.lookup id = some handle)
    (member : text ∈ (state.sendToSubjects order stickyNow now subjects message
      bufferIfUndelivered stickyKey).2.textsOn handle.sender) :
    text ∈ state.textsOn handle.sender \/
      Exists fun subject => subject ∈ handle.info.subjects /\ subject ∈ subjects /\
        message = text := by
  unfold GatewayState.sendToSubjects at member
  split at member
  · exact Or.inl member
  · rcases GatewayState.bufferSticky_touches stickyNow state subjects message stickyKey with
      ⟨pending, touched⟩
    rw [touched] at member
    have buffered : WellFormed { state with pendingBySubject := pending } :=
      WellFormed.kept.tables _ _ _ _ _ _ _ wellFormed
    have broadcast := buffered.broadcast order subjects message
    rw [GatewayState.textsOn, GatewayState.deliverToSubjects_channels, broadcast.channels] at member
    rw [GatewayState.textsOn]
    cases stored : state.channels[handle.sender]? with
    | none =>
        rw [stored] at member
        exact Or.inl member
    | some channel =>
        rw [stored, Option.map_some, Option.map_some, Option.getD_some] at member
        split at member
        · next addressed =>
          rcases mem_texts_receive member with older | same
          · exact Or.inl older
          · rcases (buffered.addressed_iff_addressee order found).mp addressed with
              ⟨addressee, listed, subject, named, subscribed⟩
            rw [Option.some.inj (found.symm.trans listed)]
            exact Or.inr ⟨subject, subscribed, named, same⟩
        · exact Or.inl member

theorem textsOn_sendToConnection {state : GatewayState}
    (senders : GatewayState.SendersDistinct state) {connectionId message text id : String}
    {handle : ConnectionHandle} (found : state.connections.lookup id = some handle)
    (member : text ∈ (state.sendToConnection connectionId message).2.textsOn handle.sender) :
    text ∈ state.textsOn handle.sender \/ (connectionId = id /\ message = text) := by
  rcases GatewayState.sendToConnection_texts state connectionId message handle.sender with
    same | ⟨target, targetFound, sender, sent⟩
  · rw [same] at member
    exact Or.inl member
  · rw [sent] at member
    rcases List.mem_append.mp member with older | last
    · exact Or.inl older
    · exact Or.inr ⟨senders.distinct connectionId id target handle targetFound found sender.symm,
        (List.mem_singleton.mp last).symm⟩

/-- A text gets on the channel of a registered connection only by an operation
that addresses it to the connection or to one of its subjects. -/
theorem texts_of_apply {toLowercase : String -> String} {state : GatewayState}
    (wellFormed : WellFormed state) {operation : Operation}
    (registers : operation.registered = none)
    {id text : String} {handle : ConnectionHandle}
    (found : state.connections.lookup id = some handle)
    (member : text ∈ (operation.apply toLowercase state).textsOn handle.sender) :
    text ∈ state.textsOn handle.sender \/ operation.AddressesConnection id text \/
      Exists fun subject => subject ∈ handle.info.subjects /\
        operation.AddressesSubject subject text := by
  by_cases silent : operation.isSilent = true
  · rw [(Operation.silent_apply toLowercase state silent).texts] at member
    exact Or.inl member
  · cases operation with
    | registerConnection => cases registers
    | sendToSubjects =>
        exact (textsOn_sendToSubjects wellFormed found member).imp_right Or.inr
    | requeueForSubjects now subjects message =>
        rcases GatewayState.requeueForSubjects_touches now state subjects message with
          ⟨pending, touched⟩
        rw [Operation.apply, touched] at member
        exact Or.inl member
    | bufferLatestForSubjects now subjects message stickyKey =>
        rcases GatewayState.bufferLatestForSubjects_touches now state subjects message
          stickyKey with ⟨pending, touched⟩
        rw [Operation.apply, touched] at member
        exact Or.inl member
    | sendToConnection =>
        exact (textsOn_sendToConnection wellFormed.senders found member).imp_right Or.inl
    | _ => exact absurd rfl silent

/-! ## Runs -/

/-- Whoever is registered now was registered before, with the same channel and
for the same subjects. -/
def Descends (before after : GatewayState) : Prop :=
  forall id handle, after.connections.lookup id = some handle -> Exists fun old =>
    before.connections.lookup id = some old /\ old.sender = handle.sender /\
      old.info.subjects = handle.info.subjects

theorem Descends.kept (before : GatewayState) : KeptByOperations (Descends before) where
  channels := fun _ _ _ descends => descends
  unregister := by
    intro state removed descends id handle found
    rw [GatewayState.lookup_unregisterConnection] at found
    split at found
    · cases found
    · exact descends id handle found
  tables := fun _ _ _ _ _ _ _ descends => descends
  alive := by
    intro state marked timestamp descends id handle found
    simp only [GatewayState.markConnectionAlive, HashTable.lookup_modify] at found
    split at found
    · next same =>
      rcases Option.map_eq_some_iff.mp found with ⟨old, oldFound, rfl⟩
      rw [← same] at oldFound
      exact descends id old oldFound
    · exact descends id handle found

theorem Descends.refl (state : GatewayState) : Descends state state :=
  fun _ handle found => ⟨handle, found, rfl, rfl⟩

/-- The text is in queues and on channels only where it was addressed to. -/
structure Traced (text : String) (toSubject toConnection : String -> Prop)
    (state : GatewayState) : Prop where
  queued : forall subject item, item ∈ pendingOf state.pendingBySubject subject ->
    item.text = text -> toSubject subject
  sent : forall id handle, state.connections.lookup id = some handle ->
    text ∈ state.textsOn handle.sender -> toConnection id \/
      Exists fun subject => subject ∈ handle.info.subjects /\ toSubject subject

namespace Traced

variable {text : String} {toSubject toConnection : String -> Prop} {state : GatewayState}

theorem new (maxConnectionsPerUser : Option Nat) :
    Traced text toSubject toConnection (GatewayState.new maxConnectionsPerUser) where
  queued := fun subject item member => absurd member List.not_mem_nil
  sent := by
    intro id handle found
    simp [GatewayState.new] at found

/-- The other connections keep their channels, and the new one starts with what
waited for its subjects. -/
theorem registerConnection (traced : Traced text toSubject toConnection state)
    (senders : GatewayState.SendersDistinct state) (order : HashOrder String) (now : Int)
    (connectionId userId clientInstanceId : String) (subjects : List String)
    (connectedAt : Int) :
    Traced text toSubject toConnection (state.registerConnection order now connectionId userId
      clientInstanceId subjects connectedAt).2 := by
  refine ⟨fun subject item member => traced.queued subject item
    (mem_pendingOf_registerConnection member), ?_⟩
  intro id handle found member
  have known : (state.evictSameInstance order connectionId userId
        clientInstanceId).2.connections.lookup id = some handle \/
      (id = connectionId /\ handle =
        { info := ⟨connectionId, userId, clientInstanceId, subjects, connectedAt, connectedAt⟩
          sender := (state.registerConnection order now connectionId userId clientInstanceId
            subjects connectedAt).1.receiver }) := by
    change ((state.evictSameInstance order connectionId userId
      clientInstanceId).2.connections.insert connectionId _).lookup id = some handle at found
    rw [HashTable.lookup_insert_ite] at found
    split at found
    · next same => exact Or.inr ⟨same, (Option.some.inj found).symm⟩
    · exact Or.inl found
  rcases known with older | ⟨rfl, rfl⟩
  · have evictedSenders := GatewayState.SendersDistinct.kept.delivery.evictSameInstance order
      connectionId userId clientInstanceId senders
    have inside := evictedSenders.bound id handle older
    rcases (Descends.kept state).delivery.evictSameInstance order connectionId userId
      clientInstanceId (Descends.refl state) id handle older with
      ⟨old, oldFound, sender, sameSubjects⟩
    have unchanged : (state.registerConnection order now connectionId userId clientInstanceId
        subjects connectedAt).2.textsOn handle.sender = state.textsOn handle.sender := by
      rw [← (GatewayState.evictSameInstance_silent order state connectionId userId
        clientInstanceId).texts, GatewayState.textsOn, GatewayState.textsOn]
      refine congrArg (fun channel : Option Channel => (channel.map Channel.texts).getD []) ?_
      have elsewhere := Nat.ne_of_lt inside
      refine (GatewayState.getElem?_sendTexts _ _ _ _).trans ((if_neg elsewhere).trans ?_)
      exact List.getElem?_append_left inside
    rw [unchanged, ← sender] at member
    rw [← sameSubjects]
    exact traced.sent id old oldFound member
  · rw [GatewayState.textsOn, GatewayState.registerConnection_channel] at member
    have replayed : text ∈ (subjects.foldl (takePending now) ([], state.pendingBySubject)).1 := by
      simpa [Channel.texts, List.filterMap_map] using member
    rcases (takePending_sources now state.pendingBySubject subjects).1 text replayed with
      ⟨subject, listed, item, waits, same⟩
    exact Or.inr ⟨subject, listed, traced.queued subject item waits same⟩

theorem apply (traced : Traced text toSubject toConnection state) (wellFormed : WellFormed state)
    (toLowercase : String -> String) (operation : Operation)
    (subjects : forall subject, operation.AddressesSubject subject text -> toSubject subject)
    (connections : forall id, operation.AddressesConnection id text -> toConnection id) :
    Traced text toSubject toConnection (operation.apply toLowercase state) := by
  by_cases registers : operation.registered = none
  · refine ⟨?_, ?_⟩
    · intro subject item member same
      rcases pending_of_apply member with older | addressed
      · exact traced.queued subject item older same
      · rw [same] at addressed
        exact subjects subject addressed
    · intro id handle found member
      have descends : Descends state (operation.apply toLowercase state) := by
        refine (Descends.kept state).apply toLowercase operation ?_ ?_ (Descends.refl state)
        · intro info registered
          rw [registers] at registered
          cases registered
        · intro other registered
          rw [Operation.registeredId, registers] at registered
          cases registered
      rcases descends id handle found with ⟨old, oldFound, sender, sameSubjects⟩
      rw [← sender] at member
      rw [← sameSubjects]
      rcases texts_of_apply wellFormed registers oldFound member with
        older | direct | ⟨subject, listed, addressed⟩
      · exact traced.sent id old oldFound older
      · exact Or.inl (connections id direct)
      · exact Or.inr ⟨subject, listed, subjects subject addressed⟩
  · cases operation with
    | registerConnection =>
        exact traced.registerConnection wellFormed.senders _ _ _ _ _ _ _
    | _ => exact absurd rfl registers

theorem mono {toSubject' toConnection' : String -> Prop}
    (traced : Traced text toSubject toConnection state)
    (subjects : forall subject, toSubject subject -> toSubject' subject)
    (connections : forall id, toConnection id -> toConnection' id) :
    Traced text toSubject' toConnection' state where
  queued := fun subject item member same =>
    subjects subject (traced.queued subject item member same)
  sent := by
    intro id handle found member
    rcases traced.sent id handle found member with direct | ⟨subject, listed, addressed⟩
    · exact Or.inl (connections id direct)
    · exact Or.inr ⟨subject, listed, subjects subject addressed⟩

end Traced

/-- Every text that a run has put into a queue or on the channel of a
registered connection was addressed there by one of its operations. -/
theorem texts_were_addressed (toLowercase : String -> String) (maxConnectionsPerUser : Option Nat)
    (operations : List Operation) (fresh : FreshIds operations) (text : String) :
    Traced text
      (fun subject => Exists fun operation =>
        operation ∈ operations /\ operation.AddressesSubject subject text)
      (fun id => Exists fun operation =>
        operation ∈ operations /\ operation.AddressesConnection id text)
      (GatewayState.run toLowercase maxConnectionsPerUser operations) := by
  refine GatewayState.run_history
    (fun history => Traced text
      (fun subject => Exists fun operation =>
        operation ∈ history /\ operation.AddressesSubject subject text)
      (fun id => Exists fun operation =>
        operation ∈ history /\ operation.AddressesConnection id text))
    toLowercase maxConnectionsPerUser (Traced.new maxConnectionsPerUser) ?_ operations fresh
  intro history operation freshNow absent before
  have wellFormed := WellFormed.run toLowercase maxConnectionsPerUser history freshNow.of_append
  have earlier : Traced text
      (fun subject => Exists fun other =>
        other ∈ history ++ [operation] /\ other.AddressesSubject subject text)
      (fun id => Exists fun other =>
        other ∈ history ++ [operation] /\ other.AddressesConnection id text)
      (GatewayState.run toLowercase maxConnectionsPerUser history) :=
    before.mono
      (fun subject addressed => addressed.imp fun _ listed =>
        ⟨List.mem_append_left _ listed.1, listed.2⟩)
      (fun id addressed => addressed.imp fun _ listed =>
        ⟨List.mem_append_left _ listed.1, listed.2⟩)
  exact earlier.apply wellFormed toLowercase operation
    (fun subject addressed =>
      ⟨operation, List.mem_append_right _ (List.mem_singleton.mpr rfl), addressed⟩)
    (fun id addressed =>
      ⟨operation, List.mem_append_right _ (List.mem_singleton.mpr rfl), addressed⟩)

end State
end Gateway

import Gateway.State.Closing
import Gateway.State.Fanout
import Gateway.State.Replay

namespace Gateway
namespace State

open Foundation

/-!
# The log of a connection

What is on the channel of a connection can be read off the operations after its
registration.  While the connection is registered and its receiver listens,
every operation that addresses it puts its text on the channel, and no other
operation does.  The operation that ends this may add one close frame.  After
that the channel holds what it holds.
-/

/-- The text that an operation puts on the channel of a live connection. -/
def Operation.textFor (connectionId : String) (subjects : List String) :
    Operation -> Option String
  | .sendToSubjects _ _ _ addressed message _ _ =>
      if message ≠ "" ∧ addressed.any (fun subject => decide (subject ∈ subjects)) = true then
        some message
      else none
  | .sendToConnection target message =>
      if message ≠ "" ∧ target ≠ "" ∧ target = connectionId then some message else none
  | _ => none

/-- The close frame for a connection that an operation takes out. -/
def Operation.parting : Operation -> List OutboundMessage
  | .registerConnection .. => [.close 1000 "reconnect"]
  | .markSessionReady .. => [.close 4409 "session_replaced"]
  | _ => []

/-- The operations that write to none but the other tables. -/
def Operation.isTableWrite : Operation -> Bool
  | .bindRequestRoute .. => true
  | .clearRequestRoute .. => true
  | .resolveRequestRoute .. => true
  | .requeueForSubjects .. => true
  | .bufferLatestForSubjects .. => true
  | .applyRelayContextSnapshot .. => true
  | .authorizeRelayHotpath .. => true
  | _ => false

theorem Operation.textFor_of_tableWrite {operation : Operation}
    (writes : operation.isTableWrite = true) (connectionId : String) (subjects : List String) :
    operation.textFor connectionId subjects = none := by
  cases operation <;> first | rfl | cases writes

theorem Operation.apply_of_tableWrite {operation : Operation}
    (writes : operation.isTableWrite = true) (toLowercase : String -> String)
    (state : GatewayState) :
    (operation.apply toLowercase state).connections = state.connections /\
      (operation.apply toLowercase state).channels = state.channels := by
  cases operation with
  | bindRequestRoute now requestId connectionId userId =>
      rcases GatewayState.bindRequestRoute_touches now state requestId connectionId userId with
        ⟨routes, touched⟩
      rw [apply, touched]
      exact ⟨rfl, rfl⟩
  | clearRequestRoute requestId =>
      rcases GatewayState.clearRequestRoute_touches state requestId with ⟨routes, touched⟩
      rw [apply, touched]
      exact ⟨rfl, rfl⟩
  | resolveRequestRoute now requestId subjects =>
      rcases GatewayState.resolveRequestRoute_touches now state requestId subjects with
        ⟨routes, touched⟩
      rw [apply, touched]
      exact ⟨rfl, rfl⟩
  | requeueForSubjects now subjects message =>
      rcases GatewayState.requeueForSubjects_touches now state subjects message with
        ⟨pending, touched⟩
      rw [apply, touched]
      exact ⟨rfl, rfl⟩
  | bufferLatestForSubjects now subjects message stickyKey =>
      rcases GatewayState.bufferLatestForSubjects_touches now state subjects message stickyKey with
        ⟨pending, touched⟩
      rw [apply, touched]
      exact ⟨rfl, rfl⟩
  | applyRelayContextSnapshot now snapshot =>
      rcases GatewayState.applyRelayContextSnapshot_touches toLowercase now state snapshot with
        ⟨contexts, touched⟩
      rw [apply, touched]
      exact ⟨rfl, rfl⟩
  | authorizeRelayHotpath senderEmail commandName authSpec operationKey targetEmails replayNonce
      payloadSizeHint now =>
      rcases GatewayState.authorizeRelayHotpath_touches toLowercase state senderEmail commandName
        authSpec operationKey targetEmails replayNonce payloadSizeHint now with
        ⟨cache, counters, touched⟩
      rw [apply, touched]
      exact ⟨rfl, rfl⟩
  | _ => cases writes

/-- What all changes keep, a new connection included, every operation keeps. -/
theorem KeptByCalls.apply_of_insert {holds : GatewayState -> Prop} (kept : KeptByCalls holds)
    (routes : forall (state : GatewayState) table, holds state ->
      holds { state with requestRoutes := table })
    (ready : forall (state : GatewayState) table, holds state ->
      holds { state with readyConnections := table })
    (insert : forall (state : GatewayState) info, holds state ->
      holds (state.insertConnection info))
    (toLowercase : String -> String) {state : GatewayState} {operation : Operation}
    (drop : forall receiver, operation = .dropReceiver receiver ->
      holds (state.dropReceiver receiver)) (before : holds state) :
    holds (operation.apply toLowercase state) := by
  refine kept.apply toLowercase operation (fun table => routes state table before) drop ?_ ?_ before
  · intro order now connectionId userId _
    exact kept.toKeptByDelivery.markSessionReady order now connectionId userId
      (fun _ _ => ready state _ before) before
  · intro order now connectionId userId clientInstanceId subjects connectedAt _
    exact insert _ _ (kept.toKeptByDelivery.evictSameInstance order connectionId userId
      clientInstanceId before)

/-- The receiver of the channel is gone, and the channel holds this content. -/
def Deaf (index : Nat) (content : List OutboundMessage) (state : GatewayState) : Prop :=
  state.channels[index]? = some { sent := content, receiverAlive := false }

namespace Deaf

variable {index : Nat} {content : List OutboundMessage} {state : GatewayState}

theorem sendOn (deaf : Deaf index content state) (sender : Nat) (message : OutboundMessage) :
    Deaf index content
      { state with channels := (State.sendOn state.channels sender message).2 } := by
  unfold Deaf at deaf ⊢
  rw [getElem?_sendOn, deaf]
  split <;> rfl

theorem unregisterConnection (deaf : Deaf index content state) (connectionId : String) :
    Deaf index content (state.unregisterConnection connectionId).2 := by
  unfold Deaf at deaf ⊢
  rw [GatewayState.unregisterConnection_channels]
  exact deaf

theorem dropReceiver (deaf : Deaf index content state) (receiver : Nat) :
    Deaf index content (state.dropReceiver receiver) := by
  unfold Deaf at deaf ⊢
  simp only [GatewayState.dropReceiver, List.getElem?_modify, deaf, Option.map_eq_map,
    Option.map_some]
  split <;> rfl

theorem kept (index : Nat) (content : List OutboundMessage) :
    KeptByChanges (Deaf index content) where
  text := fun _ _ handle text _ deaf => deaf.sendOn handle.sender (.text text)
  unregister := fun _ connectionId deaf => deaf.unregisterConnection connectionId
  evict := by
    intro state connectionId close deaf
    unfold GatewayState.evictConnection
    apply unregisterConnection
    split
    · exact deaf.sendOn _ _
    · exact deaf
  tables := fun _ _ _ _ _ deaf => deaf
  alive := fun _ _ _ deaf => deaf
  drop := fun _ receiver deaf => deaf.dropReceiver receiver

theorem insertConnection (deaf : Deaf index content state) (info : ConnectionInfo) :
    Deaf index content (state.insertConnection info) := by
  unfold Deaf at deaf ⊢
  simp only [GatewayState.insertConnection]
  rw [List.getElem?_append_left (List.getElem?_eq_some_iff.mp deaf).1]
  exact deaf

theorem apply (deaf : Deaf index content state) (toLowercase : String -> String)
    (operation : Operation) : Deaf index content (operation.apply toLowercase state) :=
  (kept index content).toKeptByCalls.apply_of_insert (fun _ _ deaf => deaf) (fun _ _ deaf => deaf)
    (fun _ info deaf => deaf.insertConnection info) toLowercase
    (fun receiver _ => deaf.dropReceiver receiver) deaf

end Deaf

/-- Nobody sends on the channel, or its receiver is gone. -/
def Settled (index : Nat) (content : List OutboundMessage) (state : GatewayState) : Prop :=
  Sealed index content state \/ Deaf index content state

namespace Settled

variable {index : Nat} {content : List OutboundMessage} {state : GatewayState}

theorem apply (settled : Settled index content state) (toLowercase : String -> String)
    (operation : Operation) : Settled index content (operation.apply toLowercase state) := by
  rcases settled with closed | deaf
  · exact Or.inl (closed.apply toLowercase operation)
  · exact Or.inr (deaf.apply toLowercase operation)

theorem sent (settled : Settled index content state) :
    state.channels[index]?.map Channel.sent = some content := by
  rcases settled with closed | deaf
  · exact closed.content
  · rw [deaf]
    rfl

end Settled

/-! ## What an operation does to a live connection -/

namespace LiveConnection

variable {state after : GatewayState} {connectionId : String} {receiver : Nat}
  {subjects : List String} {sent : List OutboundMessage}

/-- A change that keeps the registration only matters by what it adds to the
channel. -/
theorem transfer (live : LiveConnection state connectionId receiver subjects sent)
    (wellFormed : WellFormed after)
    (found : after.connections.lookup connectionId = state.connections.lookup connectionId)
    {content : List OutboundMessage}
    (channel : after.channels[receiver]? = some { sent := content, receiverAlive := true }) :
    LiveConnection after connectionId receiver subjects content := by
  rcases live.registered with ⟨handle, registered, sender, listed⟩
  exact ⟨wellFormed, ⟨handle, found.trans registered, sender, listed⟩, channel⟩

theorem unchanged (live : LiveConnection state connectionId receiver subjects sent)
    (wellFormed : WellFormed after) (connections : after.connections = state.connections)
    (channels : after.channels = state.channels) :
    LiveConnection after connectionId receiver subjects sent :=
  live.transfer wellFormed (by rw [connections]) (by rw [channels]; exact live.channel)

/-- Once it is taken out, nobody sends on its channel. -/
theorem sealed (live : LiveConnection state connectionId receiver subjects sent)
    (registered : forall other, after.connections.lookup other = none \/
      after.connections.lookup other = state.connections.lookup other)
    (gone : after.connections.lookup connectionId = none) {content : List OutboundMessage}
    (channel : after.channels[receiver]?.map Channel.sent = some content) :
    Sealed receiver content after := by
  rcases live.registered with ⟨handle, found, sender, _⟩
  refine ⟨?_, channel⟩
  intro other otherHandle otherFound same
  rcases registered other with absent | kept
  · rw [absent] at otherFound
    cases otherFound
  · rw [kept] at otherFound
    have sameId := live.wellFormed.senders.distinct other connectionId otherHandle handle
      otherFound found (same.trans sender.symm)
    rw [← sameId, kept, otherFound] at gone
    cases gone

/-- The connection is served by an operation, or the operation is its end. -/
def Outcome (after : GatewayState) (connectionId : String) (receiver : Nat)
    (subjects : List String) (sent : List OutboundMessage) (operation : Operation) : Prop :=
  LiveConnection after connectionId receiver subjects
      (sent ++ (operation.textFor connectionId subjects).toList.map .text) \/
    (after.reaches connectionId = false /\
      Settled receiver (sent ++ operation.parting) after)

theorem reaches_of_absent (gone : after.connections.lookup connectionId = none) :
    after.reaches connectionId = false := by
  rw [GatewayState.reaches, gone, Option.any_none]

/-- The removal of some connections, without a close frame. -/
theorem unregisterEach (live : LiveConnection state connectionId receiver subjects sent)
    (ids : List String) :
    LiveConnection (state.unregisterEach ids).2 connectionId receiver subjects sent \/
      ((state.unregisterEach ids).2.reaches connectionId = false /\
        Settled receiver sent (state.unregisterEach ids).2) := by
  by_cases member : connectionId ∈ ids
  · have gone : (state.unregisterEach ids).2.connections.lookup connectionId = none := by
      rw [GatewayState.lookup_unregisterEach, if_pos member]
    refine Or.inr ⟨reaches_of_absent gone, Or.inl (live.sealed ?_ gone ?_)⟩
    · intro other
      rw [GatewayState.lookup_unregisterEach]
      split
      · exact Or.inl rfl
      · exact Or.inr rfl
    · rw [GatewayState.unregisterEach_channels, live.channel]
      rfl
  · refine Or.inl (live.transfer (WellFormed.kept.delivery.unregisterEach ids live.wellFormed)
      (GatewayState.lookup_unregisterEach_of_not_mem member) ?_)
    rw [GatewayState.unregisterEach_channels]
    exact live.channel

/-- An eviction of some connections takes this one out with a close frame, or
passes it by. -/
theorem evictions (live : LiveConnection state connectionId receiver subjects sent) {code : Nat}
    {reason : String} {ids : List String} {result : List ConnectionInfo × GatewayState}
    (evictions : GatewayState.Evictions state code reason ids result)
    (wellFormed : WellFormed result.2) :
    LiveConnection result.2 connectionId receiver subjects sent \/
      (result.2.connections.lookup connectionId = none /\
        Sealed receiver (sent ++ [.close code reason]) result.2) := by
  rcases live.registered with ⟨handle, found, sender, _⟩
  by_cases member : connectionId ∈ ids
  · have stored : state.channels[handle.sender]? =
        some { sent := sent, receiverAlive := true } := by
      rw [sender]
      exact live.channel
    have closed := evictions.sealed live.wellFormed.senders member found stored rfl
    rw [sender] at closed
    exact Or.inr ⟨by rw [evictions.connections, if_pos member], closed⟩
  · have unaddressed := live.wellFormed.senders.not_addressed found member
    rw [sender] at unaddressed
    refine Or.inl (live.transfer wellFormed ?_ ?_)
    · rw [evictions.connections, if_neg member]
    · rw [evictions.channels, unaddressed, live.channel]
      rfl

theorem dispatched (live : LiveConnection state connectionId receiver subjects sent)
    (order : HashOrder String) (stickyNow now : Int) {addressed : List String} {message : String}
    (nonempty : addressed ≠ []) (visible : message ≠ "") (bufferIfUndelivered : Bool)
    (wellFormed : WellFormed (state.sendToSubjects order stickyNow now addressed message
      bufferIfUndelivered none).2) :
    LiveConnection (state.sendToSubjects order stickyNow now addressed message bufferIfUndelivered
        none).2 connectionId receiver subjects
      (sent ++ if addressed.any (fun subject => decide (subject ∈ subjects)) = true then
        [.text message] else []) := by
  rcases live.registered with ⟨handle, found, sender, listed⟩
  have fansOut := GatewayState.sendToSubjects_fansOut live.wellFormed order stickyNow now nonempty
    visible bufferIfUndelivered
  have addressee : state.Addressee addressed connectionId <->
      addressed.any (fun subject => decide (subject ∈ subjects)) = true := by
    rw [List.any_eq_true]
    constructor
    · rintro ⟨other, otherFound, subject, member, subscribed⟩
      rw [found] at otherFound
      rw [← Option.some.inj otherFound, listed] at subscribed
      exact ⟨subject, member, decide_eq_true subscribed⟩
    · rintro ⟨subject, member, subscribed⟩
      exact ⟨handle, found, subject, member, listed ▸ of_decide_eq_true subscribed⟩
  refine live.transfer wellFormed (fansOut.stays connectionId fun _ => live.reaches) ?_
  split
  · next meets =>
    have offered := fansOut.offered connectionId handle found (addressee.mpr meets)
    rw [sender, live.channel, Option.map_some, Channel.receive_of_alive rfl] at offered
    exact offered
  · next misses =>
    have kept := fansOut.quiet receiver (by
      intro other otherHandle otherFound wanted same
      have sameId := live.wellFormed.senders.distinct other connectionId otherHandle handle
        otherFound found (same.trans sender.symm)
      exact misses (addressee.mp (sameId ▸ wanted)))
    rw [kept, live.channel, List.append_nil]

/-- A dispatch never takes a live connection out, whatever it buffers. -/
theorem sendToSubjects (live : LiveConnection state connectionId receiver subjects sent)
    (order : HashOrder String) (stickyNow now : Int) (addressed : List String) (message : String)
    (bufferIfUndelivered : Bool) (stickyKey : Option String) :
    LiveConnection (state.sendToSubjects order stickyNow now addressed message bufferIfUndelivered
        stickyKey).2 connectionId receiver subjects
      (sent ++ ((Operation.sendToSubjects order stickyNow now addressed message
        bufferIfUndelivered stickyKey).textFor connectionId subjects).toList.map .text) := by
  have wellFormed := WellFormed.kept.delivery.sendToSubjects
    (fun _ _ held => WellFormed.kept.tables _ _ _ _ _ _ _ held) order stickyNow now addressed
    message bufferIfUndelivered stickyKey live.wellFormed
  by_cases blank : addressed = [] ∨ message = ""
  · have silent : (Operation.sendToSubjects order stickyNow now addressed message
        bufferIfUndelivered stickyKey).textFor connectionId subjects = none := by
      refine if_neg ?_
      rintro ⟨visible, meets⟩
      rcases blank with rfl | empty
      · cases meets
      · exact visible empty
    rw [GatewayState.sendToSubjects, if_pos blank, silent]
    exact (List.append_nil sent).symm ▸ live
  · rcases not_or.mp blank with ⟨nonempty, visible⟩
    rcases GatewayState.bufferSticky_touches stickyNow state addressed message stickyKey with
      ⟨pending, touched⟩
    have buffered : LiveConnection { state with pendingBySubject := pending } connectionId receiver
        subjects sent :=
      live.unchanged (WellFormed.kept.tables _ _ _ _ _ _ _ live.wellFormed) rfl rfl
    have dispatched : state.sendToSubjects order stickyNow now addressed message
        bufferIfUndelivered stickyKey =
          GatewayState.sendToSubjects order stickyNow now
            { state with pendingBySubject := pending } addressed message bufferIfUndelivered
            none := by
      rw [GatewayState.sendToSubjects_eq order stickyNow now _ nonempty visible,
        GatewayState.sendToSubjects, if_neg blank, touched]
    rw [dispatched] at wellFormed ⊢
    have served := buffered.dispatched order stickyNow now nonempty visible bufferIfUndelivered
      wellFormed
    rw [Operation.textFor]
    by_cases meets : addressed.any (fun subject => decide (subject ∈ subjects)) = true
    · rw [if_pos meets] at served
      rw [if_pos ⟨visible, meets⟩]
      exact served
    · rw [if_neg meets] at served
      rw [if_neg fun both => meets both.2]
      exact served

/-- A message for another connection at most takes that connection out. -/
theorem sendToConnection_of_ne (live : LiveConnection state connectionId receiver subjects sent)
    {target : String} (different : connectionId ≠ target) (message : String) :
    LiveConnection (state.sendToConnection target message).2 connectionId receiver subjects
      sent := by
  have wellFormed := WellFormed.kept.delivery.sendToConnection target message live.wellFormed
  rcases live.registered with ⟨handle, found, sender, _⟩
  have removed : forall channels : List Channel,
      ({ state with channels := channels }.unregisterConnection target).2.connections.lookup
        connectionId = state.connections.lookup connectionId := by
    intro channels
    rw [GatewayState.lookup_unregisterConnection, if_neg different]
  unfold GatewayState.sendToConnection at wellFormed ⊢
  split
  · exact live
  · next visible =>
    rw [if_neg visible] at wellFormed
    cases other : state.connections.lookup target with
    | none =>
        simp only [other] at wellFormed ⊢
        refine live.transfer wellFormed (removed state.channels) ?_
        rw [GatewayState.unregisterConnection_channels]
        exact live.channel
    | some otherHandle =>
        have elsewhere : receiver ≠ otherHandle.sender := by
          intro same
          exact different (live.wellFormed.senders.distinct connectionId target handle otherHandle
            found other (sender.trans same))
        have untouched : (sendOn state.channels otherHandle.sender (.text message)).2[receiver]? =
            some { sent := sent, receiverAlive := true } := by
          rw [getElem?_sendOn, if_neg elsewhere]
          exact live.channel
        simp only [other] at wellFormed ⊢
        generalize sendOn state.channels otherHandle.sender (.text message) = sending
          at wellFormed untouched ⊢
        rcases sending with ⟨success, channels⟩
        cases success with
        | true => exact live.transfer wellFormed rfl untouched
        | false =>
            refine live.transfer wellFormed (removed channels) ?_
            rw [GatewayState.unregisterConnection_channels]
            exact untouched

theorem sendToConnection (live : LiveConnection state connectionId receiver subjects sent)
    (target message : String) :
    LiveConnection (state.sendToConnection target message).2 connectionId receiver subjects
      (sent ++ ((Operation.sendToConnection target message).textFor connectionId
        subjects).toList.map .text) := by
  rw [Operation.textFor]
  by_cases served : message ≠ "" ∧ target ≠ "" ∧ target = connectionId
  · rcases served with ⟨visible, named, rfl⟩
    rcases live.registered with ⟨handle, found, sender, _⟩
    rw [if_pos ⟨visible, named, rfl⟩,
      GatewayState.sendToConnection_of_reaches named visible found live.reaches]
    refine live.transfer (WellFormed.kept.channels state _ (length_sendOn _ _ _) live.wellFormed)
      rfl ?_
    rw [getElem?_sendOn, if_pos sender.symm, live.channel, Option.map_some,
      Channel.receive_of_alive rfl]
    rfl
  · rw [if_neg served]
    refine (List.append_nil sent).symm ▸ ?_
    by_cases same : connectionId = target
    · have blank : target = "" ∨ message = "" := by
        by_contra neither
        rcases not_or.mp neither with ⟨named, visible⟩
        exact served ⟨visible, named, same.symm⟩
      rw [GatewayState.sendToConnection, if_pos blank]
      exact live
    · exact live.sendToConnection_of_ne same message

/-- The registration of another connection. -/
theorem registerConnection_of_ne (live : LiveConnection state connectionId receiver subjects sent)
    (order : HashOrder String) (now : Int) {newId : String} (different : connectionId ≠ newId)
    (absent : state.connections.lookup newId = none) (userId clientInstanceId : String)
    (newSubjects : List String) (connectedAt : Int) :
    Outcome (state.registerConnection order now newId userId clientInstanceId newSubjects
      connectedAt).2 connectionId receiver subjects sent
      (.registerConnection order now newId userId clientInstanceId newSubjects connectedAt) := by
  have wellFormed := WellFormed.kept.registerConnection order now newId userId clientInstanceId
    newSubjects connectedAt (fun evicted stillAbsent held => held.insertConnection stillAbsent)
    absent live.wellFormed
  have cleared := GatewayState.evictEach_evictions live.wellFormed.senders 1000 "reconnect"
    (GatewayState.nodup_predecessors order state newId userId clientInstanceId)
  rw [← GatewayState.evictSameInstance_eq] at cleared
  have inserted : (state.registerConnection order now newId userId clientInstanceId newSubjects
      connectedAt).2.connections.lookup connectionId =
        (state.evictSameInstance order newId userId clientInstanceId).2.connections.lookup
          connectionId :=
    AList.lookup_insert_ne different
  rcases live.evictions cleared
      (WellFormed.kept.delivery.evictSameInstance order newId userId clientInstanceId
        live.wellFormed) with still | ⟨gone, closed⟩
  · refine Or.inl (still.transfer wellFormed inserted ?_)
    have inside : receiver <
        (state.evictSameInstance order newId userId clientInstanceId).2.channels.length :=
      (List.getElem?_eq_some_iff.mp still.channel).1
    refine (GatewayState.getElem?_sendTexts _ _ _ _).trans ?_
    rw [if_neg (Nat.ne_of_lt inside)]
    refine (List.getElem?_append_left inside).trans ?_
    rw [still.channel]
    exact congrArg (fun content => some (Channel.mk content true)) (List.append_nil sent).symm
  · exact Or.inr ⟨reaches_of_absent (inserted.trans gone),
      Or.inl ((Sealed.kept _ _).toKeptByCalls.registerConnection order now newId userId
        clientInstanceId newSubjects connectedAt (closed.insertConnection _))⟩

theorem markSessionReady (live : LiveConnection state connectionId receiver subjects sent)
    (order : HashOrder String) (now : Int) (readyId userId : String) :
    Outcome (state.markSessionReady order now readyId userId).2 connectionId receiver subjects sent
      (.markSessionReady order now readyId userId) := by
  have wellFormed := WellFormed.kept.delivery.markSessionReady order now readyId userId
    (fun _ _ => WellFormed.kept.tables _ _ _ _ _ _ _ live.wellFormed) live.wellFormed
  have marked : LiveConnection (state.markReady now readyId userId) connectionId receiver subjects
      sent := by
    refine live.unchanged ?_ (GatewayState.markReady_connections now state readyId userId)
      (GatewayState.markReady_channels now state readyId userId)
    unfold GatewayState.markReady
    split
    · exact live.wellFormed
    · exact WellFormed.kept.tables _ _ _ _ _ _ _ live.wellFormed
  have evictions := GatewayState.evictEach_evictions marked.wellFormed.senders 4409
    "session_replaced" (GatewayState.nodup_overflowing order (state.markReady now readyId userId)
      readyId userId)
  rw [← GatewayState.markSessionReady_eq live.wellFormed.senders] at evictions
  rcases marked.evictions evictions wellFormed with still | ⟨gone, closed⟩
  · exact Or.inl ((List.append_nil sent).symm ▸ still)
  · exact Or.inr ⟨reaches_of_absent gone, Or.inl closed⟩

/-- The receiver of a channel is dropped. -/
theorem dropReceiver (live : LiveConnection state connectionId receiver subjects sent)
    (dropped : Nat) :
    Outcome (state.dropReceiver dropped) connectionId receiver subjects sent
      (.dropReceiver dropped) := by
  by_cases same : dropped = receiver
  · subst same
    have deaf : Deaf dropped (sent ++ []) (state.dropReceiver dropped) := by
      simp [Deaf, GatewayState.dropReceiver, live.channel]
    refine Or.inr ⟨?_, Or.inr deaf⟩
    rcases live.registered with ⟨handle, found, sender, _⟩
    have still : (state.dropReceiver dropped).connections.lookup connectionId = some handle := found
    rw [GatewayState.reaches, still, Option.any_some, sender, deaf]
    rfl
  · refine Or.inl ((List.append_nil sent).symm ▸ live.transfer
      (WellFormed.kept.changes.drop state dropped live.wellFormed) rfl ?_)
    simp [GatewayState.dropReceiver, live.channel, same]

theorem markConnectionAlive (live : LiveConnection state connectionId receiver subjects sent)
    (target : String) (timestamp : Int) :
    LiveConnection (state.markConnectionAlive target timestamp) connectionId receiver subjects
      sent := by
  refine ⟨WellFormed.kept.alive state target timestamp live.wellFormed, ?_, live.channel⟩
  rcases live.registered with ⟨handle, found, sender, listed⟩
  simp only [GatewayState.markConnectionAlive, HashTable.lookup_modify]
  split
  · next same =>
    rw [same] at found
    exact ⟨_, congrArg (Option.map _) found, sender, listed⟩
  · exact ⟨handle, found, sender, listed⟩

/-- Every operation serves a live connection or ends its service. -/
theorem apply (live : LiveConnection state connectionId receiver subjects sent)
    (toLowercase : String -> String) (operation : Operation)
    (other : operation.registeredId ≠ some connectionId)
    (absent : forall newId, operation.registeredId = some newId ->
      state.connections.lookup newId = none) :
    Outcome (operation.apply toLowercase state) connectionId receiver subjects sent operation := by
  have wellFormed : WellFormed (operation.apply toLowercase state) :=
    WellFormed.kept.apply toLowercase operation
      (fun _ _ _ stillAbsent held => held.insertConnection stillAbsent) absent live.wellFormed
  have quiet : operation.isTableWrite = true ->
      Outcome (operation.apply toLowercase state) connectionId receiver subjects sent
        operation := by
    intro writes
    rcases operation.apply_of_tableWrite writes toLowercase state with ⟨connections, channels⟩
    refine Or.inl ?_
    rw [operation.textFor_of_tableWrite writes]
    exact (List.append_nil sent).symm ▸ live.unchanged wellFormed connections channels
  cases operation with
  | registerConnection order now newId userId clientInstanceId newSubjects connectedAt =>
      exact live.registerConnection_of_ne order now (fun same => other (congrArg some same.symm))
        (absent newId rfl) userId clientInstanceId newSubjects connectedAt
  | unregisterConnection target =>
      rcases live.unregisterEach [target] with still | ⟨gone, settled⟩
      · exact Or.inl ((List.append_nil sent).symm ▸ still)
      · exact Or.inr ⟨gone, (List.append_nil sent).symm ▸ settled⟩
  | markSessionReady order now readyId userId =>
      exact live.markSessionReady order now readyId userId
  | sendToSubjects order stickyNow now addressed message bufferIfUndelivered stickyKey =>
      exact Or.inl (live.sendToSubjects order stickyNow now addressed message bufferIfUndelivered
        stickyKey)
  | sendToConnection target message => exact Or.inl (live.sendToConnection target message)
  | markConnectionAlive target timestamp =>
      exact Or.inl ((List.append_nil sent).symm ▸ live.markConnectionAlive target timestamp)
  | pruneStaleConnections order now staleAfterSeconds =>
      have pruned : Outcome (state.pruneStaleConnections order now staleAfterSeconds).2 connectionId
          receiver subjects sent (.pruneStaleConnections order now staleAfterSeconds) := by
        unfold GatewayState.pruneStaleConnections
        split
        · exact Or.inl ((List.append_nil sent).symm ▸ live)
        · rcases live.unregisterEach _ with still | ⟨gone, settled⟩
          · exact Or.inl ((List.append_nil sent).symm ▸ still)
          · exact Or.inr ⟨gone, (List.append_nil sent).symm ▸ settled⟩
      exact pruned
  | dropReceiver dropped => exact live.dropReceiver dropped
  | _ => exact quiet rfl

end LiveConnection

/-! ## The log over a run -/

/-- The texts of the operations that address a connection. -/
def textsFor (connectionId : String) (subjects : List String) (operations : List Operation) :
    List String :=
  operations.filterMap (Operation.textFor connectionId subjects)

/-- How a connection fares while operations are applied.  It is live up to the
end of the served operations.  The first of the other operations, if there is
one, ends that, and leaves its close frame at most. -/
structure Served (toLowercase : String -> String) (start : GatewayState) (connectionId : String)
    (receiver : Nat) (subjects replayed : List String) (served rest : List Operation) : Prop where
  live : forall count, count ≤ served.length ->
    ((served.take count).foldl (Operation.apply toLowercase) start).reaches connectionId = true
  ended : forall operation later, rest = operation :: later ->
    ((served ++ [operation]).foldl (Operation.apply toLowercase) start).reaches connectionId = false
  log : ((served ++ rest).foldl (Operation.apply toLowercase) start).channels[receiver]?.map
      Channel.sent =
    some ((replayed ++ textsFor connectionId subjects served).map .text ++
      (rest.head?.map Operation.parting).getD [])

section Run

variable {toLowercase : String -> String} {start : GatewayState} {connectionId : String}
  {receiver : Nat} {subjects replayed : List String}

/-- The two ways a connection can be after some operations. -/
def Standing (toLowercase : String -> String) (start : GatewayState) (connectionId : String)
    (receiver : Nat) (subjects replayed : List String) (operations : List Operation)
    (state : GatewayState) : Prop :=
  Exists fun served => Exists fun rest => operations = served ++ rest /\
    (forall count, count ≤ served.length ->
      ((served.take count).foldl (Operation.apply toLowercase) start).reaches connectionId =
        true) /\
    ((rest = [] /\ LiveConnection state connectionId receiver subjects
        ((replayed ++ textsFor connectionId subjects served).map .text)) \/
      Exists fun operation => Exists fun later => rest = operation :: later /\
        ((served ++ [operation]).foldl (Operation.apply toLowercase) start).reaches connectionId =
          false /\
        Settled receiver ((replayed ++ textsFor connectionId subjects served).map .text ++
          operation.parting) state)

theorem Standing.concat {history : List Operation} {operation : Operation}
    (other : operation.registeredId ≠ some connectionId)
    (absent : forall newId, operation.registeredId = some newId ->
      (history.foldl (Operation.apply toLowercase) start).connections.lookup newId = none)
    (standing : Standing toLowercase start connectionId receiver subjects replayed history
      (history.foldl (Operation.apply toLowercase) start)) :
    Standing toLowercase start connectionId receiver subjects replayed (history ++ [operation])
      ((history ++ [operation]).foldl (Operation.apply toLowercase) start) := by
  have applied : (history ++ [operation]).foldl (Operation.apply toLowercase) start =
      operation.apply toLowercase (history.foldl (Operation.apply toLowercase) start) := by
    rw [List.foldl_append]
    rfl
  rcases standing with
    ⟨served, rest, split, live, ⟨rfl, current⟩ | ⟨last, later, rfl, ended, settled⟩⟩
  · rw [List.append_nil] at split
    subst split
    rcases current.apply toLowercase operation other absent with next | ⟨gone, settled⟩
    · refine ⟨history ++ [operation], [], (List.append_nil _).symm, ?_, Or.inl ⟨rfl, ?_⟩⟩
      · intro count bound
        rw [List.length_append, List.length_singleton] at bound
        rcases Nat.lt_or_ge history.length count with beyond | within
        · rw [List.take_of_length_le (by simp; omega), applied]
          exact next.reaches
        · rw [List.take_append_of_le_length within]
          exact live count within
      · rw [applied]
        have texts : textsFor connectionId subjects (history ++ [operation]) =
            textsFor connectionId subjects history ++
              (operation.textFor connectionId subjects).toList := by
          rw [textsFor, List.filterMap_append, ← textsFor, List.filterMap_cons]
          cases operation.textFor connectionId subjects <;> rfl
        rw [texts, ← List.append_assoc, List.map_append]
        exact next
    · refine ⟨history, [operation], rfl, live, Or.inr ⟨operation, [], rfl, ?_, ?_⟩⟩
      · rw [applied]
        exact gone
      · rw [applied]
        exact settled
  · refine ⟨served, last :: later ++ [operation], ?_, live,
      Or.inr ⟨last, later ++ [operation], rfl, ended, ?_⟩⟩
    · rw [split, List.append_assoc]
    · rw [applied]
      exact settled.apply toLowercase operation

theorem Standing.served {operations : List Operation}
    (standing : Standing toLowercase start connectionId receiver subjects replayed operations
      (operations.foldl (Operation.apply toLowercase) start)) :
    Exists fun served => Exists fun rest => operations = served ++ rest /\
      Served toLowercase start connectionId receiver subjects replayed served rest := by
  rcases standing with
    ⟨served, rest, rfl, live, ⟨rfl, current⟩ | ⟨last, later, rfl, ended, settled⟩⟩
  · refine ⟨served, [], rfl, live, ?_, ?_⟩
    · intro operation later impossible
      cases impossible
    · rw [current.channel, Option.map_some]
      exact congrArg some (List.append_nil _).symm
  · refine ⟨served, last :: later, rfl, live, ?_, settled.sent⟩
    intro operation others same
    cases same
    exact ended

end Run

/-- A registration makes a live connection, with the pending texts on its
channel. -/
theorem LiveConnection.of_registration {state : GatewayState} (wellFormed : WellFormed state)
    (order : HashOrder String) (now : Int) {connectionId : String}
    (absent : state.connections.lookup connectionId = none) (userId clientInstanceId : String)
    (subjects : List String) (connectedAt : Int) :
    let registration := state.registerConnection order now connectionId userId clientInstanceId
      subjects connectedAt
    LiveConnection registration.2 connectionId registration.1.receiver subjects
      ((subjects.foldl (takePending now) ([], state.pendingBySubject)).1.map .text) := by
  intro registration
  refine ⟨?_, ⟨_, AList.lookup_insert _, rfl, rfl⟩,
    GatewayState.registerConnection_channel order now state connectionId userId clientInstanceId
      subjects connectedAt⟩
  exact WellFormed.kept.registerConnection order now connectionId userId clientInstanceId subjects
    connectedAt (fun evicted stillAbsent held => held.insertConnection stillAbsent) absent
    wellFormed

/-- In every run a connection gets on its channel the texts that were pending at
its registration, then the texts of exactly the later operations that address
it, in their order and once each, up to the first operation that takes it out or drops
its receiver, and then at most the close frame of that operation. -/
theorem channel_log (toLowercase : String -> String) (maxConnectionsPerUser : Option Nat)
    (earlier later : List Operation) (order : HashOrder String) (now : Int)
    (connectionId userId clientInstanceId : String) (subjects : List String) (connectedAt : Int)
    (fresh : FreshIds (earlier ++ .registerConnection order now connectionId userId
      clientInstanceId subjects connectedAt :: later)) :
    let before := GatewayState.run toLowercase maxConnectionsPerUser earlier
    let registration := before.registerConnection order now connectionId userId clientInstanceId
      subjects connectedAt
    Exists fun served => Exists fun rest => later = served ++ rest /\
      Served toLowercase registration.2 connectionId registration.1.receiver subjects
        (subjects.foldl (takePending now) ([], before.pendingBySubject)).1 served rest := by
  intro before registration
  have absent := lookup_run_of_unregistered toLowercase maxConnectionsPerUser earlier
    fresh.of_append connectionId (by
      have upTo : FreshIds (earlier ++ [.registerConnection order now connectionId userId
          clientInstanceId subjects connectedAt]) := by
        rw [List.append_cons] at fresh
        exact fresh.of_append
      exact upTo.not_mem_of_registers rfl)
  apply Standing.served
  induction later using List.reverseRecOn with
  | nil =>
      have live := LiveConnection.of_registration
        (WellFormed.run toLowercase maxConnectionsPerUser earlier fresh.of_append) order now absent
        userId clientInstanceId subjects connectedAt
      refine ⟨[], [], rfl, ?_, Or.inl ⟨rfl, ?_⟩⟩
      · intro count bound
        rw [Nat.le_zero.mp bound]
        exact live.reaches
      · exact (@List.append_nil String _).symm ▸ live
  | append_singleton history operation ih =>
      have split : earlier ++ .registerConnection order now connectionId userId clientInstanceId
          subjects connectedAt :: (history ++ [operation]) =
            (earlier ++ .registerConnection order now connectionId userId clientInstanceId subjects
              connectedAt :: history) ++ [operation] := by
        rw [List.append_assoc, List.cons_append]
      rw [split] at fresh
      have state : history.foldl (Operation.apply toLowercase) registration.2 =
          GatewayState.run toLowercase maxConnectionsPerUser (earlier ++
            .registerConnection order now connectionId userId clientInstanceId subjects
              connectedAt :: history) := by
        rw [GatewayState.run, List.foldl_append]
        rfl
      refine (ih fresh.of_append).concat ?_ ?_
      · intro registers
        apply fresh.not_mem_of_registers registers
        exact List.mem_filterMap.mpr ⟨_, List.mem_append_right _ List.mem_cons_self, rfl⟩
      · intro newId registers
        rw [state]
        exact lookup_run_of_unregistered toLowercase maxConnectionsPerUser _ fresh.of_append newId
          (fresh.not_mem_of_registers registers)

/-- A pending text, a dispatch, a single send, and then a reconnect. -/
theorem channel_log_of_reconnect :
    let later : List Operation :=
      [.sendToSubjects .sorted 1 1 ["s", "t"] "dispatch" true none,
        .sendToConnection "c1" "single",
        .registerConnection .sorted 2 "c2" "u" "tab" ["s"] 2,
        .sendToConnection "c1" "late"]
    let before := GatewayState.run asciiLowercase none [.requeueForSubjects 0 ["s"] "pending"]
    let registration := before.registerConnection .sorted 1 "c1" "u" "tab" ["s"] 1
    FreshIds (.requeueForSubjects 0 ["s"] "pending" ::
        .registerConnection .sorted 1 "c1" "u" "tab" ["s"] 1 :: later) /\
      Exists fun served => Exists fun rest => later = served ++ rest /\
        Served asciiLowercase registration.2 "c1" registration.1.receiver ["s"]
          (["s"].foldl (takePending 1) ([], before.pendingBySubject)).1 served rest := by
  intro later before registration
  have fresh : FreshIds (.requeueForSubjects 0 ["s"] "pending" ::
      .registerConnection .sorted 1 "c1" "u" "tab" ["s"] 1 :: later) := by decide
  exact ⟨fresh, channel_log asciiLowercase none [.requeueForSubjects 0 ["s"] "pending"] later
    .sorted 1 "c1" "u" "tab" ["s"] 1 fresh⟩

end State
end Gateway

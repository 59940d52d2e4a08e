import Gateway.State.ChannelLog

namespace Gateway
namespace State

open Foundation

/-!
# Which operations take a connection out

A registered connection stays in the table until an operation removes it, and
for each operation it is known which connections it removes.  Stale pruning
goes by the last time the connection was marked alive, or by the time of its
connect if it never was.  Between its registration and its removal nothing of the
registered info changes but that time.
-/

/-- The time of activity that an operation notes for a connection. -/
def Operation.seenAt (connectionId : String) : Operation -> Option Int
  | .markConnectionAlive target timestamp => if target = connectionId then some timestamp else none
  | _ => none

/-- The last time of activity that is noted after the connect. -/
def lastSeen (connectionId : String) (connectedAt : Int) (operations : List Operation) : Int :=
  (operations.filterMap (Operation.seenAt connectionId)).getLast?.getD connectedAt

theorem lastSeen_concat (connectionId : String) (connectedAt : Int) (operations : List Operation)
    (operation : Operation) :
    lastSeen connectionId connectedAt (operations ++ [operation]) =
      (operation.seenAt connectionId).getD (lastSeen connectionId connectedAt operations) := by
  rw [lastSeen, List.filterMap_append, List.filterMap_cons]
  cases operation.seenAt connectionId with
  | none => rw [List.filterMap_nil, List.append_nil, Option.getD_none, lastSeen]
  | some timestamp => rw [List.filterMap_nil, List.getLast?_concat]; rfl

/-- The info of a connection with its time of activity. -/
def ConnectionInfo.seen (info : ConnectionInfo) (timestamp : Int) : ConnectionInfo :=
  { info with lastSeenAt := timestamp }

/-- The operations that take a connection out of a state. -/
def Operation.Removes (state : GatewayState) (info : ConnectionInfo) : Operation -> Prop
  | .registerConnection _ _ _ userId clientInstanceId _ _ =>
      clientInstanceId ≠ "" /\ info.userId = userId /\ info.clientInstanceId = clientInstanceId
  | .unregisterConnection target => info.connectionId = target
  | .markSessionReady order now readyId userId =>
      info.connectionId ∈
        (state.markReady now readyId userId).overflowing order readyId userId
  | .sendToSubjects _ _ _ addressed message _ _ =>
      message ≠ "" /\ (Exists fun subject => subject ∈ addressed /\ subject ∈ info.subjects) /\
        state.reaches info.connectionId = false
  | .sendToConnection target message =>
      message ≠ "" /\ target ≠ "" /\ target = info.connectionId /\
        state.reaches info.connectionId = false
  | .pruneStaleConnections _ now staleAfterSeconds =>
      0 < staleAfterSeconds /\ staleAfterSeconds < saturatingSub now info.lastSeenAt
  | _ => False

/-! ## One operation -/

namespace GatewayState

variable {state : GatewayState} {connectionId : String} {handle : ConnectionHandle}

/-- What a removal of some connections leaves. -/
theorem lookup_removed {after : GatewayState} {ids : List String}
    (connections : after.connections.lookup connectionId =
      if connectionId ∈ ids then none else state.connections.lookup connectionId)
    (found : state.connections.lookup connectionId = some handle) {removes : Prop}
    (listed : connectionId ∈ ids <-> removes) :
    (removes /\ after.connections.lookup connectionId = none) \/
      (¬removes /\ after.connections.lookup connectionId = some handle) := by
  by_cases member : connectionId ∈ ids
  · exact Or.inl ⟨listed.mp member, by rw [connections, if_pos member]⟩
  · exact Or.inr ⟨fun removes => member (listed.mpr removes),
      by rw [connections, if_neg member, found]⟩

theorem mem_staleIds (order : HashOrder String) (state : GatewayState)
    (now staleAfterSeconds : Int) (id : String) :
    id ∈ ((state.connections.iterate order).filter fun entry =>
        decide (staleAfterSeconds < saturatingSub now entry.2.info.lastSeenAt)).map Prod.fst <->
      Exists fun handle => state.connections.lookup id = some handle /\
        staleAfterSeconds < saturatingSub now handle.info.lastSeenAt := by
  rw [List.mem_map]
  constructor
  · rintro ⟨⟨key, handle⟩, kept, rfl⟩
    rw [List.mem_filter, decide_eq_true_eq, HashTable.mem_iterate] at kept
    exact ⟨handle, kept⟩
  · rintro ⟨handle, found, stale⟩
    refine ⟨(id, handle), ?_, rfl⟩
    rw [List.mem_filter, decide_eq_true_eq, HashTable.mem_iterate]
    exact ⟨found, stale⟩

theorem lookup_pruneStaleConnections (order : HashOrder String) (now staleAfterSeconds : Int)
    (found : state.connections.lookup connectionId = some handle) :
    let removes := 0 < staleAfterSeconds /\
      staleAfterSeconds < saturatingSub now handle.info.lastSeenAt
    let after := (state.pruneStaleConnections order now staleAfterSeconds).2
    (removes /\ after.connections.lookup connectionId = none) \/
      (¬removes /\ after.connections.lookup connectionId = some handle) := by
  intro removes after
  by_cases off : staleAfterSeconds ≤ 0
  · have same : after = state := by
      simp only [after, pruneStaleConnections, if_pos off]
    exact Or.inr ⟨fun both => absurd both.1 (not_lt.mpr off), by rw [same, found]⟩
  · have pruned : after = (state.unregisterEach (((state.connections.iterate order).filter
        fun entry => decide (staleAfterSeconds < saturatingSub now
          entry.2.info.lastSeenAt)).map Prod.fst)).2 := by
      simp only [after, pruneStaleConnections, if_neg off]
    refine lookup_removed (by rw [pruned]; exact lookup_unregisterEach _ _ _) found ?_
    rw [mem_staleIds]
    constructor
    · rintro ⟨other, otherFound, stale⟩
      rw [found] at otherFound
      cases otherFound
      exact ⟨not_le.mp off, stale⟩
    · exact fun removes => ⟨handle, found, removes.2⟩

/-- A dispatch takes out the connections that it addresses and does not reach. -/
theorem lookup_sendToSubjects (wellFormed : WellFormed state)
    (found : state.connections.lookup connectionId = some handle) (order : HashOrder String)
    (stickyNow now : Int) (addressed : List String) (message : String)
    (bufferIfUndelivered : Bool) (stickyKey : Option String) :
    let removes := message ≠ "" /\ (Exists fun subject =>
      subject ∈ addressed /\ subject ∈ handle.info.subjects) /\ state.reaches connectionId = false
    let after := (state.sendToSubjects order stickyNow now addressed message bufferIfUndelivered
      stickyKey).2
    (removes /\ after.connections.lookup connectionId = none) \/
      (¬removes /\ after.connections.lookup connectionId = some handle) := by
  intro removes after
  by_cases blank : addressed = [] ∨ message = ""
  · have same : after = state := by
      simp only [after, sendToSubjects, if_pos blank]
    refine Or.inr ⟨?_, by rw [same, found]⟩
    rintro ⟨visible, ⟨subject, member, _⟩, _⟩
    rcases blank with rfl | empty
    · exact List.not_mem_nil member
    · exact visible empty
  · rcases not_or.mp blank with ⟨nonempty, visible⟩
    rcases bufferSticky_touches stickyNow state addressed message stickyKey with
      ⟨pending, touched⟩
    have buffered : WellFormed { state with pendingBySubject := pending } :=
      WellFormed.kept.tables _ _ _ _ _ _ _ wellFormed
    have dispatched : after = (sendToSubjects order stickyNow now
        { state with pendingBySubject := pending } addressed message bufferIfUndelivered
        none).2 := by
      rw [sendToSubjects_eq order stickyNow now _ nonempty visible]
      simp only [after, sendToSubjects, if_neg blank, touched]
    have fansOut := sendToSubjects_fansOut buffered order stickyNow now nonempty visible
      bufferIfUndelivered
    rw [← dispatched] at fansOut
    have addressee : state.Addressee addressed connectionId <->
        Exists fun subject => subject ∈ addressed /\ subject ∈ handle.info.subjects := by
      constructor
      · rintro ⟨other, otherFound, meets⟩
        rw [found] at otherFound
        cases otherFound
        exact meets
      · exact fun meets => ⟨handle, found, meets⟩
    by_cases removed : removes
    · exact Or.inl ⟨removed, fansOut.gone connectionId (addressee.mpr removed.2.1) removed.2.2⟩
    · refine Or.inr ⟨removed, (fansOut.stays connectionId ?_).trans found⟩
      intro wanted
      by_contra closed
      exact removed ⟨visible, addressee.mp wanted, Bool.eq_false_iff.mpr closed⟩

theorem lookup_sendToConnection
    (found : state.connections.lookup connectionId = some handle) (target message : String) :
    let removes := message ≠ "" /\ target ≠ "" /\ target = connectionId /\
      state.reaches connectionId = false
    let after := (state.sendToConnection target message).2
    (removes /\ after.connections.lookup connectionId = none) \/
      (¬removes /\ after.connections.lookup connectionId = some handle) := by
  intro removes after
  by_cases blank : target = "" ∨ message = ""
  · have same : after = state := by
      simp only [after, sendToConnection, if_pos blank]
    refine Or.inr ⟨?_, by rw [same, found]⟩
    rintro ⟨visible, named, _⟩
    exact blank.elim named visible
  · rcases not_or.mp blank with ⟨named, visible⟩
    by_cases same : target = connectionId
    · subst same
      cases reached : state.reaches target with
      | true =>
          have sent := sendToConnection_of_reaches named visible found reached
          refine Or.inr ⟨?_, by simp only [after, sent, found]⟩
          rintro ⟨_, _, _, closed⟩
          exact absurd (reached.symm.trans closed) (by decide)
      | false =>
          have closed := sendToConnection_of_closed named visible found reached
          refine Or.inl ⟨⟨visible, named, rfl, reached⟩, ?_⟩
          simp only [after, closed]
          rw [lookup_unregisterConnection, if_pos rfl]
    · refine Or.inr ⟨fun removes => same removes.2.2.1, ?_⟩
      have spared : forall other : GatewayState, other.connections = state.connections ->
          (other.unregisterConnection target).2.connections.lookup connectionId =
            some handle := by
        intro other connections
        rw [lookup_unregisterConnection, if_neg (Ne.symm same), connections, found]
      simp only [after, sendToConnection, if_neg blank]
      split
      · exact spared state rfl
      · split
        · exact found
        · exact spared _ rfl

end GatewayState

/-- An operation removes a connection, or keeps it as it is but for its time of
activity. -/
theorem lookup_apply_of_registered {state : GatewayState} (wellFormed : WellFormed state)
    (toLowercase : String -> String) {connectionId : String} {handle : ConnectionHandle}
    (found : state.connections.lookup connectionId = some handle)
    (named : handle.info.connectionId = connectionId) (operation : Operation)
    (other : operation.registeredId ≠ some connectionId) :
    (operation.Removes state handle.info /\
        (operation.apply toLowercase state).connections.lookup connectionId = none) \/
      (¬operation.Removes state handle.info /\
        (operation.apply toLowercase state).connections.lookup connectionId =
          some { handle with
            info := handle.info.seen
              ((operation.seenAt connectionId).getD handle.info.lastSeenAt) }) := by
  have written : operation.isTableWrite = true ->
      (operation.apply toLowercase state).connections.lookup connectionId = some handle := by
    intro writes
    rw [(operation.apply_of_tableWrite writes toLowercase state).1, found]
  cases operation with
  | registerConnection order now newId userId clientInstanceId subjects connectedAt =>
      have different : connectionId ≠ newId := fun same => other (congrArg some same.symm)
      have inserted : (state.registerConnection order now newId userId clientInstanceId subjects
          connectedAt).2.connections.lookup connectionId =
            if connectionId ∈ state.predecessors order newId userId clientInstanceId then none
            else state.connections.lookup connectionId := by
        refine (AList.lookup_insert_ne different).trans ?_
        rw [GatewayState.evictSameInstance_eq, GatewayState.lookup_evictEach]
      refine GatewayState.lookup_removed inserted found ?_
      unfold GatewayState.predecessors
      split
      · next anonymous =>
        exact iff_of_false List.not_mem_nil fun removes => removes.1 anonymous
      · next instanced =>
        rw [GatewayState.mem_sameInstanceConnections]
        constructor
        · rintro ⟨_, otherHandle, otherFound, sameUser, sameInstance⟩
          rw [found] at otherFound
          cases otherFound
          exact ⟨instanced, sameUser, sameInstance⟩
        · exact fun removes => ⟨different, handle, found, removes.2⟩
  | unregisterConnection target =>
      have removed : (state.unregisterConnection target).2.connections.lookup connectionId =
          if connectionId ∈ [target] then none else state.connections.lookup connectionId := by
        rw [GatewayState.lookup_unregisterConnection]
        simp only [List.mem_singleton]
      refine GatewayState.lookup_removed removed found ?_
      rw [List.mem_singleton, Operation.Removes, named]
  | markSessionReady order now readyId userId =>
      refine GatewayState.lookup_removed ?_ found (by rw [Operation.Removes, named])
      rw [Operation.apply, GatewayState.markSessionReady_eq wellFormed.senders,
        GatewayState.lookup_evictEach, GatewayState.markReady_connections]
  | sendToSubjects order stickyNow now addressed message bufferIfUndelivered stickyKey =>
      rw [Operation.Removes, named]
      exact GatewayState.lookup_sendToSubjects wellFormed found order stickyNow now addressed
        message bufferIfUndelivered stickyKey
  | sendToConnection target message =>
      rw [Operation.Removes, named]
      exact GatewayState.lookup_sendToConnection found target message
  | markConnectionAlive target timestamp =>
      refine Or.inr ⟨id, ?_⟩
      simp only [Operation.apply, GatewayState.markConnectionAlive, HashTable.lookup_modify,
        Operation.seenAt, found]
      by_cases same : connectionId = target
      · rw [if_pos same, if_pos same.symm, ← same, found]
        rfl
      · rw [if_neg same, if_neg (Ne.symm same)]
        rfl
  | pruneStaleConnections order now staleAfterSeconds =>
      exact GatewayState.lookup_pruneStaleConnections order now staleAfterSeconds found
  | dropReceiver dropped => exact Or.inr ⟨id, found⟩
  | _ => exact Or.inr ⟨id, written rfl⟩

/-! ## Receivers -/

/-- Somebody still listens on the channel. -/
def Open (index : Nat) (state : GatewayState) : Prop :=
  Exists fun content => state.channels[index]? = some { sent := content, receiverAlive := true }

namespace Open

variable {index : Nat} {state : GatewayState}

theorem sendOn (listened : Open index state) (sender : Nat) (message : OutboundMessage) :
    Open index { state with channels := (State.sendOn state.channels sender message).2 } := by
  rcases listened with ⟨content, stored⟩
  unfold Open
  rw [getElem?_sendOn, stored]
  split
  · exact ⟨content ++ [message], rfl⟩
  · exact ⟨content, rfl⟩

theorem unregisterConnection (listened : Open index state) (connectionId : String) :
    Open index (state.unregisterConnection connectionId).2 := by
  unfold Open
  rw [GatewayState.unregisterConnection_channels]
  exact listened

theorem kept (index : Nat) : KeptByCalls (Open index) where
  text := fun _ _ handle text _ listened => listened.sendOn handle.sender (.text text)
  unregister := fun _ connectionId listened => listened.unregisterConnection connectionId
  evict := by
    intro state connectionId close listened
    unfold GatewayState.evictConnection
    apply unregisterConnection
    split
    · exact listened.sendOn _ _
    · exact listened
  tables := fun _ _ _ _ _ listened => listened
  alive := fun _ _ _ listened => listened

theorem insertConnection (listened : Open index state) (info : ConnectionInfo) :
    Open index (state.insertConnection info) := by
  rcases listened with ⟨content, stored⟩
  refine ⟨content, ?_⟩
  simp only [GatewayState.insertConnection]
  rw [List.getElem?_append_left (List.getElem?_eq_some_iff.mp stored).1, stored]

theorem dropReceiver (listened : Open index state) {receiver : Nat} (other : receiver ≠ index) :
    Open index (state.dropReceiver receiver) := by
  rcases listened with ⟨content, stored⟩
  refine ⟨content, ?_⟩
  simp only [GatewayState.dropReceiver, List.getElem?_modify, if_neg other, stored]
  rfl

/-- Nothing but its own drop ends it. -/
theorem apply (listened : Open index state) (toLowercase : String -> String)
    {operation : Operation} (other : operation ≠ .dropReceiver index) :
    Open index (operation.apply toLowercase state) := by
  refine (kept index).apply_of_insert (fun _ _ listened => listened) (fun _ _ listened => listened)
    (fun _ info listened => listened.insertConnection info) toLowercase ?_ listened
  rintro receiver rfl
  exact listened.dropReceiver fun same => other (by rw [same])

theorem deaf (listened : Open index state) :
    Exists fun content => Deaf index content (state.dropReceiver index) := by
  rcases listened with ⟨content, stored⟩
  refine ⟨content, ?_⟩
  simp only [Deaf, GatewayState.dropReceiver, List.getElem?_modify, if_pos, stored]
  rfl

/-- The receiver listens until it is dropped, and never again after that. -/
theorem foldl (listened : Open index state) (toLowercase : String -> String)
    (operations : List Operation) :
    (.dropReceiver index ∉ operations /\
        Open index (operations.foldl (Operation.apply toLowercase) state)) \/
      (.dropReceiver index ∈ operations /\ Exists fun content =>
        Deaf index content (operations.foldl (Operation.apply toLowercase) state)) := by
  induction operations using List.reverseRecOn with
  | nil => exact Or.inl ⟨List.not_mem_nil, listened⟩
  | append_singleton history operation ih =>
      rw [List.foldl_append]
      rcases ih with ⟨never, current⟩ | ⟨dropped, content, gone⟩
      · by_cases drops : operation = .dropReceiver index
        · rw [drops]
          exact Or.inr ⟨List.mem_append_right _ List.mem_cons_self, current.deaf⟩
        · refine Or.inl ⟨?_, current.apply toLowercase drops⟩
          rw [List.mem_append, List.mem_singleton, not_or]
          exact ⟨never, fun same => drops same.symm⟩
      · exact Or.inr ⟨List.mem_append_left _ dropped, content, gone.apply toLowercase operation⟩

end Open

/-! ## Runs -/

/-- None of the operations that follow a registration removes the connection. -/
def Stays (toLowercase : String -> String) (start : GatewayState) (info : ConnectionInfo)
    (later : List Operation) : Prop :=
  forall before next after, later = before ++ next :: after ->
    ¬next.Removes (before.foldl (Operation.apply toLowercase) start)
      (info.seen (lastSeen info.connectionId info.connectedAt before))

theorem stays_concat {toLowercase : String -> String} {start : GatewayState}
    {info : ConnectionInfo} {history : List Operation} {operation : Operation} :
    Stays toLowercase start info (history ++ [operation]) <->
      Stays toLowercase start info history /\
        ¬operation.Removes (history.foldl (Operation.apply toLowercase) start)
          (info.seen (lastSeen info.connectionId info.connectedAt history)) := by
  constructor
  · intro stays
    refine ⟨?_, stays history operation [] rfl⟩
    rintro before next after rfl
    exact stays before next (after ++ [operation]) (List.append_assoc _ _ _)
  · rintro ⟨stays, last⟩ before next after split
    rcases List.eq_nil_or_concat after with rfl | ⟨front, final, rfl⟩
    · rcases List.append_inj' split rfl with ⟨rfl, same⟩
      cases same
      exact last
    · rw [List.concat_eq_append, ← List.cons_append, ← List.append_assoc] at split
      rcases List.append_inj' split rfl with ⟨rfl, _⟩
      exact stays before next front rfl

/-- The state after the operations that follow a registration, as far as the
connection is concerned. -/
def Followed (toLowercase : String -> String) (start : GatewayState) (info : ConnectionInfo)
    (receiver : Nat) (later : List Operation) : Prop :=
  let state := later.foldl (Operation.apply toLowercase) start
  (Stays toLowercase start info later /\
      state.connections.lookup info.connectionId = some
        { info := info.seen (lastSeen info.connectionId info.connectedAt later)
          sender := receiver } /\
      (state.reaches info.connectionId = true <-> .dropReceiver receiver ∉ later)) \/
    (¬Stays toLowercase start info later /\
      state.connections.lookup info.connectionId = none)

theorem Followed.concat {toLowercase : String -> String} {start : GatewayState}
    {info : ConnectionInfo} {receiver : Nat} {history : List Operation} {operation : Operation}
    (wellFormed : WellFormed (history.foldl (Operation.apply toLowercase) start))
    (other : operation.registeredId ≠ some info.connectionId)
    (absent : forall newId, operation.registeredId = some newId ->
      (history.foldl (Operation.apply toLowercase) start).connections.lookup newId = none)
    (listened : Open receiver start)
    (followed : Followed toLowercase start info receiver history) :
    Followed toLowercase start info receiver (history ++ [operation]) := by
  have reaching : forall {state : GatewayState} {handle : ConnectionHandle},
      state = (history ++ [operation]).foldl (Operation.apply toLowercase) start ->
      state.connections.lookup info.connectionId = some handle -> handle.sender = receiver ->
      (state.reaches info.connectionId = true <->
        .dropReceiver receiver ∉ history ++ [operation]) := by
    intro state handle reached found sender
    rw [GatewayState.reaches, found, Option.any_some, sender, reached]
    rcases listened.foldl toLowercase (history ++ [operation]) with
      ⟨never, content, current⟩ | ⟨dropped, content, gone⟩
    · rw [current]
      exact iff_of_true rfl never
    · rw [gone]
      exact iff_of_false Bool.false_ne_true (not_not_intro dropped)
  have applied : (history ++ [operation]).foldl (Operation.apply toLowercase) start =
      operation.apply toLowercase (history.foldl (Operation.apply toLowercase) start) := by
    rw [List.foldl_append]
    rfl
  unfold Followed
  dsimp only
  rw [stays_concat]
  rcases followed with ⟨stays, found, _⟩ | ⟨removed, gone⟩
  · rcases lookup_apply_of_registered wellFormed toLowercase found rfl operation other with
      ⟨removes, gone⟩ | ⟨spares, kept⟩
    · rw [applied]
      exact Or.inr ⟨fun both => both.2 removes, gone⟩
    · rw [← applied] at kept
      refine Or.inl ⟨⟨stays, spares⟩, ?_, reaching rfl kept rfl⟩
      rw [kept, lastSeen_concat]
      rfl
  · rw [applied]
    refine Or.inr ⟨fun both => removed both.1, ?_⟩
    exact lookup_apply_of_absent toLowercase operation gone absent other

/-- In every run a registered connection stays in the table until the first
operation that removes it and is never in it again.  Each operation removes what
`Operation.Removes` says.  The info in the table is the registered one, with the last
time of activity that was noted, and the connection can be reached as long as
its receiver was not dropped. -/
theorem connections_follow_the_log (toLowercase : String -> String)
    (maxConnectionsPerUser : Option Nat) (earlier later : List Operation)
    (order : HashOrder String) (now : Int) (connectionId userId clientInstanceId : String)
    (subjects : List String) (connectedAt : Int)
    (fresh : FreshIds (earlier ++ .registerConnection order now connectionId userId
      clientInstanceId subjects connectedAt :: later)) :
    let registration := (GatewayState.run toLowercase maxConnectionsPerUser
      earlier).registerConnection order now connectionId userId clientInstanceId subjects
        connectedAt
    Followed toLowercase registration.2 registration.1.info registration.1.receiver later := by
  intro registration
  have reached : forall history : List Operation,
      history.foldl (Operation.apply toLowercase) registration.2 =
        GatewayState.run toLowercase maxConnectionsPerUser (earlier ++
          .registerConnection order now connectionId userId clientInstanceId subjects
            connectedAt :: history) := by
    intro history
    rw [GatewayState.run, List.foldl_append]
    rfl
  have listened : Open registration.1.receiver registration.2 :=
    ⟨_, GatewayState.registerConnection_channel order now _ connectionId userId clientInstanceId
      subjects connectedAt⟩
  induction later using List.reverseRecOn with
  | nil =>
      refine Or.inl ⟨?_, AList.lookup_insert _, ?_⟩
      · intro before next after split
        exact absurd split.symm (List.append_ne_nil_of_right_ne_nil _ (List.cons_ne_nil _ _))
      · rcases listened with ⟨content, stored⟩
        have reachable : registration.2.reaches connectionId = true := by
          rw [GatewayState.reaches_iff]
          exact ⟨_, _, AList.lookup_insert _, stored, rfl⟩
        exact iff_of_true reachable List.not_mem_nil
  | append_singleton history operation ih =>
      rw [List.append_cons, ← List.append_assoc, ← List.append_cons] at fresh
      refine (ih fresh.of_append).concat ?_ ?_ ?_ listened
      · rw [reached]
        exact WellFormed.run toLowercase maxConnectionsPerUser _ fresh.of_append
      · intro registers
        apply fresh.not_mem_of_registers registers
        exact List.mem_filterMap.mpr ⟨_, List.mem_append_right _ List.mem_cons_self, rfl⟩
      · intro newId registers
        rw [reached]
        exact lookup_run_of_unregistered toLowercase maxConnectionsPerUser _ fresh.of_append newId
          (fresh.not_mem_of_registers registers)

/-- A connection that is marked alive outlives the first pruning and not the
second one. -/
theorem connections_follow_the_log_of_prune :
    let later : List Operation :=
      [.markConnectionAlive "c1" 100, .pruneStaleConnections .sorted 150 60,
        .pruneStaleConnections .sorted 161 60]
    let registration := (GatewayState.run asciiLowercase none []).registerConnection .sorted 0 "c1"
      "u" "" ["s"] 0
    FreshIds (.registerConnection .sorted 0 "c1" "u" "" ["s"] 0 :: later) /\
      Followed asciiLowercase registration.2 registration.1.info registration.1.receiver later := by
  intro later registration
  have fresh : FreshIds (.registerConnection .sorted 0 "c1" "u" "" ["s"] 0 :: later) := by decide
  exact ⟨fresh, connections_follow_the_log asciiLowercase none [] later .sorted 0 "c1" "u" ""
    ["s"] 0 fresh⟩

end State
end Gateway

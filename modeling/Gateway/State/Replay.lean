import Gateway.State.Delivery

namespace Gateway
namespace State

open Foundation

/-!
# Reconnect replay against having been online

While nobody is subscribed, every dispatch is copied into the queue of each of
its subjects.  A later registration merges the queues of its subjects, subject
by subject, and drops texts it has already taken.  A connection that had been
registered before would have received one message per call.  The two queues are
computed here, and they agree exactly for sequences of calls without repeated
texts whose order does not go back to an earlier subject.
-/

/-- The pending queue of a subject, empty if there is none. -/
def pendingOf (pending : PendingTable) (subject : String) : List PendingMessage :=
  (pending.lookup subject).getD []

theorem pendingOf_enqueuePending (item : PendingMessage) (pending : PendingTable)
    (subject asked : String) :
    pendingOf (enqueuePending item (fun _ => true) pending subject) asked =
      if asked = subject then prunePendingQueue (pendingOf pending subject ++ [item])
        item.enqueuedAt
      else pendingOf pending asked := by
  rw [pendingOf, enqueuePending, HashTable.lookup_insert_ite, List.filter_true]
  by_cases same : asked = subject
  · rw [if_pos same, if_pos same, Option.getD_some, pendingOf]
  · rw [if_neg same, if_neg same, pendingOf]

/-- A recent queue stays recent when an item of the same moment is added. -/
theorem recent_concat {queue : List PendingMessage} {item : PendingMessage}
    (recent : forall older, older ∈ queue ->
      item.enqueuedAt - older.enqueuedAt ≤ pendingTtlSeconds) :
    forall older, older ∈ queue ++ [item] ->
      item.enqueuedAt - older.enqueuedAt ≤ pendingTtlSeconds := by
  intro older member
  rcases List.mem_append.mp member with before | new
  · exact recent older before
  · rw [List.mem_singleton.mp new, Int.sub_self]
    decide

/-- Within the bounds, buffering an item adds it at the end. -/
theorem pendingOf_enqueuePending_of_recent {item : PendingMessage} {pending : PendingTable}
    {subject : String}
    (recent : forall older, older ∈ pendingOf pending subject ->
      item.enqueuedAt - older.enqueuedAt ≤ pendingTtlSeconds)
    (short : (pendingOf pending subject).length < pendingMaxPerSubject) :
    pendingOf (enqueuePending item (fun _ => true) pending subject) subject =
      pendingOf pending subject ++ [item] := by
  rw [pendingOf_enqueuePending, if_pos rfl]
  apply prunePendingQueue_of_recent (recent_concat recent)
  rw [List.length_append, List.length_singleton]
  exact short

/-- A call adds one copy for each occurrence of the subject in its list. -/
theorem pendingOf_requeued {pending : PendingTable} {now : Int} {asked : String}
    (recent : forall item, item ∈ pendingOf pending asked ->
      now - item.enqueuedAt ≤ pendingTtlSeconds)
    (subjects : List String) (message : String)
    (short : (pendingOf pending asked).length + subjects.count asked ≤ pendingMaxPerSubject) :
    pendingOf (GatewayState.requeued now pending subjects message) asked =
      pendingOf pending asked ++ List.replicate (subjects.count asked)
        { text := message, enqueuedAt := now, stickyKey := none } := by
  induction subjects generalizing pending with
  | nil => simp [GatewayState.requeued]
  | cons subject subjects ih =>
      let item : PendingMessage := { text := message, enqueuedAt := now, stickyKey := none }
      rw [GatewayState.requeued, List.foldl_cons, ← GatewayState.requeued]
      by_cases same : asked = subject
      · subst subject
        rw [List.count_cons_self] at short ⊢
        have pushed : pendingOf (enqueuePending item (fun _ => true) pending asked) asked =
            pendingOf pending asked ++ [item] :=
          pendingOf_enqueuePending_of_recent recent (by omega)
        rw [ih, pushed, List.append_assoc, List.replicate_succ, List.singleton_append]
        · rw [pushed]
          exact recent_concat recent
        · rw [pushed, List.length_append, List.length_singleton]
          omega
      · have untouched : pendingOf (enqueuePending item (fun _ => true) pending subject) asked =
            pendingOf pending asked := by
          rw [pendingOf_enqueuePending, if_neg same]
        rw [List.count_cons_of_ne (Ne.symm same)] at short ⊢
        rw [ih, untouched]
        · rw [untouched]
          exact recent
        · rw [untouched]
          exact short

theorem takePending_fst (now : Int) (taken : List String × PendingTable) (subject : String) :
    (takePending now taken subject).1 =
      collect taken.1 ((prunePendingQueue (pendingOf taken.2 subject) now).map
        PendingMessage.text) := by
  unfold takePending pendingOf
  cases taken.2.lookup subject with
  | none => rw [Option.getD_none, prunePendingQueue_nil, List.map_nil, collect_nil]
  | some queue => rw [Option.getD_some]

theorem pendingOf_takePending_of_ne (now : Int) (taken : List String × PendingTable)
    {subject asked : String} (different : asked ≠ subject) :
    pendingOf (takePending now taken subject).2 asked = pendingOf taken.2 asked := by
  unfold takePending
  split
  · rfl
  · rw [pendingOf, HashTable.lookup_erase_ite, if_neg different]
    rfl

/-- The queues of distinct subjects are collected one after the other. -/
theorem foldl_takePending_fst (now : Int) (subjects : List String) (distinct : subjects.Nodup)
    (taken : List String × PendingTable) :
    (subjects.foldl (takePending now) taken).1 =
      collect taken.1 (subjects.flatMap fun subject =>
        (prunePendingQueue (pendingOf taken.2 subject) now).map PendingMessage.text) := by
  induction subjects generalizing taken with
  | nil => rfl
  | cons subject subjects ih =>
      have parts := List.nodup_cons.mp distinct
      rw [List.foldl_cons, ih parts.2, takePending_fst, List.flatMap_cons, collect_append]
      refine congrArg (collect _) (List.flatMap_congr ?_)
      intro other member
      have different : other ≠ subject := fun same => parts.1 (same ▸ member)
      rw [pendingOf_takePending_of_ne now taken different]

/-- One call `send_to_subjects(subjects, message, true, None)`, with the clock
readings and the iteration order it meets. -/
structure BufferedCall where
  order : HashOrder String
  stickyNow : Int
  now : Int
  subjects : List String
  message : String

namespace BufferedCall

def perform (state : GatewayState) (call : BufferedCall) : GatewayState :=
  (state.sendToSubjects call.order call.stickyNow call.now call.subjects call.message true none).2

def performAll (state : GatewayState) (calls : List BufferedCall) : GatewayState :=
  calls.foldl perform state

/-- The call is addressed to the subject. -/
def concerns (call : BufferedCall) (subject : String) : Bool :=
  decide (subject ∈ call.subjects)

/-- The call is addressed to some subject of the list. -/
def meets (subjects : List String) (call : BufferedCall) : Bool :=
  subjects.any call.concerns

/-- The copies that a call leaves in the queue of a subject. -/
def copies (subject : String) (call : BufferedCall) : List PendingMessage :=
  List.replicate (call.subjects.count subject)
    { text := call.message, enqueuedAt := call.now, stickyKey := none }

end BufferedCall

/-- What a connection that was registered before the calls receives. -/
def liveTexts (subjects : List String) (calls : List BufferedCall) : List String :=
  (calls.filter (BufferedCall.meets subjects)).map BufferedCall.message

/-- What is replayed to a connection that registers after the calls. -/
def replayedTexts (subjects : List String) (calls : List BufferedCall) : List String :=
  mergeGroups BufferedCall.concerns BufferedCall.message subjects
    (calls.filter (BufferedCall.meets subjects))

/-- Without targets, a dispatch only buffers. -/
theorem sendToSubjects_of_no_targets {state : GatewayState} {subjects : List String}
    {message : String} (nonempty : subjects ≠ []) (visible : message ≠ "")
    (unsubscribed : forall subject, subject ∈ subjects -> state.subjects.members subject = ∅)
    (order : HashOrder String) (stickyNow now : Int) :
    (state.sendToSubjects order stickyNow now subjects message true none).2 =
      { state with
        pendingBySubject :=
          GatewayState.requeued now state.pendingBySubject subjects message } := by
  have noTarget : forall id, id ∉ order.enumerate (state.targetIds subjects) := by
    intro id member
    rcases (GatewayState.mem_targetIds state subjects id).mp
      ((order.mem_iff (state.targetIds subjects) id).mp member) with ⟨subject, listed, subscribed⟩
    rw [unsubscribed subject listed] at subscribed
    exact Finset.notMem_empty id subscribed
  have noIds := List.eq_nil_iff_forall_not_mem.mpr noTarget
  rw [GatewayState.sendToSubjects_eq order stickyNow now state nonempty visible]
  unfold GatewayState.deliverToSubjects
  dsimp only
  rw [noIds]
  exact GatewayState.requeueForSubjects_eq now state nonempty visible

/-- The calls only write the pending queues of their subjects. -/
theorem performAll_of_quiet {state : GatewayState} {calls : List BufferedCall}
    (wellPosed : forall call, call ∈ calls -> call.subjects ≠ [] /\ call.message ≠ "")
    (unsubscribed : forall call, call ∈ calls -> forall subject, subject ∈ call.subjects ->
      state.subjects.members subject = ∅) :
    BufferedCall.performAll state calls =
      { state with
        pendingBySubject := calls.foldl (fun pending call =>
          GatewayState.requeued call.now pending call.subjects call.message)
          state.pendingBySubject } := by
  induction calls generalizing state with
  | nil => rfl
  | cons call calls ih =>
      have first := wellPosed call List.mem_cons_self
      have performed : call.perform state =
          { state with
            pendingBySubject :=
              GatewayState.requeued call.now state.pendingBySubject call.subjects
                call.message } :=
        sendToSubjects_of_no_targets first.1 first.2 (unsubscribed call List.mem_cons_self)
          call.order call.stickyNow call.now
      rw [BufferedCall.performAll, List.foldl_cons, ← BufferedCall.performAll, performed]
      exact ih (fun other member => wellPosed other (List.mem_cons_of_mem call member))
        (fun other member => unsubscribed other (List.mem_cons_of_mem call member))

/-- The queue of a subject after the calls, while the bounds are respected. -/
theorem pendingOf_foldl_requeued {pending : PendingTable} {calls : List BufferedCall}
    {subject : String} {start : Int}
    (within : forall call, call ∈ calls ->
      start ≤ call.now /\ call.now ≤ start + pendingTtlSeconds)
    (older : forall item, item ∈ pendingOf pending subject -> start ≤ item.enqueuedAt)
    (short : (pendingOf pending subject ++ calls.flatMap (BufferedCall.copies subject)).length ≤
      pendingMaxPerSubject) :
    pendingOf (calls.foldl (fun pending call =>
        GatewayState.requeued call.now pending call.subjects call.message) pending) subject =
      pendingOf pending subject ++ calls.flatMap (BufferedCall.copies subject) := by
  induction calls generalizing pending with
  | nil => rw [List.foldl_nil, List.flatMap_nil, List.append_nil]
  | cons call calls ih =>
      have times := within call List.mem_cons_self
      rw [List.flatMap_cons, ← List.append_assoc] at short ⊢
      have copies : pendingOf (GatewayState.requeued call.now pending call.subjects call.message)
          subject = pendingOf pending subject ++ call.copies subject := by
        apply pendingOf_requeued
        · intro item member
          have age := older item member
          omega
        · have bound := short
          rw [List.length_append, List.length_append, BufferedCall.copies,
            List.length_replicate] at bound
          omega
      rw [List.foldl_cons, ih (fun other member => within other (List.mem_cons_of_mem call member)),
        copies]
      · rw [copies]
        intro item member
        rcases List.mem_append.mp member with before | new
        · exact older item before
        · rw [List.eq_of_mem_replicate new]
          exact times.1
      · rw [copies]
        exact short

/-! ## The replay of a later registration -/

theorem GatewayState.evictSameInstance_pending (order : HashOrder String) (state : GatewayState)
    (connectionId userId clientInstanceId : String) :
    (state.evictSameInstance order connectionId userId clientInstanceId).2.pendingBySubject =
      state.pendingBySubject := by
  have kept : KeptByRemoval fun other : GatewayState =>
      other.pendingBySubject = state.pendingBySubject :=
    { channels := fun _ _ _ same => same
      unregister := fun other id same => (unregisterConnection_pending other id).trans same }
  exact kept.delivery.evictSameInstance order connectionId userId clientInstanceId rfl

/-- A registration opens a channel with the collected pending texts on it. -/
theorem GatewayState.registerConnection_channel (order : HashOrder String) (now : Int)
    (state : GatewayState) (connectionId userId clientInstanceId : String)
    (subjects : List String) (connectedAt : Int) :
    let registration := state.registerConnection order now connectionId userId clientInstanceId
      subjects connectedAt
    registration.2.channels[registration.1.receiver]? =
      some
        { sent := (subjects.foldl (takePending now) ([], state.pendingBySubject)).1.map
            OutboundMessage.text
          receiverAlive := true } := by
  intro registration
  have pending := evictSameInstance_pending order state connectionId userId clientInstanceId
  rw [← pending]
  refine (getElem?_sendTexts _ _ _ _).trans ((if_pos rfl).trans ?_)
  have opened : forall channels : List Channel, forall channel : Channel,
      (channels ++ [channel])[channels.length]? = some channel :=
    fun channels channel => List.getElem?_concat_length
  refine (congrArg (Option.map _) (opened _ _)).trans ?_
  rw [Option.map_some, Channel.receiveTexts_of_alive rfl]
  rfl

/-- The copies of a subject are collected like one text for each call. -/
theorem collect_copies (seen : List String) (subject : String) (calls : List BufferedCall) :
    collect seen ((calls.flatMap (BufferedCall.copies subject)).map PendingMessage.text) =
      collect seen ((calls.filter fun call => call.concerns subject).map
        BufferedCall.message) := by
  have single : (calls.filter fun call => call.concerns subject).map BufferedCall.message =
      calls.flatMap fun call => if call.concerns subject then [call.message] else [] := by
    induction calls with
    | nil => rfl
    | cons call calls ih =>
        rw [List.flatMap_cons, ← ih, List.filter_cons]
        split <;> rfl
  rw [single, List.map_flatMap]
  apply collect_flatMap_congr
  intro call _ seen
  rw [BufferedCall.copies, List.map_replicate]
  by_cases member : subject ∈ call.subjects
  · have positive := List.count_pos_iff.mpr member
    rw [BufferedCall.concerns, decide_eq_true member, if_pos rfl,
      ← Nat.succ_pred_eq_of_pos positive]
    exact collect_replicate seen call.message _
  · rw [BufferedCall.concerns, decide_eq_false member, List.count_eq_zero_of_not_mem member]
    rfl

/-- The queue of a subject without older messages, as a later registration
finds it. -/
theorem prunePendingQueue_after_quiet {state : GatewayState} {calls : List BufferedCall}
    {subject : String}
    (wellPosed : forall call, call ∈ calls -> call.subjects ≠ [] /\ call.message ≠ "")
    (unsubscribed : forall call, call ∈ calls -> forall subject, subject ∈ call.subjects ->
      state.subjects.members subject = ∅)
    (nothingPending : state.pendingBySubject.lookup subject = none) {start now : Int}
    (within : forall call, call ∈ calls ->
      start ≤ call.now /\ call.now ≤ start + pendingTtlSeconds)
    (inTime : start ≤ now /\ now ≤ start + pendingTtlSeconds)
    (short : (calls.map fun call => call.subjects.count subject).sum ≤ pendingMaxPerSubject) :
    prunePendingQueue (pendingOf (BufferedCall.performAll state calls).pendingBySubject subject)
      now = calls.flatMap (BufferedCall.copies subject) := by
  have empty : pendingOf state.pendingBySubject subject = [] := by
    rw [pendingOf, nothingPending, Option.getD_none]
  have length : (calls.flatMap (BufferedCall.copies subject)).length ≤ pendingMaxPerSubject := by
    rw [List.length_flatMap]
    simp only [BufferedCall.copies, List.length_replicate]
    exact short
  have queue : pendingOf (BufferedCall.performAll state calls).pendingBySubject subject =
      calls.flatMap (BufferedCall.copies subject) := by
    rw [performAll_of_quiet wellPosed unsubscribed]
    refine (pendingOf_foldl_requeued within ?_ ?_).trans ?_
    · rw [empty]
      intro item impossible
      cases impossible
    · rw [empty]
      exact length
    · rw [empty]
      rfl
  rw [queue]
  apply prunePendingQueue_of_recent _ length
  intro item member
  rcases List.mem_flatMap.mp member with ⟨call, listed, copy⟩
  rw [List.eq_of_mem_replicate copy]
  have times := within call listed
  dsimp only
  omega

/-- Only calls that meet the list are addressed to a subject of it. -/
theorem filter_concerns_of_mem {subjects : List String} {subject : String}
    (member : subject ∈ subjects) (calls : List BufferedCall) :
    (calls.filter (BufferedCall.meets subjects)).filter (fun call => call.concerns subject) =
      calls.filter fun call => call.concerns subject := by
  rw [List.filter_filter]
  apply List.filter_congr
  intro call _
  by_cases concerned : call.concerns subject = true
  · have meets : call.meets subjects = true := List.any_eq_true.mpr ⟨subject, member, concerned⟩
    rw [concerned, meets]
    rfl
  · rw [Bool.eq_false_of_not_eq_true concerned, Bool.false_and]

/-- Registering after the calls replays the merged texts. -/
theorem registerConnection_after_quiet {state : GatewayState} {calls : List BufferedCall}
    {subjects : List String} (distinct : subjects.Nodup)
    (wellPosed : forall call, call ∈ calls -> call.subjects ≠ [] /\ call.message ≠ "")
    (unsubscribed : forall call, call ∈ calls -> forall subject, subject ∈ call.subjects ->
      state.subjects.members subject = ∅)
    (nothingPending : forall subject, subject ∈ subjects ->
      state.pendingBySubject.lookup subject = none)
    {start now : Int}
    (within : forall call, call ∈ calls ->
      start ≤ call.now /\ call.now ≤ start + pendingTtlSeconds)
    (inTime : start ≤ now /\ now ≤ start + pendingTtlSeconds)
    (short : forall subject, subject ∈ subjects ->
      (calls.map fun call => call.subjects.count subject).sum ≤ pendingMaxPerSubject)
    (order : HashOrder String) (connectionId userId clientInstanceId : String)
    (connectedAt : Int) :
    let registration := (BufferedCall.performAll state calls).registerConnection order now
      connectionId userId clientInstanceId subjects connectedAt
    registration.2.channels[registration.1.receiver]? =
      some { sent := (replayedTexts subjects calls).map .text, receiverAlive := true } := by
  intro registration
  have texts : collect [] (subjects.flatMap fun subject => (prunePendingQueue (pendingOf
      (BufferedCall.performAll state calls).pendingBySubject subject) now).map
        PendingMessage.text) = replayedTexts subjects calls := by
    rw [replayedTexts, mergeGroups]
    apply collect_flatMap_congr
    intro subject member seen
    rw [prunePendingQueue_after_quiet wellPosed unsubscribed (nothingPending subject member) within
      inTime (short subject member), collect_copies, filter_concerns_of_mem member]
  rw [GatewayState.registerConnection_channel, foldl_takePending_fst now subjects distinct, texts]

/-! ## A connection that was online -/

/-- The connection is registered for the subjects, its receiver is alive, and
this was sent to it. -/
structure LiveConnection (state : GatewayState) (connectionId : String) (receiver : Nat)
    (subjects : List String) (sent : List OutboundMessage) : Prop where
  wellFormed : WellFormed state
  registered : Exists fun handle => state.connections.lookup connectionId = some handle /\
    handle.sender = receiver /\ handle.info.subjects = subjects
  channel : state.channels[receiver]? = some { sent := sent, receiverAlive := true }

namespace LiveConnection

variable {state : GatewayState} {connectionId : String} {receiver : Nat} {subjects : List String}
  {sent : List OutboundMessage}

theorem reaches (live : LiveConnection state connectionId receiver subjects sent) :
    state.reaches connectionId = true := by
  rcases live.registered with ⟨handle, found, sender, _⟩
  rw [GatewayState.reaches, found, Option.any_some, sender, live.channel]
  rfl

theorem addressee_iff (live : LiveConnection state connectionId receiver subjects sent)
    (call : BufferedCall) :
    state.Addressee call.subjects connectionId <-> call.meets subjects = true := by
  rcases live.registered with ⟨handle, found, _, listed⟩
  rw [BufferedCall.meets, List.any_eq_true]
  constructor
  · rintro ⟨other, otherFound, subject, member, subscribed⟩
    rw [found] at otherFound
    rw [← Option.some.inj otherFound, listed] at subscribed
    exact ⟨subject, subscribed, decide_eq_true member⟩
  · rintro ⟨subject, subscribed, member⟩
    exact ⟨handle, found, subject, of_decide_eq_true member, listed ▸ subscribed⟩

/-- A live connection survives a call, and receives the message if the call
meets its subjects. -/
theorem perform (live : LiveConnection state connectionId receiver subjects sent)
    (call : BufferedCall) (nonempty : call.subjects ≠ []) (visible : call.message ≠ "") :
    LiveConnection (call.perform state) connectionId receiver subjects
      (sent ++ if call.meets subjects then [.text call.message] else []) := by
  rcases live.registered with ⟨handle, found, sender, listed⟩
  constructor
  · exact WellFormed.kept.delivery.sendToSubjects
      (fun _ _ held => WellFormed.kept.tables _ _ _ _ _ _ _ held) call.order call.stickyNow
      call.now call.subjects call.message true none live.wellFormed
  · refine ⟨handle, ?_, sender, listed⟩
    have notStale : connectionId ∉ (state.sendToTargets call.message
        (call.order.enumerate (state.targetIds call.subjects))).staleIds := by
      rw [(live.wellFormed.broadcast call.order call.subjects call.message).stale, List.mem_filter,
        live.reaches]
      exact fun both => Bool.noConfusion both.2
    rw [BufferedCall.perform, GatewayState.sendToSubjects_eq _ _ _ _ nonempty visible,
      GatewayState.deliverToSubjects_connections,
      GatewayState.lookup_unregisterEach_of_not_mem notStale]
    exact found
  · rw [← sender, BufferedCall.perform]
    by_cases meets : call.meets subjects = true
    · rw [live.wellFormed.dispatch_receives call.order call.stickyNow call.now nonempty visible true
        found ((live.addressee_iff call).mpr meets), sender, live.channel, if_pos meets,
        Option.map_some, Channel.receive_of_alive rfl]
    · rw [live.wellFormed.dispatch_keeps call.order call.stickyNow call.now nonempty visible true
        found (fun addressee => meets ((live.addressee_iff call).mp addressee)), sender,
        live.channel, if_neg meets, List.append_nil]

theorem performAll (live : LiveConnection state connectionId receiver subjects sent)
    (calls : List BufferedCall)
    (wellPosed : forall call, call ∈ calls -> call.subjects ≠ [] /\ call.message ≠ "") :
    LiveConnection (BufferedCall.performAll state calls) connectionId receiver subjects
      (sent ++ (liveTexts subjects calls).map .text) := by
  induction calls generalizing state sent with
  | nil =>
      rw [liveTexts, List.filter_nil, List.map_nil, List.map_nil, List.append_nil]
      exact live
  | cons call calls ih =>
      have first := wellPosed call List.mem_cons_self
      have next := live.perform call first.1 first.2
      have rest := ih next fun other member => wellPosed other (List.mem_cons_of_mem call member)
      have texts : liveTexts subjects (call :: calls) =
          (if call.meets subjects then [call.message] else []) ++ liveTexts subjects calls := by
        rw [liveTexts, List.filter_cons]
        split <;> rfl
      have sentTexts : (sent ++ if call.meets subjects then [.text call.message] else []) ++
          (liveTexts subjects calls).map OutboundMessage.text =
            sent ++ (liveTexts subjects (call :: calls)).map OutboundMessage.text := by
        rw [texts, List.map_append, List.append_assoc]
        split <;> rfl
      rw [sentTexts] at rest
      exact rest

/-- A registration with nothing pending starts with an empty channel. -/
theorem registerConnection (wellFormed : WellFormed state)
    (absent : state.connections.lookup connectionId = none) (distinct : subjects.Nodup)
    (nothingPending : forall subject, subject ∈ subjects ->
      state.pendingBySubject.lookup subject = none)
    (order : HashOrder String) (now : Int) (userId clientInstanceId : String)
    (connectedAt : Int) :
    let registration := state.registerConnection order now connectionId userId clientInstanceId
      subjects connectedAt
    LiveConnection registration.2 connectionId registration.1.receiver subjects [] := by
  intro registration
  constructor
  · exact WellFormed.kept.registerConnection order now connectionId userId clientInstanceId subjects
      connectedAt (fun evicted stillAbsent held => held.insertConnection stillAbsent) absent
      wellFormed
  · exact ⟨_, AList.lookup_insert _, rfl, rfl⟩
  · refine (GatewayState.registerConnection_channel order now state connectionId userId
      clientInstanceId subjects connectedAt).trans ?_
    have nothing : subjects.flatMap (fun subject => (prunePendingQueue
        (pendingOf state.pendingBySubject subject) now).map PendingMessage.text) = [] := by
      rw [List.flatMap_eq_nil_iff]
      intro subject member
      rw [pendingOf, nothingPending subject member, Option.getD_none, prunePendingQueue_nil,
        List.map_nil]
    rw [foldl_takePending_fst now subjects distinct, nothing]
    rfl

end LiveConnection

/-! ## The two queues compared -/

theorem mem_replayedTexts_iff (subjects : List String) (calls : List BufferedCall)
    (text : String) :
    text ∈ replayedTexts subjects calls <-> text ∈ liveTexts subjects calls := by
  rw [replayedTexts, mem_mergeGroups, liveTexts, List.mem_map]
  constructor
  · rintro ⟨call, member, same, _⟩
    exact ⟨call, member, same⟩
  · rintro ⟨call, member, same⟩
    rcases List.any_eq_true.mp (List.mem_filter.mp member).2 with ⟨subject, listed, concerned⟩
    exact ⟨call, member, same, subject, listed, concerned⟩

/-- The two text sequences agree exactly if no text is sent twice and no call
goes back to an earlier subject of the list. -/
theorem replayedTexts_eq_liveTexts_iff (subjects : List String) (calls : List BufferedCall) :
    replayedTexts subjects calls = liveTexts subjects calls <->
      (liveTexts subjects calls).Nodup /\
      (calls.filter (BufferedCall.meets subjects)).Pairwise fun earlier later =>
        firstGroup BufferedCall.concerns subjects earlier ≤
          firstGroup BufferedCall.concerns subjects later := by
  apply mergeGroups_eq_map_iff
  intro call member
  rcases List.any_eq_true.mp (List.mem_filter.mp member).2 with ⟨subject, listed, concerned⟩
  exact ⟨subject, listed, concerned⟩

/-- In every reachable state, the queue of a connection that registers after
the calls holds the merged texts, the queue of one that registered before them
holds the text of every call that meets its subjects.  Both hold the same set
of texts, and they are equal exactly if no text is sent twice and no call goes
back to an earlier subject. -/
theorem reconnect_replay_against_online (toLowercase : String -> String)
    (maxConnectionsPerUser : Option Nat) (operations : List Operation)
    (fresh : FreshIds operations) (calls : List BufferedCall) (subjects : List String)
    (distinct : subjects.Nodup)
    (wellPosed : forall call, call ∈ calls -> call.subjects ≠ [] /\ call.message ≠ "")
    (quiet : forall subject,
      (subject ∈ subjects \/ Exists fun call => call ∈ calls /\ subject ∈ call.subjects) ->
      let state := GatewayState.run toLowercase maxConnectionsPerUser operations
      (forall id, Not (Subscribed state.connections id subject)) /\
        state.pendingBySubject.lookup subject = none)
    (start now : Int)
    (within : forall call, call ∈ calls -> start ≤ call.now /\ call.now ≤ start + 30)
    (inTime : start ≤ now /\ now ≤ start + 30)
    (short : forall subject, subject ∈ subjects ->
      (calls.map fun call => call.subjects.count subject).sum ≤ 256)
    (connectionId userId clientInstanceId : String)
    (unused : connectionId ∉ operations.filterMap Operation.registeredId)
    (laterOrder earlierOrder : HashOrder String) (earlierNow connectedLater connectedEarlier : Int) :
    let state := GatewayState.run toLowercase maxConnectionsPerUser operations
    let later := (BufferedCall.performAll state calls).registerConnection laterOrder now
      connectionId userId clientInstanceId subjects connectedLater
    let earlier := state.registerConnection earlierOrder earlierNow connectionId userId
      clientInstanceId subjects connectedEarlier
    later.2.channels[later.1.receiver]? =
      some { sent := (replayedTexts subjects calls).map .text, receiverAlive := true } /\
    (BufferedCall.performAll earlier.2 calls).channels[earlier.1.receiver]? =
      some { sent := (liveTexts subjects calls).map .text, receiverAlive := true } /\
    (forall text, text ∈ replayedTexts subjects calls <-> text ∈ liveTexts subjects calls) /\
    (replayedTexts subjects calls = liveTexts subjects calls <->
      (liveTexts subjects calls).Nodup /\
      (calls.filter (BufferedCall.meets subjects)).Pairwise fun earlier later =>
        firstGroup BufferedCall.concerns subjects earlier ≤
          firstGroup BufferedCall.concerns subjects later) := by
  intro state later earlier
  have wellFormed : WellFormed state :=
    WellFormed.run toLowercase maxConnectionsPerUser operations fresh
  have absent : state.connections.lookup connectionId = none :=
    lookup_run_of_unregistered toLowercase maxConnectionsPerUser operations fresh connectionId unused
  have unsubscribed : forall call, call ∈ calls -> forall subject, subject ∈ call.subjects ->
      state.subjects.members subject = ∅ := by
    intro call member subject listed
    rw [Finset.eq_empty_iff_forall_notMem]
    intro id subscribed
    exact (quiet subject (Or.inr ⟨call, member, listed⟩)).1 id
      ((wellFormed.consistent.index.mem_iff id subject).mp subscribed)
  have nothingPending : forall subject, subject ∈ subjects ->
      state.pendingBySubject.lookup subject = none :=
    fun subject member => (quiet subject (Or.inl member)).2
  refine ⟨?_, ?_, mem_replayedTexts_iff subjects calls,
    replayedTexts_eq_liveTexts_iff subjects calls⟩
  · exact registerConnection_after_quiet distinct wellPosed unsubscribed nothingPending within
      inTime short laterOrder connectionId userId clientInstanceId connectedLater
  · have live := LiveConnection.registerConnection wellFormed absent distinct nothingPending
      earlierOrder earlierNow userId clientInstanceId connectedEarlier
    exact (live.performAll calls wellPosed).channel

/-- A connection of two subjects misses the second subject's message between
two messages of the first. -/
theorem reconnect_replay_against_online_of_two_subjects :
    let call : Int -> List String -> String -> BufferedCall := fun now subjects message =>
      { order := .sorted, stickyNow := now, now := now, subjects := subjects, message := message }
    let calls := [call 5 ["s"] "m1", call 6 ["t"] "m2", call 7 ["t", "s"] "m3"]
    let state := GatewayState.run asciiLowercase none
      [.registerConnection .sorted 0 "c1" "a" "" ["other"] 0]
    let later := (BufferedCall.performAll state calls).registerConnection .sorted 35 "c2" "b" ""
      ["s", "t"] 35
    let earlier := state.registerConnection .sorted 1 "c2" "b" "" ["s", "t"] 1
    later.2.channels[later.1.receiver]? =
      some { sent := (replayedTexts ["s", "t"] calls).map .text, receiverAlive := true } /\
    (BufferedCall.performAll earlier.2 calls).channels[earlier.1.receiver]? =
      some { sent := (liveTexts ["s", "t"] calls).map .text, receiverAlive := true } /\
    (forall text, text ∈ replayedTexts ["s", "t"] calls <->
      text ∈ liveTexts ["s", "t"] calls) /\
    (replayedTexts ["s", "t"] calls = liveTexts ["s", "t"] calls <->
      (liveTexts ["s", "t"] calls).Nodup /\
      (calls.filter (BufferedCall.meets ["s", "t"])).Pairwise fun earlier later =>
        firstGroup BufferedCall.concerns ["s", "t"] earlier ≤
          firstGroup BufferedCall.concerns ["s", "t"] later) := by
  apply reconnect_replay_against_online asciiLowercase none
    [.registerConnection .sorted 0 "c1" "a" "" ["other"] 0] (by decide)
  · decide
  · decide
  · intro subject listed state
    have onlySubject : subject ≠ "other" := by
      rintro rfl
      revert listed
      decide
    refine ⟨?_, rfl⟩
    rintro id ⟨handle, found, subscribed⟩
    have onlyConnection : state.connections = AList.insert "c1"
        { info := ⟨"c1", "a", "", ["other"], 0, 0⟩, sender := 0 } ∅ := rfl
    rw [onlyConnection, HashTable.lookup_insert_ite] at found
    split at found
    · rw [← Option.some.inj found] at subscribed
      exact onlySubject (List.mem_singleton.mp subscribed)
    · cases found
  · show forall call, _ -> (5 : Int) ≤ _ /\ _ ≤ (5 : Int) + 30
    decide
  · decide
  · decide
  · decide

/-- Two calls whose later one goes back to the first subject are replayed in
the wrong order. -/
theorem reconnect_replay_reorders :
    let call : List String -> String -> BufferedCall := fun subjects message =>
      { order := .sorted, stickyNow := 1, now := 1, subjects := subjects, message := message }
    let calls := [call ["user:alice"] "m1", call ["user:Alice"] "m2"]
    let subjects := ["user:Alice", "user:alice"]
    let state := GatewayState.new none
    let later := (BufferedCall.performAll state calls).registerConnection .sorted 1 "c" "Alice" ""
      subjects 1
    let earlier := state.registerConnection .sorted 1 "c" "Alice" "" subjects 1
    let replayed := later.2.channels[later.1.receiver]?.map Channel.sent
    let received :=
      (BufferedCall.performAll earlier.2 calls).channels[earlier.1.receiver]?.map Channel.sent
    replayed = some [.text "m2", .text "m1"] /\ received = some [.text "m1", .text "m2"] /\
      replayed ≠ received := by
  decide +kernel

end State
end Gateway

import Gateway.State.Provenance

namespace Gateway
namespace State

open Foundation

/-!
# The discipline of the pending queues

Everything that operations do to the pending queues comes down to pushes and
drains of the queues of single subjects.  The log of a run lists them in order,
and the queue of a subject is the expiring queue of the subject's part of the
log.  The bounds of the queues, the replay of a registration and the fate of
each buffered item are then read off from the expiring queue.
-/

/-- What an item retains of the queue that it is put into. -/
def retained (item older : PendingMessage) : Bool :=
  !pendingPolicy.supersedes item older

theorem retained_of_plain {item : PendingMessage} (plain : item.stickyKey = none) :
    retained item = fun _ => true := by
  funext older
  simp [retained, QueuePolicy.supersedes, pendingPolicy, plain]

theorem retained_of_sticky {item : PendingMessage} {stickyKey : String}
    (sticky : item.stickyKey = some stickyKey) :
    retained item = fun older => decide (older.stickyKey ≠ some stickyKey) := by
  funext older
  simp [retained, QueuePolicy.supersedes, pendingPolicy, sticky]

/-! ## Actions on the table -/

/-- An action on the queue of a subject. -/
abbrev SubjectAction := String × QueueAction PendingMessage

def applyPending (pending : PendingTable) (action : SubjectAction) : PendingTable :=
  match action.2 with
  | .push item => enqueuePending item (retained item) pending action.1
  | .drain => pending.erase action.1

theorem applyPending_push (pending : PendingTable) (subject : String) (item : PendingMessage) :
    applyPending pending (subject, .push item) =
      enqueuePending item (retained item) pending subject := rfl

theorem applyPending_drain (pending : PendingTable) (subject : String) :
    applyPending pending (subject, .drain) = pending.erase subject := rfl

/-- The actions of a log on one subject. -/
def actionsOn (subject : String) (log : List SubjectAction) : List (QueueAction PendingMessage) :=
  log.filterMap fun action => if action.1 = subject then some action.2 else none

theorem actionsOn_cons_of_eq {subject : String} {action : SubjectAction}
    (log : List SubjectAction) (same : action.1 = subject) :
    actionsOn subject (action :: log) = action.2 :: actionsOn subject log := by
  rw [actionsOn, List.filterMap_cons, if_pos same]
  rfl

theorem actionsOn_cons_of_ne {subject : String} {action : SubjectAction}
    (log : List SubjectAction) (different : action.1 ≠ subject) :
    actionsOn subject (action :: log) = actionsOn subject log := by
  rw [actionsOn, List.filterMap_cons, if_neg different]
  rfl

theorem pendingOf_applyPending (pending : PendingTable) (action : SubjectAction)
    (subject : String) :
    pendingOf (applyPending pending action) subject =
      if action.1 = subject then pendingPolicy.apply (pendingOf pending subject) action.2
      else pendingOf pending subject := by
  rcases action with ⟨named, action⟩
  by_cases same : named = subject
  · subst same
    rw [if_pos rfl]
    cases action with
    | drain =>
        rw [applyPending_drain, pendingOf, AList.lookup_erase]
        rfl
    | push item =>
        rw [applyPending_push, enqueuePending, pendingOf, AList.lookup_insert, Option.getD_some,
          prunePendingQueue_eq_prune]
        rfl
  · rw [if_neg same]
    cases action with
    | drain =>
        rw [applyPending_drain, pendingOf, AList.lookup_erase_ne (Ne.symm same)]
        rfl
    | push item =>
        rw [applyPending_push, enqueuePending, pendingOf, AList.lookup_insert_ne (Ne.symm same)]
        rfl

/-- The queue of a subject follows the actions on this subject. -/
theorem pendingOf_foldl (log : List SubjectAction) (pending : PendingTable) (subject : String) :
    pendingOf (log.foldl applyPending pending) subject =
      (actionsOn subject log).foldl pendingPolicy.apply (pendingOf pending subject) := by
  induction log generalizing pending with
  | nil => rfl
  | cons action log ih =>
      rw [List.foldl_cons, ih, pendingOf_applyPending]
      by_cases same : action.1 = subject
      · rw [if_pos same, actionsOn_cons_of_eq log same, List.foldl_cons]
      · rw [if_neg same, actionsOn_cons_of_ne log same]

/-- No empty queue is stored. -/
theorem stored_ne_nil (log : List SubjectAction) : forall subject queue,
    (log.foldl applyPending ∅).lookup subject = some queue -> queue ≠ [] := by
  refine foldl_invariant (fun pending : PendingTable =>
    forall subject queue, pending.lookup subject = some queue -> queue ≠ []) ?_ ?_ log
  · intro subject queue found
    cases found
  · rintro pending ⟨named, action⟩ before subject queue found
    cases action with
    | drain =>
        rw [applyPending_drain, HashTable.lookup_erase_ite] at found
        split at found
        · cases found
        · exact before subject queue found
    | push item =>
        rw [applyPending_push, enqueuePending, HashTable.lookup_insert_ite] at found
        split at found
        · rcases prunePendingQueue_concat
            (((pending.lookup named).getD []).filter (retained item)) item with ⟨earlier, same⟩
          rw [← Option.some.inj found, same]
          exact List.append_ne_nil_of_right_ne_nil _ (List.cons_ne_nil _ _)
        · exact before subject queue found

/-! ## The actions of an operation -/

def pushes (item : PendingMessage) (subjects : List String) : List SubjectAction :=
  subjects.map fun subject => (subject, .push item)

def drains (subjects : List String) : List SubjectAction :=
  subjects.map fun subject => (subject, .drain)

theorem foldl_pushes (item : PendingMessage) (subjects : List String) (pending : PendingTable) :
    (pushes item subjects).foldl applyPending pending =
      subjects.foldl (enqueuePending item (retained item)) pending := by
  rw [pushes, List.foldl_map]
  rfl

theorem takePending_snd (now : Int) (taken : List String × PendingTable) (subject : String) :
    (takePending now taken subject).2 = taken.2.erase subject := by
  unfold takePending
  cases found : taken.2.lookup subject with
  | some queue => rfl
  | none =>
      apply AList.ext
      symm
      exact List.kerase_of_notMem_keys (AList.lookup_eq_none.mp found)

theorem foldl_drains (now : Int) (subjects : List String) (taken : List String × PendingTable) :
    (drains subjects).foldl applyPending taken.2 = (subjects.foldl (takePending now) taken).2 := by
  induction subjects generalizing taken with
  | nil => rfl
  | cons subject subjects ih =>
      rw [drains, List.map_cons, List.foldl_cons, ← drains, List.foldl_cons, ← ih, takePending_snd]
      rfl

def requeueActions (now : Int) (subjects : List String) (message : String) : List SubjectAction :=
  if subjects = [] ∨ message = "" then []
  else pushes { text := message, enqueuedAt := now, stickyKey := none } subjects

def bufferLatestActions (now : Int) (subjects : List String) (message stickyKey : String) :
    List SubjectAction :=
  if subjects = [] ∨ message = "" ∨ stickyKey = "" then []
  else pushes { text := message, enqueuedAt := now, stickyKey := some stickyKey } subjects

def stickyActions (now : Int) (subjects : List String) (message : String) :
    Option String -> List SubjectAction
  | none => []
  | some stickyKey => bufferLatestActions now subjects message stickyKey

/-- What an operation does to the pending queues.  A dispatch pushes its message
as the latest of its sticky key, and again if it was enqueued nowhere. -/
def Operation.pendingActions (state : GatewayState) : Operation -> List SubjectAction
  | .requeueForSubjects now subjects message => requeueActions now subjects message
  | .bufferLatestForSubjects now subjects message stickyKey =>
      bufferLatestActions now subjects message stickyKey
  | .sendToSubjects order stickyNow now subjects message bufferIfUndelivered stickyKey =>
      stickyActions stickyNow subjects message stickyKey ++
      if (state.sendToSubjects order stickyNow now subjects message bufferIfUndelivered
          stickyKey).1.enqueuedCount = 0 ∧ bufferIfUndelivered = true then
        requeueActions now subjects message
      else []
  | .registerConnection _ _ _ _ _ subjects _ => drains subjects
  | _ => []

theorem requeueForSubjects_actions (now : Int) (state : GatewayState) (subjects : List String)
    (message : String) :
    (state.requeueForSubjects now subjects message).pendingBySubject =
      (requeueActions now subjects message).foldl applyPending state.pendingBySubject := by
  unfold GatewayState.requeueForSubjects requeueActions
  split
  · rfl
  · rw [foldl_pushes, retained_of_plain rfl]

theorem bufferLatestForSubjects_actions (now : Int) (state : GatewayState)
    (subjects : List String) (message stickyKey : String) :
    (state.bufferLatestForSubjects now subjects message stickyKey).pendingBySubject =
      (bufferLatestActions now subjects message stickyKey).foldl applyPending
        state.pendingBySubject := by
  unfold GatewayState.bufferLatestForSubjects bufferLatestActions
  split
  · rfl
  · rw [foldl_pushes, retained_of_sticky rfl]

theorem bufferSticky_actions (now : Int) (state : GatewayState) (subjects : List String)
    (message : String) (stickyKey : Option String) :
    (state.bufferSticky now subjects message stickyKey).pendingBySubject =
      (stickyActions now subjects message stickyKey).foldl applyPending
        state.pendingBySubject := by
  cases stickyKey with
  | none => rfl
  | some key => exact bufferLatestForSubjects_actions now state subjects message key

theorem deliverToSubjects_actions (order : HashOrder String) (now : Int) (state : GatewayState)
    (subjects : List String) (message : String) (bufferIfUndelivered : Bool) :
    (state.deliverToSubjects order now subjects message bufferIfUndelivered).2.pendingBySubject =
      (if (state.deliverToSubjects order now subjects message
          bufferIfUndelivered).1.enqueuedCount = 0 ∧ bufferIfUndelivered = true then
        requeueActions now subjects message
      else []).foldl applyPending state.pendingBySubject := by
  unfold GatewayState.deliverToSubjects
  dsimp only
  split
  · rw [requeueForSubjects_actions, GatewayState.unregisterEach_pending]
  · rw [GatewayState.unregisterEach_pending]
    rfl

theorem requeueActions_of_empty {subjects : List String} {message : String}
    (empty : subjects = [] ∨ message = "") (now : Int) :
    requeueActions now subjects message = [] := if_pos empty

theorem stickyActions_of_empty {subjects : List String} {message : String}
    (empty : subjects = [] ∨ message = "") (now : Int) (stickyKey : Option String) :
    stickyActions now subjects message stickyKey = [] := by
  cases stickyKey with
  | none => rfl
  | some key => exact if_pos (empty.imp_right Or.inl)

theorem sendToSubjects_actions (order : HashOrder String) (stickyNow now : Int)
    (state : GatewayState) (subjects : List String) (message : String)
    (bufferIfUndelivered : Bool) (stickyKey : Option String) :
    (state.sendToSubjects order stickyNow now subjects message bufferIfUndelivered
        stickyKey).2.pendingBySubject =
      (Operation.pendingActions state (.sendToSubjects order stickyNow now subjects message
        bufferIfUndelivered stickyKey)).foldl applyPending state.pendingBySubject := by
  change _ = List.foldl applyPending _ (stickyActions stickyNow subjects message stickyKey ++ _)
  rw [List.foldl_append]
  by_cases empty : subjects = [] ∨ message = ""
  · rw [stickyActions_of_empty empty, requeueActions_of_empty empty, ite_self,
      GatewayState.sendToSubjects, if_pos empty]
    rfl
  · rw [GatewayState.sendToSubjects, if_neg empty, deliverToSubjects_actions, bufferSticky_actions]

/-- The actions of an operation are what it does to the pending queues. -/
theorem pendingBySubject_apply (toLowercase : String -> String) (state : GatewayState)
    (operation : Operation) :
    (operation.apply toLowercase state).pendingBySubject =
      (operation.pendingActions state).foldl applyPending state.pendingBySubject := by
  by_cases silent : operation.isSilent = true
  · have nothing : operation.pendingActions state = [] := by
      cases operation <;> first | rfl | cases silent
    rw [(Operation.silent_apply toLowercase state silent).pending, nothing, List.foldl_nil]
  · cases operation with
    | registerConnection order now connectionId userId clientInstanceId subjects connectedAt =>
        have evicted := GatewayState.evictSameInstance_pending order state connectionId userId
          clientInstanceId
        rw [← evicted]
        exact (foldl_drains now subjects ([], _)).symm
    | sendToSubjects order stickyNow now subjects message bufferIfUndelivered stickyKey =>
        exact sendToSubjects_actions order stickyNow now state subjects message
          bufferIfUndelivered stickyKey
    | requeueForSubjects now subjects message =>
        exact requeueForSubjects_actions now state subjects message
    | bufferLatestForSubjects now subjects message stickyKey =>
        exact bufferLatestForSubjects_actions now state subjects message stickyKey
    | sendToConnection connectionId message =>
        exact GatewayState.sendToConnection_pending state connectionId message
    | _ => exact absurd rfl silent

/-- The actions of the operations of a run, in order. -/
def pendingLog (toLowercase : String -> String) : GatewayState -> List Operation ->
    List SubjectAction
  | _, [] => []
  | state, operation :: operations =>
      operation.pendingActions state ++
        pendingLog toLowercase (operation.apply toLowercase state) operations

theorem pendingBySubject_foldl (toLowercase : String -> String) (operations : List Operation)
    (state : GatewayState) :
    (operations.foldl (Operation.apply toLowercase) state).pendingBySubject =
      (pendingLog toLowercase state operations).foldl applyPending state.pendingBySubject := by
  induction operations generalizing state with
  | nil => rfl
  | cons operation operations ih =>
      rw [List.foldl_cons, ih, pendingBySubject_apply, pendingLog, List.foldl_append]

/-! ## The clock -/

/-- The clock readings that date buffered items.  A dispatch reads the clock
for its sticky copy first. -/
def Operation.bufferReadings : Operation -> List Int
  | .requeueForSubjects now _ _ => [now]
  | .bufferLatestForSubjects now _ _ _ => [now]
  | .sendToSubjects _ stickyNow now _ _ _ stickyKey =>
      (stickyKey.map fun _ => stickyNow).toList ++ [now]
  | _ => []

/-- The clock never runs backwards between two readings of a run. -/
def ClockInOrder (operations : List Operation) : Prop :=
  (operations.flatMap Operation.bufferReadings).Pairwise fun earlier later => earlier ≤ later

instance (operations : List Operation) : Decidable (ClockInOrder operations) :=
  inferInstanceAs (Decidable (List.Pairwise _ _))

/-- The dates of the items pushed in a log. -/
def pushedTimes (log : List SubjectAction) : List Int :=
  log.filterMap fun action => action.2.pushed.map PendingMessage.enqueuedAt

theorem pushedTimes_append (earlier later : List SubjectAction) :
    pushedTimes (earlier ++ later) = pushedTimes earlier ++ pushedTimes later :=
  List.filterMap_append

theorem mem_pushedTimes_pushes {item : PendingMessage} {subjects : List String} {time : Int}
    (member : time ∈ pushedTimes (pushes item subjects)) : time = item.enqueuedAt := by
  rw [pushedTimes, pushes, List.filterMap_map] at member
  rcases List.mem_filterMap.mp member with ⟨subject, _, same⟩
  exact (Option.some.inj same).symm

theorem mem_pushedTimes_requeueActions {now time : Int} {subjects : List String}
    {message : String} (member : time ∈ pushedTimes (requeueActions now subjects message)) :
    time = now := by
  unfold requeueActions at member
  split at member
  · cases member
  · exact mem_pushedTimes_pushes member

theorem mem_pushedTimes_stickyActions {now time : Int} {subjects : List String}
    {message : String} {stickyKey : Option String}
    (member : time ∈ pushedTimes (stickyActions now subjects message stickyKey)) :
    time = now /\ stickyKey.isSome = true := by
  cases stickyKey with
  | none => cases member
  | some key =>
      rw [stickyActions, bufferLatestActions] at member
      split at member
      · cases member
      · have same := mem_pushedTimes_pushes member
        exact ⟨same, rfl⟩

theorem pairwise_le_of_all_eq {times : List Int} {now : Int}
    (same : forall time, time ∈ times -> time = now) :
    times.Pairwise fun earlier later => earlier ≤ later :=
  List.pairwise_of_forall_mem_list fun earlier first later second =>
    ((same earlier first).trans (same later second).symm).le

theorem pushedTimes_drains (subjects : List String) : pushedTimes (drains subjects) = [] := by
  rw [pushedTimes, drains, List.filterMap_map]
  exact List.filterMap_eq_nil_iff.mpr fun _ _ => rfl

/-- An operation dates its items with its readings. -/
theorem mem_pushedTimes_pendingActions {state : GatewayState} {operation : Operation} {time : Int}
    (member : time ∈ pushedTimes (operation.pendingActions state)) :
    time ∈ operation.bufferReadings := by
  cases operation with
  | requeueForSubjects now subjects message =>
      exact List.mem_singleton.mpr (mem_pushedTimes_requeueActions member)
  | bufferLatestForSubjects now subjects message stickyKey =>
      exact List.mem_singleton.mpr
        (@mem_pushedTimes_stickyActions now time subjects message (some stickyKey) member).1
  | sendToSubjects order stickyNow now subjects message bufferIfUndelivered stickyKey =>
      rw [Operation.pendingActions, pushedTimes_append] at member
      rw [Operation.bufferReadings]
      rcases List.mem_append.mp member with sticky | undelivered
      · rcases mem_pushedTimes_stickyActions sticky with ⟨same, keyed⟩
        rcases Option.isSome_iff_exists.mp keyed with ⟨key, found⟩
        rw [found, same]
        exact List.mem_cons_self
      · apply List.mem_append_right
        split at undelivered
        · exact List.mem_singleton.mpr (mem_pushedTimes_requeueActions undelivered)
        · cases undelivered
  | registerConnection order now connectionId userId clientInstanceId subjects connectedAt =>
      rw [Operation.pendingActions, pushedTimes_drains] at member
      cases member
  | _ => cases member

/-- The items of one operation are dated in the order of its readings. -/
theorem pairwise_pushedTimes_pendingActions (state : GatewayState) {operation : Operation}
    (clock : operation.bufferReadings.Pairwise fun earlier later => earlier ≤ later) :
    (pushedTimes (operation.pendingActions state)).Pairwise fun earlier later =>
      earlier ≤ later := by
  by_cases single : Exists fun now => operation.bufferReadings = [now]
  · rcases single with ⟨now, readings⟩
    apply pairwise_le_of_all_eq
    intro time member
    have reading := mem_pushedTimes_pendingActions member
    rw [readings] at reading
    exact List.mem_singleton.mp reading
  · cases operation with
    | sendToSubjects order stickyNow now subjects message bufferIfUndelivered stickyKey =>
        rw [Operation.pendingActions, pushedTimes_append, List.pairwise_append]
        refine ⟨pairwise_le_of_all_eq fun time sticky => (mem_pushedTimes_stickyActions sticky).1,
          ?_, ?_⟩
        · split
          · exact pairwise_le_of_all_eq fun time => mem_pushedTimes_requeueActions
          · exact List.Pairwise.nil
        · intro earlier sticky later undelivered
          rcases mem_pushedTimes_stickyActions sticky with ⟨same, keyed⟩
          rcases Option.isSome_iff_exists.mp keyed with ⟨key, rfl⟩
          split at undelivered
          · rw [same, mem_pushedTimes_requeueActions undelivered]
            exact List.rel_of_pairwise_cons clock List.mem_cons_self
          · cases undelivered
    | registerConnection order now connectionId userId clientInstanceId subjects connectedAt =>
        rw [Operation.pendingActions, pushedTimes_drains]
        exact List.Pairwise.nil
    | requeueForSubjects now subjects message => exact absurd ⟨now, rfl⟩ single
    | bufferLatestForSubjects now subjects message stickyKey => exact absurd ⟨now, rfl⟩ single
    | _ => exact List.Pairwise.nil

theorem pairwise_pushedTimes_pendingLog (toLowercase : String -> String)
    (operations : List Operation) (state : GatewayState) (clock : ClockInOrder operations) :
    (forall time, time ∈ pushedTimes (pendingLog toLowercase state operations) ->
      time ∈ operations.flatMap Operation.bufferReadings) /\
    (pushedTimes (pendingLog toLowercase state operations)).Pairwise
      fun earlier later => earlier ≤ later := by
  induction operations generalizing state with
  | nil => exact ⟨fun _ member => absurd member List.not_mem_nil, List.Pairwise.nil⟩
  | cons operation operations ih =>
      rw [ClockInOrder, List.flatMap_cons, List.pairwise_append] at clock
      rcases ih (operation.apply toLowercase state) clock.2.1 with ⟨readings, ordered⟩
      rw [pendingLog, pushedTimes_append, List.flatMap_cons]
      refine ⟨?_, List.pairwise_append.mpr
        ⟨pairwise_pushedTimes_pendingActions state clock.1, ordered, ?_⟩⟩
      · intro time member
        rcases List.mem_append.mp member with now | later
        · exact List.mem_append_left _ (mem_pushedTimes_pendingActions now)
        · exact List.mem_append_right _ (readings time later)
      · intro earlier first later second
        exact clock.2.2 earlier (mem_pushedTimes_pendingActions first) later
          (readings later second)

/-- The items of one subject are dated in the order of their pushes. -/
theorem ordered_actionsOn {log : List SubjectAction}
    (clock : (pushedTimes log).Pairwise fun earlier later => earlier ≤ later) (subject : String) :
    pendingPolicy.Ordered ((actionsOn subject log).filterMap QueueAction.pushed) := by
  have dates : (((actionsOn subject log).filterMap QueueAction.pushed).map
      PendingMessage.enqueuedAt).Sublist (pushedTimes log) := by
    induction log with
    | nil => exact List.Sublist.refl _
    | cons action log ih =>
        have split := pushedTimes_append [action] log
        rw [List.singleton_append] at split
        rw [split] at clock ⊢
        have rest := ih (List.pairwise_append.mp clock).2.1
        rcases action with ⟨named, action⟩
        by_cases same : named = subject
        · rw [actionsOn_cons_of_eq log same]
          cases action with
          | drain => exact rest
          | push item => exact rest.cons_cons item.enqueuedAt
        · rw [actionsOn_cons_of_ne log same]
          exact rest.trans (List.sublist_append_right _ _)
  exact List.pairwise_map.mp (List.Pairwise.sublist dates clock)

/-! ## What a registration hands out -/

/-- The fresh texts of the queues of some subjects, each text once. -/
def freshTexts (now : Int) (pending : PendingTable) (subjects : List String) : List String :=
  collect [] (subjects.flatMap fun subject =>
    ((pendingOf pending subject).filter fun item =>
      decide (now - item.enqueuedAt ≤ pendingTtlSeconds)).map PendingMessage.text)

theorem prunePendingQueue_eq_filter {queue : List PendingMessage}
    (ordered : pendingPolicy.Ordered queue) (bounded : queue.length ≤ pendingMaxPerSubject)
    (now : Int) :
    prunePendingQueue queue now = queue.filter fun item =>
      decide (now - item.enqueuedAt ≤ pendingTtlSeconds) := by
  rw [prunePendingQueue_eq_prune, pendingPolicy.prune_eq_filter now ordered bounded]
  apply List.filter_congr
  intro item _
  rw [QueuePolicy.expired, ← decide_not]
  exact decide_eq_decide.mpr not_lt

theorem ite_mem_concat {Value : Type} (history : List String) (last asked : String)
    (gone kept : Value) :
    (if asked = last then gone else if asked ∈ history then gone else kept) =
      if asked ∈ history ++ [last] then gone else kept := by
  have split : asked ∈ history ++ [last] <-> asked = last \/ asked ∈ history := by
    rw [List.mem_append, List.mem_singleton, or_comm]
  by_cases same : asked = last
  · rw [if_pos same, if_pos (split.mpr (Or.inl same))]
  · by_cases before : asked ∈ history
    · rw [if_neg same, if_pos before, if_pos (split.mpr (Or.inr before))]
    · rw [if_neg same, if_neg before, if_neg fun listed => (split.mp listed).elim same before]

theorem lookup_drains (subjects : List String) (pending : PendingTable) (subject : String) :
    ((drains subjects).foldl applyPending pending).lookup subject =
      if subject ∈ subjects then none else pending.lookup subject := by
  rw [drains, List.foldl_map]
  refine foldl_history (fun history (table : PendingTable) =>
    table.lookup subject = if subject ∈ history then none else pending.lookup subject)
    (if_neg List.not_mem_nil).symm ?_ subjects
  intro history table named before
  rw [applyPending_drain, HashTable.lookup_erase_ite, before]
  exact ite_mem_concat history named subject none _

/-- Taking the queues of any subjects collects their texts in the order of the
subjects. -/
theorem foldl_takePending (now : Int) (pending : PendingTable) (subjects : List String) :
    (subjects.foldl (takePending now) ([], pending)).1 =
        collect [] (subjects.flatMap fun subject =>
          (prunePendingQueue (pendingOf pending subject) now).map PendingMessage.text) /\
      forall subject, pendingOf (subjects.foldl (takePending now) ([], pending)).2 subject =
        if subject ∈ subjects then [] else pendingOf pending subject := by
  refine foldl_history (fun history (taken : List String × PendingTable) =>
    taken.1 = collect [] (history.flatMap fun subject =>
        (prunePendingQueue (pendingOf pending subject) now).map PendingMessage.text) /\
      forall subject, pendingOf taken.2 subject =
        if subject ∈ history then [] else pendingOf pending subject)
    ⟨rfl, fun subject => (if_neg List.not_mem_nil).symm⟩ ?_ subjects
  rintro history taken named ⟨collected, remaining⟩
  constructor
  · rw [takePending_fst, remaining, collected, List.flatMap_append, List.flatMap_singleton,
      collect_append]
    by_cases again : named ∈ history
    · have nothing : prunePendingQueue [] now = [] := by simp [prunePendingQueue]
      rw [if_pos again, nothing, List.map_nil, collect_nil]
      refine (collect_of_subset fun text member => ?_).symm
      rw [mem_collect]
      exact Or.inr (List.mem_flatMap.mpr ⟨named, again, member⟩)
    · rw [if_neg again]
  · intro subject
    have erased : pendingOf (taken.2.erase named) subject =
        if subject = named then [] else pendingOf taken.2 subject := by
      rw [pendingOf, HashTable.lookup_erase_ite]
      split <;> rfl
    rw [takePending_snd, erased, remaining]
    exact ite_mem_concat history named subject [] _

/-- A registration puts the fresh texts of its subjects on its channel, each of
them once, and removes exactly the queues of its subjects. -/
structure RegistrationReplays (before : GatewayState) (registered : Registration × GatewayState)
    (now : Int) (subjects : List String) : Prop where
  handed : registered.2.channels[registered.1.receiver]? =
    some
      { sent := (freshTexts now before.pendingBySubject subjects).map OutboundMessage.text
        receiverAlive := true }
  once : (freshTexts now before.pendingBySubject subjects).Nodup
  fresh : forall text, text ∈ freshTexts now before.pendingBySubject subjects ->
    Exists fun subject => subject ∈ subjects /\
      Exists fun item => item ∈ pendingOf before.pendingBySubject subject /\
        item.text = text /\ now - item.enqueuedAt ≤ pendingTtlSeconds
  removed : forall subject, registered.2.pendingBySubject.lookup subject =
    if subject ∈ subjects then none else before.pendingBySubject.lookup subject

theorem mem_freshTexts {now : Int} {pending : PendingTable} {subjects : List String}
    {text : String} (member : text ∈ freshTexts now pending subjects) :
    Exists fun subject => subject ∈ subjects /\
      Exists fun item => item ∈ pendingOf pending subject /\
        item.text = text /\ now - item.enqueuedAt ≤ pendingTtlSeconds := by
  rw [freshTexts, mem_collect, or_iff_right List.not_mem_nil] at member
  rcases List.mem_flatMap.mp member with ⟨subject, listed, waits⟩
  rcases List.mem_map.mp waits with ⟨item, found, same⟩
  rcases List.mem_filter.mp found with ⟨queued, young⟩
  exact ⟨subject, listed, item, queued, same, of_decide_eq_true young⟩

theorem registerConnection_replays (toLowercase : String -> String) {state : GatewayState}
    (ordered : forall subject, pendingPolicy.Ordered (pendingOf state.pendingBySubject subject))
    (bounded : forall subject,
      (pendingOf state.pendingBySubject subject).length ≤ pendingMaxPerSubject)
    (order : HashOrder String) (now : Int) (connectionId userId clientInstanceId : String)
    (subjects : List String) (connectedAt : Int) :
    RegistrationReplays state
      (state.registerConnection order now connectionId userId clientInstanceId subjects
        connectedAt) now subjects := by
  have texts : (subjects.foldl (takePending now) ([], state.pendingBySubject)).1 =
      freshTexts now state.pendingBySubject subjects := by
    rw [(foldl_takePending now state.pendingBySubject subjects).1, freshTexts]
    refine congrArg (collect _) (List.flatMap_congr fun subject _ => ?_)
    rw [prunePendingQueue_eq_filter (ordered subject) (bounded subject)]
  refine ⟨?_, collect_nodup List.nodup_nil _, fun text => mem_freshTexts, ?_⟩
  · rw [← texts]
    exact GatewayState.registerConnection_channel order now state connectionId userId
      clientInstanceId subjects connectedAt
  · intro subject
    rw [← lookup_drains]
    exact congrArg (AList.lookup subject) (pendingBySubject_apply toLowercase state
      (.registerConnection order now connectionId userId clientInstanceId subjects connectedAt))

/-- What holds of every stored queue. -/
structure StoredQueue (queue : List PendingMessage) : Prop where
  nonempty : queue ≠ []
  bounded : queue.length ≤ pendingMaxPerSubject
  ordered : queue.Pairwise fun earlier later => earlier.enqueuedAt ≤ later.enqueuedAt
  keyed : forall stickyKey,
    (queue.filter fun item => decide (item.stickyKey = some stickyKey)).length ≤ 1

/-- In every run in which the clock does not run backwards, the stored queues
keep their bounds, a registration replays exactly what is fresh, and no
buffered item leaves its queue without a reason. -/
theorem pending_queue_discipline (toLowercase : String -> String)
    (maxConnectionsPerUser : Option Nat) (operations : List Operation)
    (clock : ClockInOrder operations) :
    let reached := GatewayState.run toLowercase maxConnectionsPerUser operations
    let log := pendingLog toLowercase (GatewayState.new maxConnectionsPerUser) operations
    (forall subject queue, reached.pendingBySubject.lookup subject = some queue ->
      StoredQueue queue) /\
    (forall order now connectionId userId clientInstanceId subjects connectedAt,
      RegistrationReplays reached
        (reached.registerConnection order now connectionId userId clientInstanceId subjects
          connectedAt) now subjects) /\
    forall subject,
      (pendingPolicy.occurrences (actionsOn subject log)).map Prod.snd =
        pendingOf reached.pendingBySubject subject /\
      forall serial item, (actionsOn subject log)[serial]? = some (.push item) ->
        pendingPolicy.KeptOrRemoved (actionsOn subject log) serial item := by
  intro reached log
  have table : reached.pendingBySubject = log.foldl applyPending ∅ :=
    pendingBySubject_foldl toLowercase operations (GatewayState.new maxConnectionsPerUser)
  have queues : forall subject, pendingOf reached.pendingBySubject subject =
      pendingPolicy.queueAfter (actionsOn subject log) := by
    intro subject
    rw [table, pendingOf_foldl]
    rfl
  have ordered : forall subject,
      pendingPolicy.Ordered (pendingOf reached.pendingBySubject subject) := by
    intro subject
    rw [queues]
    exact pendingPolicy.ordered_queueAfter (ordered_actionsOn
      (pairwise_pushedTimes_pendingLog toLowercase operations _ clock).2 subject)
  have bounded : forall subject,
      (pendingOf reached.pendingBySubject subject).length ≤ pendingMaxPerSubject := by
    intro subject
    rw [queues]
    exact pendingPolicy.length_queueAfter_le _
  refine ⟨?_, ?_, ?_⟩
  · intro subject queue found
    have same : pendingOf reached.pendingBySubject subject = queue := by
      rw [pendingOf, found, Option.getD_some]
    have distinct : pendingPolicy.DistinctKeys queue := by
      rw [← same, queues]
      exact pendingPolicy.distinctKeys_queueAfter _
    rw [table] at found
    exact ⟨stored_ne_nil log subject queue found, same ▸ bounded subject, same ▸ ordered subject,
      fun stickyKey => QueuePolicy.DistinctKeys.length_filter_le pendingPolicy distinct stickyKey⟩
  · exact registerConnection_replays toLowercase ordered bounded
  · intro subject
    refine ⟨?_, fun serial item => pendingPolicy.keptOrRemoved_of_pushed⟩
    rw [queues]
    exact pendingPolicy.map_occurrences _

/-- A sticky item waits for 30 seconds and is then expired by a push. -/
def expiringOperations : List Operation :=
  [.bufferLatestForSubjects 0 ["user:a", "user:b"] "status" "presence",
    .requeueForSubjects 31 ["user:a"] "hello"]

theorem pending_queue_discipline_of_expiring :
    let reached := GatewayState.run asciiLowercase none expiringOperations
    let log := pendingLog asciiLowercase (GatewayState.new none) expiringOperations
    reached.pendingBySubject.lookup "user:a" = some [⟨"hello", 31, none⟩] /\
      StoredQueue [⟨"hello", 31, none⟩] /\
      pendingPolicy.KeptOrRemoved (actionsOn "user:a" log) 0 ⟨"status", 0, some "presence"⟩ := by
  intro reached log
  have discipline := pending_queue_discipline asciiLowercase none expiringOperations (by decide)
  have stored : reached.pendingBySubject.lookup "user:a" = some [⟨"hello", 31, none⟩] := by
    decide +kernel
  exact ⟨stored, discipline.1 "user:a" _ stored, (discipline.2.2 "user:a").2 0 _ (by rfl)⟩

end State
end Gateway

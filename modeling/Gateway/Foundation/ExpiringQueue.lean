import Gateway.Foundation.Execution

namespace Gateway
namespace Foundation

/-!
# Bounded queues whose items expire

A queue is pushed to at the back.  An item with a key replaces the older items
of that key, and after each push the expired items at the front and whatever
exceeds the capacity are dropped.  A drain empties the queue.

Items may be equal, so that the fate of one of them is a matter of occurrences:
every push is numbered by its position in the history of the queue, and the
numbered queue says which occurrences are still there.
-/

universe u v w

/-- What a queue knows about its items, and its bounds. -/
structure QueuePolicy (Item : Type u) (Key : Type v) where
  time : Item -> Int
  key : Item -> Option Key
  timeToLive : Int
  capacity : Nat
  timeToLive_nonneg : 0 ≤ timeToLive
  capacity_pos : 0 < capacity

inductive QueueAction (Item : Type u) where
  | push (item : Item)
  | drain

namespace QueueAction

variable {Item : Type u} {Other : Type w}

def pushed : QueueAction Item -> Option Item
  | .push item => some item
  | .drain => none

def map (change : Item -> Other) : QueueAction Item -> QueueAction Other
  | .push item => .push (change item)
  | .drain => .drain

end QueueAction

namespace QueuePolicy

variable {Item : Type u} {Key : Type v}

section Pruning

variable (policy : QueuePolicy Item Key)

def expired (now : Int) (item : Item) : Bool :=
  decide (policy.timeToLive < now - policy.time item)

/-- Drop expired items from the front, stopping at the first fresh one, and
then as many more as exceed the capacity. -/
def prune (now : Int) (queue : List Item) : List Item :=
  let fresh := queue.dropWhile (policy.expired now)
  fresh.drop (fresh.length - policy.capacity)

/-- Earlier items stand in front of later ones. -/
def Ordered (queue : List Item) : Prop :=
  queue.Pairwise fun earlier later => policy.time earlier ≤ policy.time later

theorem prune_suffix (now : Int) (queue : List Item) : policy.prune now queue <:+ queue :=
  (List.drop_suffix _ _).trans (List.dropWhile_suffix _)

theorem length_prune_le (now : Int) (queue : List Item) :
    (policy.prune now queue).length ≤ policy.capacity := by
  unfold prune
  dsimp only
  rw [List.length_drop]
  omega

/-- In an ordered queue nothing fresh stands in front of anything expired. -/
theorem dropWhile_expired (now : Int) {queue : List Item} (ordered : policy.Ordered queue) :
    queue.dropWhile (policy.expired now) = queue.filter fun item => !policy.expired now item := by
  induction queue with
  | nil => rfl
  | cons front rest ih =>
      have parts := List.pairwise_cons.mp ordered
      cases old : policy.expired now front with
      | true =>
          rw [List.dropWhile_cons_of_pos old, ih parts.2, List.filter_cons_of_neg (by simp [old])]
      | false =>
          rw [List.dropWhile_cons_of_neg (by simp [old])]
          symm
          rw [List.filter_eq_self]
          intro item member
          rcases List.mem_cons.mp member with same | behind
          · rw [same, old, Bool.not_false]
          · have later := parts.1 item behind
            simp only [expired, decide_eq_false_iff_not] at old
            simp only [expired, Bool.not_eq_true', decide_eq_false_iff_not]
            omega

/-- Pruning a queue that is ordered and within its bound keeps exactly the fresh
items. -/
theorem prune_eq_filter (now : Int) {queue : List Item} (ordered : policy.Ordered queue)
    (bounded : queue.length ≤ policy.capacity) :
    policy.prune now queue = queue.filter fun item => !policy.expired now item := by
  have short := (List.length_filter_le (fun item => !policy.expired now item) queue).trans bounded
  unfold prune
  dsimp only
  rw [policy.dropWhile_expired now ordered, Nat.sub_eq_zero_of_le short, List.drop_zero]

/-- Nothing is pruned from a fresh queue within its bound. -/
theorem prune_eq_self {now : Int} {queue : List Item}
    (fresh : forall item, item ∈ queue -> policy.expired now item = false)
    (bounded : queue.length ≤ policy.capacity) : policy.prune now queue = queue := by
  have kept : queue.dropWhile (policy.expired now) = queue := by
    cases queue with
    | nil => rfl
    | cons front rest =>
        rw [List.dropWhile_cons_of_neg (by simp [fresh front List.mem_cons_self])]
  unfold prune
  dsimp only
  rw [kept, Nat.sub_eq_zero_of_le bounded, List.drop_zero]

/-- An item is fresh at its own time. -/
theorem expired_self (item : Item) : policy.expired (policy.time item) item = false := by
  rw [expired, decide_eq_false_iff_not, Int.sub_self]
  exact not_lt.mpr policy.timeToLive_nonneg

/-- An item that pruning drops is expired, or a full queue stands behind it. -/
theorem mem_prune_or_lost (now : Int) {queue : List Item} {item : Item}
    (member : item ∈ queue) :
    item ∈ policy.prune now queue \/ policy.expired now item = true \/
      Exists fun front => front ++ policy.prune now queue <:+ queue /\ item ∈ front /\
        (policy.prune now queue).length = policy.capacity := by
  rw [← List.takeWhile_append_dropWhile (p := policy.expired now) (l := queue)] at member
  rcases List.mem_append.mp member with old | fresh
  · exact Or.inr (Or.inl (List.mem_takeWhile_imp old))
  · have suffix : queue.dropWhile (policy.expired now) <:+ queue := List.dropWhile_suffix _
    unfold prune
    dsimp only
    generalize queue.dropWhile (policy.expired now) = rest at fresh suffix ⊢
    have parts := List.take_append_drop (rest.length - policy.capacity) rest
    rw [← parts] at fresh
    rcases List.mem_append.mp fresh with overflow | kept
    · refine Or.inr (Or.inr ⟨rest.take (rest.length - policy.capacity), ?_, overflow, ?_⟩)
      · rwa [parts]
      · have nonempty := List.length_pos_of_mem overflow
        rw [List.length_take] at nonempty
        rw [List.length_drop]
        omega
    · exact Or.inl kept

/-- A fresh item at the back survives pruning. -/
theorem prune_concat (queue : List Item) (item : Item) : Exists fun kept =>
    policy.prune (policy.time item) (queue ++ [item]) = kept ++ [item] /\ kept <:+ queue := by
  rcases List.suffix_concat_iff.mp (policy.prune_suffix (policy.time item)
    (queue ++ [item])) with nothing | survives
  · exfalso
    rcases policy.mem_prune_or_lost (policy.time item)
      (List.mem_append_right queue (List.mem_singleton.mpr rfl)) with
      kept | old | ⟨front, suffix, ahead, full⟩
    · rw [nothing] at kept
      cases kept
    · rw [policy.expired_self] at old
      cases old
    · rw [nothing] at full
      exact absurd full policy.capacity_pos.ne
  · exact survives

/-- A fresh item at the back is one more of its kind, unless the queue was
full. -/
theorem count_prune_concat [DecidableEq Item] (queue : List Item) (item : Item) :
    queue.count item + 1 ≤ (policy.prune (policy.time item) (queue ++ [item])).count item +
      (queue.length + 1 - policy.capacity) := by
  generalize current : policy.time item = now
  have unexpired : policy.expired now item = false := current ▸ policy.expired_self item
  have kept : ((queue ++ [item]).dropWhile (policy.expired now)).count item =
      queue.count item + 1 := by
    have parts := congrArg (List.count item)
      (List.takeWhile_append_dropWhile (p := policy.expired now) (l := queue ++ [item]))
    have dropped : ((queue ++ [item]).takeWhile (policy.expired now)).count item = 0 := by
      rw [List.count_eq_zero]
      intro member
      have impossible := List.mem_takeWhile_imp member
      rw [unexpired] at impossible
      cases impossible
    rw [List.count_append, dropped, Nat.zero_add, List.count_append, List.count_singleton_self]
      at parts
    exact parts
  have shorter := (List.dropWhile_sublist (policy.expired now) (l := queue ++ [item])).length_le
  rw [List.length_append, List.length_singleton] at shorter
  unfold prune
  dsimp only
  generalize (queue ++ [item]).dropWhile (policy.expired now) = fresh at kept shorter ⊢
  have parts := congrArg (List.count item)
    (List.take_append_drop (fresh.length - policy.capacity) fresh)
  rw [List.count_append, kept] at parts
  have few : (fresh.take (fresh.length - policy.capacity)).count item ≤
      fresh.length - policy.capacity :=
    List.count_le_length.trans (List.length_take_le _ _)
  omega

end Pruning

section Actions

variable [DecidableEq Key] (policy : QueuePolicy Item Key)

/-- The newer item has a key, and the older item has the same. -/
def supersedes (newer older : Item) : Bool :=
  (policy.key newer).isSome && decide (policy.key older = policy.key newer)

def push (queue : List Item) (item : Item) : List Item :=
  policy.prune (policy.time item)
    (queue.filter (fun older => !policy.supersedes item older) ++ [item])

def apply (queue : List Item) : QueueAction Item -> List Item
  | .push item => policy.push queue item
  | .drain => []

/-- The queue after a history of actions. -/
def queueAfter (actions : List (QueueAction Item)) : List Item :=
  actions.foldl policy.apply []

/-- No two items of a queue have the same key. -/
def DistinctKeys (queue : List Item) : Prop :=
  queue.Pairwise fun earlier later =>
    (policy.key later).isSome = true -> policy.key earlier ≠ policy.key later

theorem queueAfter_concat (actions : List (QueueAction Item)) (action : QueueAction Item) :
    policy.queueAfter (actions ++ [action]) = policy.apply (policy.queueAfter actions) action := by
  rw [queueAfter, List.foldl_append, List.foldl_cons, List.foldl_nil, queueAfter]

/-- The item pushed last is at the back. -/
theorem push_eq_concat (queue : List Item) (item : Item) : Exists fun kept =>
    policy.push queue item = kept ++ [item] /\
      kept <:+ queue.filter fun older => !policy.supersedes item older :=
  policy.prune_concat _ item

theorem length_queueAfter_le (actions : List (QueueAction Item)) :
    (policy.queueAfter actions).length ≤ policy.capacity := by
  refine foldl_invariant (fun queue : List Item => queue.length ≤ policy.capacity)
    (Nat.zero_le _) ?_ actions
  intro queue action _
  cases action with
  | push item => exact policy.length_prune_le _ _
  | drain => exact Nat.zero_le _

theorem distinctKeys_queueAfter (actions : List (QueueAction Item)) :
    policy.DistinctKeys (policy.queueAfter actions) := by
  refine foldl_invariant policy.DistinctKeys List.Pairwise.nil ?_ actions
  intro queue action distinct
  cases action with
  | drain => exact List.Pairwise.nil
  | push item =>
      rcases policy.push_eq_concat queue item with ⟨kept, same, suffix⟩
      rw [apply, same, DistinctKeys, List.pairwise_append]
      refine ⟨List.Pairwise.sublist (suffix.sublist.trans List.filter_sublist) distinct,
        List.pairwise_singleton _ _, ?_⟩
      intro older member newer last keyed equal
      rw [List.mem_singleton.mp last] at keyed equal
      have spared := (List.mem_filter.mp (suffix.subset member)).2
      rw [supersedes, keyed, Bool.true_and, decide_eq_true equal] at spared
      cases spared

theorem DistinctKeys.length_filter_le {queue : List Item} (distinct : policy.DistinctKeys queue)
    (key : Key) :
    (queue.filter fun item => decide (policy.key item = some key)).length ≤ 1 := by
  have keyed : forall item,
      item ∈ queue.filter (fun item => decide (policy.key item = some key)) ->
        policy.key item = some key :=
    fun item member => of_decide_eq_true (List.mem_filter.mp member).2
  have apart := List.Pairwise.sublist
    (List.filter_sublist (p := fun item => decide (policy.key item = some key))) distinct
  generalize queue.filter (fun item => decide (policy.key item = some key)) = found at keyed apart ⊢
  cases found with
  | nil => exact Nat.zero_le _
  | cons first rest =>
      cases rest with
      | nil => exact le_rfl
      | cons second rest =>
          have same := keyed second (List.mem_cons_of_mem _ List.mem_cons_self)
          have different := List.rel_of_pairwise_cons apart List.mem_cons_self
          rw [same, keyed first List.mem_cons_self] at different
          exact absurd rfl (different rfl)

/-- The queue holds pushed items in the order of their pushes. -/
theorem queueAfter_sublist (actions : List (QueueAction Item)) :
    (policy.queueAfter actions).Sublist (actions.filterMap QueueAction.pushed) := by
  refine foldl_history (fun history (queue : List Item) =>
    queue.Sublist (history.filterMap QueueAction.pushed)) (List.Sublist.refl _) ?_ actions
  intro history queue action earlier
  rw [List.filterMap_append]
  cases action with
  | drain => exact List.nil_sublist _
  | push item =>
      rcases policy.push_eq_concat queue item with ⟨kept, same, suffix⟩
      rw [apply, same]
      exact ((suffix.sublist.trans List.filter_sublist).trans earlier).append (List.Sublist.refl _)

/-- If the pushes are in the order of time, then so is the queue. -/
theorem ordered_queueAfter {actions : List (QueueAction Item)}
    (clock : policy.Ordered (actions.filterMap QueueAction.pushed)) :
    policy.Ordered (policy.queueAfter actions) :=
  List.Pairwise.sublist (policy.queueAfter_sublist actions) clock

/-- An item that a push removes is replaced, or expired, or a full queue stands
behind it. -/
theorem mem_push_or_lost {queue : List Item} (item : Item) {older : Item} (member : older ∈ queue) :
    older ∈ policy.push queue item \/ policy.supersedes item older = true \/
      policy.expired (policy.time item) older = true \/
      Exists fun front => front ++ policy.push queue item <:+
          queue.filter (fun older => !policy.supersedes item older) ++ [item] /\
        older ∈ front /\ (policy.push queue item).length = policy.capacity := by
  cases replaced : policy.supersedes item older with
  | true => exact Or.inr (Or.inl rfl)
  | false =>
      have spared : older ∈ queue.filter fun older => !policy.supersedes item older :=
        List.mem_filter.mpr ⟨member, by rw [replaced, Bool.not_false]⟩
      rcases policy.mem_prune_or_lost (policy.time item)
        (List.mem_append_left [item] spared) with kept | old | overflow
      · exact Or.inl kept
      · exact Or.inr (Or.inr (Or.inl old))
      · exact Or.inr (Or.inr (Or.inr overflow))

end Actions

/-! ## Occurrences -/

section Occurrences

variable (policy : QueuePolicy Item Key)

/-- The same policy for numbered items. -/
def numbered : QueuePolicy (Nat × Item) Key where
  time := fun occurrence => policy.time occurrence.2
  key := fun occurrence => policy.key occurrence.2
  timeToLive := policy.timeToLive
  capacity := policy.capacity
  timeToLive_nonneg := policy.timeToLive_nonneg
  capacity_pos := policy.capacity_pos

/-- Number the pushes by their positions in the history. -/
def numberActions (actions : List (QueueAction Item)) : List (QueueAction (Nat × Item)) :=
  actions.mapIdx fun serial action => action.map (Prod.mk serial)

variable [DecidableEq Key]

/-- The occurrences that are in the queue after a history, oldest first. -/
def occurrences (actions : List (QueueAction Item)) : List (Nat × Item) :=
  policy.numbered.queueAfter (numberActions actions)

/-- The number of occurrences that were pushed after a given one and are still
there. -/
def countBehind (actions : List (QueueAction Item)) (serial : Nat) : Nat :=
  ((policy.occurrences actions).filter fun occurrence => decide (serial < occurrence.1)).length

/-- The reasons for which an action removes an item, given how many newer
items are in the queue after the action. -/
inductive Removes (item : Item) (behind : Nat) : QueueAction Item -> Prop where
  | drained : Removes item behind .drain
  | replaced {newer : Item} (keyed : (policy.key newer).isSome = true)
      (same : policy.key item = policy.key newer) : Removes item behind (.push newer)
  | expired {newer : Item} (old : policy.timeToLive < policy.time newer - policy.time item) :
      Removes item behind (.push newer)
  | overflowed {newer : Item} (full : policy.capacity ≤ behind) :
      Removes item behind (.push newer)

/-- The occurrence is still in the queue, or some later action found it there
and removed it for a reason. -/
def KeptOrRemoved (actions : List (QueueAction Item)) (serial : Nat) (item : Item) : Prop :=
  (serial, item) ∈ policy.occurrences actions \/
    Exists fun moment => Exists fun action => serial < moment /\
      actions[moment]? = some action /\
      (serial, item) ∈ policy.occurrences (actions.take moment) /\
      (serial, item) ∉ policy.occurrences (actions.take (moment + 1)) /\
      policy.Removes item (policy.countBehind (actions.take (moment + 1)) serial) action

theorem occurrences_concat (actions : List (QueueAction Item)) (action : QueueAction Item) :
    policy.occurrences (actions ++ [action]) =
      policy.numbered.apply (policy.occurrences actions)
        (action.map (Prod.mk actions.length)) := by
  rw [occurrences, numberActions, List.mapIdx_concat, queueAfter_concat]
  rfl

theorem map_push_numbered (queue : List (Nat × Item)) (occurrence : Nat × Item) :
    (policy.numbered.push queue occurrence).map Prod.snd =
      policy.push (queue.map Prod.snd) occurrence.2 := by
  have spared : (queue.filter fun older =>
        !policy.numbered.supersedes occurrence older).map Prod.snd =
      (queue.map Prod.snd).filter fun older => !policy.supersedes occurrence.2 older := by
    rw [List.filter_map]
    rfl
  have pruned : forall occurrences : List (Nat × Item),
      (policy.numbered.prune (policy.time occurrence.2) occurrences).map Prod.snd =
        policy.prune (policy.time occurrence.2) (occurrences.map Prod.snd) := by
    intro occurrences
    rw [prune, prune, List.dropWhile_map, List.length_map, List.map_drop]
    rfl
  rw [push, push, ← spared]
  refine (pruned _).trans ?_
  rw [List.map_append]
  rfl

/-- Without their numbers, the occurrences are the queue. -/
theorem map_occurrences (actions : List (QueueAction Item)) :
    (policy.occurrences actions).map Prod.snd = policy.queueAfter actions := by
  induction actions using List.reverseRecOn with
  | nil => rfl
  | append_singleton actions action ih =>
      rw [occurrences_concat, queueAfter_concat, ← ih]
      cases action with
      | push item => exact policy.map_push_numbered _ _
      | drain => rfl

/-- All pushes of a history with their numbers. -/
def numberedPushes (actions : List (QueueAction Item)) : List (Nat × Item) :=
  (numberActions actions).filterMap QueueAction.pushed

theorem numberedPushes_concat (actions : List (QueueAction Item)) (action : QueueAction Item) :
    numberedPushes (actions ++ [action]) =
      numberedPushes actions ++ (action.pushed.map (Prod.mk actions.length)).toList := by
  rw [numberedPushes, numberActions, List.mapIdx_concat, List.filterMap_append]
  cases action <;> rfl

theorem numberedPushes_increasing (actions : List (QueueAction Item)) :
    (numberedPushes actions).Pairwise (fun earlier later => earlier.1 < later.1) /\
      forall occurrence, occurrence ∈ numberedPushes actions -> occurrence.1 < actions.length := by
  induction actions using List.reverseRecOn with
  | nil => exact ⟨List.Pairwise.nil, fun _ member => nomatch member⟩
  | append_singleton actions action ih =>
      rcases ih with ⟨increasing, used⟩
      rw [numberedPushes_concat, List.length_append, List.length_singleton]
      have grown : forall occurrence, occurrence ∈ numberedPushes actions ->
          occurrence.1 < actions.length + 1 :=
        fun occurrence member => (used occurrence member).trans (Nat.lt_add_one _)
      cases action with
      | drain =>
          rw [QueueAction.pushed, Option.map_none, Option.toList_none, List.append_nil]
          exact ⟨increasing, grown⟩
      | push item =>
          rw [QueueAction.pushed, Option.map_some, Option.toList_some]
          refine ⟨List.pairwise_append.mpr ⟨increasing, List.pairwise_singleton _ _, ?_⟩, ?_⟩
          · intro earlier member later last
            rw [List.mem_singleton.mp last]
            exact used earlier member
          · intro occurrence member
            rcases List.mem_append.mp member with before | last
            · exact grown occurrence before
            · rw [List.mem_singleton.mp last]
              exact Nat.lt_add_one _

/-- An action leaves an occurrence in the queue, or has a reason to remove it. -/
theorem mem_occurrences_concat (actions : List (QueueAction Item)) (action : QueueAction Item)
    {serial : Nat} {item : Item} (member : (serial, item) ∈ policy.occurrences actions) :
    (serial, item) ∈ policy.occurrences (actions ++ [action]) \/
      policy.Removes item (policy.countBehind (actions ++ [action]) serial) action := by
  cases action with
  | drain => exact Or.inr .drained
  | push newer =>
      rw [countBehind, occurrences_concat]
      rcases policy.numbered.mem_push_or_lost (actions.length, newer) member with
        kept | replaced | old | ⟨front, suffix, ahead, full⟩
      · exact Or.inl kept
      · have parts := Bool.and_eq_true_iff.mp replaced
        exact Or.inr (.replaced parts.1 (of_decide_eq_true parts.2))
      · exact Or.inr (.expired (of_decide_eq_true old))
      · have pushes := (numberedPushes_increasing (actions ++ [.push newer])).1
        have within : (front ++ policy.numbered.push (policy.occurrences actions)
            (actions.length, newer)).Sublist (numberedPushes (actions ++ [.push newer])) := by
          rw [numberedPushes_concat]
          exact suffix.sublist.trans ((List.filter_sublist.trans
            (policy.numbered.queueAfter_sublist _)).append (List.Sublist.refl _))
        have behind := (List.pairwise_append.mp (List.Pairwise.sublist within pushes)).2.2
          (serial, item) ahead
        refine Or.inr (.overflowed (le_of_eq ?_))
        rw [← show _ = policy.capacity from full]
        congr 1
        symm
        exact List.filter_eq_self.mpr fun occurrence there =>
          decide_eq_true (behind occurrence there)

/-- A fresh push is in the queue. -/
theorem mem_occurrences_push (actions : List (QueueAction Item)) (item : Item) :
    (actions.length, item) ∈ policy.occurrences (actions ++ [.push item]) := by
  rcases policy.numbered.push_eq_concat (policy.occurrences actions) (actions.length, item) with
    ⟨kept, same, _⟩
  rw [occurrences_concat, QueueAction.map, apply, same]
  exact List.mem_append_right _ (List.mem_singleton.mpr rfl)

/-- No push is lost without a reason. -/
theorem keptOrRemoved_of_pushed {actions : List (QueueAction Item)} {serial : Nat} {item : Item}
    (pushed : actions[serial]? = some (.push item)) :
    policy.KeptOrRemoved actions serial item := by
  induction actions using List.reverseRecOn with
  | nil => cases pushed
  | append_singleton actions action ih =>
      have inside := (List.getElem?_eq_some_iff.mp pushed).1
      rw [List.length_append, List.length_singleton, Nat.lt_succ_iff] at inside
      rcases inside.eq_or_lt with last | earlier
      · rw [last, List.getElem?_concat_length] at pushed
        rw [last, Option.some.inj pushed]
        exact Or.inl (policy.mem_occurrences_push actions item)
      · rw [List.getElem?_append_left earlier] at pushed
        rcases ih pushed with kept | ⟨moment, reason, later, there, present, gone, removes⟩
        · by_cases still : (serial, item) ∈ policy.occurrences (actions ++ [action])
          · exact Or.inl still
          · have removed := (policy.mem_occurrences_concat actions action kept).resolve_left still
            have whole : (actions ++ [action]).take (actions.length + 1) = actions ++ [action] :=
              List.take_of_length_le (by simp)
            refine Or.inr ⟨actions.length, action, earlier, List.getElem?_concat_length, ?_⟩
            rw [List.take_left, whole]
            exact ⟨kept, still, removed⟩
        · have bound := (List.getElem?_eq_some_iff.mp there).1
          refine Or.inr ⟨moment, reason, later, ?_, ?_⟩
          · rwa [List.getElem?_append_left bound]
          · rw [List.take_append_of_le_length bound.le, List.take_append_of_le_length bound]
            exact ⟨present, gone, removes⟩

end Occurrences

end QueuePolicy

end Foundation
end Gateway

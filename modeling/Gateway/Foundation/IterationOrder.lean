import Gateway.Foundation.HashTable

namespace Gateway
namespace Foundation

/-!
# What an iteration order can change

Two iteration orders visit the same entries, one after the other.  A loop over
them ends in the same state if its steps commute, and it is enough that they do
so up to a view of the state on which nothing later depends.  A loop over sorted
entries does not even see the order, unless two entries have the same rank.
-/

universe u v w

section Loops

variable {State : Type u} {Item : Type v} {View : Type w} {view : State -> View}
  {step : State -> Item -> State}

/-- A loop whose steps do not look behind the view does not either. -/
theorem view_foldl
    (frame : forall left right item, view left = view right ->
      view (step left item) = view (step right item))
    (items : List Item) {left right : State} (same : view left = view right) :
    view (items.foldl step left) = view (items.foldl step right) := by
  induction items generalizing left right with
  | nil => exact same
  | cons item items ih => exact ih (frame left right item same)

/-- Steps that commute up to the view may be taken in any order. -/
theorem view_foldl_perm
    (frame : forall left right item, view left = view right ->
      view (step left item) = view (step right item))
    (commute : forall state first second,
      view (step (step state first) second) = view (step (step state second) first))
    {items others : List Item} (perm : items.Perm others) {left right : State}
    (same : view left = view right) :
    view (items.foldl step left) = view (others.foldl step right) := by
  induction perm generalizing left right with
  | nil => exact same
  | cons item _ ih => exact ih (frame left right item same)
  | swap first second rest =>
      refine view_foldl frame rest ((commute left second first).trans ?_)
      exact frame _ _ second (frame left right first same)
  | trans _ _ first second => exact (first same).trans (second rfl)

end Loops

/-- The rule of histories for two lists that go together. -/
theorem forall₂_history {Left : Type u} {Right : Type v} {related : Left -> Right -> Prop}
    (holds : List Left -> List Right -> Prop) (initial : holds [] [])
    (preserved : forall left right first second, List.Forall₂ related left right ->
      related first second -> holds left right -> holds (left ++ [first]) (right ++ [second]))
    {left : List Left} {right : List Right} (together : List.Forall₂ related left right) :
    holds left right := by
  have backwards : forall {left right}, List.Forall₂ related left right ->
      holds left.reverse right.reverse := by
    intro left right together
    induction together with
    | nil => exact initial
    | cons here rest ih =>
        rw [List.reverse_cons, List.reverse_cons]
        exact preserved _ _ _ _ (List.forall₂_reverse_iff.mpr rest) here ih
  have both := backwards (List.forall₂_reverse_iff.mpr together)
  rwa [List.reverse_reverse, List.reverse_reverse] at both

/-- Entries of distinct ranks can be sorted in one way only. -/
theorem eq_of_perm_of_sorted {Entry : Type u} {Rank : Type v} [LinearOrder Rank]
    {rank : Entry -> Rank} {left right : List Entry} (perm : left.Perm right)
    (sortedLeft : left.Pairwise fun first second => rank first ≤ rank second)
    (sortedRight : right.Pairwise fun first second => rank first ≤ rank second)
    (distinct : forall first, first ∈ left -> forall second, second ∈ left ->
      rank first = rank second -> first = second) : left = right := by
  refine perm.eq_of_pairwise ?_ sortedLeft sortedRight
  intro first second fromLeft fromRight below above
  exact distinct first fromLeft second (perm.mem_iff.mpr fromRight) (le_antisymm below above)

section Tables

variable {Key : Type u} {Value : Type v}

/-- All iteration orders visit the same keys. -/
theorem HashOrder.perm_enumerate (left right : HashOrder Key) (keys : Finset Key) :
    (left.enumerate keys).Perm (right.enumerate keys) := by
  classical
  rw [List.perm_ext_iff_of_nodup (left.nodup keys) (right.nodup keys)]
  intro key
  rw [left.mem_iff, right.mem_iff]

/-- The opposite order. -/
def HashOrder.reversed (order : HashOrder Key) : HashOrder Key where
  enumerate keys := (order.enumerate keys).reverse
  nodup keys := List.nodup_reverse.mpr (order.nodup keys)
  mem_iff keys key := by rw [List.mem_reverse, order.mem_iff]

variable [DecidableEq Key]

theorem HashTable.perm_iterate (left right : HashOrder Key) (table : HashTable Key Value) :
    (table.iterate left).Perm (table.iterate right) :=
  (left.perm_enumerate right table.keys.toFinset).filterMap _

end Tables

end Foundation
end Gateway

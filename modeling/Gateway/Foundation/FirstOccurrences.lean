import Mathlib

namespace Gateway
namespace Foundation

/-!
# Collecting first occurrences

Several lists are read one after the other and every value is kept the first
time it is seen.  The result is the duplicate-free list of all values in the
order of their first occurrences.  The second half asks when a sequence is
recovered after its items were distributed over overlapping groups and the
groups are read one after the other.
-/

universe u v w

section Collecting

variable {X : Type u} [DecidableEq X]

/-- Read a list and append to `seen` what was not there before. -/
def collect (seen : List X) (items : List X) : List X :=
  items.foldl (fun seen item => if item ∈ seen then seen else seen ++ [item]) seen

@[simp] theorem collect_nil (seen : List X) : collect seen [] = seen := rfl

theorem collect_cons (seen : List X) (item : X) (items : List X) :
    collect seen (item :: items) =
      if item ∈ seen then collect seen items else collect (seen ++ [item]) items := by
  rw [collect, List.foldl_cons]
  split <;> rfl

theorem collect_append (seen first second : List X) :
    collect seen (first ++ second) = collect (collect seen first) second := by
  simp only [collect, List.foldl_append]

/-- What was seen before stays in front, and the rest is collected from the
values that are not among it. -/
theorem collect_append_left (seen recent items : List X) :
    collect (seen ++ recent) items =
      seen ++ collect recent (items.filter fun item => decide (item ∉ seen)) := by
  induction items generalizing recent with
  | nil => simp
  | cons item items ih =>
      rw [collect_cons]
      by_cases old : item ∈ seen
      · rw [if_pos (List.mem_append_left _ old), ih]
        simp [old]
      · have kept : (item :: items).filter (fun item => decide (item ∉ seen)) =
            item :: items.filter fun item => decide (item ∉ seen) := by
          simp [old]
        rw [kept, collect_cons]
        by_cases again : item ∈ recent
        · rw [if_pos (List.mem_append_right _ again), if_pos again, ih]
        · have new : item ∉ seen ++ recent := by
            simp only [List.mem_append, old, again, or_self, not_false_eq_true]
          rw [if_neg new, if_neg again, List.append_assoc, ih]

theorem collect_eq_append (seen items : List X) :
    collect seen items = seen ++ collect [] (items.filter fun item => decide (item ∉ seen)) := by
  simpa only [List.append_nil] using collect_append_left seen [] items

/-- Nothing is collected from what was seen before. -/
theorem collect_of_subset {seen items : List X} (known : forall item, item ∈ items -> item ∈ seen) :
    collect seen items = seen := by
  have nothing : items.filter (fun item => decide (item ∉ seen)) = [] :=
    List.filter_eq_nil_iff.mpr fun item member absent =>
      of_decide_eq_true absent (known item member)
  rw [collect_eq_append, nothing, collect_nil, List.append_nil]

theorem mem_collect (seen items : List X) (value : X) :
    value ∈ collect seen items <-> value ∈ seen \/ value ∈ items := by
  induction items generalizing seen with
  | nil => simp
  | cons item items ih =>
      rw [collect_cons]
      by_cases old : item ∈ seen
      · rw [if_pos old, ih, List.mem_cons]
        constructor
        · rintro (before | later)
          · exact Or.inl before
          · exact Or.inr (Or.inr later)
        · rintro (before | same | later)
          · exact Or.inl before
          · exact Or.inl (same ▸ old)
          · exact Or.inr later
      · rw [if_neg old, ih, List.mem_append, List.mem_singleton, List.mem_cons, or_assoc]

theorem collect_nodup {seen : List X} (nodup : seen.Nodup) (items : List X) :
    (collect seen items).Nodup := by
  induction items generalizing seen with
  | nil => exact nodup
  | cons item items ih =>
      rw [collect_cons]
      by_cases old : item ∈ seen
      · rw [if_pos old]
        exact ih nodup
      · rw [if_neg old]
        exact ih (List.Nodup.append nodup (List.nodup_singleton item)
          (List.disjoint_singleton.mpr old))

/-- A duplicate-free list is its own list of first occurrences. -/
theorem collect_of_nodup {items : List X} (nodup : items.Nodup) : collect [] items = items := by
  induction items with
  | nil => rfl
  | cons item items ih =>
      have parts := List.nodup_cons.mp nodup
      rw [collect_cons, if_neg List.not_mem_nil, List.nil_append, collect_eq_append]
      have untouched : items.filter (fun other => decide (other ∉ [item])) = items := by
        apply List.filter_eq_self.mpr
        intro other member
        have different : other ≠ item := fun same => parts.1 (same ▸ member)
        simp [different]
      rw [untouched, ih parts.2, List.singleton_append]

theorem collect_replicate (seen : List X) (value : X) (count : Nat) :
    collect seen (List.replicate (count + 1) value) = collect seen [value] := by
  have again : forall (seen : List X) (count : Nat), value ∈ seen ->
      collect seen (List.replicate count value) = seen :=
    fun seen count old => collect_of_subset fun item member =>
      (List.eq_of_mem_replicate member).symm ▸ old
  rw [List.replicate_succ, collect_cons, collect_cons]
  by_cases old : value ∈ seen
  · rw [if_pos old, if_pos old, again seen count old, collect_nil]
  · rw [if_neg old, if_neg old, again (seen ++ [value]) count (by simp), collect_nil]

/-- Lists that are collected alike one by one are collected alike together. -/
theorem collect_flatMap_congr {Y : Type v} {left right : Y -> List X} {keys : List Y}
    (same : forall key, key ∈ keys -> forall seen, collect seen (left key) =
      collect seen (right key)) (seen : List X) :
    collect seen (keys.flatMap left) = collect seen (keys.flatMap right) := by
  induction keys generalizing seen with
  | nil => rfl
  | cons key keys ih =>
      rw [List.flatMap_cons, List.flatMap_cons, collect_append, collect_append,
        same key List.mem_cons_self]
      exact ih (fun other member => same other (List.mem_cons_of_mem key member)) _

end Collecting

/-! ## Merging groups of items

Every item belongs to some of the groups.  Reading group after group and
keeping first occurrences sorts the items by their first group; it returns the
given sequence exactly if nothing repeats and the sequence is so sorted. -/

section Groups

variable {Item : Type u} {Group : Type v} (belongs : Item -> Group -> Bool)

/-- The items sorted by their first group, otherwise in the given order. -/
def byFirstGroup : List Group -> List Item -> List Item
  | [], _ => []
  | group :: groups, items =>
      items.filter (fun item => belongs item group) ++
        byFirstGroup groups (items.filter fun item => !belongs item group)

/-- The position of the first group of an item. -/
def firstGroup (groups : List Group) (item : Item) : Nat :=
  groups.findIdx fun group => belongs item group

theorem mem_of_mem_byFirstGroup {groups : List Group} {items : List Item} {item : Item}
    (member : item ∈ byFirstGroup belongs groups items) : item ∈ items := by
  induction groups generalizing items with
  | nil => cases member
  | cons group groups ih =>
      rcases List.mem_append.mp member with first | later
      · exact (List.mem_filter.mp first).1
      · exact (List.mem_filter.mp (ih later)).1

theorem firstGroup_cons_of_belongs {group : Group} {groups : List Group} {item : Item}
    (inFirst : belongs item group = true) : firstGroup belongs (group :: groups) item = 0 := by
  rw [firstGroup, List.findIdx_cons, inFirst]
  rfl

theorem firstGroup_cons_of_not_belongs {group : Group} {groups : List Group} {item : Item}
    (notInFirst : belongs item group = false) :
    firstGroup belongs (group :: groups) item = firstGroup belongs groups item + 1 := by
  rw [firstGroup, List.findIdx_cons, notInFirst]
  rfl

theorem byFirstGroup_sorted (groups : List Group) (items : List Item) :
    (byFirstGroup belongs groups items).Pairwise fun left right =>
      firstGroup belongs groups left ≤ firstGroup belongs groups right := by
  induction groups generalizing items with
  | nil => exact List.Pairwise.nil
  | cons group groups ih =>
      have first : forall item, item ∈ items.filter (fun item => belongs item group) ->
          firstGroup belongs (group :: groups) item = 0 :=
        fun item member => firstGroup_cons_of_belongs belongs (List.mem_filter.mp member).2
      have later : forall item,
          item ∈ byFirstGroup belongs groups (items.filter fun item => !belongs item group) ->
          firstGroup belongs (group :: groups) item = firstGroup belongs groups item + 1 := by
        intro item member
        have kept := (List.mem_filter.mp (mem_of_mem_byFirstGroup belongs member)).2
        rw [Bool.not_eq_true'] at kept
        exact firstGroup_cons_of_not_belongs belongs kept
      rw [byFirstGroup, List.pairwise_append]
      refine ⟨?_, ?_, ?_⟩
      · apply List.pairwise_of_forall_mem_list
        intro left leftMember right rightMember
        rw [first left leftMember]
        exact Nat.zero_le _
      · refine (ih _).imp_of_mem ?_
        intro left right leftMember rightMember order
        rw [later left leftMember, later right rightMember]
        omega
      · intro left leftMember right _
        rw [first left leftMember]
        exact Nat.zero_le _

/-- A list in which the members of a group come first splits at the group. -/
theorem eq_filter_append_filter_not {p : Item -> Bool} {items : List Item}
    (order : items.Pairwise fun left right => p right = true -> p left = true) :
    items = items.filter p ++ items.filter fun item => !p item := by
  induction items with
  | nil => rfl
  | cons item items ih =>
      have parts := List.pairwise_cons.mp order
      cases inside : p item with
      | true =>
          simp only [List.filter_cons, inside, if_true, Bool.not_true, List.cons_append]
          exact congrArg (List.cons item) (ih parts.2)
      | false =>
          have outside : forall other, other ∈ items -> p other = false := by
            intro other member
            rw [← Bool.not_eq_true]
            intro isInside
            rw [parts.1 other member isInside] at inside
            cases inside
          have empty : items.filter p = [] := by
            rw [List.filter_eq_nil_iff]
            intro other member
            rw [outside other member]
            exact Bool.false_ne_true
          have all : items.filter (fun other => !p other) = items := by
            rw [List.filter_eq_self]
            intro other member
            rw [outside other member]
            rfl
          simp [inside, empty, all]

theorem byFirstGroup_eq_self_iff {groups : List Group} {items : List Item}
    (grouped : forall item, item ∈ items ->
      Exists fun group => group ∈ groups /\ belongs item group = true) :
    byFirstGroup belongs groups items = items <->
      items.Pairwise fun left right =>
        firstGroup belongs groups left ≤ firstGroup belongs groups right := by
  constructor
  · intro same
    rw [← same]
    exact byFirstGroup_sorted belongs groups items
  · intro sorted
    induction groups generalizing items with
    | nil =>
        cases items with
        | nil => rfl
        | cons item items =>
            rcases grouped item List.mem_cons_self with ⟨group, member, _⟩
            cases member
    | cons group groups ih =>
        have split : items = items.filter (fun item => belongs item group) ++
            items.filter fun item => !belongs item group := by
          apply eq_filter_append_filter_not
          refine sorted.imp ?_
          intro left right order inFirst
          rw [firstGroup_cons_of_belongs belongs inFirst] at order
          by_contra notInFirst
          rw [firstGroup_cons_of_not_belongs belongs
            (Bool.eq_false_of_not_eq_true notInFirst)] at order
          omega
        have rest : byFirstGroup belongs groups (items.filter fun item => !belongs item group) =
            items.filter fun item => !belongs item group := by
          apply ih
          · intro item member
            rcases List.mem_filter.mp member with ⟨original, outside⟩
            rcases grouped item original with ⟨other, listed, inside⟩
            rcases List.mem_cons.mp listed with same | later
            · rw [same] at inside
              rw [inside] at outside
              cases outside
            · exact ⟨other, later, inside⟩
          · refine (sorted.sublist List.filter_sublist).imp_of_mem ?_
            intro left right leftMember rightMember order
            have leftOut := (List.mem_filter.mp leftMember).2
            have rightOut := (List.mem_filter.mp rightMember).2
            rw [Bool.not_eq_true'] at leftOut rightOut
            rw [firstGroup_cons_of_not_belongs belongs leftOut,
              firstGroup_cons_of_not_belongs belongs rightOut] at order
            omega
        rw [byFirstGroup, rest]
        exact split.symm

/-- Two lists with equal images are equal if no two of their values share an
image. -/
theorem eq_of_map_eq {Text : Type w} {text : Item -> Text} {items left right : List Item}
    (distinct : (items.map text).Nodup) (leftSubset : forall item, item ∈ left -> item ∈ items)
    (rightSubset : forall item, item ∈ right -> item ∈ items)
    (same : left.map text = right.map text) : left = right := by
  induction left generalizing right with
  | nil => exact (List.map_eq_nil_iff.mp same.symm).symm
  | cons item left ih =>
      cases right with
      | nil => cases same
      | cons other right =>
          rcases List.cons.inj same with ⟨sameHead, sameTail⟩
          have heads := List.inj_on_of_nodup_map distinct (leftSubset item List.mem_cons_self)
            (rightSubset other List.mem_cons_self) sameHead
          rw [heads, ih (fun value member => leftSubset value (List.mem_cons_of_mem item member))
            (fun value member => rightSubset value (List.mem_cons_of_mem other member)) sameTail]

variable {Text : Type w} [DecidableEq Text] (text : Item -> Text)

/-- The texts of all groups, group after group, keeping first occurrences. -/
def mergeGroups (groups : List Group) (items : List Item) : List Text :=
  collect [] (groups.flatMap fun group =>
    (items.filter fun item => belongs item group).map text)

theorem mem_mergeGroups (groups : List Group) (items : List Item) (value : Text) :
    value ∈ mergeGroups belongs text groups items <->
      Exists fun item => item ∈ items /\ text item = value /\
        Exists fun group => group ∈ groups /\ belongs item group = true := by
  rw [mergeGroups, mem_collect]
  simp only [List.not_mem_nil, false_or, List.mem_flatMap, List.mem_map, List.mem_filter]
  constructor
  · rintro ⟨group, listed, item, ⟨member, inside⟩, same⟩
    exact ⟨item, member, same, group, listed, inside⟩
  · rintro ⟨item, member, same, group, listed, inside⟩
    exact ⟨group, listed, item, ⟨member, inside⟩, same⟩

/-- Without repeated texts, merging sorts the items by their first group. -/
theorem mergeGroups_of_distinct {groups : List Group} {items : List Item}
    (distinct : (items.map text).Nodup) :
    mergeGroups belongs text groups items = (byFirstGroup belongs groups items).map text := by
  induction groups generalizing items with
  | nil => rfl
  | cons group groups ih =>
      have restDistinct : ((items.filter fun item => !belongs item group).map text).Nodup :=
        distinct.sublist (List.filter_sublist.map text)
      have firstDistinct : ((items.filter fun item => belongs item group).map text).Nodup :=
        distinct.sublist (List.filter_sublist.map text)
      -- An item outside the first group has a text that the first group does not have.
      have unread : forall item, item ∈ items ->
          (text item ∉ (items.filter fun item => belongs item group).map text <->
            belongs item group = false) := by
        intro item member
        rw [← Bool.not_eq_true, not_iff_not]
        constructor
        · intro read
          rcases List.mem_map.mp read with ⟨other, otherMember, same⟩
          rcases List.mem_filter.mp otherMember with ⟨listed, inside⟩
          rw [← List.inj_on_of_nodup_map distinct listed member same]
          exact inside
        · intro inside
          exact List.mem_map_of_mem (List.mem_filter.mpr ⟨member, inside⟩)
      have rest : (groups.flatMap fun other =>
            (items.filter fun item => belongs item other).map text).filter
              (fun value => decide (value ∉
                (items.filter fun item => belongs item group).map text)) =
          groups.flatMap fun other =>
            ((items.filter fun item => !belongs item group).filter fun item =>
              belongs item other).map text := by
        rw [List.filter_flatMap]
        congr 1
        funext other
        rw [List.filter_map, List.filter_filter, List.filter_filter]
        congr 1
        apply List.filter_congr
        intro item member
        have condition := unread item member
        by_cases inside : belongs item group = true
        · have read := (not_iff_not.mpr condition).mpr (by rw [inside]; exact Bool.noConfusion)
          simp only [Function.comp_apply, inside, decide_eq_false read, Bool.not_true,
            Bool.false_and, Bool.and_false]
        · have outside := Bool.eq_false_of_not_eq_true inside
          simp only [Function.comp_apply, outside, decide_eq_true (condition.mpr outside),
            Bool.not_false, Bool.true_and, Bool.and_true]
      rw [mergeGroups, List.flatMap_cons, collect_append, collect_of_nodup firstDistinct,
        collect_eq_append, rest, byFirstGroup, List.map_append]
      exact congrArg _ (ih restDistinct)

/-- Merging returns the given sequence exactly if its texts are distinct and
its items are sorted by their first group. -/
theorem mergeGroups_eq_map_iff {groups : List Group} {items : List Item}
    (grouped : forall item, item ∈ items ->
      Exists fun group => group ∈ groups /\ belongs item group = true) :
    mergeGroups belongs text groups items = items.map text <->
      (items.map text).Nodup /\ items.Pairwise fun left right =>
        firstGroup belongs groups left ≤ firstGroup belongs groups right := by
  rw [← byFirstGroup_eq_self_iff belongs grouped]
  constructor
  · intro same
    have distinct : (items.map text).Nodup := by
      rw [← same]
      exact collect_nodup List.nodup_nil _
    rw [mergeGroups_of_distinct belongs text distinct] at same
    exact ⟨distinct, eq_of_map_eq distinct
      (fun item member => mem_of_mem_byFirstGroup belongs member) (fun _ member => member) same⟩
  · rintro ⟨distinct, sorted⟩
    rw [mergeGroups_of_distinct belongs text distinct, sorted]

end Groups

end Foundation
end Gateway

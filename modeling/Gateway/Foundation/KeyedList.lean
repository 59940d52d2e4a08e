import Mathlib

namespace Gateway
namespace Foundation

/-!
# Lists that are used as tables

A list whose entries carry their own keys is a table when no key occurs twice.
Storing an entry removes the one with its key and appends the new one.  What
such a list holds under a key is then determined by the last entry with this
key, and two tables that hold the same under every key differ only in the order
of their entries.
-/

universe u v

variable {Entry : Type u} {Key : Type v} [DecidableEq Key]

namespace KeyedList

variable (keyOf : Entry -> Key)

/-- The entry under a key. -/
def valueAt (entries : List Entry) (key : Key) : Option Entry :=
  entries.find? fun entry => decide (keyOf entry = key)

/-- The last entry with a key. -/
def lastAt (entries : List Entry) (key : Key) : Option Entry :=
  valueAt keyOf entries.reverse key

/-- Store an entry in the place of the one with its key. -/
def put (entries : List Entry) (entry : Entry) : List Entry :=
  entries.filter (fun existing => decide (keyOf existing ≠ keyOf entry)) ++ [entry]

variable {keyOf}

theorem key_of_valueAt {entries : List Entry} {key : Key} {entry : Entry}
    (found : valueAt keyOf entries key = some entry) : keyOf entry = key := by
  have matched := List.find?_some found
  exact of_decide_eq_true matched

theorem valueAt_cons (entry : Entry) (entries : List Entry) (key : Key) :
    valueAt keyOf (entry :: entries) key =
      if keyOf entry = key then some entry else valueAt keyOf entries key := by
  unfold valueAt
  rw [List.find?_cons]
  split <;> simp_all

theorem valueAt_eq_some_iff {entries : List Entry} (distinct : (entries.map keyOf).Nodup)
    {key : Key} {entry : Entry} :
    valueAt keyOf entries key = some entry <-> entry ∈ entries /\ keyOf entry = key := by
  constructor
  · intro found
    exact ⟨List.mem_of_find?_eq_some found, key_of_valueAt found⟩
  · rintro ⟨member, same⟩
    cases found : valueAt keyOf entries key with
    | none =>
        exact absurd (decide_eq_true same) (List.find?_eq_none.mp found entry member)
    | some other =>
        have sameKey := (key_of_valueAt found).trans same.symm
        rw [List.inj_on_of_nodup_map distinct (List.mem_of_find?_eq_some found) member sameKey]

theorem valueAt_filter {entries : List Entry} (distinct : (entries.map keyOf).Nodup)
    (keeps : Entry -> Bool) (key : Key) :
    valueAt keyOf (entries.filter keeps) key = (valueAt keyOf entries key).filter keeps := by
  have fewer : ((entries.filter keeps).map keyOf).Nodup :=
    distinct.sublist (List.filter_sublist.map keyOf)
  ext entry
  rw [valueAt_eq_some_iff fewer, Option.filter_eq_some_iff, valueAt_eq_some_iff distinct,
    List.mem_filter, and_right_comm]

theorem valueAt_perm {left right : List Entry} (distinct : (left.map keyOf).Nodup)
    (same : left.Perm right) (key : Key) :
    valueAt keyOf left key = valueAt keyOf right key := by
  have distinctRight := (same.map keyOf).nodup_iff.mp distinct
  ext entry
  rw [valueAt_eq_some_iff distinct, valueAt_eq_some_iff distinctRight, same.mem_iff]

theorem valueAt_append (left right : List Entry) (key : Key) :
    valueAt keyOf (left ++ right) key =
      (valueAt keyOf left key).or (valueAt keyOf right key) :=
  List.find?_append

/-- An entry that is stored hides the one with its key and no other. -/
theorem valueAt_put (entries : List Entry) (entry : Entry) (key : Key) :
    valueAt keyOf (put keyOf entries entry) key =
      if keyOf entry = key then some entry else valueAt keyOf entries key := by
  unfold put
  rw [valueAt_append]
  by_cases same : keyOf entry = key
  · have hidden : valueAt keyOf (entries.filter fun existing =>
        decide (keyOf existing ≠ keyOf entry)) key = none := by
      refine List.find?_eq_none.mpr fun existing member matched => ?_
      have different := of_decide_eq_true (List.mem_filter.mp member).2
      exact different ((of_decide_eq_true matched).trans same.symm)
    rw [if_pos same, hidden, Option.none_or, valueAt_cons, if_pos same]
  · have absent : valueAt keyOf [entry] key = none := by
      rw [valueAt_cons, if_neg same]
      rfl
    rw [if_neg same, absent, Option.or_none]
    unfold valueAt
    rw [List.find?_filter]
    refine List.find?_congr fun existing _ => ?_
    by_cases matched : keyOf existing = key
    · have different : keyOf existing ≠ keyOf entry := fun equal =>
        same (equal.symm.trans matched)
      simp [matched, matched ▸ different]
    · simp [matched]

theorem lastAt_concat (entries : List Entry) (entry : Entry) (key : Key) :
    lastAt keyOf (entries ++ [entry]) key =
      if keyOf entry = key then some entry else lastAt keyOf entries key := by
  rw [lastAt, List.reverse_concat, valueAt_cons]
  rfl

/-- After any number of entries were stored, a key holds the last of them with
this key, or what it held before. -/
theorem valueAt_foldl_put (entries incoming : List Entry) (key : Key) :
    valueAt keyOf (incoming.foldl (put keyOf) entries) key =
      (lastAt keyOf incoming key).or (valueAt keyOf entries key) := by
  induction incoming using List.reverseRecOn with
  | nil => rfl
  | append_singleton incoming entry ih =>
      rw [List.foldl_concat, valueAt_put, lastAt_concat]
      split
      · rfl
      · exact ih

/-- Tables that hold the same under every key have the same entries. -/
theorem perm_of_valueAt_eq {left right : List Entry} (distinctLeft : (left.map keyOf).Nodup)
    (distinctRight : (right.map keyOf).Nodup)
    (same : forall key, valueAt keyOf left key = valueAt keyOf right key) :
    left.Perm right := by
  rw [List.perm_ext_iff_of_nodup (List.Nodup.of_map keyOf distinctLeft)
    (List.Nodup.of_map keyOf distinctRight)]
  intro entry
  calc
    entry ∈ left <-> valueAt keyOf left (keyOf entry) = some entry := by
      rw [valueAt_eq_some_iff distinctLeft, and_iff_left rfl]
    _ <-> valueAt keyOf right (keyOf entry) = some entry := by rw [same]
    _ <-> entry ∈ right := by rw [valueAt_eq_some_iff distinctRight, and_iff_left rfl]

end KeyedList

end Foundation
end Gateway

import Mathlib

namespace Gateway
namespace Foundation

/-!
# Hash tables and their unspecified iteration order

A concurrent hash map promises a lookup for every key and says nothing about
the order in which an iterator visits its entries.  The two halves are kept
apart here.  The contents are an association list with distinct keys, so the
lookup laws are the library's own.  The visiting order is a separate argument:
a `HashOrder` turns a finite set of keys into a duplicate-free list of exactly
these keys, and nothing else is known about it.  A statement proved for every
`HashOrder` holds for every order a hash function can produce.
-/

universe u v w

/-- A finite table with at most one value for each key. -/
abbrev HashTable (Key : Type u) (Value : Type v) : Type (max u v) :=
  AList fun _ : Key => Value

/-- An iteration order for hashed containers.  The fields say that an iterator
visits every key of the container once, and visits nothing else. -/
structure HashOrder (Key : Type u) where
  enumerate : Finset Key -> List Key
  nodup : forall keys, (enumerate keys).Nodup
  mem_iff : forall keys key, key ∈ enumerate keys <-> key ∈ keys

namespace HashOrder

variable {Key : Type u}

/-- The increasing order, which evaluates and so serves for concrete runs. -/
def sorted [LinearOrder Key] : HashOrder Key where
  enumerate keys := Quot.lift (fun list : List Key => list.insertionSort (· ≤ ·))
    (fun left right (same : left.Perm right) =>
      ((left.perm_insertionSort _).trans
        (same.trans (right.perm_insertionSort _).symm)).eq_of_pairwise'
          (left.pairwise_insertionSort _) (right.pairwise_insertionSort _)) keys.val
  nodup keys := by
    rcases keys with ⟨⟨list⟩, nodup⟩
    exact (list.perm_insertionSort (· ≤ ·)).nodup_iff.mpr nodup
  mem_iff keys key := by
    rcases keys with ⟨⟨list⟩, nodup⟩
    exact List.mem_insertionSort (· ≤ ·)

theorem enumerate_empty (order : HashOrder Key) : order.enumerate ∅ = [] := by
  apply List.eq_nil_iff_forall_not_mem.mpr
  intro key visited
  exact Finset.notMem_empty key ((order.mem_iff ∅ key).mp visited)

theorem enumerate_singleton (order : HashOrder Key) (key : Key) :
    order.enumerate {key} = [key] := by
  apply List.perm_singleton.mp
  rw [List.perm_ext_iff_of_nodup (order.nodup {key}) (List.nodup_singleton key)]
  intro other
  rw [order.mem_iff, Finset.mem_singleton, List.mem_singleton]

end HashOrder

namespace HashTable

variable {Key : Type u} {Value : Type v} [DecidableEq Key]

theorem lookup_insert_ite (table : HashTable Key Value) (key other : Key) (value : Value) :
    (table.insert key value).lookup other =
      if other = key then some value else table.lookup other := by
  by_cases same : other = key
  · rw [if_pos same, same, AList.lookup_insert]
  · rw [if_neg same, AList.lookup_insert_ne same]

theorem lookup_erase_ite (table : HashTable Key Value) (key other : Key) :
    (table.erase key).lookup other = if other = key then none else table.lookup other := by
  by_cases same : other = key
  · rw [if_pos same, same, AList.lookup_erase]
  · rw [if_neg same, AList.lookup_erase_ne same]

theorem mem_keys_iff_lookup (table : HashTable Key Value) (key : Key) :
    key ∈ table.keys <-> Exists fun value => table.lookup key = some value := by
  rw [← AList.mem_keys, ← AList.lookup_isSome, Option.isSome_iff_exists]

/-- Update the value stored under a key, as a mutable borrow of it does.
A key without a value is left alone. -/
def modify (table : HashTable Key Value) (key : Key) (change : Value -> Value) :
    HashTable Key Value :=
  match table.lookup key with
  | none => table
  | some value => table.insert key (change value)

theorem lookup_modify (table : HashTable Key Value) (key other : Key)
    (change : Value -> Value) :
    (table.modify key change).lookup other =
      if other = key then (table.lookup key).map change else table.lookup other := by
  unfold modify
  cases found : table.lookup key with
  | none =>
      by_cases same : other = key
      · rw [if_pos same, same, found, Option.map_none]
      · rw [if_neg same]
  | some value => rw [lookup_insert_ite, Option.map_some]

/-- The entries in the order in which an iterator visits them. -/
def iterate (order : HashOrder Key) (table : HashTable Key Value) : List (Key × Value) :=
  (order.enumerate table.keys.toFinset).filterMap fun key =>
    (table.lookup key).map fun value => (key, value)

theorem mem_iterate (order : HashOrder Key) (table : HashTable Key Value)
    (key : Key) (value : Value) :
    (key, value) ∈ table.iterate order <-> table.lookup key = some value := by
  simp only [iterate, List.mem_filterMap, Option.map_eq_some_iff, Prod.mk.injEq,
    order.mem_iff, List.mem_toFinset, mem_keys_iff_lookup]
  constructor
  · rintro ⟨_, _, _, found, rfl, rfl⟩
    exact found
  · intro found
    exact ⟨key, ⟨value, found⟩, value, found, rfl, rfl⟩

/-- A scan that selects entries keeps the order of their keys. -/
theorem map_filterMap_sublist {Entry : Type u} {Selected : Type v} {Label : Type w}
    {select : Entry -> Option Selected} {label : Entry -> Label} {labelSelected : Selected -> Label}
    (keeps : forall entry selected, select entry = some selected ->
      labelSelected selected = label entry) (entries : List Entry) :
    List.Sublist ((entries.filterMap select).map labelSelected) (entries.map label) := by
  induction entries with
  | nil => exact .slnil
  | cons entry entries ih =>
      cases selected : select entry with
      | none =>
          rw [List.filterMap_cons_none selected]
          exact ih.cons _
      | some value =>
          rw [List.filterMap_cons_some selected, List.map_cons, List.map_cons,
            keeps entry value selected]
          exact ih.cons_cons _

/-- An iterator visits no key twice. -/
theorem nodup_iterate (order : HashOrder Key) (table : HashTable Key Value) :
    ((table.iterate order).map Prod.fst).Nodup := by
  rw [iterate, List.map_filterMap]
  refine (order.nodup _).filterMap ?_
  intro left right visited fromLeft fromRight
  simp only [Option.mem_def, Option.map_map, Option.map_eq_some_iff, Function.comp_apply]
    at fromLeft fromRight
  rcases fromLeft with ⟨_, _, rfl⟩
  rcases fromRight with ⟨_, _, same⟩
  exact same.symm

/-- Remove a list of keys one after the other. -/
def eraseAll (table : HashTable Key Value) (keys : List Key) : HashTable Key Value :=
  keys.foldl (fun table key => table.erase key) table

theorem lookup_eraseAll (table : HashTable Key Value) (keys : List Key) (other : Key) :
    (table.eraseAll keys).lookup other = if other ∈ keys then none else table.lookup other := by
  induction keys generalizing table with
  | nil => simp [eraseAll]
  | cons key keys ih =>
      rw [eraseAll, List.foldl_cons, ← eraseAll, ih, lookup_erase_ite]
      by_cases later : other ∈ keys
      · rw [if_pos later, if_pos (List.mem_cons_of_mem _ later)]
      · by_cases same : other = key
        · rw [if_neg later, if_pos same, if_pos (List.mem_cons.mpr (Or.inl same))]
        · have absent : other ∉ key :: keys := by
            simp only [List.mem_cons, same, later, or_self, not_false_eq_true]
          rw [if_neg later, if_neg same, if_neg absent]

/-- Remove the entries that a scan of the table marked. -/
theorem lookup_eraseAll_filter (table : HashTable Key Value)
    (marked : (Sigma fun _ : Key => Value) -> Bool) (key : Key) :
    (table.eraseAll ((table.entries.filter marked).map Sigma.fst)).lookup key =
      (table.lookup key).filter fun value => !marked ⟨key, value⟩ := by
  have marks : forall value, table.lookup key = some value ->
      (key ∈ (table.entries.filter marked).map Sigma.fst <-> marked ⟨key, value⟩ = true) := by
    intro value found
    rw [List.mem_map]
    constructor
    · rintro ⟨⟨other, stored⟩, member, rfl⟩
      rcases List.mem_filter.mp member with ⟨entry, mark⟩
      have same := AList.mem_lookup_iff.mpr entry
      rw [Option.mem_def, found] at same
      rw [Option.some.inj same]
      exact mark
    · intro mark
      exact ⟨⟨key, value⟩, List.mem_filter.mpr ⟨AList.mem_lookup_iff.mp found, mark⟩, rfl⟩
  rw [lookup_eraseAll]
  cases found : table.lookup key with
  | none => split <;> rfl
  | some value =>
      rw [if_congr (marks value found) rfl rfl]
      cases mark : marked ⟨key, value⟩ with
      | true => rw [if_pos rfl, Option.filter_some, mark, Bool.not_true, if_neg Bool.false_ne_true]
      | false => rw [if_neg Bool.false_ne_true, Option.filter_some, mark, Bool.not_false, if_pos rfl]

/-! ## Counting entries -/

theorem kerase_eq_filter (key : Key) {entries : List (Sigma fun _ : Key => Value)}
    (distinct : entries.NodupKeys) :
    entries.kerase key = entries.filter fun entry => decide (entry.1 ≠ key) := by
  induction entries with
  | nil => rfl
  | cons entry entries ih =>
      have parts := List.nodupKeys_cons.mp distinct
      by_cases same : key = entry.1
      · have others : forall other, other ∈ entries -> decide (other.1 ≠ key) = true := by
          intro other member
          rw [decide_eq_true_eq]
          intro again
          exact parts.1 (same ▸ again ▸ List.mem_keys_of_mem member)
        rw [List.kerase_cons_eq same, List.filter_cons_of_neg (by simp [same]),
          List.filter_eq_self.mpr others]
      · rw [List.kerase_cons_ne same, ih parts.2,
          List.filter_cons_of_pos (by simp [Ne.symm same])]

theorem entries_insert (table : HashTable Key Value) (key : Key) (value : Value) :
    (table.insert key value).entries =
      ⟨key, value⟩ :: table.entries.filter fun entry => decide (entry.1 ≠ key) := by
  rw [AList.entries_insert, kerase_eq_filter key table.nodupKeys]

theorem entries_eraseAll (table : HashTable Key Value) (keys : List Key) :
    (table.eraseAll keys).entries =
      table.entries.filter fun entry => decide (entry.1 ∉ keys) := by
  induction keys generalizing table with
  | nil => simp [eraseAll]
  | cons key keys ih =>
      have erased : (table.erase key).entries =
          table.entries.filter fun entry => decide (entry.1 ≠ key) :=
        kerase_eq_filter key table.nodupKeys
      rw [eraseAll, List.foldl_cons, ← eraseAll, ih, erased, List.filter_filter]
      apply List.filter_congr
      intro entry _
      simp [not_or, Bool.and_comm]

/-- Removing what a scan marked leaves what it did not mark. -/
theorem entries_eraseAll_filter (table : HashTable Key Value)
    (marked : (Sigma fun _ : Key => Value) -> Bool) :
    (table.eraseAll ((table.entries.filter marked).map Sigma.fst)).entries =
      table.entries.filter fun entry => !marked entry := by
  rw [entries_eraseAll]
  apply List.filter_congr
  rintro ⟨key, value⟩ stored
  have scanned : key ∈ (table.entries.filter marked).map Sigma.fst <->
      marked ⟨key, value⟩ = true := by
    rw [List.mem_map]
    constructor
    · rintro ⟨⟨other, found⟩, member, rfl⟩
      rcases List.mem_filter.mp member with ⟨entry, mark⟩
      have same := table.nodupKeys.eq_of_mk_mem entry stored
      exact same ▸ mark
    · intro mark
      exact ⟨⟨key, value⟩, List.mem_filter.mpr ⟨stored, mark⟩, rfl⟩
  cases mark : marked ⟨key, value⟩ with
  | true => rw [decide_eq_false (not_not.mpr (scanned.mpr mark)), Bool.not_true]
  | false =>
      have absent : key ∉ (table.entries.filter marked).map Sigma.fst := by
        rw [scanned, mark]
        exact Bool.false_ne_true
      rw [decide_eq_true absent, Bool.not_false]

/-- A table that is pruned only above its bound, and then only of the marked
entries, respects the bound exactly if the entries without a mark do. -/
theorem length_prune_le_iff (table : HashTable Key Value) (bound : Nat)
    (marked : (Sigma fun _ : Key => Value) -> Bool) :
    (if table.entries.length ≤ bound then table
      else table.eraseAll ((table.entries.filter marked).map Sigma.fst)).entries.length ≤ bound <->
      (table.entries.countP fun entry => !marked entry) ≤ bound := by
  split
  · next small =>
    exact iff_of_true small (le_trans List.countP_le_length small)
  · rw [entries_eraseAll_filter, List.countP_eq_length_filter]

/-- Pruning a table without marked entries does nothing. -/
theorem prune_of_unmarked {table : HashTable Key Value} (bound : Nat)
    {marked : (Sigma fun _ : Key => Value) -> Bool}
    (unmarked : forall entry, entry ∈ table.entries -> marked entry = false) :
    (if table.entries.length ≤ bound then table
      else table.eraseAll ((table.entries.filter marked).map Sigma.fst)) = table := by
  have nothing : table.entries.filter marked = [] := by
    rw [List.filter_eq_nil_iff]
    intro entry member
    rw [unmarked entry member]
    exact Bool.false_ne_true
  split
  · rfl
  · rw [nothing]
    rfl

theorem countP_entries_insert (table : HashTable Key Value) (key : Key) (value : Value)
    (counted : (Sigma fun _ : Key => Value) -> Bool) :
    (table.insert key value).entries.countP counted =
      (table.entries.countP fun entry => counted entry && decide (entry.1 ≠ key)) +
        if counted ⟨key, value⟩ = true then 1 else 0 := by
  rw [entries_insert, List.countP_cons, List.countP_filter]

/-- Replacing a value adds no entry. -/
theorem length_insert_of_mem {table : HashTable Key Value} {key : Key} (stored : key ∈ table)
    (value : Value) : (table.insert key value).entries.length = table.entries.length := by
  have listed : key ∈ table.keys := AList.mem_keys.mp stored
  have lengths : forall other : HashTable Key Value, other.keys.length = other.entries.length :=
    fun other => List.length_map Sigma.fst
  have positive := List.length_pos_of_mem listed
  rw [← lengths, AList.keys_insert, List.length_cons, List.length_erase_of_mem listed]
  rw [lengths] at positive ⊢
  omega

/-- With infinitely many keys a table can be filled up to any size without
changing what it holds for some given keys. -/
theorem exists_large [Infinite Key] (table : HashTable Key Value) (fixed : Finset Key)
    (filler : Value) (size : Nat) :
    Exists fun larger : HashTable Key Value => size ≤ larger.entries.length /\
      forall key, key ∈ fixed -> larger.lookup key = table.lookup key := by
  induction size with
  | zero => exact ⟨table, Nat.zero_le _, fun _ _ => rfl⟩
  | succ size ih =>
      rcases ih with ⟨larger, long, same⟩
      rcases Infinite.exists_notMem_finset (fixed ∪ larger.keys.toFinset) with ⟨fresh, absent⟩
      rw [Finset.mem_union, not_or, List.mem_toFinset, ← AList.mem_keys] at absent
      refine ⟨larger.insert fresh filler, ?_, ?_⟩
      · rw [AList.entries_insert_of_notMem absent.2, List.length_cons]
        exact Nat.succ_le_succ long
      · intro key member
        have different : key ≠ fresh := fun equal => absent.1 (equal ▸ member)
        rw [AList.lookup_insert_ne different, same key member]

end HashTable

end Foundation
end Gateway

import Gateway.Foundation.HashTable

namespace Gateway
namespace Foundation

/-!
# Inverted indexes with empty-group cleanup

Members are listed under keys, and the index stores for each key the finite
group of its members.  A group is created when its first member is enlisted.
When a member is withdrawn, a group that has become empty is discarded, so
that no key is left with an empty group.

The meaning of an index is the relation `member ∈ members index key`.  Each
update changes this relation by exactly the pairs it names, whatever else the
index holds and however often a key is repeated in a list of keys.  An index
`Represents` a listing when the two relations agree and no group is empty.
-/

universe u v

/-- The finite group of members stored under each key. -/
abbrev InvertedIndex (Key : Type u) (Member : Type v) : Type (max u v) :=
  HashTable Key (Finset Member)

namespace InvertedIndex

variable {Key : Type u} {Member : Type v} [DecidableEq Key]

/-- The members stored under a key.  An absent key has no members. -/
def members (index : InvertedIndex Key Member) (key : Key) : Finset Member :=
  (index.lookup key).getD ∅

theorem members_of_lookup {index : InvertedIndex Key Member} {key : Key} {group : Finset Member}
    (found : index.lookup key = some group) : index.members key = group := by
  rw [members, found, Option.getD_some]

theorem mem_members_iff_lookup (index : InvertedIndex Key Member) (member : Member) (key : Key) :
    member ∈ index.members key <->
      Exists fun group => index.lookup key = some group /\ member ∈ group := by
  rw [members]
  cases index.lookup key <;> simp

theorem members_congr {left right : InvertedIndex Key Member} {key : Key}
    (same : left.lookup key = right.lookup key) : left.members key = right.members key := by
  rw [members, members, same]

theorem members_discard (index : InvertedIndex Key Member) (key asked : Key) :
    members (index.erase key) asked = if asked = key then ∅ else index.members asked := by
  simp only [members, HashTable.lookup_erase_ite]
  split <;> rfl

/-- No key is left with an empty group. -/
def Tidy (index : InvertedIndex Key Member) : Prop :=
  forall key group, index.lookup key = some group -> group ≠ ∅

/-- The index stores exactly the listing and keeps no empty group. -/
structure Represents (index : InvertedIndex Key Member) (listed : Member -> Key -> Prop) :
    Prop where
  mem_iff : forall member key, member ∈ index.members key <-> listed member key
  tidy : index.Tidy

theorem represents_empty : Represents (∅ : InvertedIndex Key Member) fun _ _ => False where
  mem_iff := by
    intro member key
    simp [members]
  tidy := by
    intro key group found
    simp at found

theorem Represents.congr {index : InvertedIndex Key Member} {listed : Member -> Key -> Prop}
    (represents : index.Represents listed) {other : Member -> Key -> Prop}
    (same : forall member key, listed member key <-> other member key) :
    index.Represents other :=
  ⟨fun member key => (represents.mem_iff member key).trans (same member key), represents.tidy⟩

/-- A listing determines what is stored under each key. -/
theorem Represents.lookup_eq {left right : InvertedIndex Key Member}
    {listed : Member -> Key -> Prop} (leftRepresents : left.Represents listed)
    (rightRepresents : right.Represents listed) (key : Key) : left.lookup key = right.lookup key := by
  have members : left.members key = right.members key := by
    ext member
    rw [leftRepresents.mem_iff, rightRepresents.mem_iff]
  cases leftFound : left.lookup key with
  | none =>
      cases rightFound : right.lookup key with
      | none => rfl
      | some group =>
          rw [members_of_lookup rightFound, InvertedIndex.members, leftFound] at members
          exact absurd members.symm (rightRepresents.tidy key group rightFound)
  | some group =>
      rw [members_of_lookup leftFound] at members
      cases rightFound : right.lookup key with
      | none =>
          rw [InvertedIndex.members, rightFound] at members
          exact absurd members (leftRepresents.tidy key group leftFound)
      | some other => rw [members, members_of_lookup rightFound]

variable [DecidableEq Member]

/-- Find or create the group of a key and add the member to it. -/
def enlist (member : Member) (index : InvertedIndex Key Member) (key : Key) :
    InvertedIndex Key Member :=
  AList.insert key (insert member (index.members key)) index

/-- Remove the member from the group of a key, keeping the group even when
it becomes empty. -/
def withdraw (member : Member) (index : InvertedIndex Key Member) (key : Key) :
    InvertedIndex Key Member :=
  index.modify key fun group => group.erase member

/-- Withdraw the member and discard the whole group if nothing is left of it. -/
def delist (member : Member) (index : InvertedIndex Key Member) (key : Key) :
    InvertedIndex Key Member :=
  match (index.withdraw member key).lookup key with
  | none => index
  | some remaining =>
      if remaining = ∅ then (index.withdraw member key).erase key
      else index.withdraw member key

def enlistAll (member : Member) (index : InvertedIndex Key Member) (keys : List Key) :
    InvertedIndex Key Member :=
  keys.foldl (enlist member) index

def delistAll (member : Member) (index : InvertedIndex Key Member) (keys : List Key) :
    InvertedIndex Key Member :=
  keys.foldl (delist member) index

theorem mem_members_enlist (index : InvertedIndex Key Member) (member other : Member)
    (key asked : Key) :
    other ∈ (index.enlist member key).members asked <->
      other ∈ index.members asked \/ (other = member /\ asked = key) := by
  by_cases same : asked = key
  · subst asked
    rw [enlist, members_of_lookup (AList.lookup_insert index), Finset.mem_insert]
    simp only [and_true, or_comm]
  · rw [enlist, members_congr (AList.lookup_insert_ne same)]
    simp only [same, and_false, or_false]

theorem mem_members_withdraw (index : InvertedIndex Key Member) (member other : Member)
    (key asked : Key) :
    other ∈ (index.withdraw member key).members asked <->
      other ∈ index.members asked /\ Not (other = member /\ asked = key) := by
  simp only [members, withdraw, HashTable.lookup_modify]
  by_cases same : asked = key
  · subst asked
    cases index.lookup key with
    | none => simp
    | some group => simp [Finset.mem_erase, and_comm]
  · simp [same]

/-- The cleanup of an empty group is invisible in the membership relation. -/
theorem mem_members_delist (index : InvertedIndex Key Member) (member other : Member)
    (key asked : Key) :
    other ∈ (index.delist member key).members asked <->
      other ∈ index.members asked /\ Not (other = member /\ asked = key) := by
  rw [← mem_members_withdraw, delist]
  cases found : (index.withdraw member key).lookup key with
  | none =>
      have absent : index.lookup key = none := by
        simpa [withdraw, HashTable.lookup_modify] using found
      simp only [withdraw, HashTable.modify, absent]
  | some remaining =>
      by_cases empty : remaining = ∅
      · simp only [if_pos empty, members_discard]
        by_cases same : asked = key
        · rw [if_pos same, same, members_of_lookup found, empty]
        · rw [if_neg same]
      · simp only [if_neg empty]

/-- Delisting in two calls: withdraw, and discard the group if that left it
empty. -/
theorem delist_eq_ite (index : InvertedIndex Key Member) (member : Member) (key : Key) :
    index.delist member key =
      if (index.withdraw member key).lookup key = some ∅ then
        (index.withdraw member key).erase key
      else index.withdraw member key := by
  unfold delist
  cases found : (index.withdraw member key).lookup key with
  | none =>
      have absent : index.lookup key = none := by
        simpa [withdraw, HashTable.lookup_modify] using found
      rw [if_neg (fun same => nomatch same)]
      simp only [withdraw, HashTable.modify, absent]
  | some remaining =>
      by_cases empty : remaining = ∅
      · rw [if_pos (congrArg some empty)]
        exact if_pos empty
      · rw [if_neg fun same => empty (Option.some.inj same)]
        exact if_neg empty

theorem mem_members_enlistAll (index : InvertedIndex Key Member) (member other : Member)
    (keys : List Key) (asked : Key) :
    other ∈ (index.enlistAll member keys).members asked <->
      other ∈ index.members asked \/ (other = member /\ asked ∈ keys) := by
  induction keys generalizing index with
  | nil => simp [enlistAll]
  | cons key keys ih =>
      rw [enlistAll, List.foldl_cons, ← enlistAll, ih, mem_members_enlist, List.mem_cons]
      tauto

theorem mem_members_delistAll (index : InvertedIndex Key Member) (member other : Member)
    (keys : List Key) (asked : Key) :
    other ∈ (index.delistAll member keys).members asked <->
      other ∈ index.members asked /\ Not (other = member /\ asked ∈ keys) := by
  induction keys generalizing index with
  | nil => simp [delistAll]
  | cons key keys ih =>
      rw [delistAll, List.foldl_cons, ← delistAll, ih, mem_members_delist, List.mem_cons]
      tauto

theorem tidy_enlist {index : InvertedIndex Key Member} (tidy : index.Tidy)
    (member : Member) (key : Key) : (index.enlist member key).Tidy := by
  intro asked group found
  rw [enlist, HashTable.lookup_insert_ite] at found
  by_cases same : asked = key
  · rw [if_pos same] at found
    rw [← Option.some.inj found]
    exact Finset.insert_ne_empty _ _
  · rw [if_neg same] at found
    exact tidy asked group found

theorem tidy_delist {index : InvertedIndex Key Member} (tidy : index.Tidy)
    (member : Member) (key : Key) : (index.delist member key).Tidy := by
  have others : forall asked group, asked ≠ key ->
      (index.withdraw member key).lookup asked = some group -> group ≠ ∅ := by
    intro asked group different found
    rw [withdraw, HashTable.lookup_modify, if_neg different] at found
    exact tidy asked group found
  unfold delist
  cases atKey : (index.withdraw member key).lookup key with
  | none => exact tidy
  | some remaining =>
      by_cases empty : remaining = ∅
      · simp only [if_pos empty]
        intro asked group found
        rw [HashTable.lookup_erase_ite] at found
        by_cases same : asked = key
        · simp [same] at found
        · exact others asked group same (by simpa [same] using found)
      · simp only [if_neg empty]
        intro asked group found
        by_cases same : asked = key
        · subst asked
          rw [atKey] at found
          exact Option.some.inj found ▸ empty
        · exact others asked group same found

theorem tidy_enlistAll {index : InvertedIndex Key Member} (tidy : index.Tidy)
    (member : Member) (keys : List Key) : (index.enlistAll member keys).Tidy := by
  induction keys generalizing index with
  | nil => exact tidy
  | cons key keys ih => exact ih (tidy_enlist tidy member key)

theorem tidy_delistAll {index : InvertedIndex Key Member} (tidy : index.Tidy)
    (member : Member) (keys : List Key) : (index.delistAll member keys).Tidy := by
  induction keys generalizing index with
  | nil => exact tidy
  | cons key keys ih => exact ih (tidy_delist tidy member key)

namespace Represents

variable {index : InvertedIndex Key Member} {listed : Member -> Key -> Prop}

theorem enlistAll (represents : index.Represents listed) (member : Member) (keys : List Key) :
    (index.enlistAll member keys).Represents fun other key =>
      listed other key \/ (other = member /\ key ∈ keys) where
  mem_iff := by
    intro other key
    rw [mem_members_enlistAll, represents.mem_iff]
  tidy := tidy_enlistAll represents.tidy member keys

theorem delistAll (represents : index.Represents listed) (member : Member) (keys : List Key) :
    (index.delistAll member keys).Represents fun other key =>
      listed other key /\ Not (other = member /\ key ∈ keys) where
  mem_iff := by
    intro other key
    rw [mem_members_delistAll, represents.mem_iff]
  tidy := tidy_delistAll represents.tidy member keys

end Represents

end InvertedIndex

end Foundation
end Gateway

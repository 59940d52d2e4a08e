import Mathlib

namespace Gateway
namespace Foundation

/-!
# Logs with increasing ids

Entries are only appended, each with an id above all earlier ones.  A reader
that asks for the entries after an id cuts the log in two: a prefix that it has
behind it and a suffix that is still to come.  The cut stays where it is while
the log grows, and moves by one entry when the reader does.
-/

universe u v

section Logs

variable {Id : Type u} [LinearOrder Id] {Entry : Type v} (idOf : Entry -> Id) (bottom : Id)

def Increasing (log : List Entry) : Prop :=
  log.Pairwise fun earlier later => idOf earlier < idOf later

/-- The id of the last entry.  An empty log answers with the bottom id. -/
def lastEntryId (log : List Entry) : Id :=
  log.getLast?.elim bottom idOf

/-- The entries with an id above the given one. -/
def entriesAfter (start : Id) (log : List Entry) : List Entry :=
  log.filter fun entry => decide (start < idOf entry)

/-- The ids up to `start` are exactly those of the first `position` entries. -/
structure Cut (log : List Entry) (position : Nat) (start : Id) : Prop where
  known : start ≤ lastEntryId idOf bottom log
  behind : forall entry, entry ∈ log.take position -> idOf entry ≤ start
  ahead : forall entry, entry ∈ log.drop position -> start < idOf entry

variable {idOf bottom}

omit [LinearOrder Id] in
theorem lastEntryId_append (log : List Entry) (entry : Entry) :
    lastEntryId idOf bottom (log ++ [entry]) = idOf entry := by
  rw [lastEntryId, List.getLast?_concat, Option.elim_some]

theorem le_lastEntryId {log : List Entry} (increasing : Increasing idOf log) {entry : Entry}
    (member : entry ∈ log) : idOf entry ≤ lastEntryId idOf bottom log := by
  induction log using List.reverseRecOn with
  | nil => cases member
  | append_singleton log last _ =>
      rw [lastEntryId_append]
      rcases List.mem_append.mp member with earlier | same
      · exact ((List.pairwise_append.mp increasing).2.2 entry earlier last
          List.mem_cons_self).le
      · rw [List.mem_singleton.mp same]

theorem Increasing.append {log : List Entry} (increasing : Increasing idOf log) {entry : Entry}
    (newer : lastEntryId idOf bottom log < idOf entry) : Increasing idOf (log ++ [entry]) := by
  apply List.pairwise_append.mpr
  refine ⟨increasing, List.pairwise_singleton _ _, ?_⟩
  intro earlier member later same
  rw [List.mem_singleton.mp same]
  exact (le_lastEntryId increasing member).trans_lt newer

/-- Entries that are not read may be removed. -/
theorem entriesAfter_filter {log : List Entry} {start : Id} {keep : Entry -> Bool}
    (kept : forall entry, entry ∈ log -> start < idOf entry -> keep entry = true) :
    entriesAfter idOf start (log.filter keep) = entriesAfter idOf start log := by
  rw [entriesAfter, entriesAfter, List.filter_filter]
  apply List.filter_congr
  intro entry member
  by_cases later : start < idOf entry
  · rw [kept entry member later, Bool.and_true]
  · rw [decide_eq_false later, Bool.false_and]

namespace Cut

variable {log : List Entry} {position : Nat} {start : Id}

/-- Reading after the id of a cut returns what lies ahead of it. -/
theorem entriesAfter_eq (cut : Cut idOf bottom log position start) :
    entriesAfter idOf start log = log.drop position := by
  have split : entriesAfter idOf start (log.take position ++ log.drop position) =
      log.drop position := by
    rw [entriesAfter, List.filter_append, List.filter_eq_nil_iff.mpr, List.nil_append,
      List.filter_eq_self.mpr]
    · intro entry member
      exact decide_eq_true (cut.ahead entry member)
    · intro entry member later
      exact absurd (of_decide_eq_true later) (not_lt.mpr (cut.behind entry member))
  rwa [List.take_append_drop] at split

/-- At the end of the log nothing lies ahead. -/
theorem atEnd (increasing : Increasing idOf log) :
    Cut idOf bottom log log.length (lastEntryId idOf bottom log) where
  known := le_rfl
  behind := by
    intro entry member
    exact le_lastEntryId increasing (List.mem_of_mem_take member)
  ahead := by
    intro entry member
    rw [List.drop_length] at member
    cases member

/-- The cut just behind an entry of the log. -/
theorem after {entry : Entry} (increasing : Increasing idOf log)
    (found : log[position]? = some entry) :
    Cut idOf bottom log (position + 1) (idOf entry) := by
  have split : log = log.take (position + 1) ++ log.drop (position + 1) :=
    (List.take_append_drop _ _).symm
  have behindEntry : log.take (position + 1) = log.take position ++ [entry] := by
    rw [List.take_add_one, found, Option.toList_some]
  have parts := increasing
  rw [Increasing, split, behindEntry, List.append_assoc, List.pairwise_append,
    List.pairwise_append] at parts
  refine ⟨le_lastEntryId increasing (List.mem_of_getElem? found), ?_, ?_⟩
  · intro other member
    rw [behindEntry] at member
    rcases List.mem_append.mp member with earlier | same
    · exact (parts.2.2 other earlier entry List.mem_cons_self).le
    · rw [List.mem_singleton.mp same]
  · intro other member
    exact parts.2.1.2.2 entry List.mem_cons_self other member

/-- A new entry lies ahead of every cut. -/
theorem append {entry : Entry} (cut : Cut idOf bottom log position start)
    (within : position ≤ log.length) (newer : lastEntryId idOf bottom log < idOf entry) :
    Cut idOf bottom (log ++ [entry]) position start := by
  refine ⟨?_, ?_, ?_⟩
  · rw [lastEntryId_append]
    exact cut.known.trans newer.le
  · rw [List.take_append_of_le_length within]
    exact cut.behind
  · rw [List.drop_append_of_le_length within]
    intro other member
    rcases List.mem_append.mp member with old | same
    · exact cut.ahead other old
    · rw [List.mem_singleton.mp same]
      exact cut.known.trans_lt newer

end Cut

end Logs

section Positions

variable {Entry : Type v} {log batch : List Entry} {entry : Entry} {origin position : Nat}

/-- A batch that is read from a position begins with the entry that stands
there. -/
theorem getElem?_of_cons_prefix_drop (ahead : entry :: batch <+: log.drop position) :
    log[position]? = some entry /\ batch <+: log.drop (position + 1) := by
  rcases ahead with ⟨beyond, same⟩
  constructor
  · have first := congrArg List.head? same
    rw [List.head?_drop] at first
    exact first.symm
  · rw [← List.drop_drop, ← same]
    exact List.prefix_append _ _

/-- What was read from the origin on grows by the entry at the position. -/
theorem drop_take_succ (found : log[position]? = some entry) (started : origin ≤ position) :
    (log.take (position + 1)).drop origin = (log.take position).drop origin ++ [entry] := by
  have inside : position < log.length := (List.getElem?_eq_some_iff.mp found).1
  have reached : origin ≤ (log.take position).length := by
    rw [List.length_take, Nat.min_eq_left inside.le]
    exact started
  rw [List.take_add_one, found, Option.toList_some, List.drop_append_of_le_length reached]

end Positions

end Foundation
end Gateway

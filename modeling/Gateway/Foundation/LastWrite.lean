import Mathlib

namespace Gateway
namespace Foundation

/-!
# The last write to a key

A log of writes to a keyed table stores values under keys and takes them out
again.  The table that the log describes holds under each key what the last
write to that key stored.  Writes to other keys do not matter, and neither does
what was stored under the key before.
-/

universe u v w

variable {Key : Type u} {Value : Type v} [DecidableEq Key]

/-- What the log leaves under a key.  A write of `none` takes the value out. -/
def lastWrite (writes : List (Key × Option Value)) (key : Key) : Option Value :=
  writes.foldl (fun value write => if write.1 = key then write.2 else value) none

theorem lastWrite_concat (writes : List (Key × Option Value)) (write : Key × Option Value)
    (key : Key) :
    lastWrite (writes ++ [write]) key = if write.1 = key then write.2 else lastWrite writes key := by
  rw [lastWrite, List.foldl_append]
  rfl

/-- Writes to other keys at the end of the log do not matter. -/
theorem lastWrite_append_of_ne (writes later : List (Key × Option Value)) {key : Key}
    (others : forall write, write ∈ later -> write.1 ≠ key) :
    lastWrite (writes ++ later) key = lastWrite writes key := by
  induction later using List.reverseRecOn with
  | nil => rw [List.append_nil]
  | append_singleton later write ih =>
      rw [← List.append_assoc, lastWrite_concat,
        if_neg (others write (List.mem_append_right _ List.mem_cons_self))]
      exact ih fun write member => others write (List.mem_append_left _ member)

/-- A value is stored under a key exactly if some write stored it there and no
later write was to that key. -/
theorem lastWrite_eq_some_iff (writes : List (Key × Option Value)) (key : Key) (value : Value) :
    lastWrite writes key = some value <-> Exists fun earlier => Exists fun later =>
      writes = earlier ++ (key, some value) :: later /\
        forall write, write ∈ later -> write.1 ≠ key := by
  constructor
  · induction writes using List.reverseRecOn with
    | nil =>
        intro stored
        cases stored
    | append_singleton writes write ih =>
        intro stored
        rw [lastWrite_concat] at stored
        split at stored
        · next same =>
          refine ⟨writes, [], ?_, fun _ member => absurd member List.not_mem_nil⟩
          rw [← same, ← stored]
        · next different =>
          rcases ih stored with ⟨earlier, later, split, others⟩
          refine ⟨earlier, later ++ [write], by rw [split, List.append_assoc, List.cons_append], ?_⟩
          intro other member
          rcases List.mem_append.mp member with old | new
          · exact others other old
          · rw [List.mem_singleton.mp new]
            exact different
  · rintro ⟨earlier, later, rfl, others⟩
    rw [List.append_cons, lastWrite_append_of_ne _ _ others, lastWrite_concat, if_pos rfl]

/-- The same for a log that is collected from a list of events, some of which
write and some of which do not. -/
theorem lastWrite_filterMap_eq_some_iff {Event : Type w}
    (writeOf : Event -> Option (Key × Option Value)) (events : List Event) (key : Key)
    (value : Value) :
    lastWrite (events.filterMap writeOf) key = some value <->
      Exists fun earlier => Exists fun event => Exists fun later =>
        events = earlier ++ event :: later /\ writeOf event = some (key, some value) /\
          forall other write, other ∈ later -> writeOf other = some write -> write.1 ≠ key := by
  rw [lastWrite_eq_some_iff]
  constructor
  · rintro ⟨earlierWrites, laterWrites, split, others⟩
    rcases List.filterMap_eq_append_iff.mp split with ⟨earlier, rest, rfl, _, restWrites⟩
    rcases List.filterMap_eq_cons_iff.mp restWrites with
      ⟨silent, event, later, rfl, quiet, written, laterSplit⟩
    refine ⟨earlier ++ silent, event, later, by rw [List.append_assoc], written, ?_⟩
    intro other write member wrote
    apply others
    rw [← laterSplit]
    exact List.mem_filterMap.mpr ⟨other, member, wrote⟩
  · rintro ⟨earlier, event, later, rfl, written, others⟩
    refine ⟨earlier.filterMap writeOf, later.filterMap writeOf, ?_, ?_⟩
    · rw [List.filterMap_append, List.filterMap_cons_some written]
    · intro write member
      rcases List.mem_filterMap.mp member with ⟨other, there, wrote⟩
      exact others other write there wrote

end Foundation
end Gateway

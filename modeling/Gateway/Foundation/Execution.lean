import Mathlib

namespace Gateway
namespace Foundation

/-!
# Finite executions and interleavings

An execution of a labelled step relation records its labels in the order in
which they were taken.  Invariants may speak about the state together with
this history, which is how a statement about "every call so far" is kept
through a run.  The same rule is given for deterministic systems, whose runs
are left folds.

An interleaving runs finitely many threads over one shared state.  Each turn
picks a thread and lets it take one atomic step; nothing restricts the order
of the picks.  A thread that has returned simply has no step left.
-/

universe u v w x

/-- A finite execution, with its labels oldest first. -/
inductive Execution {State : Type u} {Label : Type v}
    (step : State -> Label -> State -> Prop) (start : State) : List Label -> State -> Prop where
  | refl : Execution step start [] start
  | snoc {labels : List Label} {middle final : State} {label : Label}
      (earlier : Execution step start labels middle) (last : step middle label final) :
      Execution step start (labels ++ [label]) final

namespace Execution

variable {State : Type u} {Label : Type v} {step : State -> Label -> State -> Prop}
  {start final : State} {labels : List Label}

/-- A property of the history and the state that every step extends holds
after every execution. -/
theorem history (holds : List Label -> State -> Prop) (initial : holds [] start)
    (preserved : forall history state label next,
      holds history state -> step state label next -> holds (history ++ [label]) next)
    (execution : Execution step start labels final) : holds labels final := by
  induction execution with
  | refl => exact initial
  | snoc earlier last ih => exact preserved _ _ _ _ ih last

/-- A property of the state alone that every step preserves is an invariant. -/
theorem invariant (holds : State -> Prop) (initial : holds start)
    (preserved : forall state label next, holds state -> step state label next -> holds next)
    (execution : Execution step start labels final) : holds final :=
  execution.history (fun _ state => holds state) initial
    (fun _ state label next before taken => preserved state label next before taken)

theorem trans {middle : State} {earlier later : List Label}
    (first : Execution step start earlier middle) (second : Execution step middle later final) :
    Execution step start (earlier ++ later) final := by
  induction second with
  | refl =>
      rw [List.append_nil]
      exact first
  | snoc before last ih =>
      rw [← List.append_assoc]
      exact ih.snoc last

theorem mono {other : State -> Label -> State -> Prop}
    (weaker : forall before label after, step before label after -> other before label after)
    (execution : Execution step start labels final) : Execution other start labels final := by
  induction execution with
  | refl => exact .refl
  | snoc earlier last ih => exact ih.snoc (weaker _ _ _ last)

/-- A simulation carries executions over, label by label. -/
theorem map {OtherState : Type w} {OtherLabel : Type x}
    {other : OtherState -> OtherLabel -> OtherState -> Prop} (embed : State -> OtherState)
    (relabel : Label -> OtherLabel)
    (simulated : forall before label after,
      step before label after -> other (embed before) (relabel label) (embed after))
    (execution : Execution step start labels final) :
    Execution other (embed start) (labels.map relabel) (embed final) := by
  induction execution with
  | refl => exact .refl
  | snoc earlier last ih =>
      rw [List.map_append]
      exact ih.snoc (simulated _ _ _ last)

theorem single {label : Label} (taken : step start label final) :
    Execution step start [label] final :=
  Execution.refl.snoc taken

end Execution

/-- The rule of histories for a deterministic system. -/
theorem foldl_history {State : Type u} {Label : Type v} {apply : State -> Label -> State}
    {start : State} (holds : List Label -> State -> Prop) (initial : holds [] start)
    (preserved : forall history state label,
      holds history state -> holds (history ++ [label]) (apply state label))
    (labels : List Label) : holds labels (labels.foldl apply start) := by
  induction labels using List.reverseRecOn with
  | nil => exact initial
  | append_singleton labels label ih =>
      rw [List.foldl_append]
      exact preserved labels _ label ih

/-- The rule of invariants for a deterministic system. -/
theorem foldl_invariant {State : Type u} {Label : Type v} {apply : State -> Label -> State}
    {start : State} (holds : State -> Prop) (initial : holds start)
    (preserved : forall state label, holds state -> holds (apply state label))
    (labels : List Label) : holds (labels.foldl apply start) :=
  foldl_history (fun _ state => holds state) initial
    (fun _ state label before => preserved state label before) labels

/-- Every event meets a condition that may refer to the events before it. -/
def Throughout {Event : Type u} (condition : List Event -> Event -> Prop)
    (events : List Event) : Prop :=
  forall index, (inside : index < events.length) -> condition (events.take index) events[index]

instance {Event : Type u} (condition : List Event -> Event -> Prop)
    [forall earlier event, Decidable (condition earlier event)] (events : List Event) :
    Decidable (Throughout condition events) :=
  inferInstanceAs (Decidable (forall index, (inside : index < events.length) -> _))

theorem Throughout.append_left {Event : Type u} {condition : List Event -> Event -> Prop}
    {earlier later : List Event} (throughout : Throughout condition (earlier ++ later)) :
    Throughout condition earlier := by
  intro index inside
  have met := throughout index (by rw [List.length_append]; omega)
  rw [List.take_append_of_le_length (Nat.le_of_lt inside), List.getElem_append_left inside] at met
  exact met

/-- The last event meets the condition after all others. -/
theorem Throughout.last {Event : Type u} {condition : List Event -> Event -> Prop}
    {earlier : List Event} {event : Event}
    (throughout : Throughout condition (earlier ++ [event])) : condition earlier event := by
  have met := throughout earlier.length (by rw [List.length_append, List.length_singleton]; omega)
  rw [List.take_left, List.getElem_concat_length rfl] at met
  exact met

/-- A shared state and the local states of all threads. -/
structure Configuration (Shared : Type u) (Thread : Type v) where
  shared : Shared
  threads : List Thread

/-- One turn: some thread takes one atomic step, all others wait. -/
inductive Turn {Shared : Type u} {Thread : Type v} {Event : Type w}
    (advance : Shared -> Thread -> Event -> Shared -> Thread -> Prop) :
    Configuration Shared Thread -> Nat × Event -> Configuration Shared Thread -> Prop where
  | take {before after : Shared} {threads : List Thread} {index : Nat} {thread next : Thread}
      {event : Event} (picked : threads[index]? = some thread)
      (advances : advance before thread event after next) :
      Turn advance ⟨before, threads⟩ (index, event) ⟨after, threads.set index next⟩

/-- After a turn, a thread is either the one that moved or was there before. -/
theorem getElem?_set_cases {Thread : Type v} {threads : List Thread} {index other : Nat}
    {next thread : Thread} (found : (threads.set index next)[other]? = some thread) :
    (other = index /\ thread = next) \/ (other ≠ index /\ threads[other]? = some thread) := by
  rw [List.getElem?_set] at found
  by_cases same : index = other
  · rw [if_pos same] at found
    split at found
    · exact Or.inl ⟨same.symm, (Option.some.inj found).symm⟩
    · cases found
  · rw [if_neg same] at found
    exact Or.inr ⟨Ne.symm same, found⟩

/-- Threads other than the one that moved are still there after a turn. -/
theorem mem_set_of_ne {Thread : Type v} {threads : List Thread} {index : Nat}
    {picked next thread : Thread} (found : threads[index]? = some picked)
    (member : thread ∈ threads) (different : thread ≠ picked) : thread ∈ threads.set index next := by
  rcases List.mem_iff_getElem?.mp member with ⟨position, there⟩
  have elsewhere : index ≠ position := by
    rintro rfl
    rw [there] at found
    exact different (Option.some.inj found)
  apply List.mem_iff_getElem?.mpr
  exact ⟨position, (List.getElem?_set_ne elsewhere).trans there⟩

/-- What a thread keeps over its turn, all threads keep. -/
theorem map_set_of_eq {Thread : Type v} {Kept : Type w} {keeps : Thread -> Kept}
    {threads : List Thread} {index : Nat} {thread next : Thread}
    (picked : threads[index]? = some thread) (same : keeps next = keeps thread) :
    (threads.set index next).map keeps = threads.map keeps := by
  have unchanged : (threads.map keeps)[index]? = some (keeps next) := by
    rw [List.getElem?_map, picked, Option.map_some, same]
  rcases List.getElem?_eq_some_iff.mp unchanged with ⟨bound, stays⟩
  rw [List.map_set, ← stays, List.set_getElem_self bound]

end Foundation
end Gateway

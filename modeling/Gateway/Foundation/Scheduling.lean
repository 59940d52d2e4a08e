import Gateway.Foundation.Execution

namespace Gateway
namespace Foundation

/-!
# Threads whose next atomic call is computed

A thread is a program over a shared state.  Its next atomic call is a function
of the shared state and of the point that the thread has reached; a thread that
has returned has no next call.  A schedule names the thread of each turn, so
that a run is computed from it.  A thread that runs alone is how the atomic
calls of a model are compared with the sequential operation.
-/

universe u v w x y

variable {Shared : Type u} {Thread : Type v} {Event : Type w}

/-- One atomic call of a thread. -/
def Advances (next : Shared -> Thread -> Option (Event × Shared × Thread)) (before : Shared)
    (thread : Thread) (event : Event) (after : Shared) (rest : Thread) : Prop :=
  next before thread = some (event, after, rest)

section Schedules

variable (next : Shared -> Thread -> Option (Event × Shared × Thread))
  (check : Configuration Shared Thread -> Nat × Event -> Bool)

/-- Let the thread at the index take its next call, if the check allows it. -/
def takeTurn (system : Configuration Shared Thread) (index : Nat) :
    Option ((Nat × Event) × Configuration Shared Thread) :=
  match system.threads[index]? with
  | none => none
  | some thread =>
      match next system.shared thread with
      | none => none
      | some (event, after, rest) =>
          if check system (index, event) then
            some ((index, event), { shared := after, threads := system.threads.set index rest })
          else none

/-- Let threads take turns in the order of a schedule. -/
def takeTurns (system : Configuration Shared Thread) :
    List Nat -> Option (List (Nat × Event) × Configuration Shared Thread)
  | [] => some ([], system)
  | index :: schedule =>
      match takeTurn next check system index with
      | none => none
      | some (label, after) =>
          (takeTurns after schedule).map fun run => (label :: run.1, run.2)

variable {next check}

theorem takeTurn_turn {system after : Configuration Shared Thread} {index : Nat}
    {label : Nat × Event} (taken : takeTurn next check system index = some (label, after)) :
    Turn (Advances next) system label after /\ check system label = true := by
  unfold takeTurn at taken
  split at taken
  · cases taken
  · next thread picked =>
    split at taken
    · cases taken
    · next event shared rest advances =>
      split at taken
      · next allowed =>
        cases taken
        exact ⟨Turn.take picked advances, allowed⟩
      · cases taken

/-- The run of a schedule is an execution whose steps all pass the check. -/
theorem takeTurns_execution {schedule : List Nat} {system final : Configuration Shared Thread}
    {labels : List (Nat × Event)}
    (taken : takeTurns next check system schedule = some (labels, final)) :
    Execution (fun before label after =>
      Turn (Advances next) before label after /\ check before label = true)
      system labels final := by
  induction schedule generalizing system labels with
  | nil =>
      cases taken
      exact .refl
  | cons index schedule ih =>
      unfold takeTurns at taken
      split at taken
      · cases taken
      · next label after first =>
        rcases Option.map_eq_some_iff.mp taken with ⟨⟨later, last⟩, rest, same⟩
        cases same
        exact (Execution.single (takeTurn_turn first)).trans (ih rest)

end Schedules

/-- Alone, the thread takes the shared state to another one and comes to a
later point of its program. -/
def RunsAlone (next : Shared -> Thread -> Option (Event × Shared × Thread)) (before : Shared)
    (thread : Thread) (after : Shared) (rest : Thread) : Prop :=
  Exists fun labels => Execution (Turn (Advances next))
    { shared := before, threads := [thread] } labels { shared := after, threads := [rest] }

namespace RunsAlone

variable {next : Shared -> Thread -> Option (Event × Shared × Thread)}
  {before middle after : Shared} {thread between rest : Thread} {event : Event}

theorem refl (shared : Shared) (thread : Thread) : RunsAlone next shared thread shared thread :=
  ⟨[], .refl⟩

theorem trans (first : RunsAlone next before thread middle between)
    (second : RunsAlone next middle between after rest) :
    RunsAlone next before thread after rest := by
  rcases first with ⟨earlier, first⟩
  rcases second with ⟨later, second⟩
  exact ⟨earlier ++ later, first.trans second⟩

/-- The first call, and then the rest of the program. -/
theorem call (advances : next before thread = some (event, middle, between))
    (later : RunsAlone next middle between after rest) :
    RunsAlone next before thread after rest := by
  have first : Turn (Advances next) { shared := before, threads := [thread] } (0, event)
      { shared := middle, threads := [between] } := Turn.take rfl advances
  exact trans ⟨_, Execution.single first⟩ later

end RunsAlone

/-- What is left after a call of a program: its result, or the rest of it. -/
inductive Progress (Result : Type x) (Program : Type y) where
  | finished (result : Result)
  | more (rest : Program)

variable {Result : Type x} {Program : Type y} {Inner : Type w}

/-- The thread that a program is a part of goes on with the result, or with the
rest of the program. -/
def Progress.resume (inside : Program -> Thread) (goesOn : Result -> Thread) :
    Progress Result Program -> Thread
  | .finished result => goesOn result
  | .more rest => inside rest

/-- Without interruption the program takes the shared state to another one and
yields a result. -/
inductive RunsTo (next : Shared -> Program -> Inner × Shared × Progress Result Program) :
    Shared -> Program -> Shared -> Result -> Prop where
  | last {before after : Shared} {program : Program} {event : Inner} {result : Result}
      (call : next before program = (event, after, .finished result)) :
      RunsTo next before program after result
  | step {before middle after : Shared} {program rest : Program} {event : Inner} {result : Result}
      (call : next before program = (event, middle, .more rest))
      (later : RunsTo next middle rest after result) : RunsTo next before program after result

/-- A program that runs without interruption does so inside a thread that runs
alone. -/
theorem RunsTo.inside {next : Shared -> Program -> Inner × Shared × Progress Result Program}
    {thread : Shared -> Thread -> Option (Event × Shared × Thread)} (label : Inner -> Event)
    (inside : Program -> Thread) (goesOn : Result -> Thread)
    (embedded : forall shared program, thread shared (inside program) =
      some (label (next shared program).1, (next shared program).2.1,
        (next shared program).2.2.resume inside goesOn))
    {before after : Shared} {program : Program} {result : Result}
    (runs : RunsTo next before program after result) :
    RunsAlone thread before (inside program) after (goesOn result) := by
  induction runs with
  | @last shared _ program _ _ call =>
      have taken := embedded shared program
      rw [call] at taken
      exact RunsAlone.call taken (RunsAlone.refl _ _)
  | @step shared _ _ program _ _ _ call later ih =>
      have taken := embedded shared program
      rw [call] at taken
      exact RunsAlone.call taken ih

end Foundation
end Gateway

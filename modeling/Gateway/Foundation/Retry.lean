import Mathlib

namespace Gateway
namespace Foundation

/-!
# Retry loops

A loop reads inputs and tries each of them until one succeeds.  An attempt may
depend on how many there were before, because its surroundings change in the
meantime, but on nothing else of the past.  The source of the inputs may also
break, which ends the loop.
-/

universe u v w

/-- Where a loop is after the inputs it was given. -/
inductive RetryOutcome (V : Type u) where
  | waiting
  | broken
  | succeeded (value : V)

/-- The failures reported on the way, and the outcome. -/
structure RetryRun (E : Type u) (V : Type v) where
  failures : List E
  outcome : RetryOutcome V

section Loop

variable {X : Type u} {E : Type v} {V : Type w}

def retry (attempt : Nat -> X -> Except E V) : Nat -> List (Option X) -> RetryRun E V
  | _, [] => { failures := [], outcome := .waiting }
  | _, none :: _ => { failures := [], outcome := .broken }
  | turn, some input :: rest =>
      match attempt turn input with
      | .ok value => { failures := [], outcome := .succeeded value }
      | .error failure =>
          let later := retry attempt (turn + 1) rest
          { later with failures := failure :: later.failures }

variable {attempt : Nat -> X -> Except E V}

/-- Each of the inputs fails when its turn comes. -/
def AllFail (attempt : Nat -> X -> Except E V) (turn : Nat) (inputs : List X) : Prop :=
  forall index input, inputs[index]? = some input ->
    Exists fun failure => attempt (turn + index) input = .error failure

theorem AllFail.nil (turn : Nat) : AllFail attempt turn [] := by
  intro index input found
  simp at found

theorem allFail_cons_iff {turn : Nat} {input : X} {inputs : List X} :
    AllFail attempt turn (input :: inputs) <->
      (Exists fun failure => attempt turn input = .error failure) /\
        AllFail attempt (turn + 1) inputs := by
  constructor
  · intro fail
    refine ⟨fail 0 input rfl, ?_⟩
    intro index later found
    rw [Nat.add_right_comm]
    exact fail (index + 1) later found
  · rintro ⟨first, fail⟩ index later found
    cases index with
    | zero =>
        cases found
        exact first
    | succ index =>
        rw [← Nat.add_assoc, Nat.add_right_comm]
        exact fail index later found

/-- Inputs that fail only take turns. -/
theorem retry_of_allFail {turn : Nat} {earlier : List X} (fail : AllFail attempt turn earlier)
    (rest : List (Option X)) :
    (retry attempt turn (earlier.map some ++ rest)).outcome =
      (retry attempt (turn + earlier.length) rest).outcome := by
  induction earlier generalizing turn with
  | nil => rfl
  | cons input earlier ih =>
      rcases allFail_cons_iff.mp fail with ⟨⟨failure, failed⟩, laterFail⟩
      rw [List.map_cons, List.cons_append, retry, failed]
      dsimp only
      rw [ih laterFail, List.length_cons, Nat.add_right_comm, Nat.add_assoc]

/-- A loop succeeds with the result of the first attempt that does not fail. -/
theorem retry_succeeded_iff {turn : Nat} {inputs : List (Option X)} {value : V} :
    (retry attempt turn inputs).outcome = .succeeded value <->
      Exists fun earlier => Exists fun input => Exists fun later =>
        inputs = earlier.map some ++ some input :: later /\ AllFail attempt turn earlier /\
          attempt (turn + earlier.length) input = .ok value := by
  constructor
  · intro succeeded
    induction inputs generalizing turn with
    | nil => cases succeeded
    | cons input inputs ih =>
        cases input with
        | none => cases succeeded
        | some input =>
            cases tried : attempt turn input with
            | ok result =>
                rw [retry, tried] at succeeded
                cases succeeded
                exact ⟨[], input, inputs, rfl, AllFail.nil turn, tried⟩
            | error failure =>
                rw [retry, tried] at succeeded
                rcases ih succeeded with ⟨earlier, last, later, same, fail, result⟩
                refine ⟨input :: earlier, last, later, ?_, ?_, ?_⟩
                · rw [same, List.map_cons, List.cons_append]
                · exact allFail_cons_iff.mpr ⟨⟨failure, tried⟩, fail⟩
                · rw [List.length_cons, ← Nat.add_assoc, Nat.add_right_comm]
                  exact result
  · rintro ⟨earlier, input, later, rfl, fail, result⟩
    rw [retry_of_allFail fail, retry, result]

/-- Only the attempts from now on matter. -/
theorem retry_congr {other : Nat -> X -> Except E V} {turn otherTurn : Nat}
    (same : forall later, attempt (turn + later) = other (otherTurn + later))
    (inputs : List (Option X)) : retry attempt turn inputs = retry other otherTurn inputs := by
  induction inputs generalizing turn otherTurn with
  | nil => rfl
  | cons input inputs ih =>
      cases input with
      | none => rfl
      | some input =>
          have first : attempt turn = other otherTurn := same 0
          have later : retry attempt (turn + 1) inputs = retry other (otherTurn + 1) inputs := by
            apply ih
            intro later
            rw [Nat.add_right_comm, Nat.add_right_comm otherTurn]
            exact same (later + 1)
          rw [retry, retry, first, later]

end Loop

end Foundation
end Gateway

import Gateway.State.RelayCalls

namespace Gateway
namespace State

open Foundation

/-!
# What a refused call leaves behind

The two bookkeeping checks of a call run one after the other, and the first
records the nonce before the second may refuse.  A refusal leaves no trace in
the counters, since the counter it writes back is the one it found.  Hence
exactly the calls that are refused for their rate after their nonce was
recorded are remembered.
-/

/-- From the given time on, every question to the replay cache and to the rate
counters has the same answer in both states. -/
structure AdmissionIntact (before after : GatewayState) (now : Int) : Prop where
  nonces : forall key later, now ≤ later ->
    (GatewayState.ReplayFresh after.relayReplayCache key later <->
      GatewayState.ReplayFresh before.relayReplayCache key later)
  rates : forall key window, after.currentRelayRate key window = before.currentRelayRate key window

theorem AdmissionIntact.refl (state : GatewayState) (now : Int) :
    AdmissionIntact state state now where
  nonces := fun _ _ _ => Iff.rfl
  rates := fun _ _ => rfl

section Refusal

variable (toLowercase : String -> String)

/-- The call has a visible nonce that is fresh, and finds the rate of its
context exhausted. -/
def AuthorizeCall.BurnsNonce (call : AuthorizeCall) (state : GatewayState) : Prop :=
  Exists fun context =>
    call.select toLowercase state.relayContextsBySubject = .ok context /\
    call.visibleNonce ≠ none /\
    call.NonceFresh toLowercase context.contextId state.relayReplayCache /\
    Not (call.RateBelowLimit toLowercase context.contextId state.relayRateCounters)

/-- If the call is refused, then the bookkeeping is intact. -/
def AuthorizeCall.RefusedWithoutTrace (call : AuthorizeCall) (state : GatewayState) : Prop :=
  forall error, (call.perform toLowercase state).1 = .error error ->
    AdmissionIntact state (call.perform toLowercase state).2 call.now

variable {toLowercase}

/-- In intact bookkeeping a later call is decided as before. -/
theorem AdmissionIntact.perform_fst {before after : GatewayState} {now : Int}
    (intact : AdmissionIntact before after now)
    (sameContexts : after.relayContextsBySubject = before.relayContextsBySubject)
    (call : AuthorizeCall) (later : now ≤ call.now) :
    (call.perform toLowercase after).1 = (call.perform toLowercase before).1 := by
  rw [call.perform_eq, call.perform_eq, sameContexts]
  cases call.select toLowercase before.relayContextsBySubject with
  | error error => rfl
  | ok context =>
      apply call.admitUnder_fst_congr toLowercase context
      · rw [call.nonceFresh_iff, call.nonceFresh_iff]
        exact forall₂_congr fun nonce _ => intact.nonces _ _ later
      · unfold AuthorizeCall.RateBelowLimit
        rw [GatewayState.rateBelowLimit_iff, GatewayState.rateBelowLimit_iff, intact.rates]

/-- A counter that is full in a second was found in this second. -/
theorem lookup_of_not_rateBelowLimit {state : GatewayState} {key : String} {now : Int}
    (full : Not (GatewayState.RateBelowLimit state.relayRateCounters key now)) :
    state.relayRateCounters.lookup key = some (state.currentRelayRate key now) := by
  unfold GatewayState.RateBelowLimit at full
  push Not at full
  rcases full with ⟨counter, found, sameWindow, _⟩
  unfold GatewayState.currentRelayRate
  rw [found]
  exact congrArg some (if_neg (not_not.mpr sameWindow)).symm

/-- Writing back the counter that was found changes no rate. -/
theorem currentRelayRate_of_writtenBack {before after : GatewayState} {key : String} {now : Int}
    (full : Not (GatewayState.RateBelowLimit before.relayRateCounters key now))
    (written : after.relayRateCounters =
      before.relayRateCounters.insert key (before.currentRelayRate key now))
    (asked : String) (window : Int) :
    after.currentRelayRate asked window = before.currentRelayRate asked window := by
  have found := lookup_of_not_rateBelowLimit full
  generalize before.currentRelayRate key now = counter at written found
  unfold GatewayState.currentRelayRate
  rw [written, HashTable.lookup_insert_ite]
  by_cases same : asked = key
  · rw [if_pos same, same, found]
  · rw [if_neg same]

/-- A recorded nonce is refused from then on within the window. -/
theorem not_replayFresh_of_recorded (state : GatewayState) (key : String) (now : Int) :
    Not (GatewayState.ReplayFresh
      ((state.recordReplay key now).pruneRelayReplayCache now).relayReplayCache key now) := by
  intro fresh
  have outside := fresh _ (GatewayState.lookup_recorded state key now)
  rw [sub_self] at outside
  exact absurd outside (by decide)

/-- A call that burns its nonce is refused, and the nonce is remembered. -/
theorem AuthorizeCall.BurnsNonce.refused {call : AuthorizeCall} {state : GatewayState}
    (burns : call.BurnsNonce toLowercase state) :
    (call.perform toLowercase state).1 = .error .rateLimited /\
    Not (AdmissionIntact state (call.perform toLowercase state).2 call.now) := by
  rcases burns with ⟨context, selected, visible, fresh, full⟩
  rw [perform_of_ok toLowercase selected]
  constructor
  · rcases GatewayState.admitRelay_cases toLowercase state (call.sender toLowercase)
      call.commandName context call.replayNonce call.now with
      ⟨seen, _⟩ | ⟨_, _, done⟩ | ⟨_, below, _⟩
    · exact absurd fresh seen
    · rw [admitUnder, done]
    · exact absurd below full
  · intro intact
    rcases call.admitUnder_replayCache toLowercase context state with
      ⟨_, nonce, given, written⟩ | ⟨silent, _⟩
    · have freshBefore := (call.nonceFresh_iff toLowercase context.contextId _).mp fresh nonce given
      have freshAfter := (intact.nonces _ call.now (le_refl _)).mpr freshBefore
      rw [written] at freshAfter
      exact not_replayFresh_of_recorded state _ call.now freshAfter
    · exact visible (silent fresh)

/-- The refusals that leave no trace are exactly those of calls that do not
burn a nonce. -/
theorem AuthorizeCall.refusedWithoutTrace_iff (call : AuthorizeCall) (state : GatewayState) :
    call.RefusedWithoutTrace toLowercase state <-> Not (call.BurnsNonce toLowercase state) := by
  constructor
  · intro intact burns
    exact burns.refused.2 (intact _ burns.refused.1)
  · intro careful error refused
    rcases call.perform_cases toLowercase state with
      ⟨_, _, same⟩ | ⟨context, selected, same⟩
    · rw [same]
      exact AdmissionIntact.refl state call.now
    · rw [same] at refused ⊢
      constructor
      · -- the cache changes only if the nonce passes, and then the rate must have refused
        rcases call.admitUnder_replayCache toLowercase context state with
          ⟨fresh, nonce, given, _⟩ | ⟨_, written⟩
        · exfalso
          refine careful ⟨context, selected, ?_, fresh, ?_⟩
          · rw [given]
            exact Option.some_ne_none nonce
          · intro below
            have admitted := (GatewayState.admitRelay_ok_iff toLowercase state
              (call.sender toLowercase) call.commandName context call.replayNonce call.now
              ⟨context.contextId, context.policyVersion⟩).mpr ⟨fresh, below, rfl⟩
            rw [admitUnder, admitted] at refused
            cases refused
        · intro key later _
          rw [written]
      · intro key window
        rcases call.admitUnder_rateCounters toLowercase context state with
          ⟨_, written⟩ | ⟨_, full, written⟩ | ⟨fresh, below, _⟩
        · unfold GatewayState.currentRelayRate
          rw [written]
        · exact currentRelayRate_of_writtenBack full written key window
        · have admitted := (GatewayState.admitRelay_ok_iff toLowercase state
            (call.sender toLowercase) call.commandName context call.replayNonce call.now
            ⟨context.contextId, context.policyVersion⟩).mpr ⟨fresh, below, rfl⟩
          rw [admitUnder, admitted] at refused
          cases refused

end Refusal

/-- Alice has used up her rate of the second 10. -/
def exhaustedState : GatewayState :=
  GatewayState.run asciiLowercase none
    (.applyRelayContextSnapshot 0 transferSnapshot ::
      List.replicate 240 (transferCall "chunk" "" 10).operation)

theorem outcomes_of_exhaustedState :
    ((transferCall "chunk" "n" 10).perform asciiLowercase exhaustedState).1 =
      .error .rateLimited /\
    ((transferCall "chunk" "n" 11).perform asciiLowercase exhaustedState).1 =
      .ok { contextId := "ctx", policyVersion := 1 } /\
    ((transferCall "chunk" "n" 11).perform asciiLowercase
      ((transferCall "chunk" "n" 10).perform asciiLowercase exhaustedState).2).1 =
        .error .replayDetected := by
  decide +kernel

/-- A chunk is refused for its rate, and as a replay when it is sent again in
the next second, in which it would have been admitted. -/
theorem chunk_refused_as_its_own_replay :
    Not ((transferCall "chunk" "n" 10).RefusedWithoutTrace asciiLowercase exhaustedState) := by
  rcases outcomes_of_exhaustedState with ⟨limited, admitted, replayed⟩
  intro intact
  have same : ((transferCall "chunk" "n" 11).perform asciiLowercase
      ((transferCall "chunk" "n" 10).perform asciiLowercase exhaustedState).2).1 =
      ((transferCall "chunk" "n" 11).perform asciiLowercase exhaustedState).1 :=
    (intact _ limited).perform_fst (AuthorizeCall.perform_contexts _ _ _) _ (by decide)
  rw [admitted, replayed] at same
  cases same

end State
end Gateway

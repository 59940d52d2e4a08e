import Gateway.Ingress.Relaying

namespace Gateway
namespace Ingress

open Foundation State

/-!
# What a call has done when it returns

A call ends in one of three ways: it reports one error, it dispatches one relay,
or it sends nothing.  Up to that point it has sent nothing to anybody.
-/

section Outcomes

variable (registry : CommandRegistry) (toLowercase : String -> String) (json : JsonText)
  (reading : ClientReading) (state : GatewayState) (info : ConnectionInfo)

/-- The one thing that the call has sent, if any. -/
def SendsOnce (connectionId : String) (outcome : ClientOutcome) : Prop :=
  Exists fun middle => GatewayState.Silent state middle /\
    match outcome.rejection, outcome.relay with
    | some rejection, relay =>
        relay = none /\ outcome.published = none /\
          outcome.state =
            sendGatewayCommandError json reading.errorNow middle connectionId rejection
    | none, some relay => outcome.state = (dispatchRelay json reading middle relay).1
    | none, none => outcome.state = middle

theorem dispatchRelay_cases (relay : RelayDispatch) :
    (dispatchRelay json reading state relay).2 = some relay \/
      dispatchRelay json reading state relay = (state, none) := by
  unfold dispatchRelay
  cases json.render relay.envelope with
  | none => exact Or.inr rfl
  | some text => exact Or.inl rfl

/-- The relay step refuses, skips or dispatches, and is silent before. -/
theorem relayCommand_shape (msgType : String) (data : Json) (hasSymfonyStep : Bool) :
    Exists fun middle => GatewayState.Silent state middle /\
      match relayCommand registry toLowercase json reading state info msgType data
        hasSymfonyStep with
      | (.error _, after) => after = middle
      | (.ok none, after) => after = middle
      | (.ok (some relay), after) => after = (dispatchRelay json reading middle relay).1 := by
  have silent := authorizeCommand_silent registry toLowercase reading state info msgType data
    (collectRelayTargets toLowercase data)
  unfold relayCommand
  dsimp only
  by_cases nobody : (collectRelayTargets toLowercase data).subjects = []
  · rw [if_pos nobody]
    cases hasSymfonyStep with
    | true => exact ⟨state, .refl state, rfl⟩
    | false => exact ⟨state, .refl state, rfl⟩
  · rw [if_neg nobody]
    cases result : authorizeCommand registry toLowercase reading state info msgType data
        (collectRelayTargets toLowercase data) with
    | mk checked authorized =>
        rw [result] at silent
        refine ⟨authorized, silent, ?_⟩
        cases checked with
        | error rejection => rfl
        | ok done =>
            dsimp only
            rcases dispatchRelay_cases json reading authorized
              ⟨(collectRelayTargets toLowercase data).subjects,
                eventEnvelope (relayPayload data info)⟩ with dispatched | nothing
            · rw [dispatched]
            · rw [nothing]

theorem SendsOnce.of_silent {before middle : GatewayState} {connectionId : String}
    {outcome : ClientOutcome} (silent : GatewayState.Silent before middle)
    (once : SendsOnce json reading middle connectionId outcome) :
    SendsOnce json reading before connectionId outcome := by
  rcases once with ⟨last, quiet, ended⟩
  exact ⟨last, silent.trans quiet, ended⟩

/-- The outcome of a command, given what its relay step returned. -/
theorem runCommand_eq (hasRedis : Bool) (connectionId raw : String) (data : Json)
    (spec : CommandSpec) :
    let steps := runtimeSteps spec
    let prepared := prepareCommand reading state connectionId info (messageType data) data steps.2
    runCommand registry toLowercase json reading hasRedis state connectionId info raw data spec =
      match if steps.1 = true then
          relayCommand registry toLowercase json reading prepared info (messageType data) data
            steps.2
        else (.ok none, prepared) with
      | (.error rejection, refused) =>
          { state := sendGatewayCommandError json reading.errorNow refused connectionId rejection
            rejection := some rejection
            relay := none
            published := none }
      | (.ok relay, done) =>
          { state := done
            rejection := none
            relay := relay
            published :=
              if steps.2 = true ∧ hasRedis = true then
                some (inboxPayload reading connectionId info raw (messageType data) data spec)
              else none } :=
  rfl

variable {toLowercase state} in
/-- The relay step refuses a command that names nobody and has no other step, and
one that is not authorized. -/
theorem relayCommand_error {msgType : String} {data : Json} {hasSymfonyStep : Bool}
    {rejection : CommandRejection} {after : GatewayState}
    (refused : relayCommand registry toLowercase json reading state info msgType data
      hasSymfonyStep = (.error rejection, after)) :
    (rejection.error = "invalid_relay_targets" /\ after = state) \/
      authorizeCommand registry toLowercase reading state info msgType data
        (collectRelayTargets toLowercase data) = (.error rejection, after) := by
  unfold relayCommand at refused
  dsimp only at refused
  by_cases nobody : (collectRelayTargets toLowercase data).subjects = []
  · rw [if_pos nobody] at refused
    cases hasSymfonyStep with
    | true => cases refused
    | false =>
        cases refused
        exact Or.inl ⟨rfl, rfl⟩
  · rw [if_neg nobody] at refused
    right
    cases result : authorizeCommand registry toLowercase reading state info msgType data
        (collectRelayTargets toLowercase data) with
    | mk checked authorized =>
        rw [result] at refused
        cases checked with
        | error authorization =>
            cases refused
            rfl
        | ok done => cases refused

variable {toLowercase reading state info} in
/-- A message is rejected by the screening or, after the command was prepared, by
the relay step.  The rejection is then reported, and nothing is published. -/
theorem handleClientMessage_rejection {hasRedis : Bool} {connectionId raw : String}
    {rejection : CommandRejection}
    (rejected : (handleClientMessage registry toLowercase json reading hasRedis state connectionId
      info raw).rejection = some rejection) :
    let data := decodeMessage json raw
    let alive := state.markConnectionAlive connectionId reading.aliveNow
    let report := fun middle => (⟨sendGatewayCommandError json reading.errorNow middle connectionId
      rejection, some rejection, none, none⟩ : ClientOutcome)
    let outcome := handleClientMessage registry toLowercase json reading hasRedis state connectionId
      info raw
    trim raw ≠ "" /\
      ((screenCommand registry (messageType data) = .error rejection /\ outcome = report alive) \/
      Exists fun spec => Exists fun after =>
        screenCommand registry (messageType data) = .ok (some spec) /\
        (runtimeSteps spec).1 = true /\
        relayCommand registry toLowercase json reading
          (prepareCommand reading alive connectionId info (messageType data) data
            (runtimeSteps spec).2) info (messageType data) data (runtimeSteps spec).2 =
          (.error rejection, after) /\
        outcome = report after) := by
  intro data alive report outcome
  simp only [outcome]
  unfold handleClientMessage at rejected ⊢
  by_cases blank : trim raw = ""
  · rw [if_pos blank] at rejected
    cases rejected
  · rw [if_neg blank] at rejected ⊢
    refine ⟨blank, ?_⟩
    dsimp only at rejected ⊢
    cases screened : screenCommand registry (messageType data) with
    | error screening =>
        rw [screened] at rejected
        cases rejected
        exact Or.inl ⟨rfl, rfl⟩
    | ok passed =>
        rw [screened] at rejected
        cases passed with
        | none => cases rejected
        | some spec =>
            right
            dsimp only at rejected ⊢
            rw [runCommand_eq] at rejected ⊢
            by_cases subjects : (runtimeSteps spec).1 = true
            · rw [if_pos subjects] at rejected ⊢
              cases result : relayCommand registry toLowercase json reading
                  (prepareCommand reading alive connectionId info (messageType data) data
                    (runtimeSteps spec).2) info (messageType data) data (runtimeSteps spec).2 with
              | mk relayed after =>
                  rw [result] at rejected
                  cases relayed with
                  | error relayRejection =>
                      cases rejected
                      exact ⟨spec, after, rfl, subjects, result, rfl⟩
                  | ok relay => cases rejected
            · rw [if_neg subjects] at rejected
              cases rejected

theorem runCommand_sendsOnce (hasRedis : Bool) (connectionId raw : String) (data : Json)
    (spec : CommandSpec) :
    SendsOnce json reading state connectionId
      (runCommand registry toLowercase json reading hasRedis state connectionId info raw data
        spec) := by
  have silent := prepareCommand_silent reading state info connectionId (messageType data) data
    (runtimeSteps spec).2
  rw [runCommand_eq]
  generalize prepareCommand reading state connectionId info (messageType data) data
    (runtimeSteps spec).2 = prepared at silent ⊢
  apply SendsOnce.of_silent json reading silent
  by_cases subjects : (runtimeSteps spec).1 = true
  · rw [if_pos subjects]
    rcases relayCommand_shape registry toLowercase json reading prepared info (messageType data)
      data (runtimeSteps spec).2 with ⟨middle, quiet, ended⟩
    cases result : relayCommand registry toLowercase json reading prepared info (messageType data)
        data (runtimeSteps spec).2 with
    | mk relayed after =>
        rw [result] at ended
        cases relayed with
        | error rejection => exact ⟨middle, quiet, rfl, rfl, by rw [ended]⟩
        | ok relay =>
            cases relay with
            | none => exact ⟨middle, quiet, ended⟩
            | some relay => exact ⟨middle, quiet, ended⟩
  · rw [if_neg subjects]
    exact ⟨prepared, .refl prepared, rfl⟩

/-- Every call sends at most one thing, which is an error report exactly if it
ends with a rejection. -/
theorem handleClientMessage_sendsOnce (hasRedis : Bool) (connectionId raw : String) :
    SendsOnce json reading state connectionId
      (handleClientMessage registry toLowercase json reading hasRedis state connectionId info
        raw) := by
  have alive := GatewayState.markConnectionAlive_silent state connectionId reading.aliveNow
  unfold handleClientMessage
  by_cases blank : trim raw = ""
  · rw [if_pos blank]
    exact ⟨state, .refl state, rfl⟩
  · rw [if_neg blank]
    dsimp only
    apply SendsOnce.of_silent json reading alive
    generalize state.markConnectionAlive connectionId reading.aliveNow = marked
    cases screenCommand registry (messageType (decodeMessage json raw)) with
    | error rejection => exact ⟨marked, .refl marked, rfl, rfl, rfl⟩
    | ok screened =>
        cases screened with
        | none => exact ⟨marked, .refl marked, rfl⟩
        | some spec =>
            exact runCommand_sendsOnce registry toLowercase json reading marked info hasRedis
              connectionId raw (decodeMessage json raw) spec

end Outcomes

end Ingress
end Gateway

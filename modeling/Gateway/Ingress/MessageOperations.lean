import Gateway.Ingress.ClientMessage
import Gateway.State.Operations

namespace Gateway
namespace Ingress

open Foundation State

/-!
# The operations that a client message performs

Handling a client message marks its connection alive and then calls the state a
few more times, always on behalf of that connection and its user.  At most one
request route is bound, and its id is known from the message alone.
-/

section Messages

variable (registry : CommandRegistry) (toLowercase : String -> String) (json : JsonText)
  (reading : ClientReading) (connectionId : String) (info : ConnectionInfo) (raw : String)

/-- The request id that a message binds, which takes a command with a backend
step. -/
def boundRequest : Option String :=
  if trim raw = "" then none
  else
    match screenCommand registry (messageType (decodeMessage json raw)) with
    | .ok (some spec) =>
        if (runtimeSteps spec).2 = true then (decodeMessage json raw).trimmedField "request_id"
        else none
    | _ => none

/-- The operations that handling the message may perform. -/
inductive MessageOperation : Operation -> Prop where
  | alive : MessageOperation (.markConnectionAlive connectionId reading.aliveNow)
  | bind {requestId : String} (binds : boundRequest registry json raw = some requestId) :
      MessageOperation (.bindRequestRoute reading.bindNow requestId connectionId info.userId)
  | ready :
      MessageOperation
        (.markSessionReady reading.readyOrder reading.readyNow connectionId info.userId)
  | authorize (commandName : String) (authSpec : RelayAuthorizationSpec) (operationKey : String)
      (targetEmails : List String) (nonce : Option String) (sizeHint : Option Nat) :
      MessageOperation (.authorizeRelayHotpath info.userId commandName authSpec operationKey
        targetEmails nonce sizeHint reading.authorizeNow)
  | dispatch (subjects : List String) (text : String) :
      MessageOperation (.sendToSubjects reading.dispatchOrder reading.stickyNow
        reading.dispatchNow subjects text true none)
  | report (text : String) : MessageOperation (.sendToConnection connectionId text)

variable {registry json reading connectionId info raw} in
theorem MessageOperation.performs {operation : Operation}
    (allowed : MessageOperation registry json reading connectionId info raw operation)
    (state : GatewayState) :
    Performs toLowercase (MessageOperation registry json reading connectionId info raw) state
      (operation.apply toLowercase state) :=
  .operation allowed state

variable (state : GatewayState)

theorem sendGatewayCommandError_performs (now : Int) (rejection : CommandRejection) :
    Performs toLowercase (MessageOperation registry json reading connectionId info raw) state
      (sendGatewayCommandError json now state connectionId rejection) := by
  unfold sendGatewayCommandError
  split
  · exact .refl state
  · exact MessageOperation.performs toLowercase (.report _) state

theorem prepareCommand_performs (msgType : String) {data : Json} {hasSymfonyStep : Bool}
    (binds : forall requestId, hasSymfonyStep = true ->
      data.trimmedField "request_id" = some requestId ->
      boundRequest registry json raw = some requestId) :
    Performs toLowercase (MessageOperation registry json reading connectionId info raw) state
      (prepareCommand reading state connectionId info msgType data hasSymfonyStep) := by
  have bound : Performs toLowercase
      (MessageOperation registry json reading connectionId info raw) state
      (bindCommand reading state connectionId info data hasSymfonyStep) := by
    unfold bindCommand
    split
    · exact .refl state
    · next requestId named =>
      split
      · next backend =>
        exact MessageOperation.performs toLowercase (.bind (binds requestId backend named)) state
      · exact .refl state
  unfold prepareCommand
  dsimp only
  split
  · exact bound.trans (MessageOperation.performs toLowercase .ready _)
  · exact bound

theorem authorizeCommand_performs (msgType : String) (data : Json) (targets : RelayTargets) :
    Performs toLowercase (MessageOperation registry json reading connectionId info raw) state
      (authorizeCommand registry toLowercase reading state info msgType data targets).2 :=
  authorizeCommand_keeps
    (Performs toLowercase (MessageOperation registry json reading connectionId info raw) state)
    (.refl state) fun _ => MessageOperation.performs toLowercase (.authorize _ _ _ _ _ _) state

theorem dispatchRelay_performs (relay : RelayDispatch) :
    Performs toLowercase (MessageOperation registry json reading connectionId info raw) state
      (dispatchRelay json reading state relay).1 := by
  unfold dispatchRelay
  split
  · exact .refl state
  · exact MessageOperation.performs toLowercase (.dispatch _ _) state

theorem relayCommand_performs (msgType : String) (data : Json) (hasSymfonyStep : Bool) :
    Performs toLowercase (MessageOperation registry json reading connectionId info raw) state
      (relayCommand registry toLowercase json reading state info msgType data
        hasSymfonyStep).2 := by
  have authorization := authorizeCommand_performs registry toLowercase json reading connectionId
    info raw state msgType data (collectRelayTargets toLowercase data)
  unfold relayCommand
  dsimp only
  split
  · split
    · exact .refl state
    · exact .refl state
  · split
    · next result =>
      rw [result] at authorization
      exact authorization
    · next authorized result =>
      rw [result] at authorization
      exact authorization.trans (dispatchRelay_performs registry toLowercase json reading
        connectionId info raw authorized _)

theorem runCommand_performs (hasRedis : Bool) (data : Json) (spec : CommandSpec)
    (binds : forall requestId, (runtimeSteps spec).2 = true ->
      data.trimmedField "request_id" = some requestId ->
      boundRequest registry json raw = some requestId) :
    Performs toLowercase (MessageOperation registry json reading connectionId info raw) state
      (runCommand registry toLowercase json reading hasRedis state connectionId info raw data
        spec).state := by
  have prepared := prepareCommand_performs registry toLowercase json reading connectionId info raw
    state (messageType data) binds
  have relayed := prepared.trans (relayCommand_performs registry toLowercase json reading
    connectionId info raw
    (prepareCommand reading state connectionId info (messageType data) data (runtimeSteps spec).2)
    (messageType data) data (runtimeSteps spec).2)
  unfold runCommand
  dsimp only
  by_cases subjects : (runtimeSteps spec).1 = true
  · rw [if_pos subjects]
    split
    · next rejection refused result =>
      rw [result] at relayed
      exact relayed.trans (sendGatewayCommandError_performs registry toLowercase json reading
        connectionId info raw refused _ rejection)
    · next result =>
      rw [result] at relayed
      exact relayed
  · rw [if_neg subjects]
    exact prepared

/-- Handling a client message performs operations of the message only. -/
theorem handleClientMessage_performs (hasRedis : Bool) :
    Performs toLowercase (MessageOperation registry json reading connectionId info raw) state
      (handleClientMessage registry toLowercase json reading hasRedis state connectionId info
        raw).state := by
  have alive : Performs toLowercase
      (MessageOperation registry json reading connectionId info raw) state
      (state.markConnectionAlive connectionId reading.aliveNow) :=
    MessageOperation.performs toLowercase .alive state
  unfold handleClientMessage
  split
  · exact .refl state
  · next visible =>
    dsimp only
    split
    · next rejection _ =>
      exact alive.trans (sendGatewayCommandError_performs registry toLowercase json reading
        connectionId info raw _ _ rejection)
    · exact alive
    · next spec screened =>
      refine alive.trans (runCommand_performs registry toLowercase json reading connectionId info
        raw _ hasRedis _ spec ?_)
      intro requestId backend named
      rw [boundRequest, if_neg visible, screened]
      dsimp only
      rw [if_pos backend, named]

end Messages

end Ingress
end Gateway

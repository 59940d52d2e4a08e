import Gateway.Ingress.Message
import Gateway.Ingress.Routes
import Gateway.State.Connections
import Gateway.State.Relay

namespace Gateway
namespace Ingress

open Foundation State

/-!
# Handling a client message

A message is screened by the class of its command.  A relayed command is
authorized against the contexts of its sender and then dispatched to its
targets; a backend command, or a relayed one that is mirrored, is published to
the backend.  Every refusal is reported to the sending connection.
-/

/-- The clock readings and iteration orders of one call, and the random id that
it may generate. -/
structure ClientReading where
  aliveNow : Int
  bindNow : Int
  readyOrder : HashOrder String
  readyNow : Int
  authorizeNow : Int
  dispatchOrder : HashOrder String
  stickyNow : Int
  dispatchNow : Int
  errorNow : Int
  internalId : String
  timestampMs : Int

/-- What a `gateway_command_error` reports. -/
structure CommandRejection where
  command : String
  error : String
  message : String
  deriving DecidableEq, Repr

/-- What was handed to `send_to_subjects`. -/
structure RelayDispatch where
  subjects : List String
  envelope : Json

/-- The state after a call and what the call did: the refusal it reported, the
relay it dispatched, and the payload it published to the backend. -/
structure ClientOutcome where
  state : GatewayState
  rejection : Option CommandRejection
  relay : Option RelayDispatch
  published : Option Json

def commandErrorEnvelope (rejection : CommandRejection) (now : Int) : Json :=
  eventEnvelope <| Json.ofFields
    [("type", .string "gateway_command_error"),
      ("command", .string rejection.command),
      ("error", .string rejection.error),
      ("message", .string rejection.message),
      ("ts", Json.ofInt now)]

def sendGatewayCommandError (json : JsonText) (now : Int) (state : GatewayState)
    (connectionId : String) (rejection : CommandRejection) : GatewayState :=
  match json.render (commandErrorEnvelope rejection now) with
  | none => state
  | some text => (state.sendToConnection connectionId text).2

/-- The checks on the type of a message.  A command that the gateway answers by
itself needs nothing further. -/
def screenCommand (registry : CommandRegistry) (msgType : String) :
    Except CommandRejection (Option CommandSpec) :=
  if trim msgType = "" then
    .error ⟨"", "invalid_command", "Message type is required."⟩
  else
    match registry.resolveCommandSpec msgType with
    | none => .error ⟨msgType, "unsupported_command", "Command is not registered."⟩
    | some spec =>
        match spec.routingClass with
        | .noAuth =>
            .error ⟨msgType, "preauth_only_command", "Command is only allowed during preauth."⟩
        | .gatewayLocal =>
            if msgType = "ping" then .ok none
            else
              .error ⟨msgType, "invalid_gateway_local_command",
                "Unsupported gateway-local command."⟩
        | .relayHotpath => .ok (some spec)
        | .backendControl => .ok (some spec)

structure RelayTargets where
  emails : List String
  subjects : List String
  deriving DecidableEq, Repr

section Targets

variable (toLowercase : String -> String)

def appendTargetVariants (targets : RelayTargets) (value : String) : RelayTargets :=
  if trim value = "" then targets
  else
    { emails := targets.emails ++ [toLowercase (trim value)]
      subjects :=
        targets.subjects ++ ["user:" ++ trim value, "user:" ++ toLowercase (trim value)] }

/-- Drop repetitions that stand next to each other. -/
def dedup : List String -> List String
  | first :: second :: rest =>
      if first = second then dedup (second :: rest) else first :: dedup (second :: rest)
  | values => values

def sortDedup (values : List String) : List String :=
  dedup (values.insertionSort (· ≤ ·))

/-- The names in `to` and `recipients`. -/
def relayTargetNames (data : Json) : List String :=
  (data.strField "to").toList ++ data.stringsField "recipients"

def collectRelayTargets (data : Json) : RelayTargets :=
  let collected := (relayTargetNames data).foldl (appendTargetVariants toLowercase) ⟨[], []⟩
  { emails := sortDedup collected.emails, subjects := sortDedup collected.subjects }

end Targets

section Relaying

variable (registry : CommandRegistry) (toLowercase : String -> String) (json : JsonText)

/-- The nonce of a relayed message. -/
def replayNonce (data : Json) : Option String := data.strField "nonce" <|> data.strField "header"

/-- The operation key of a relayed message, trimmed, or the empty string. -/
def operationKeyOf (data : Json) (authSpec : RelayAuthorizationSpec) : String :=
  ((data.strField authSpec.operationKeyField).map trim).getD ""

def payloadSizeHint (data : Json) : Option Nat :=
  (data.strField "ciphertext").map String.utf8ByteSize

/-- The authorization of a relayed command with at least one target. -/
def authorizeCommand (reading : ClientReading) (state : GatewayState) (info : ConnectionInfo)
    (msgType : String) (data : Json) (targets : RelayTargets) :
    Except CommandRejection Unit × GatewayState :=
  match registry.resolveRelayAuthorizationSpec msgType with
  | none =>
      (.error ⟨msgType, "relay_auth_spec_missing", "Relay command has no authorization metadata."⟩,
        state)
  | some authSpec =>
      if operationKeyOf data authSpec = "" then
        (.error ⟨msgType, "relay_operation_key_missing", "Relay command is missing operation key."⟩,
          state)
      else if authSpec.requiresRelayContext = true then
        match state.authorizeRelayHotpath toLowercase info.userId msgType authSpec
            (operationKeyOf data authSpec) targets.emails (replayNonce data) (payloadSizeHint data)
            reading.authorizeNow with
        | (.ok _, authorized) => (.ok (), authorized)
        | (.error error, refused) =>
            (.error ⟨msgType, error.code, "Relay authorization failed."⟩, refused)
      else (.ok (), state)

/-- The payload that is relayed.  The sender is filled in where the message
names none. -/
def relayPayload (data : Json) (info : ConnectionInfo) : Json :=
  if ((data.strField "from").map trim).getD "" = "" then data.set "from" (.string info.userId)
  else data

def dispatchRelay (reading : ClientReading) (state : GatewayState) (relay : RelayDispatch) :
    GatewayState × Option RelayDispatch :=
  match json.render relay.envelope with
  | none => (state, none)
  | some text =>
      ((state.sendToSubjects reading.dispatchOrder reading.stickyNow reading.dispatchNow
        relay.subjects text true none).2, some relay)

/-- The relay step.  Without targets it is skipped, which is an error unless the
command also goes to the backend. -/
def relayCommand (reading : ClientReading) (state : GatewayState) (info : ConnectionInfo)
    (msgType : String) (data : Json) (hasSymfonyStep : Bool) :
    Except CommandRejection (Option RelayDispatch) × GatewayState :=
  let targets := collectRelayTargets toLowercase data
  if targets.subjects = [] then
    if hasSymfonyStep = true then (.ok none, state)
    else
      (.error ⟨msgType, "invalid_relay_targets",
        "Relay command requires at least one target subject."⟩, state)
  else
    match authorizeCommand registry toLowercase reading state info msgType data targets with
    | (.error rejection, refused) => (.error rejection, refused)
    | (.ok (), authorized) =>
        let dispatched := dispatchRelay json reading authorized
          ⟨targets.subjects, eventEnvelope (relayPayload data info)⟩
        (.ok dispatched.2, dispatched.1)

/-! ## The whole call -/

/-- The relay step and the backend step of a command. -/
def runtimeSteps (spec : CommandSpec) : Bool × Bool :=
  match spec.routingClass with
  | .relayHotpath => (true, spec.mirrorToBackend)
  | .backendControl => (false, true)
  | _ => (false, false)

def runtimePath (steps : Bool × Bool) : List String :=
  (if steps.1 = true then ["subjects"] else []) ++ (if steps.2 = true then ["symfony"] else [])

/-- The message as it is published to the backend. -/
def inboxPayload (reading : ClientReading) (connectionId : String) (info : ConnectionInfo)
    (raw msgType : String) (data : Json) (spec : CommandSpec) : Json :=
  Json.ofFields
    [("type", .string "message_received"),
      ("internal_id", .string reading.internalId),
      ("timestamp_ms", Json.ofInt reading.timestampMs),
      ("user_id", .string info.userId),
      ("channel_id", .string (extractChannelId data info.userId)),
      ("flags", (extractFlags data).toJson),
      ("payload", extractPayload data),
      ("connection_id", .string connectionId),
      ("subjects", .array (info.subjects.map Json.string)),
      ("connected_at", Json.ofInt info.connectedAt),
      ("message", data),
      ("raw", .string raw),
      ("command_type", .string msgType),
      ("routing_class", .string spec.routingClass.asStr),
      ("semantic_type", .string spec.messageType.asStr),
      ("runtime_path", .array ((runtimePath (runtimeSteps spec)).map Json.string))]

/-- Bind the request route of a command with a backend step. -/
def bindCommand (reading : ClientReading) (state : GatewayState) (connectionId : String)
    (info : ConnectionInfo) (data : Json) (hasSymfonyStep : Bool) : GatewayState :=
  match data.trimmedField "request_id" with
  | none => state
  | some requestId =>
      if hasSymfonyStep = true then
        state.bindRequestRoute reading.bindNow requestId connectionId info.userId
      else state

/-- Bind the route, and note a session that is ready. -/
def prepareCommand (reading : ClientReading) (state : GatewayState) (connectionId : String)
    (info : ConnectionInfo) (msgType : String) (data : Json) (hasSymfonyStep : Bool) :
    GatewayState :=
  let bound := bindCommand reading state connectionId info data hasSymfonyStep
  if msgType = "session_ready" then
    (bound.markSessionReady reading.readyOrder reading.readyNow connectionId info.userId).2
  else bound

/-- A text that is not JSON is treated as a raw message. -/
def decodeMessage (raw : String) : Json :=
  (json.parse raw).getD (Json.ofFields [("type", .string "raw"), ("payload", .string raw)])

def messageType (data : Json) : String := (data.strField "type").getD ""

/-- The part of the call after screening. -/
def runCommand (reading : ClientReading) (hasRedis : Bool) (state : GatewayState)
    (connectionId : String) (info : ConnectionInfo) (raw : String) (data : Json)
    (spec : CommandSpec) : ClientOutcome :=
  let msgType := messageType data
  let steps := runtimeSteps spec
  let prepared := prepareCommand reading state connectionId info msgType data steps.2
  let relayed : Except CommandRejection (Option RelayDispatch) × GatewayState :=
    if steps.1 = true then
      relayCommand registry toLowercase json reading prepared info msgType data steps.2
    else (.ok none, prepared)
  match relayed with
  | (.error rejection, refused) =>
      { state := sendGatewayCommandError json reading.errorNow refused connectionId rejection
        rejection := some rejection
        relay := none
        published := none }
  | (.ok relay, done) =>
      { state := done
        rejection := none
        relay := relay
        published :=
          if steps.2 = true ∧ hasRedis = true then
            some (inboxPayload reading connectionId info raw msgType data spec)
          else none }

def handleClientMessage (reading : ClientReading) (hasRedis : Bool) (state : GatewayState)
    (connectionId : String) (info : ConnectionInfo) (raw : String) : ClientOutcome :=
  if trim raw = "" then { state := state, rejection := none, relay := none, published := none }
  else
    let alive := state.markConnectionAlive connectionId reading.aliveNow
    let data := decodeMessage json raw
    match screenCommand registry (messageType data) with
    | .error rejection =>
        { state := sendGatewayCommandError json reading.errorNow alive connectionId rejection
          rejection := some rejection
          relay := none
          published := none }
    | .ok none => { state := alive, rejection := none, relay := none, published := none }
    | .ok (some spec) =>
        runCommand registry toLowercase json reading hasRedis alive connectionId info raw data spec

variable {registry toLowercase} {reading : ClientReading} {state : GatewayState}
  {info : ConnectionInfo} {data : Json}

/-- Preparing a command binds at most one route, and then possibly notes a
session that is ready. -/
theorem prepareCommand_keeps (holds : GatewayState -> Prop) (initial : holds state)
    {connectionId : String} (binds : forall requestId,
      holds (state.bindRequestRoute reading.bindNow requestId connectionId info.userId))
    (ready : forall bound, holds bound ->
      holds (bound.markSessionReady reading.readyOrder reading.readyNow connectionId
        info.userId).2)
    (msgType : String) (hasSymfonyStep : Bool) :
    holds (prepareCommand reading state connectionId info msgType data hasSymfonyStep) := by
  have bound : holds (bindCommand reading state connectionId info data hasSymfonyStep) := by
    unfold bindCommand
    split
    · exact initial
    · split
      · exact binds _
      · exact initial
  unfold prepareCommand
  dsimp only
  split
  · exact ready _ bound
  · exact bound

/-- Authorizing a command makes at most one call of the store. -/
theorem authorizeCommand_keeps (holds : GatewayState -> Prop) (initial : holds state)
    {msgType : String} {targets : RelayTargets} (authorizes : forall authSpec,
      holds (state.authorizeRelayHotpath toLowercase info.userId msgType authSpec
        (operationKeyOf data authSpec) targets.emails (replayNonce data) (payloadSizeHint data)
        reading.authorizeNow).2) :
    holds (authorizeCommand registry toLowercase reading state info msgType data targets).2 := by
  unfold authorizeCommand
  split
  · exact initial
  · next authSpec _ =>
    have authorized := authorizes authSpec
    split
    · exact initial
    · split
      · split
        · next result =>
          rw [result] at authorized
          exact authorized
        · next result =>
          rw [result] at authorized
          exact authorized
      · exact initial

end Relaying

end Ingress
end Gateway

import Gateway.Ingress.Confinement

namespace Gateway
namespace Ingress

open Foundation State

/-!
# The sender of a relayed message

A relayed message goes out with the fields it came with.  Only where it names
no sender is the user of the connection filled in; a sender that the client
chose is relayed as it is.
-/

/-- The field `from` of the payload of an event. -/
def senderOf (envelope : Json) : Option Json :=
  (envelope.get "payload").bind fun payload => payload.get "from"

/-- The message has no field `from`, or one that is not a string or blank. -/
def NamesNoSender (data : Json) : Prop :=
  forall name, data.strField "from" = some name -> trim name = ""

theorem eventEnvelope_payload (payload : Json) :
    (eventEnvelope payload).get "payload" = some payload :=
  Json.get_ofFields_concat [("type", .string "event")] "payload" payload

theorem relayPayload_of_unnamed {data : Json} (unnamed : NamesNoSender data)
    (info : ConnectionInfo) :
    relayPayload data info = data.set "from" (.string info.userId) := by
  have blank : ((data.strField "from").map trim).getD "" = "" := by
    cases field : data.strField "from" with
    | none => rfl
    | some name => exact unnamed name field
  rw [relayPayload, if_pos blank]

theorem relayPayload_of_named {data : Json} {name : String}
    (field : data.strField "from" = some name) (visible : trim name ≠ "")
    (info : ConnectionInfo) : relayPayload data info = data := by
  have named : ((data.strField "from").map trim).getD "" ≠ "" := by
    rw [field]
    exact visible
  rw [relayPayload, if_neg named]

/-- A message that is relayed is an object. -/
theorem CommandAuthorized.isObject {registry : CommandRegistry} {toLowercase : String -> String}
    {reading : ClientReading} {state : GatewayState} {info : ConnectionInfo} {msgType : String}
    {data : Json} {targets : RelayTargets} {authSpec : RelayAuthorizationSpec}
    (passed : CommandAuthorized registry toLowercase reading state info msgType data targets
      authSpec) : Exists fun fields => data = .object fields := by
  cases field : data.get authSpec.operationKeyField with
  | none =>
      exact absurd (by rw [operationKeyOf, Json.strField, field]; rfl) passed.key
  | some value => exact Json.exists_object_of_get field

section Sender

variable {registry : CommandRegistry} {toLowercase : String -> String} {json : JsonText}
  {reading : ClientReading} {state : GatewayState} {info : ConnectionInfo}

/-- A call without a relay sends nothing but possibly an error report.  A relay
puts the text of its envelope on the queues of its subjects, and nothing else is sent.
The envelope carries the user of the connection as its sender if the message names
none, and the named one otherwise. -/
theorem relayed_sender_unless_named (hasRedis : Bool) (connectionId raw : String) :
    let outcome := handleClientMessage registry toLowercase json reading hasRedis state
      connectionId info raw
    let data := decodeMessage json raw
    (outcome.relay = none -> OnlyReports json state connectionId outcome) /\
    forall relay, outcome.relay = some relay ->
      Dispatches json reading state relay outcome.state /\
      (NamesNoSender data -> senderOf relay.envelope = some (.string info.userId)) /\
      forall name, data.strField "from" = some name -> trim name ≠ "" ->
        senderOf relay.envelope = some (.string name) := by
  intro outcome data
  rcases handleClientMessage_cases registry toLowercase json reading state info hasRedis
    connectionId raw with only | ⟨⟨same, dispatches⟩, _, _, _, _, _, _, passed⟩
  · refine ⟨fun _ => only, fun relay relayed => ?_⟩
    cases only.1.symm.trans relayed
  · refine ⟨fun nothing => ?_, fun relay relayed => ?_⟩
    · cases nothing.symm.trans same
    cases Option.some.inj (relayed.symm.trans same)
    have envelope : senderOf (relayOf toLowercase info data).envelope =
        (relayPayload data info).get "from" := by
      rw [relayOf, senderOf, eventEnvelope_payload, Option.bind_some]
    rw [envelope]
    refine ⟨dispatches, ?_, ?_⟩
    · intro unnamed
      rw [relayPayload_of_unnamed unnamed, Json.get_set_self passed.isObject]
    · intro name field visible
      rw [relayPayload_of_named field visible]
      rcases Option.bind_eq_some_iff.mp field with ⟨value, found, text⟩
      cases value with
      | string value => exact found.trans (congrArg (some ∘ Json.string) (Option.some.inj text))
      | _ => cases text

end Sender

theorem relayed_sender_unless_named_of_chunk : Exists fun relay =>
    (handleClientMessage builtinRegistry asciiLowercase chunkJson (readingAt 10) false
      transferState "conn-a" aliceInfo chunkText).relay = some relay /\
    Dispatches chunkJson (readingAt 10) transferState relay (handleClientMessage builtinRegistry
      asciiLowercase chunkJson (readingAt 10) false transferState "conn-a" aliceInfo
      chunkText).state /\
    (NamesNoSender (decodeMessage chunkJson chunkText) ->
      senderOf relay.envelope = some (.string "alice@test.de")) /\
    forall name, (decodeMessage chunkJson chunkText).strField "from" = some name ->
      trim name ≠ "" -> senderOf relay.envelope = some (.string name) := by
  have relays : (handleClientMessage builtinRegistry asciiLowercase chunkJson (readingAt 10) false
      transferState "conn-a" aliceInfo chunkText).relay.isSome = true := by decide +kernel
  rcases Option.isSome_iff_exists.mp relays with ⟨relay, relayed⟩
  exact ⟨relay, relayed, (relayed_sender_unless_named false "conn-a" chunkText).2 relay relayed⟩

/-- Alice sends a chunk in the name of Mallory. -/
def forgedText : String :=
  "\x7b\"type\":\"file_transfer_chunk\",\"transfer_id\":\"ft-1\",\"to\":\"bob@test.de\"," ++
    "\"from\":\"mallory@test.de\"\x7d"

def forgedJson : JsonText :=
  .ofTexts [(forgedText, chunkData.set "from" (.string "mallory@test.de"))]

/-- Mallory is the sender of the envelope that is dispatched, and of the text that
reaches Bob. -/
theorem named_sender_is_relayed :
    let outcome := handleClientMessage builtinRegistry asciiLowercase forgedJson (readingAt 10)
      false transferState "conn-a" aliceInfo forgedText
    (¬ forall relay, outcome.relay = some relay ->
        Dispatches forgedJson (readingAt 10) transferState relay outcome.state ->
        senderOf relay.envelope = some (.string aliceInfo.userId)) /\
      outcome.state.textsOn 1 =
        ["\x7b\"payload\":\x7b\"from\":\"mallory@test.de\",\"to\":\"bob@test.de\"," ++
          "\"transfer_id\":\"ft-1\",\"type\":\"file_transfer_chunk\"\x7d," ++
          "\"type\":\"event\"\x7d"] := by
  intro outcome
  refine ⟨fun authentic => ?_, by decide +kernel⟩
  have forged : (outcome.relay.bind fun relay => (senderOf relay.envelope).bind Json.asStr) =
      some "mallory@test.de" := by decide +kernel
  rcases Option.bind_eq_some_iff.mp forged with ⟨relay, relayed, sender⟩
  rcases handleClientMessage_cases builtinRegistry asciiLowercase forgedJson (readingAt 10)
    transferState aliceInfo false "conn-a" forgedText with
    ⟨nothing, _⟩ | ⟨⟨same, dispatches⟩, _⟩
  · cases nothing.symm.trans relayed
  · rw [authentic relay relayed (Option.some.inj (same.symm.trans relayed) ▸ dispatches)] at sender
    exact absurd sender (by decide)

end Ingress
end Gateway

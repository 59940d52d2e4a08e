import Gateway.Foundation.JsonCompact
import Gateway.Ingress.Registry
import Gateway.Ingress.Relaying
import Gateway.State.Operations
import Gateway.State.RelayAdmission

namespace Gateway
namespace Ingress

open Foundation State

/-!
# Relays are confined to authorized targets

If handling a client message puts a text on any queue, other than an error
report on the queue of the sending connection, then the message was a relayed
command that passed its checks.  A command that requires a context is only
dispatched to peers of an active context of its sender.
-/

/-- The text was appended to the queue of a channel. -/
def Appended (before after : GatewayState) (index : Nat) (text : String) : Prop :=
  Exists fun added => after.textsOn index = before.textsOn index ++ added /\ text ∈ added

def IsCommandError (json : JsonText) (text : String) : Prop :=
  Exists fun rejection => Exists fun now =>
    json.render (commandErrorEnvelope rejection now) = some text

/-- Some queue gained more than an error report to the channel `own`. -/
def SendsMore (json : JsonText) (before after : GatewayState) (own : Nat) : Prop :=
  (Exists fun index => Exists fun text => Appended before after index text /\
    ¬ (index = own /\ IsCommandError json text)) \/
  Exists fun subject =>
    after.pendingBySubject.lookup subject ≠ before.pendingBySubject.lookup subject

/-- An active, unexpired context of the user under the operation key whose
peers include every subject. -/
structure ContextCovers (toLowercase : String -> String) (state : GatewayState)
    (userId operationKey : String) (now : Int) (subjects : List String)
    (context : RelayOperationContext) : Prop where
  stored : Exists fun entry =>
    state.relayContextsBySubject.lookup (State.normalize toLowercase userId) = some entry /\
      context ∈ entry.contexts
  owner : context.authorizedSubject = State.normalize toLowercase userId
  key : context.operationKey = operationKey
  active : context.state = .active
  unexpired : now ≤ context.expiresAt /\ now ≤ context.grant.expiresAt
  covers : forall subject, subject ∈ subjects -> Exists fun target =>
    subject = "user:" ++ target /\
      State.normalize toLowercase target ∈ context.audienceScope.peers

/-- The checks that stand between a client message and a relay. -/
structure RelayPermitted (registry : CommandRegistry) (toLowercase : String -> String)
    (reading : ClientReading) (state : GatewayState) (info : ConnectionInfo) (data : Json)
    (relay : RelayDispatch) (spec : CommandSpec) (authSpec : RelayAuthorizationSpec)
    (key : String) : Prop where
  command : registry.resolveCommandSpec (messageType data) = some spec
  hotpath : spec.routingClass = .relayHotpath
  metadata : registry.resolveRelayAuthorizationSpec (messageType data) = some authSpec
  field : data.strField authSpec.operationKeyField = some key
  visible : trim key ≠ ""
  authorized : authSpec.requiresRelayContext = false \/
    ((Exists fun decision => (state.authorizeRelayHotpath toLowercase info.userId
        (messageType data) authSpec (trim key) (collectRelayTargets toLowercase data).emails
        (replayNonce data) (payloadSizeHint data) reading.authorizeNow).1 = .ok decision) /\
      Exists fun context => ContextCovers toLowercase state info.userId (trim key)
        reading.authorizeNow relay.subjects context)

section Confinement

variable {registry : CommandRegistry} {toLowercase : String -> String} {json : JsonText}
  {reading : ClientReading} {state : GatewayState} {info : ConnectionInfo}

/-- Silent steps and an error report do not send more. -/
theorem OnlyReports.not_sendsMore {connectionId : String} {outcome : ClientOutcome}
    {handle : ConnectionHandle}
    (registered : state.connections.lookup connectionId = some handle)
    (only : OnlyReports json state connectionId outcome) :
    ¬ SendsMore json state outcome.state handle.sender := by
  rcases only with ⟨_, middle, silent, reported⟩
  have unchanged : forall index text, middle.textsOn index = outcome.state.textsOn index ->
      ¬ Appended state outcome.state index text := by
    rintro index text same ⟨added, grown, member⟩
    rw [← same, silent.texts index] at grown
    rw [List.self_eq_append_right.mp grown] at member
    cases member
  rcases reported with same | ⟨rejection, now, same⟩
  · rintro (⟨index, text, appended, _⟩ | ⟨subject, different⟩)
    · exact unchanged index text (by rw [same]) appended
    · rw [same, silent.pending] at different
      exact different rfl
  · unfold sendGatewayCommandError at same
    split at same
    · rintro (⟨index, text, appended, _⟩ | ⟨subject, different⟩)
      · exact unchanged index text (by rw [same]) appended
      · rw [same, silent.pending] at different
        exact different rfl
    · next errorText rendered =>
      rintro (⟨index, text, appended, notError⟩ | ⟨subject, different⟩)
      · rcases GatewayState.sendToConnection_texts middle connectionId errorText index with
          quiet | ⟨later, found, ownChannel, sent⟩
        · rw [← same] at quiet
          exact unchanged index text quiet.symm appended
        · rcases silent.senders connectionId later found with ⟨old, oldFound, sameSender⟩
          rw [registered] at oldFound
          cases oldFound
          rcases appended with ⟨added, grown, member⟩
          rw [← same, grown, silent.texts index] at sent
          rw [List.append_cancel_left sent, List.mem_singleton] at member
          apply notError
          exact ⟨ownChannel.trans sameSender.symm, rejection, now, member ▸ rendered⟩
      · rw [same, GatewayState.sendToConnection_pending, silent.pending] at different
        exact different rfl

/-- What an authorized command with a context is dispatched to. -/
theorem exists_contextCovers_of_accepted (laws : LowercaseLaws toLowercase) {data : Json}
    {authSpec : RelayAuthorizationSpec} {key : String} {decision : RelayAuthDecision}
    (accepted : (state.authorizeRelayHotpath toLowercase info.userId (messageType data) authSpec
      (trim key) (collectRelayTargets toLowercase data).emails (replayNonce data)
      (payloadSizeHint data) reading.authorizeNow).1 = .ok decision) :
    Exists fun context => ContextCovers toLowercase state info.userId (trim key)
      reading.authorizeNow (collectRelayTargets toLowercase data).subjects context := by
  rcases GatewayState.authorizeRelayHotpath_cases toLowercase state info.userId
    (messageType data) authSpec (trim key) (collectRelayTargets toLowercase data).emails
    (replayNonce data) (payloadSizeHint data) reading.authorizeNow with
    ⟨error, refused⟩ | ⟨_, entry, context, found, member, selected, _⟩
  · rw [refused] at accepted
    cases accepted
  · rcases (GatewayState.judgeContext_select_iff toLowercase _ _ _ _ _ _).mp selected with
      ⟨_, sameKey, _, owner, _, _, unexpired, _, covered, active⟩
    refine ⟨context, ⟨entry, found, member⟩, owner, sameKey.trans (trim_trim key), active,
      unexpired, ?_⟩
    intro subject dispatched
    rcases normalize_relaySubject toLowercase laws dispatched with
      ⟨target, named, email, authorized, same⟩
    exact ⟨target, named, same ▸ covered email authorized⟩

theorem RelaysAuthorized.permitted (laws : LowercaseLaws toLowercase) {data : Json}
    {outcome : ClientOutcome}
    (relays : RelaysAuthorized registry toLowercase json reading state info data outcome) :
    Exists fun relay => (outcome.relay = some relay /\
        Dispatches json reading state relay outcome.state) /\
      Exists fun spec => Exists fun authSpec => Exists fun key =>
        RelayPermitted registry toLowercase reading state info data relay spec authSpec key := by
  rcases relays with ⟨dispatched, spec, authSpec, prepared, resolved, hotpath, tables, passed⟩
  have keyed : Exists fun key => data.strField authSpec.operationKeyField = some key /\
      trim key = operationKeyOf data authSpec := by
    cases field : data.strField authSpec.operationKeyField with
    | none => exact absurd (by rw [operationKeyOf, field]; rfl) passed.key
    | some key => exact ⟨key, rfl, by rw [operationKeyOf, field]; rfl⟩
  rcases keyed with ⟨key, field, same⟩
  refine ⟨_, dispatched, spec, authSpec, key, resolved, hotpath, passed.spec, field,
    same ▸ passed.key, ?_⟩
  rcases passed.context with notRequired | ⟨decision, accepted⟩
  · exact Or.inl notRequired
  · rw [GatewayState.authorizeRelayHotpath_fst_congr toLowercase tables, ← same] at accepted
    exact Or.inr ⟨⟨decision, accepted⟩, exists_contextCovers_of_accepted laws accepted⟩

/-- Whenever handling a client message puts anything but an error report to its
own connection on a queue, all it has sent is one text for the subjects of a
relayed command with an operation key, and the command needs no context or these
subjects are covered by one of its sender. -/
theorem relay_confined_to_authorized_targets (laws : LowercaseLaws toLowercase) (hasRedis : Bool)
    (connectionId raw : String) {handle : ConnectionHandle}
    (registered : state.connections.lookup connectionId = some handle)
    (sends : SendsMore json state (handleClientMessage registry toLowercase json reading hasRedis
      state connectionId info raw).state handle.sender) :
    Exists fun relay =>
      ((handleClientMessage registry toLowercase json reading hasRedis state connectionId info
        raw).relay = some relay /\
      Dispatches json reading state relay (handleClientMessage registry toLowercase json reading
        hasRedis state connectionId info raw).state) /\
      Exists fun spec => Exists fun authSpec => Exists fun key =>
        RelayPermitted registry toLowercase reading state info (decodeMessage json raw) relay spec
          authSpec key := by
  rcases handleClientMessage_cases registry toLowercase json reading state info hasRedis
    connectionId raw with only | relays
  · exact absurd sends (only.not_sendsMore registered)
  · exact relays.permitted laws

end Confinement

def chunkText : String :=
  "\x7b\"type\":\"file_transfer_chunk\",\"transfer_id\":\"ft-1\",\"to\":\"bob@test.de\"\x7d"

def chunkData : Json :=
  Json.ofFields [("type", .string "file_transfer_chunk"), ("transfer_id", .string "ft-1"),
    ("to", .string "bob@test.de")]

def chunkEventText : String :=
  "\x7b\"payload\":\x7b\"from\":\"alice@test.de\",\"to\":\"bob@test.de\"," ++
    "\"transfer_id\":\"ft-1\",\"type\":\"file_transfer_chunk\"\x7d,\"type\":\"event\"\x7d"

/-- The JSON functions on the texts of this call. -/
def chunkJson : JsonText := .ofTexts [(chunkText, chunkData)]

/-- Alice and Bob are connected and Alice has an active context with Bob. -/
def transferState : GatewayState :=
  GatewayState.run asciiLowercase none
    [.registerConnection .sorted 0 "conn-a" "alice@test.de" "" ["user:alice@test.de"] 0,
      .registerConnection .sorted 0 "conn-b" "bob@test.de" "" ["user:bob@test.de"] 0,
      .applyRelayContextSnapshot 0
        { subjectEmail := "alice@test.de"
          contextType := .fileTransferPeer
          policyVersion := 1
          receivedAt := 0
          contexts :=
            [{ contextId := "opx-ft-1"
               operationKey := "ft-1"
               operationClass := "relay_hotpath"
               contextType := .fileTransferPeer
               state := .active
               authorizedSubject := "alice@test.de"
               audienceScope := { mode := .fixedPeer, peers := ["bob@test.de"] }
               allowedCommandFamilies := ["file_transfer"]
               policyVersion := 1
               grant :=
                 { grantId := "grant", policyVersion := 1, issuedAt := 0, expiresAt := 3600 }
               openedAt := 0
               updatedAt := 0
               expiresAt := 3600 }] }]

def aliceInfo : ConnectionInfo :=
  { connectionId := "conn-a"
    userId := "alice@test.de"
    clientInstanceId := ""
    subjects := ["user:alice@test.de"]
    connectedAt := 0
    lastSeenAt := 0 }

def readingAt (now : Int) : ClientReading where
  aliveNow := now
  bindNow := now
  readyOrder := .sorted
  readyNow := now
  authorizeNow := now
  dispatchOrder := .sorted
  stickyNow := now
  dispatchNow := now
  errorNow := now
  internalId := "internal"
  timestampMs := now * 1000

theorem relay_confined_to_authorized_targets_of_chunk :
    Exists fun relay =>
      ((handleClientMessage builtinRegistry asciiLowercase chunkJson (readingAt 10) false
        transferState "conn-a" aliceInfo chunkText).relay = some relay /\
      Dispatches chunkJson (readingAt 10) transferState relay
        (handleClientMessage builtinRegistry asciiLowercase chunkJson (readingAt 10) false
          transferState "conn-a" aliceInfo chunkText).state) /\
      Exists fun spec => Exists fun authSpec => Exists fun key =>
        RelayPermitted builtinRegistry asciiLowercase (readingAt 10) transferState aliceInfo
          (decodeMessage chunkJson chunkText) relay spec authSpec key := by
  have appended : Appended transferState
      (handleClientMessage builtinRegistry asciiLowercase chunkJson (readingAt 10) false
        transferState "conn-a" aliceInfo chunkText).state 1 chunkEventText :=
    ⟨[chunkEventText], by decide +kernel, List.mem_cons_self⟩
  have registered : transferState.connections.lookup "conn-a" =
      some { info := aliceInfo, sender := 0 } := rfl
  exact relay_confined_to_authorized_targets asciiLowercase_laws false "conn-a" chunkText
    registered (Or.inl ⟨1, chunkEventText, appended, fun own => absurd own.1 (by decide)⟩)

end Ingress
end Gateway

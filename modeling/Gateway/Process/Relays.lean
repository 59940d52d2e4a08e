import Gateway.Ingress.Confinement
import Gateway.Ingress.RelayConditions
import Gateway.Process.Policies

namespace Gateway
namespace Process

open Foundation State Ingress Broker Http

/-!
# Relays and the policy of the backend

A client can make the gateway send a text to other clients.  Whom it reaches is
decided by the users that its message names and by the policy that the backend
has delivered to this process, whatever else happened before.
-/

/-- The message names the user, up to case and surrounding blanks. -/
def NamesUser (toLowercase : String -> String) (data : Json) (userId : String) : Prop :=
  Exists fun name => name ∈ relayTargetNames data /\ trim name ≠ "" /\
    State.normalize toLowercase name = State.normalize toLowercase userId

/-- The authorization that a message asks for. -/
def relayCall (environs : Environs) (handled : HandledMessage)
    (authSpec : RelayAuthorizationSpec) : AuthorizeCall :=
  let data := decodeMessage environs.json handled.raw
  { senderEmail := handled.info.userId
    commandName := messageType data
    authSpec := authSpec
    operationKey := operationKeyOf data authSpec
    targetEmails := (collectRelayTargets environs.toLowercase data).emails
    replayNonce := replayNonce data
    payloadSizeHint := payloadSizeHint data
    now := handled.reading.authorizeNow }

/-- The policy lets the message through under a context, which it has not used
up. -/
structure Granted (environs : Environs) (policy : Policy) (state : GatewayState)
    (call : AuthorizeCall) (context : RelayOperationContext) : Prop where
  permits : policy.Permits environs.toLowercase call context
  fresh : call.NonceFresh environs.toLowercase context.contextId state.relayReplayCache
  below : call.RateBelowLimit environs.toLowercase context.contextId state.relayRateCounters

/-- The message is a relayed command, and the policy grants what it needs. -/
structure RelayAllowed (environs : Environs) (policy : Policy) (state : GatewayState)
    (handled : HandledMessage) (authSpec : RelayAuthorizationSpec) : Prop where
  visible : trim handled.raw ≠ ""
  typed : trim (messageType (decodeMessage environs.json handled.raw)) ≠ ""
  command : Exists fun spec =>
    environs.registry.resolveCommandSpec
        (messageType (decodeMessage environs.json handled.raw)) = some spec /\
      spec.routingClass = .relayHotpath
  metadata : environs.registry.resolveRelayAuthorizationSpec
    (messageType (decodeMessage environs.json handled.raw)) = some authSpec
  keyed : operationKeyOf (decodeMessage environs.json handled.raw) authSpec ≠ ""
  granted : authSpec.requiresRelayContext = true -> Exists fun context =>
    Granted environs policy state (relayCall environs handled authSpec) context

section Names

variable {toLowercase : String -> String}

theorem normalize_normalize (laws : LowercaseLaws toLowercase) (text : String) :
    State.normalize toLowercase (State.normalize toLowercase text) =
      State.normalize toLowercase text := by
  unfold State.normalize
  rw [laws.keeps_trimmed _ (trim_trim text), laws.idempotent]

theorem normalize_trim (text : String) :
    State.normalize toLowercase (trim text) = State.normalize toLowercase text := by
  rw [State.normalize, State.normalize, trim_trim]

theorem mem_connectionSubjects (userId subject : String) :
    subject ∈ Session.connectionSubjects toLowercase userId <->
      subject = "user:" ++ userId \/ State.normalize toLowercase userId ≠ "" /\
        subject = "user:" ++ State.normalize toLowercase userId := by
  unfold Session.connectionSubjects
  dsimp only
  split
  · next both =>
    rw [List.mem_cons, List.mem_singleton, and_iff_right both.1]
  · next neither =>
    rw [List.mem_singleton]
    refine ⟨Or.inl, ?_⟩
    rintro (same | ⟨visible, same⟩)
    · exact same
    · rw [same, not_not.mp fun different => neither ⟨visible, different⟩]

/-- The subjects of a relay are those of the users that its message names. -/
theorem relaySubjects_meet_iff (laws : LowercaseLaws toLowercase)
    (lowers : forall text, toLowercase text = "" -> text = "") (data : Json) (userId : String) :
    (Exists fun subject => subject ∈ (collectRelayTargets toLowercase data).subjects /\
        subject ∈ Session.connectionSubjects toLowercase userId) <->
      NamesUser toLowercase data userId := by
  constructor
  · rintro ⟨subject, relayed, subscribed⟩
    rcases (mem_relaySubjects toLowercase data subject).mp relayed with
      ⟨name, named, visible, variants⟩
    refine ⟨name, named, visible, ?_⟩
    have ofName : Exists fun target => subject = "user:" ++ target /\
        State.normalize toLowercase target = State.normalize toLowercase name := by
      rcases variants with same | same
      · exact ⟨trim name, same, normalize_trim name⟩
      · exact ⟨_, same, normalize_normalize laws name⟩
    rcases ofName with ⟨target, rfl, sameName⟩
    rcases (mem_connectionSubjects userId _).mp subscribed with same | ⟨_, same⟩
    · rw [← sameName, (String.append_right_inj "user:").mp same]
    · rw [← sameName, (String.append_right_inj "user:").mp same, normalize_normalize laws]
  · rintro ⟨name, named, visible, same⟩
    have lowered : State.normalize toLowercase userId ≠ "" := by
      rw [← same]
      exact fun blank => visible (lowers _ blank)
    refine ⟨"user:" ++ State.normalize toLowercase userId, ?_, ?_⟩
    · rw [← same]
      exact (mem_relaySubjects toLowercase data _).mpr ⟨name, named, visible, Or.inr rfl⟩
    · exact (mem_connectionSubjects userId _).mpr (Or.inr ⟨lowered, rfl⟩)

end Names

/-! ## The whole condition -/

/-- A relayed command asks the store for what the policy grants. -/
theorem relayConditions_iff {environs : Environs} {policy : Policy} {state : GatewayState}
    {handled : HandledMessage}
    (describes : policy.Describes handled.reading.authorizeNow state.relayContextsBySubject)
    (tidy : StoreTidy state.relayContextsBySubject) (authSpec : RelayAuthorizationSpec) :
    RelayConditions environs.registry environs.toLowercase environs.json handled.reading state
        handled.info handled.raw authSpec <->
      RelayAllowed environs policy state handled authSpec := by
  have accepts := authorizeRelayHotpath_ok_iff_of_tidy environs.toLowercase tidy
    handled.info.userId (messageType (decodeMessage environs.json handled.raw)) authSpec
    (operationKeyOf (decodeMessage environs.json handled.raw) authSpec)
    (collectRelayTargets environs.toLowercase (decodeMessage environs.json handled.raw)).emails
    (replayNonce (decodeMessage environs.json handled.raw))
    (payloadSizeHint (decodeMessage environs.json handled.raw)) handled.reading.authorizeNow
  have permits := @Policy.Describes.permits_iff environs.toLowercase policy
    state.relayContextsBySubject (relayCall environs handled authSpec) describes tidy
  constructor
  · rintro ⟨visible, typed, command, metadata, keyed, context⟩
    refine ⟨visible, typed, command, metadata, keyed, fun required => ?_⟩
    rcases context with notRequired | ⟨decision, accepted⟩
    · rw [notRequired] at required
      cases required
    · rcases (accepts decision).mp accepted with
        ⟨acceptable, entry, context, found, member, selected, fresh, below, _⟩
      exact ⟨context, (permits context).mpr ⟨acceptable, entry, found, member, selected⟩, fresh,
        below⟩
  · rintro ⟨visible, typed, command, metadata, keyed, granted⟩
    refine ⟨visible, typed, command, metadata, keyed, ?_⟩
    cases required : authSpec.requiresRelayContext with
    | false => exact Or.inl rfl
    | true =>
        rcases granted required with ⟨context, permitted, fresh, below⟩
        rcases (permits context).mp permitted with ⟨acceptable, entry, found, member, selected⟩
        exact Or.inr ⟨_, (accepts _).mpr ⟨acceptable, entry, context, found, member, selected,
          fresh, below, rfl⟩⟩

/-- The subjects of a registered connection are those of its user. -/
theorem GatewayEvent.subjects_of_registered {environs : Environs} {events : List GatewayEvent}
    (fresh : FreshSessions environs events) {id : String} {handle : ConnectionHandle}
    (found : (GatewayEvent.run environs events).connections.lookup id = some handle) :
    handle.info.subjects =
      Session.connectionSubjects environs.toLowercase handle.info.userId := by
  rcases GatewayEvent.exists_operations environs events with ⟨operations, reached, registered⟩
  have freshIds := freshIds_of_sessions environs registered fresh
  rw [← reached] at found
  have known := (registered_of_run environs.toLowercase environs.config.maxConnectionsPerUser
    operations freshIds id handle found).2
  rw [registered] at known
  rcases List.mem_filterMap.mp known with ⟨event, _, registers⟩
  cases event with
  | connect order now connectionId userId clientInstanceId connectedAt =>
      have same := Option.some.inj registers
      have users : userId = handle.info.userId := congrArg ConnectionInfo.userId same
      have subjects : Session.connectionSubjects environs.toLowercase userId =
          handle.info.subjects := congrArg ConnectionInfo.subjects same
      rw [← subjects, users]
  | _ => cases registers

/-- After any calls, the text that a client message makes the gateway send to
another connection is its relay.  Exactly the open connections of the users that
the message names receive it, if the delivered policy grants the relay, and
nobody does otherwise. -/
theorem relays_follow_delivered_policies (environs : Environs)
    (laws : LowercaseLaws environs.toLowercase)
    (lowers : forall text, environs.toLowercase text = "" -> text = "")
    (rendered : forall data text, environs.json.render data = some text -> text ≠ "")
    (events : List GatewayEvent) (fresh : FreshSessions environs events)
    (handled : HandledMessage)
    (ordinary : messageType (decodeMessage environs.json handled.raw) ≠ "session_ready")
    (clock : forall now snapshot,
      (now, snapshot) ∈ events.filterMap (GatewayEvent.snapshot environs) ->
      now ≤ handled.reading.authorizeNow) :
    let before := GatewayEvent.run environs events
    let after := GatewayEvent.run environs (events ++ [.message handled])
    let policy := deliveredPolicy environs events
    let data := decodeMessage environs.json handled.raw
    forall receiver text, receiver ≠ handled.connectionId ->
      (Received before after receiver text <->
        (Exists fun authSpec => RelayAllowed environs policy before handled authSpec) /\
        environs.json.render (eventEnvelope (relayPayload data handled.info)) = some text /\
        before.reaches receiver = true /\
        Exists fun handle => before.connections.lookup receiver = some handle /\
          NamesUser environs.toLowercase data handle.info.userId) /\
      (Received before after receiver text -> Exists fun authSpec =>
        environs.registry.resolveRelayAuthorizationSpec (messageType data) = some authSpec /\
        (authSpec.requiresRelayContext = true -> Exists fun context =>
          policy.Permits environs.toLowercase (relayCall environs handled authSpec) context /\
          Exists fun handle => before.connections.lookup receiver = some handle /\
            State.normalize environs.toLowercase handle.info.userId ∈
              context.audienceScope.peers)) := by
  intro before after policy data receiver text other
  have wellFormed : WellFormed before := GatewayEvent.wellFormed_run environs fresh
  have tidy : StoreTidy before.relayContextsBySubject := by
    rcases GatewayEvent.exists_operations environs events with ⟨operations, reached, _⟩
    have stored := storeTidy_run environs.toLowercase environs.config.maxConnectionsPerUser
      operations
    rwa [reached] at stored
  have describes : policy.Describes handled.reading.authorizeNow before.relayContextsBySubject :=
    describes_events environs events _ clock
  have conditions := @relayConditions_iff environs policy before handled describes tidy
  have handles : after = (handleClientMessage environs.registry environs.toLowercase environs.json
      handled.reading handled.hasRedis before handled.connectionId handled.info
      handled.raw).state := GatewayEvent.run_concat environs events _
  have received : Received before after receiver text <->
      (Exists fun authSpec => RelayConditions environs.registry environs.toLowercase environs.json
        handled.reading before handled.info handled.raw authSpec) /\
      environs.json.render (eventEnvelope (relayPayload data handled.info)) = some text /\
      before.Addressee (collectRelayTargets environs.toLowercase data).subjects receiver /\
      before.reaches receiver = true := by
    rw [handles]
    exact handleClientMessage_received_iff wellFormed rendered handled.hasRedis ordinary other text
  have addressed : before.Addressee (collectRelayTargets environs.toLowercase data).subjects
      receiver <-> Exists fun handle => before.connections.lookup receiver = some handle /\
        NamesUser environs.toLowercase data handle.info.userId := by
    refine exists_congr fun handle => and_congr_right fun found => ?_
    rw [GatewayEvent.subjects_of_registered fresh found]
    exact relaySubjects_meet_iff laws lowers data handle.info.userId
  have exact_iff : Received before after receiver text <->
      (Exists fun authSpec => RelayAllowed environs policy before handled authSpec) /\
        environs.json.render (eventEnvelope (relayPayload data handled.info)) = some text /\
        before.reaches receiver = true /\
        Exists fun handle => before.connections.lookup receiver = some handle /\
          NamesUser environs.toLowercase data handle.info.userId := by
    rw [received, exists_congr conditions, addressed, and_comm (b := before.reaches receiver = true)]
  refine ⟨exact_iff, fun got => ?_⟩
  rcases exact_iff.mp got with ⟨⟨authSpec, allowed⟩, _, _, handle, found, name, named, visible, same⟩
  refine ⟨authSpec, allowed.metadata, fun required => ?_⟩
  rcases allowed.granted required with ⟨context, granted⟩
  refine ⟨context, granted.permits, handle, found, ?_⟩
  have target := (mem_relayEmails environs.toLowercase data _).mpr ⟨name, named, visible, rfl⟩
  have peer := granted.permits.scope _ target
  rw [← normalize_normalize laws, ← same]
  exact peer

/-- An entry that grants Alice a transfer with Bob. -/
def grantEntry : Json :=
  Json.ofFields [("subjects", .array [.string "user:alice@test.de"]),
    ("payload", Json.ofFields [("type", .string "gateway_relay_context_snapshot"),
      ("operation_class", .string "relay_hotpath"), ("subject", .string "Alice@test.de"),
      ("context_type", .string "file_transfer_peer"), ("policy_version", Json.ofInt 1),
      ("ts", Json.ofInt 0),
      ("contexts", .array [Json.ofFields [("context_id", .string "opx-ft-1"),
        ("operation_key", .string "ft-1"), ("authorized_subject", .string "alice@test.de"),
        ("grant", Json.ofFields [("grant_id", .string "grant")]),
        ("audience_scope", Json.ofFields [("mode", .string "fixed_peer"),
          ("peers", .array [.string "Bob@test.de"])]),
        ("allowed_command_families", .array [.string "file_transfer"])]])])]

def grantText : String :=
  "\x7b\"subjects\":[\"user:alice@test.de\"],\"payload\":\x7b" ++
    "\"type\":\"gateway_relay_context_snapshot\",\"operation_class\":\"relay_hotpath\"," ++
    "\"subject\":\"Alice@test.de\",\"context_type\":\"file_transfer_peer\"," ++
    "\"policy_version\":1,\"ts\":0,\"contexts\":[\x7b\"context_id\":\"opx-ft-1\"," ++
    "\"operation_key\":\"ft-1\",\"authorized_subject\":\"alice@test.de\"," ++
    "\"grant\":\x7b\"grant_id\":\"grant\"\x7d," ++
    "\"audience_scope\":\x7b\"mode\":\"fixed_peer\",\"peers\":[\"Bob@test.de\"]\x7d," ++
    "\"allowed_command_families\":[\"file_transfer\"]\x7d]\x7d\x7d"

def transferEnvirons : Environs where
  registry := builtinRegistry
  toLowercase := asciiLowercase
  json := .ofTexts [(grantText, grantEntry), (chunkText, chunkData)]
  config := Config.fromEnv asciiLowercase ⟨fun _ => none, fun _ => none⟩

def transferEvents : List GatewayEvent :=
  [.connect .sorted 0 "conn-a" "alice@test.de" "" 0, .connect .sorted 0 "conn-b" "bob@test.de" "" 0,
    .entry ⟨.sorted, 2, 2, 2, 2, 2⟩ ("1-0", AList.insert "data" grantText ∅)]

def transferMessage : HandledMessage where
  connectionId := "conn-a"
  info := Ingress.aliceInfo
  raw := chunkText
  hasRedis := false
  reading := readingAt 10

theorem asciiLowercase_visible (text : String) (lowered : asciiLowercase text = "") : text = "" := by
  rw [asciiLowercase, String.ofList_eq_empty_iff, List.map_eq_nil_iff] at lowered
  exact String.toList_eq_nil_iff.mp lowered

/-- Bob receives the chunk, under the context that names him. -/
theorem relays_follow_delivered_policies_of_chunk :
    Received (GatewayEvent.run transferEnvirons transferEvents)
      (GatewayEvent.run transferEnvirons (transferEvents ++ [.message transferMessage])) "conn-b"
      chunkEventText /\
    Exists fun authSpec => transferEnvirons.registry.resolveRelayAuthorizationSpec
        (messageType (decodeMessage transferEnvirons.json transferMessage.raw)) = some authSpec /\
      (authSpec.requiresRelayContext = true -> Exists fun context =>
        (deliveredPolicy transferEnvirons transferEvents).Permits asciiLowercase
          (relayCall transferEnvirons transferMessage authSpec) context /\
        Exists fun handle => (GatewayEvent.run transferEnvirons
            transferEvents).connections.lookup "conn-b" = some handle /\
          State.normalize asciiLowercase handle.info.userId ∈ context.audienceScope.peers) := by
  have received : Received (GatewayEvent.run transferEnvirons transferEvents)
      (GatewayEvent.run transferEnvirons (transferEvents ++ [.message transferMessage])) "conn-b"
      chunkEventText :=
    ⟨⟨{ Ingress.aliceInfo with
          connectionId := "conn-b"
          userId := "bob@test.de"
          subjects := ["user:bob@test.de"] }, 1⟩, ⟨[], true⟩, by decide +kernel, by decide +kernel,
      by decide +kernel⟩
  exact ⟨received, (relays_follow_delivered_policies transferEnvirons asciiLowercase_laws
    asciiLowercase_visible (fun _ _ => Json.compact_ne_empty) transferEvents
    (by decide +kernel) transferMessage (by decide +kernel)
    (by
      intro now snapshot delivered
      have clocks : forall reading, reading ∈ (transferEvents.filterMap
          (GatewayEvent.snapshot transferEnvirons)).map Prod.fst -> reading ≤ 10 := by
        decide +kernel
      exact clocks now (List.mem_map.mpr ⟨_, delivered, rfl⟩))
    "conn-b" chunkEventText (by decide)).2 received⟩

end Process
end Gateway

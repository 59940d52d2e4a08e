import Gateway.Ingress.ClientMessage
import Gateway.State.Silence

namespace Gateway
namespace Ingress

open Foundation State

/-!
# What a client message can do

A call either relays, and then its message passed every check on the way, or it
sends nothing but possibly an error report to its own connection.
-/

section Targets

variable (toLowercase : String -> String)

theorem mem_dedup (value : String) (values : List String) :
    value ∈ dedup values <-> value ∈ values := by
  fun_induction dedup values with
  | case1 second rest ih =>
      rw [ih, List.mem_cons, List.mem_cons, List.mem_cons]
      tauto
  | case2 first second rest _ ih =>
      rw [List.mem_cons, ih]
      exact List.mem_cons.symm
  | case3 => rfl

theorem mem_sortDedup (value : String) (values : List String) :
    value ∈ sortDedup values <-> value ∈ values := by
  rw [sortDedup, mem_dedup, List.mem_insertionSort]

/-- The two lists of targets name by name. -/
theorem foldl_appendTargetVariants (names : List String) (targets : RelayTargets) :
    names.foldl (appendTargetVariants toLowercase) targets =
      { emails := targets.emails ++
          (names.filter fun name => decide (trim name ≠ "")).map fun name => toLowercase (trim name)
        subjects := targets.subjects ++
          (names.filter fun name => decide (trim name ≠ "")).flatMap fun name =>
            ["user:" ++ trim name, "user:" ++ toLowercase (trim name)] } := by
  induction names generalizing targets with
  | nil => simp
  | cons name names ih =>
      rw [List.foldl_cons, ih]
      by_cases blank : trim name = ""
      · simp [appendTargetVariants, blank]
      · simp [appendTargetVariants, blank, List.append_assoc]

theorem mem_relayEmails (data : Json) (email : String) :
    email ∈ (collectRelayTargets toLowercase data).emails <->
      Exists fun name => name ∈ relayTargetNames data /\ trim name ≠ "" /\
        email = toLowercase (trim name) := by
  rw [collectRelayTargets, foldl_appendTargetVariants, mem_sortDedup]
  simp only [List.nil_append, List.mem_map, List.mem_filter, decide_eq_true_eq, and_assoc,
    eq_comm (b := email)]

theorem mem_relaySubjects (data : Json) (subject : String) :
    subject ∈ (collectRelayTargets toLowercase data).subjects <->
      Exists fun name => name ∈ relayTargetNames data /\ trim name ≠ "" /\
        (subject = "user:" ++ trim name \/ subject = "user:" ++ toLowercase (trim name)) := by
  rw [collectRelayTargets, foldl_appendTargetVariants, mem_sortDedup]
  simp [and_assoc]

/-- The list that is authorized covers the list that is dispatched to. -/
theorem normalize_relaySubject (laws : LowercaseLaws toLowercase) {data : Json} {subject : String}
    (dispatched : subject ∈ (collectRelayTargets toLowercase data).subjects) :
    Exists fun target => subject = "user:" ++ target /\
      Exists fun email => email ∈ (collectRelayTargets toLowercase data).emails /\
        State.normalize toLowercase target = State.normalize toLowercase email := by
  rcases (mem_relaySubjects toLowercase data subject).mp dispatched with
    ⟨name, named, visible, variants⟩
  have authorized : toLowercase (trim name) ∈ (collectRelayTargets toLowercase data).emails :=
    (mem_relayEmails toLowercase data _).mpr ⟨name, named, visible, rfl⟩
  have lowered : State.normalize toLowercase (toLowercase (trim name)) = toLowercase (trim name) := by
    rw [State.normalize, laws.keeps_trimmed _ (trim_trim name), laws.idempotent]
  rcases variants with same | same
  · refine ⟨trim name, same, _, authorized, ?_⟩
    rw [lowered, State.normalize, trim_trim]
  · exact ⟨_, same, _, authorized, rfl⟩

end Targets

/-! ## The steps of a call -/

section Steps

variable (registry : CommandRegistry) (toLowercase : String -> String) (json : JsonText)
  (reading : ClientReading) (state : GatewayState) (info : ConnectionInfo)

/-- Preparing a command sends nothing. -/
theorem prepareCommand_silent (connectionId msgType : String) (data : Json)
    (hasSymfonyStep : Bool) :
    GatewayState.Silent state
      (prepareCommand reading state connectionId info msgType data hasSymfonyStep) :=
  prepareCommand_keeps (GatewayState.Silent state) (.refl state)
    (fun _ => GatewayState.bindRequestRoute_silent _ _ _ _ _)
    (fun _ bound => bound.trans (GatewayState.markSessionReady_silent _ _ _ _ _)) msgType
    hasSymfonyStep

theorem prepareCommand_sameRelayTables (connectionId msgType : String) (data : Json)
    (hasSymfonyStep : Bool) :
    GatewayState.SameRelayTables state
      (prepareCommand reading state connectionId info msgType data hasSymfonyStep) :=
  prepareCommand_keeps (GatewayState.SameRelayTables state) (.refl state)
    (fun _ => GatewayState.bindRequestRoute_sameRelayTables _ _ _ _ _)
    (fun _ bound => bound.trans (GatewayState.markSessionReady_sameRelayTables _ _ _ _ _)) msgType
    hasSymfonyStep

theorem authorizeCommand_silent (msgType : String) (data : Json) (targets : RelayTargets) :
    GatewayState.Silent state
      (authorizeCommand registry toLowercase reading state info msgType data targets).2 :=
  authorizeCommand_keeps (GatewayState.Silent state) (.refl state)
    (fun _ => GatewayState.authorizeRelayHotpath_silent _ _ _ _ _ _ _ _ _ _)

/-- The checks that an authorized command has passed. -/
structure CommandAuthorized (msgType : String) (data : Json) (targets : RelayTargets)
    (authSpec : RelayAuthorizationSpec) : Prop where
  spec : registry.resolveRelayAuthorizationSpec msgType = some authSpec
  key : operationKeyOf data authSpec ≠ ""
  context : authSpec.requiresRelayContext = false \/ Exists fun decision =>
    (state.authorizeRelayHotpath toLowercase info.userId msgType authSpec
      (operationKeyOf data authSpec) targets.emails (replayNonce data) (payloadSizeHint data)
      reading.authorizeNow).1 = .ok decision

theorem authorizeCommand_ok (msgType : String) (data : Json) (targets : RelayTargets)
    (authorized : (authorizeCommand registry toLowercase reading state info msgType data
      targets).1 = .ok ()) :
    Exists fun authSpec =>
      CommandAuthorized registry toLowercase reading state info msgType data targets authSpec := by
  unfold authorizeCommand at authorized
  split at authorized
  · cases authorized
  · next authSpec found =>
    split at authorized
    · cases authorized
    · next visible =>
      refine ⟨authSpec, found, visible, ?_⟩
      split at authorized
      · split at authorized
        · next decision _ result => exact Or.inr ⟨decision, congrArg Prod.fst result⟩
        · cases authorized
      · next notRequired => exact Or.inl (Bool.eq_false_of_not_eq_true notRequired)

/-- What the relay step hands over for a message. -/
def relayOf (data : Json) : RelayDispatch :=
  ⟨(collectRelayTargets toLowercase data).subjects, eventEnvelope (relayPayload data info)⟩

/-- Up to here nothing was sent, and then the text of the envelope was put on the
queues of the relay's subjects. -/
def Dispatches (relay : RelayDispatch) (after : GatewayState) : Prop :=
  Exists fun middle => Exists fun text => GatewayState.Silent state middle /\
    json.render relay.envelope = some text /\
    after = (middle.sendToSubjects reading.dispatchOrder reading.stickyNow reading.dispatchNow
      relay.subjects text true none).2

/-- The relay step dispatches an authorized message to its targets, or it sends
nothing. -/
theorem relayCommand_cases (msgType : String) (data : Json) (hasSymfonyStep : Bool) :
    (Exists fun result => Exists fun after =>
      relayCommand registry toLowercase json reading state info msgType data hasSymfonyStep =
        (result, after) /\
      GatewayState.Silent state after /\ forall relay, result ≠ .ok (some relay)) \/
    Exists fun authSpec => Exists fun after =>
      CommandAuthorized registry toLowercase reading state info msgType data
        (collectRelayTargets toLowercase data) authSpec /\
      relayCommand registry toLowercase json reading state info msgType data hasSymfonyStep =
        (.ok (some (relayOf toLowercase info data)), after) /\
      Dispatches json reading state (relayOf toLowercase info data) after := by
  have silent := authorizeCommand_silent registry toLowercase reading state info msgType data
    (collectRelayTargets toLowercase data)
  have checked := authorizeCommand_ok registry toLowercase reading state info msgType data
    (collectRelayTargets toLowercase data)
  unfold relayCommand
  dsimp only
  split
  · split
    · exact Or.inl ⟨_, _, rfl, .refl state, nofun⟩
    · exact Or.inl ⟨_, _, rfl, .refl state, nofun⟩
  · split
    · next result =>
      rw [result] at silent
      exact Or.inl ⟨_, _, rfl, silent, nofun⟩
    · next authorized result =>
      rw [result] at silent checked
      rcases checked rfl with ⟨authSpec, passed⟩
      unfold dispatchRelay
      split
      · exact Or.inl ⟨_, _, rfl, silent, nofun⟩
      · next text rendered =>
        exact Or.inr ⟨authSpec, _, passed, rfl, _, text, silent, rendered, rfl⟩

/-- Reporting an error. -/
def ReportsError (connectionId : String) (before after : GatewayState) : Prop :=
  Exists fun rejection => Exists fun now =>
    after = sendGatewayCommandError json now before connectionId rejection

theorem relayHotpath_of_runtimeSteps {spec : CommandSpec}
    (subjects : (runtimeSteps spec).1 = true) : spec.routingClass = .relayHotpath := by
  unfold runtimeSteps at subjects
  split at subjects
  · assumption
  · cases subjects
  · cases subjects

/-- A call that sent nothing but possibly an error report. -/
def OnlyReports (connectionId : String) (outcome : ClientOutcome) : Prop :=
  outcome.relay = none /\ Exists fun middle => GatewayState.Silent state middle /\
    (outcome.state = middle \/ ReportsError json connectionId middle outcome.state)

/-- A call that relayed the message after it was authorized. -/
def RelaysAuthorized (data : Json) (outcome : ClientOutcome) : Prop :=
  (outcome.relay = some (relayOf toLowercase info data) /\
    Dispatches json reading state (relayOf toLowercase info data) outcome.state) /\
    Exists fun spec => Exists fun authSpec => Exists fun prepared =>
      registry.resolveCommandSpec (messageType data) = some spec /\
      spec.routingClass = .relayHotpath /\
      GatewayState.SameRelayTables state prepared /\
      CommandAuthorized registry toLowercase reading prepared info (messageType data) data
        (collectRelayTargets toLowercase data) authSpec

theorem Dispatches.of_silent {before middle after : GatewayState} {relay : RelayDispatch}
    (silent : GatewayState.Silent before middle)
    (dispatches : Dispatches json reading middle relay after) :
    Dispatches json reading before relay after := by
  rcases dispatches with ⟨last, text, quiet, rendered, sent⟩
  exact ⟨last, text, silent.trans quiet, rendered, sent⟩

theorem runCommand_cases (hasRedis : Bool) (connectionId raw : String) (data : Json)
    {spec : CommandSpec} (resolved : registry.resolveCommandSpec (messageType data) = some spec) :
    OnlyReports json state connectionId
      (runCommand registry toLowercase json reading hasRedis state connectionId info raw data spec) \/
    RelaysAuthorized registry toLowercase json reading state info data
      (runCommand registry toLowercase json reading hasRedis state connectionId info raw data
        spec) := by
  have silent := prepareCommand_silent reading state info connectionId (messageType data) data
    (runtimeSteps spec).2
  have tables := prepareCommand_sameRelayTables reading state info connectionId (messageType data)
    data (runtimeSteps spec).2
  unfold runCommand
  dsimp only
  by_cases subjects : (runtimeSteps spec).1 = true
  · rw [if_pos subjects]
    rcases relayCommand_cases registry toLowercase json reading
      (prepareCommand reading state connectionId info (messageType data) data
        (runtimeSteps spec).2) info (messageType data) data (runtimeSteps spec).2 with
      ⟨result, after, same, quiet, nothing⟩ | ⟨authSpec, after, passed, same, dispatches⟩
    · rw [same]
      left
      cases result with
      | error rejection =>
          exact ⟨rfl, after, silent.trans quiet, Or.inr ⟨rejection, _, rfl⟩⟩
      | ok relay =>
          cases relay with
          | none => exact ⟨rfl, after, silent.trans quiet, Or.inl rfl⟩
          | some relay => exact absurd rfl (nothing relay)
    · rw [same]
      exact Or.inr ⟨⟨rfl, dispatches.of_silent json reading silent⟩, spec, authSpec, _, resolved,
        relayHotpath_of_runtimeSteps subjects, tables, passed⟩
  · rw [if_neg subjects]
    exact Or.inl ⟨rfl, _, silent, Or.inl rfl⟩

/-- A command that passes the screening is registered. -/
theorem resolveCommandSpec_of_screened {msgType : String} {spec : CommandSpec}
    (screened : screenCommand registry msgType = .ok (some spec)) :
    registry.resolveCommandSpec msgType = some spec := by
  unfold screenCommand at screened
  split at screened
  · cases screened
  · split at screened
    · cases screened
    · next found =>
      rw [found]
      split at screened
      · cases screened
      · split at screened <;> cases screened
      · exact Except.ok.inj screened
      · exact Except.ok.inj screened

theorem OnlyReports.of_silent {before middle : GatewayState} {connectionId : String}
    {outcome : ClientOutcome} (silent : GatewayState.Silent before middle)
    (only : OnlyReports json middle connectionId outcome) :
    OnlyReports json before connectionId outcome := by
  rcases only with ⟨nothing, after, quiet, reported⟩
  exact ⟨nothing, after, silent.trans quiet, reported⟩

theorem RelaysAuthorized.of_silent {before middle : GatewayState} {data : Json}
    {outcome : ClientOutcome} (silent : GatewayState.Silent before middle)
    (tables : GatewayState.SameRelayTables before middle)
    (relays : RelaysAuthorized registry toLowercase json reading middle info data outcome) :
    RelaysAuthorized registry toLowercase json reading before info data outcome := by
  rcases relays with
    ⟨⟨relayed, dispatches⟩, spec, authSpec, prepared, resolved, hotpath, same, passed⟩
  exact ⟨⟨relayed, dispatches.of_silent json reading silent⟩, spec, authSpec, prepared,
    resolved, hotpath, tables.trans same, passed⟩

/-- Every call sends nothing but possibly an error report, or it relays an
authorized message. -/
theorem handleClientMessage_cases (hasRedis : Bool) (connectionId raw : String) :
    OnlyReports json state connectionId
      (handleClientMessage registry toLowercase json reading hasRedis state connectionId info
        raw) \/
    RelaysAuthorized registry toLowercase json reading state info (decodeMessage json raw)
      (handleClientMessage registry toLowercase json reading hasRedis state connectionId info
        raw) := by
  have alive := GatewayState.markConnectionAlive_silent state connectionId reading.aliveNow
  have aliveTables : GatewayState.SameRelayTables state
      (state.markConnectionAlive connectionId reading.aliveNow) := ⟨rfl, rfl, rfl⟩
  unfold handleClientMessage
  split
  · exact Or.inl ⟨rfl, state, .refl state, Or.inl rfl⟩
  · dsimp only
    split
    · exact Or.inl ⟨rfl, _, alive, Or.inr ⟨_, _, rfl⟩⟩
    · exact Or.inl ⟨rfl, _, alive, Or.inl rfl⟩
    · next spec screened =>
      have resolved := resolveCommandSpec_of_screened registry screened
      rcases runCommand_cases registry toLowercase json reading
        (state.markConnectionAlive connectionId reading.aliveNow) info hasRedis connectionId raw
        (decodeMessage json raw) resolved with only | relays
      · exact Or.inl (only.of_silent json alive)
      · exact Or.inr (relays.of_silent registry toLowercase json reading info alive aliveTables)

end Steps

end Ingress
end Gateway

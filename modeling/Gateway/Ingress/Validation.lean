import Gateway.Ingress.Confinement
import Gateway.Ingress.Outcomes

namespace Gateway
namespace Ingress

open Foundation State

/-!
# Registries that pass validation

The registries are validated when the gateway starts.  What is accepted is
exactly a registry with distinct visible names, in which only relayed commands
carry authorization metadata and only they can be mirrored.  For every accepted
registry the class of a command decides where its messages go.
-/

/-- The checks on one command, given the names before it. -/
def checkCommand (seen : List String) (spec : CommandSpec) : Except String Unit :=
  let quoted := "command '" ++ spec.commandName ++ "'"
  let classed := quoted ++ " with routing class '" ++ spec.routingClass.asStr ++ "'"
  if trim spec.commandName = "" then
    .error "command registry contains empty command name"
  else if spec.commandName ∈ seen then
    .error ("command registry contains duplicate " ++ quoted)
  else if spec.messageType = .event then
    .error (quoted ++ " uses semantic type 'event' in inbound command registry")
  else
    match spec.routingClass with
    | .noAuth | .gatewayLocal =>
        if spec.messageType ≠ .technical then
          .error (classed ++ " must use semantic type 'technical'")
        else if spec.mirrorToBackend = true then
          .error (classed ++ " cannot set backend mirror")
        else .ok ()
    | .relayHotpath =>
        if spec.messageType = .technical then
          .error ("relay " ++ quoted ++ " cannot use semantic type 'technical'")
        else .ok ()
    | .backendControl =>
        if spec.messageType = .technical then
          .error ("backend control " ++ quoted ++ " cannot use semantic type 'technical'")
        else if spec.mirrorToBackend = true then
          .error ("backend control " ++ quoted ++ " cannot set backend mirror")
        else .ok ()

def checkCommands : List String -> List CommandSpec -> Except String Unit
  | _, [] => .ok ()
  | seen, spec :: specs =>
      match checkCommand seen spec with
      | .error message => .error message
      | .ok () => checkCommands (spec.commandName :: seen) specs

/-- Run a check on every element and stop at the first failure. -/
def checkAll {Element : Type} (check : Element -> Except String Unit) :
    List Element -> Except String Unit
  | [] => .ok ()
  | element :: elements =>
      match check element with
      | .error message => .error message
      | .ok () => checkAll check elements

namespace CommandRegistry

variable (registry : CommandRegistry)

def checkRelayCommand (command : String) : Except String Unit :=
  match registry.resolveRelayAuthorizationSpec command with
  | none => .error ("relay command '" ++ command ++ "' is missing relay authorization metadata")
  | some authSpec =>
      if trim authSpec.commandFamily = "" then
        .error ("relay command '" ++ command ++ "' has empty relay command family")
      else if trim authSpec.operationKeyField = "" then
        .error ("relay command '" ++ command ++ "' has empty relay operation key field")
      else .ok ()

def checkOtherCommand (spec : CommandSpec) : Except String Unit :=
  if (registry.resolveRelayAuthorizationSpec spec.commandName).isSome = true then
    .error ("non-relay command '" ++ spec.commandName ++ "' declares relay authorization metadata")
  else .ok ()

def relayCommands : List String :=
  (registry.commands.filter fun spec => decide (spec.routingClass = .relayHotpath)).map
    CommandSpec.commandName

def validateCommandRegistry : Except String Unit :=
  match checkCommands [] registry.commands with
  | .error message => .error message
  | .ok () =>
      match checkAll registry.checkRelayCommand registry.relayCommands with
      | .error message => .error message
      | .ok () =>
          checkAll registry.checkOtherCommand
            (registry.commands.filter fun spec => decide (spec.routingClass ≠ .relayHotpath))

end CommandRegistry

/-! ## What is accepted -/

/-- The kind of message and the mirroring fit the class of the command. -/
structure CommandProper (spec : CommandSpec) : Prop where
  visible : trim spec.commandName ≠ ""
  inbound : spec.messageType ≠ .event
  technical : spec.messageType = .technical <->
    spec.routingClass = .noAuth \/ spec.routingClass = .gatewayLocal
  mirrored : spec.mirrorToBackend = true -> spec.routingClass = .relayHotpath

structure RegistryProper (registry : CommandRegistry) : Prop where
  commands : forall spec, spec ∈ registry.commands -> CommandProper spec
  distinct : (registry.commands.map CommandSpec.commandName).Nodup
  relayed : forall spec, spec ∈ registry.commands -> spec.routingClass = .relayHotpath ->
    Exists fun authSpec =>
      registry.resolveRelayAuthorizationSpec spec.commandName = some authSpec /\
        trim authSpec.commandFamily ≠ "" /\ trim authSpec.operationKeyField ≠ ""
  others : forall spec, spec ∈ registry.commands -> spec.routingClass ≠ .relayHotpath ->
    registry.resolveRelayAuthorizationSpec spec.commandName = none

theorem checkAll_ok_iff {Element : Type} (check : Element -> Except String Unit)
    (elements : List Element) :
    checkAll check elements = .ok () <-> forall element, element ∈ elements ->
      check element = .ok () := by
  induction elements with
  | nil => exact iff_of_true rfl fun _ member => absurd member List.not_mem_nil
  | cons element elements ih =>
      rw [checkAll, List.forall_mem_cons, ← ih]
      cases check element with
      | error message => exact iff_of_false nofun fun both => nomatch both.1
      | ok done => exact (and_iff_right rfl).symm

/-- A guard lets only the success of the rest through. -/
theorem guarded_ok_iff {condition : Prop} [Decidable condition] {message : String}
    {rest : Except String Unit} :
    (if condition then .error message else rest) = .ok () <-> Not condition /\ rest = .ok () := by
  by_cases met : condition
  · rw [if_pos met]
    exact iff_of_false nofun fun both => both.1 met
  · rw [if_neg met]
    exact (and_iff_right met).symm

/-- The class part of the check. -/
theorem classFits_iff (routingClass : RoutingClass) (messageType : MessageSemanticType)
    (mirror : Bool) :
    ((messageType = .technical <->
        routingClass = .noAuth \/ routingClass = .gatewayLocal) /\
      (mirror = true -> routingClass = .relayHotpath)) <->
    match routingClass with
    | .noAuth | .gatewayLocal => messageType = .technical /\ mirror = false
    | .relayHotpath => messageType ≠ .technical
    | .backendControl => messageType ≠ .technical /\ mirror = false := by
  cases routingClass <;> simp

theorem checkCommand_ok_iff (seen : List String) (spec : CommandSpec) :
    checkCommand seen spec = .ok () <-> spec.commandName ∉ seen /\ CommandProper spec := by
  have parts : CommandProper spec <-> trim spec.commandName ≠ "" /\ spec.messageType ≠ .event /\
      ((spec.messageType = .technical <->
        spec.routingClass = .noAuth \/ spec.routingClass = .gatewayLocal) /\
      (spec.mirrorToBackend = true -> spec.routingClass = .relayHotpath)) :=
    ⟨fun proper => ⟨proper.visible, proper.inbound, proper.technical, proper.mirrored⟩,
      fun ⟨visible, inbound, technical, mirrored⟩ => ⟨visible, inbound, technical, mirrored⟩⟩
  rw [parts, classFits_iff]
  unfold checkCommand
  dsimp only
  rw [guarded_ok_iff, guarded_ok_iff, guarded_ok_iff]
  cases spec.routingClass with
  | noAuth | gatewayLocal =>
      dsimp only
      rw [guarded_ok_iff, guarded_ok_iff, not_not, Bool.not_eq_true, eq_self, and_true]
      exact and_left_comm
  | relayHotpath =>
      dsimp only
      rw [guarded_ok_iff, eq_self, and_true]
      exact and_left_comm
  | backendControl =>
      dsimp only
      rw [guarded_ok_iff, guarded_ok_iff, Bool.not_eq_true, eq_self, and_true]
      exact and_left_comm

theorem checkCommands_ok_iff (seen : List String) (specs : List CommandSpec) :
    checkCommands seen specs = .ok () <->
      (forall spec, spec ∈ specs -> CommandProper spec) /\
      (specs.map CommandSpec.commandName).Nodup /\
      forall spec, spec ∈ specs -> spec.commandName ∉ seen := by
  induction specs generalizing seen with
  | nil => simp [checkCommands]
  | cons spec specs ih =>
      have step : checkCommands seen (spec :: specs) = .ok () <->
          checkCommand seen spec = .ok () /\
            checkCommands (spec.commandName :: seen) specs = .ok () := by
        rw [checkCommands]
        cases checkCommand seen spec with
        | error message => exact iff_of_false nofun fun both => nomatch both.1
        | ok done => exact (and_iff_right rfl).symm
      rw [step, checkCommand_ok_iff, ih, List.map_cons, List.nodup_cons, List.forall_mem_cons,
        List.forall_mem_cons]
      simp only [List.mem_cons, List.mem_map, not_or]
      constructor
      · rintro ⟨⟨unseen, proper⟩, others, distinct, fresh⟩
        refine ⟨⟨proper, others⟩, ⟨?_, distinct⟩, unseen, fun other member =>
          (fresh other member).2⟩
        rintro ⟨other, member, same⟩
        exact (fresh other member).1 same
      · rintro ⟨⟨proper, others⟩, ⟨first, distinct⟩, unseen, fresh⟩
        refine ⟨⟨unseen, proper⟩, others, distinct, fun other member => ⟨?_, fresh other member⟩⟩
        intro same
        exact first ⟨other, member, same⟩

theorem checkRelayCommand_ok_iff (registry : CommandRegistry) (command : String) :
    registry.checkRelayCommand command = .ok () <-> Exists fun authSpec =>
      registry.resolveRelayAuthorizationSpec command = some authSpec /\
        trim authSpec.commandFamily ≠ "" /\ trim authSpec.operationKeyField ≠ "" := by
  unfold CommandRegistry.checkRelayCommand
  cases registry.resolveRelayAuthorizationSpec command with
  | none => exact iff_of_false nofun fun ⟨_, found, _⟩ => nomatch found
  | some authSpec =>
      dsimp only
      rw [guarded_ok_iff, guarded_ok_iff, eq_self, and_true]
      exact ⟨fun both => ⟨authSpec, rfl, both⟩, fun ⟨_, rfl, both⟩ => both⟩

theorem checkOtherCommand_ok_iff (registry : CommandRegistry) (spec : CommandSpec) :
    registry.checkOtherCommand spec = .ok () <->
      registry.resolveRelayAuthorizationSpec spec.commandName = none := by
  unfold CommandRegistry.checkOtherCommand
  rw [guarded_ok_iff, eq_self, and_true, Option.not_isSome_iff_eq_none]

/-- The accepted registries are exactly the proper ones. -/
theorem validateCommandRegistry_ok_iff (registry : CommandRegistry) :
    registry.validateCommandRegistry = .ok () <-> RegistryProper registry := by
  have steps : registry.validateCommandRegistry = .ok () <->
      checkCommands [] registry.commands = .ok () /\
      checkAll registry.checkRelayCommand registry.relayCommands = .ok () /\
      checkAll registry.checkOtherCommand
        (registry.commands.filter fun spec => decide (spec.routingClass ≠ .relayHotpath)) =
          .ok () := by
    unfold CommandRegistry.validateCommandRegistry
    cases checkCommands [] registry.commands with
    | error message => exact iff_of_false nofun fun all => nomatch all.1
    | ok done =>
        cases checkAll registry.checkRelayCommand registry.relayCommands with
        | error message => exact iff_of_false nofun fun all => nomatch all.2.1
        | ok done => exact ⟨fun last => ⟨rfl, rfl, last⟩, fun all => all.2.2⟩
  rw [steps, checkCommands_ok_iff, checkAll_ok_iff, checkAll_ok_iff]
  simp only [checkRelayCommand_ok_iff, checkOtherCommand_ok_iff, CommandRegistry.relayCommands,
    List.mem_map, List.mem_filter, decide_eq_true_eq]
  constructor
  · rintro ⟨⟨proper, distinct, _⟩, relayed, others⟩
    exact ⟨proper, distinct, fun spec member hotpath =>
      relayed spec.commandName ⟨spec, ⟨member, hotpath⟩, rfl⟩,
      fun spec member other => others spec ⟨member, other⟩⟩
  · rintro ⟨proper, distinct, relayed, others⟩
    refine ⟨⟨proper, distinct, fun _ _ => List.not_mem_nil⟩, ?_, ?_⟩
    · rintro _ ⟨spec, ⟨member, hotpath⟩, rfl⟩
      exact relayed spec member hotpath
    · exact fun spec both => others spec both.1 both.2

/-! ## Classes decide -/

/-- No request id has a route that it did not have before. -/
def NoNewRoutes (before after : GatewayState) : Prop :=
  forall key route, after.requestRoutes.lookup key = some route ->
    before.requestRoutes.lookup key = some route

theorem noNewRoutes_kept (before : GatewayState) : KeptByRemoval (NoNewRoutes before) where
  channels := fun _ _ _ none => none
  unregister := by
    intro state connectionId none key route found
    unfold GatewayState.unregisterConnection at found
    split at found
    · exact none key route found
    · dsimp only at found
      rw [HashTable.lookup_eraseAll_filter, Option.filter_eq_some_iff] at found
      exact none key route found.1

section Classes

variable {registry : CommandRegistry} (toLowercase : String -> String) (json : JsonText)
  (reading : ClientReading) (state : GatewayState) (info : ConnectionInfo)

theorem sendGatewayCommandError_noNewRoutes (now : Int) (connectionId : String)
    (rejection : CommandRejection) :
    NoNewRoutes state (sendGatewayCommandError json now state connectionId rejection) := by
  unfold sendGatewayCommandError
  split
  · exact fun _ _ found => found
  · exact (noNewRoutes_kept state).delivery.sendToConnection _ _ fun _ _ found => found

/-- What passes the screening is a visible type of a command that is relayed or
goes to the backend. -/
theorem screenCommand_some_iff (msgType : String) (spec : CommandSpec) :
    screenCommand registry msgType = .ok (some spec) <->
      trim msgType ≠ "" /\ registry.resolveCommandSpec msgType = some spec /\
        (spec.routingClass = .relayHotpath \/ spec.routingClass = .backendControl) := by
  unfold screenCommand
  by_cases blank : trim msgType = ""
  · rw [if_pos blank]
    exact iff_of_false nofun fun all => all.1 blank
  · rw [if_neg blank, ne_eq, and_iff_right blank]
    cases registry.resolveCommandSpec msgType with
    | none => exact iff_of_false nofun fun both => nomatch both.1
    | some found =>
        dsimp only
        cases routed : found.routingClass with
        | noAuth =>
            refine iff_of_false nofun ?_
            rintro ⟨⟨⟩, relayed | backend⟩
            · rw [routed] at relayed
              cases relayed
            · rw [routed] at backend
              cases backend
        | gatewayLocal =>
            refine iff_of_false (by dsimp only; split <;> nofun) ?_
            rintro ⟨⟨⟩, relayed | backend⟩
            · rw [routed] at relayed
              cases relayed
            · rw [routed] at backend
              cases backend
        | relayHotpath =>
            constructor
            · rintro ⟨⟩
              exact ⟨rfl, Or.inl routed⟩
            · rintro ⟨⟨⟩, _⟩
              rfl
        | backendControl =>
            constructor
            · rintro ⟨⟩
              exact ⟨rfl, Or.inr routed⟩
            · rintro ⟨⟨⟩, _⟩
              rfl

/-- The type names no command that is relayed or goes to the backend. -/
def Unrouted (registry : CommandRegistry) (msgType : String) : Prop :=
  trim msgType = "" \/ registry.resolveCommandSpec msgType = none \/
    Exists fun spec => registry.resolveCommandSpec msgType = some spec /\
      (spec.routingClass = .noAuth \/ spec.routingClass = .gatewayLocal)

theorem Unrouted.not_screened {msgType : String} (unrouted : Unrouted registry msgType)
    (spec : CommandSpec) : screenCommand registry msgType ≠ .ok (some spec) := by
  intro screened
  rcases (screenCommand_some_iff msgType spec).mp screened with ⟨visible, resolved, routed⟩
  rcases unrouted with blank | unregistered | ⟨other, found, answered⟩
  · exact visible blank
  · rw [unregistered] at resolved
    cases resolved
  · rw [found] at resolved
    cases resolved
    rcases routed with relayed | backend
    · rw [relayed] at answered
      rcases answered with same | same <;> cases same
    · rw [backend] at answered
      rcases answered with same | same <;> cases same

variable {json reading state info}

theorem handleClientMessage_of_unrouted (hasRedis : Bool) (connectionId : String) {raw : String}
    (unrouted : Unrouted registry (messageType (decodeMessage json raw))) :
    let outcome := handleClientMessage registry toLowercase json reading hasRedis state
      connectionId info raw
    NoNewRoutes state outcome.state /\ outcome.relay = none /\ outcome.published = none := by
  intro outcome
  have unscreened := unrouted.not_screened
  have marked : NoNewRoutes state (state.markConnectionAlive connectionId reading.aliveNow) :=
    fun _ _ found => found
  simp only [outcome]
  unfold handleClientMessage
  by_cases blank : trim raw = ""
  · rw [if_pos blank]
    exact ⟨fun _ _ found => found, rfl, rfl⟩
  · rw [if_neg blank]
    dsimp only
    cases screened : screenCommand registry (messageType (decodeMessage json raw)) with
    | error rejection =>
        refine ⟨fun key route found => marked key route ?_, rfl, rfl⟩
        exact sendGatewayCommandError_noNewRoutes json _ _ connectionId rejection key route found
    | ok passed =>
        cases passed with
        | none => exact ⟨marked, rfl, rfl⟩
        | some spec => exact absurd screened (unscreened spec)

theorem handleClientMessage_of_screened (hasRedis : Bool) (connectionId : String) {raw : String}
    (visible : trim raw ≠ "") {spec : CommandSpec}
    (screened : screenCommand registry (messageType (decodeMessage json raw)) = .ok (some spec)) :
    handleClientMessage registry toLowercase json reading hasRedis state connectionId info raw =
      runCommand registry toLowercase json reading hasRedis
        (state.markConnectionAlive connectionId reading.aliveNow) connectionId info raw
        (decodeMessage json raw) spec := by
  unfold handleClientMessage
  rw [if_neg visible]
  dsimp only
  rw [screened]

/-- A command is published if it has a backend step and was not refused. -/
theorem runCommand_published (hasRedis : Bool) (connectionId raw : String) (data : Json)
    (spec : CommandSpec) :
    let outcome := runCommand registry toLowercase json reading hasRedis state connectionId info raw
      data spec
    outcome.published =
      match outcome.rejection with
      | some _ => none
      | none =>
          if (runtimeSteps spec).2 = true ∧ hasRedis = true then
            some (inboxPayload reading connectionId info raw (messageType data) data spec)
          else none := by
  intro outcome
  simp only [outcome]
  rw [runCommand_eq]
  cases if (runtimeSteps spec).1 = true then
      relayCommand registry toLowercase json reading
        (prepareCommand reading state connectionId info (messageType data) data
          (runtimeSteps spec).2) info (messageType data) data (runtimeSteps spec).2
    else (.ok none, prepareCommand reading state connectionId info (messageType data) data
      (runtimeSteps spec).2) with
  | mk relayed after =>
      cases relayed with
      | error rejection => rfl
      | ok relay => rfl

/-- A command without relay step is neither relayed nor refused. -/
theorem runCommand_of_backend (hasRedis : Bool) (connectionId raw : String) (data : Json)
    {spec : CommandSpec} (unrelayed : (runtimeSteps spec).1 = false) :
    let outcome := runCommand registry toLowercase json reading hasRedis state connectionId info raw
      data spec
    outcome.rejection = none /\ outcome.relay = none := by
  intro outcome
  simp only [outcome]
  rw [runCommand_eq, if_neg (by rw [unrelayed]; exact Bool.false_ne_true)]
  exact ⟨rfl, rfl⟩

theorem relayAuthError_code_ne (error : RelayAuthError) :
    error.code ≠ "relay_auth_spec_missing" := by
  cases error with
  | contextStateInvalid contextState => cases contextState <;> decide
  | _ => decide

/-- A refusal of the relay step has no other reason than the message and the
contexts if the command has metadata. -/
theorem relayCommand_rejection (msgType : String) (data : Json) (hasSymfonyStep : Bool)
    {authSpec : RelayAuthorizationSpec}
    (metadata : registry.resolveRelayAuthorizationSpec msgType = some authSpec)
    {rejection : CommandRejection} {after : GatewayState}
    (refused : relayCommand registry toLowercase json reading state info msgType data
      hasSymfonyStep = (.error rejection, after)) :
    rejection.error ≠ "relay_auth_spec_missing" := by
  rcases relayCommand_error registry json reading info refused with ⟨untargeted, _⟩ | unauthorized
  · rw [untargeted]
    decide
  · unfold authorizeCommand at unauthorized
    rw [metadata] at unauthorized
    dsimp only at unauthorized
    by_cases keyless : operationKeyOf data authSpec = ""
    · rw [if_pos keyless] at unauthorized
      cases unauthorized
      exact (by decide : "relay_operation_key_missing" ≠ "relay_auth_spec_missing")
    · rw [if_neg keyless] at unauthorized
      by_cases required : authSpec.requiresRelayContext = true
      · rw [if_pos required] at unauthorized
        cases result : state.authorizeRelayHotpath toLowercase info.userId msgType authSpec
            (operationKeyOf data authSpec) (collectRelayTargets toLowercase data).emails
            (replayNonce data) (payloadSizeHint data) reading.authorizeNow with
        | mk checked authorized =>
            rw [result] at unauthorized
            cases checked with
            | error error =>
                cases unauthorized
                exact relayAuthError_code_ne error
            | ok decision => cases unauthorized
      · rw [if_neg required] at unauthorized
        cases unauthorized

theorem screenCommand_rejection {msgType : String} {rejection : CommandRejection}
    (refused : screenCommand registry msgType = .error rejection) :
    rejection.error ≠ "relay_auth_spec_missing" := by
  unfold screenCommand at refused
  by_cases blank : trim msgType = ""
  · rw [if_pos blank] at refused
    cases refused
    decide
  · rw [if_neg blank] at refused
    cases resolved : registry.resolveCommandSpec msgType with
    | none =>
        rw [resolved] at refused
        cases refused
        exact (by decide : "unsupported_command" ≠ "relay_auth_spec_missing")
    | some spec =>
        rw [resolved] at refused
        dsimp only at refused
        cases routed : spec.routingClass with
        | noAuth =>
            rw [routed] at refused
            cases refused
            exact (by decide : "preauth_only_command" ≠ "relay_auth_spec_missing")
        | gatewayLocal =>
            rw [routed] at refused
            dsimp only at refused
            split at refused
            · cases refused
            · cases refused
              exact (by decide : "invalid_gateway_local_command" ≠ "relay_auth_spec_missing")
        | relayHotpath =>
            rw [routed] at refused
            cases refused
        | backendControl =>
            rw [routed] at refused
            cases refused

theorem mem_of_resolveCommandSpec {msgType : String} {spec : CommandSpec}
    (resolved : registry.resolveCommandSpec msgType = some spec) :
    spec ∈ registry.commands /\ spec.commandName = msgType :=
  ⟨List.mem_of_find?_eq_some resolved, by
    have matched := List.find?_some resolved
    exact eq_of_beq matched⟩

/-- In a proper registry every relayed command has its metadata. -/
theorem RegistryProper.rejection_error (proper : RegistryProper registry) (hasRedis : Bool)
    (connectionId raw : String) {rejection : CommandRejection}
    (refused : (handleClientMessage registry toLowercase json reading hasRedis state connectionId
      info raw).rejection = some rejection) :
    rejection.error ≠ "relay_auth_spec_missing" := by
  rcases handleClientMessage_rejection registry json refused with
    ⟨_, ⟨screened, _⟩ | ⟨spec, after, screened, subjects, relayRefused, _⟩⟩
  · exact screenCommand_rejection screened
  · have listed := mem_of_resolveCommandSpec (resolveCommandSpec_of_screened registry screened)
    rcases proper.relayed spec listed.1 (relayHotpath_of_runtimeSteps subjects) with
      ⟨authSpec, metadata, _⟩
    rw [listed.2] at metadata
    exact relayCommand_rejection toLowercase _ _ _ metadata relayRefused

/-- The path of a published command names the relay step of relayed commands, and
ends at the backend. -/
theorem inboxPayload_runtimePath (connectionId raw msgType : String) (data : Json)
    {spec : CommandSpec} (backend : (runtimeSteps spec).2 = true) :
    Exists fun path : List String =>
      (inboxPayload reading connectionId info raw msgType data spec).get "runtime_path" =
        some (.array (path.map Json.string)) /\
      ("subjects" ∈ path <-> spec.routingClass = .relayHotpath) /\
      path.getLast? = some "symfony" := by
  refine ⟨runtimePath (runtimeSteps spec), Json.get_ofFields_of_getLast? rfl, ?_, ?_⟩
  · have relayed : (runtimeSteps spec).1 = true <-> spec.routingClass = .relayHotpath :=
      ⟨relayHotpath_of_runtimeSteps, fun hotpath => by rw [runtimeSteps, hotpath]⟩
    rw [runtimePath, if_pos backend, ← relayed]
    cases (runtimeSteps spec).1 with
    | true => exact iff_of_true List.mem_cons_self rfl
    | false => exact iff_of_false (by decide) Bool.false_ne_true
  · rw [runtimePath, if_pos backend, List.getLast?_append]
    rfl

/-- What a command of each class publishes, and whether it is relayed. -/
structure FollowsClass (spec : CommandSpec) (outcome : ClientOutcome) : Prop where
  backend : spec.routingClass = .backendControl ->
    outcome.relay = none /\ outcome.published.isSome = true
  unmirrored : spec.routingClass = .relayHotpath -> spec.mirrorToBackend = false ->
    outcome.published = none
  mirrored : spec.routingClass = .relayHotpath -> spec.mirrorToBackend = true ->
    (outcome.published.isSome = true <-> outcome.rejection = none)
  path : forall payload, outcome.published = some payload -> Exists fun path : List String =>
    payload.get "runtime_path" = some (.array (path.map Json.string)) /\
    ("subjects" ∈ path <-> spec.routingClass = .relayHotpath) /\
    path.getLast? = some "symfony"

theorem runCommand_followsClass (connectionId raw : String) (data : Json) (spec : CommandSpec) :
    FollowsClass spec (runCommand registry toLowercase json reading true state connectionId info raw
      data spec) := by
  generalize ran : runCommand registry toLowercase json reading true state connectionId info raw
    data spec = outcome
  have published : outcome.published =
      match outcome.rejection with
      | some _ => none
      | none =>
          if (runtimeSteps spec).2 = true ∧ true = true then
            some (inboxPayload reading connectionId info raw (messageType data) data spec)
          else none := by
    rw [← ran]
    exact runCommand_published toLowercase true connectionId raw data spec
  constructor
  · intro backend
    have steps : runtimeSteps spec = (false, true) := by rw [runtimeSteps, backend]
    have quiet : outcome.rejection = none /\ outcome.relay = none := by
      rw [← ran]
      exact runCommand_of_backend toLowercase true connectionId raw data (by rw [steps])
    refine ⟨quiet.2, ?_⟩
    rw [published, quiet.1, steps]
    rfl
  · intro hotpath unmirrored
    have steps : runtimeSteps spec = (true, false) := by rw [runtimeSteps, hotpath, unmirrored]
    rw [published, steps]
    cases outcome.rejection with
    | none => rfl
    | some rejection => rfl
  · intro hotpath mirrored
    have steps : runtimeSteps spec = (true, true) := by rw [runtimeSteps, hotpath, mirrored]
    rw [published, steps]
    cases outcome.rejection with
    | none => exact iff_of_true rfl rfl
    | some rejection => exact iff_of_false Bool.false_ne_true nofun
  · intro payload found
    rw [published] at found
    cases refused : outcome.rejection with
    | some rejection =>
        rw [refused] at found
        cases found
    | none =>
        rw [refused] at found
        dsimp only at found
        by_cases backend : (runtimeSteps spec).2 = true
        · rw [if_pos ⟨backend, rfl⟩] at found
          rw [← Option.some.inj found]
          exact inboxPayload_runtimePath connectionId raw (messageType data) data backend
        · rw [if_neg fun both => backend both.1] at found
          cases found

theorem followsClass_of_unpublished {spec : CommandSpec} {outcome : ClientOutcome}
    (answered : spec.routingClass = .noAuth \/ spec.routingClass = .gatewayLocal)
    (unpublished : outcome.published = none) : FollowsClass spec outcome := by
  constructor
  · intro backend
    rw [backend] at answered
    rcases answered with same | same <;> cases same
  · exact fun _ _ => unpublished
  · intro hotpath
    rw [hotpath] at answered
    rcases answered with same | same <;> cases same
  · intro payload found
    rw [unpublished] at found
    cases found

/-- For every registry that passes validation, the class of the command decides
where the message goes. -/
theorem routing_follows_class (valid : registry.validateCommandRegistry = .ok ())
    (connectionId raw : String) (visible : trim raw ≠ "") :
    let data := decodeMessage json raw
    let outcome := handleClientMessage registry toLowercase json reading true state connectionId
      info raw
    SendsOnce json reading state connectionId outcome /\
    (forall rejection, outcome.rejection = some rejection ->
      rejection.error ≠ "relay_auth_spec_missing") /\
    (Unrouted registry (messageType data) ->
      NoNewRoutes state outcome.state /\ outcome.relay = none /\ outcome.published = none) /\
    forall spec, registry.resolveCommandSpec (messageType data) = some spec ->
      FollowsClass spec outcome := by
  intro data outcome
  have proper := (validateCommandRegistry_ok_iff registry).mp valid
  have unrouted : Unrouted registry (messageType data) ->
      NoNewRoutes state outcome.state /\ outcome.relay = none /\ outcome.published = none :=
    handleClientMessage_of_unrouted toLowercase true connectionId
  refine ⟨handleClientMessage_sendsOnce registry toLowercase json reading state info true
    connectionId raw, fun rejection => proper.rejection_error toLowercase true connectionId raw,
    unrouted, ?_⟩
  intro spec resolved
  have listed := mem_of_resolveCommandSpec resolved
  have typed : trim (messageType data) ≠ "" := by
    rw [← listed.2]
    exact (proper.commands spec listed.1).visible
  by_cases answered : spec.routingClass = .noAuth \/ spec.routingClass = .gatewayLocal
  · exact followsClass_of_unpublished answered
      (unrouted (Or.inr (Or.inr ⟨spec, resolved, answered⟩))).2.2
  · have routed : spec.routingClass = .relayHotpath \/ spec.routingClass = .backendControl := by
      cases routingClass : spec.routingClass with
      | noAuth => exact absurd (Or.inl routingClass) answered
      | gatewayLocal => exact absurd (Or.inr routingClass) answered
      | relayHotpath => exact Or.inl rfl
      | backendControl => exact Or.inr rfl
    have ran : outcome = _ := handleClientMessage_of_screened toLowercase true connectionId visible
      ((screenCommand_some_iff (messageType data) spec).mpr ⟨typed, resolved, routed⟩)
    rw [ran]
    exact runCommand_followsClass toLowercase connectionId raw data spec

end Classes

theorem builtinRegistry_valid : builtinRegistry.validateCommandRegistry = .ok () := by
  decide +kernel

theorem routing_follows_class_of_chunk :
    FollowsClass ⟨"file_transfer_chunk", .relayHotpath, .command, false⟩
      (handleClientMessage builtinRegistry asciiLowercase chunkJson (readingAt 10) true
        transferState "conn-a" aliceInfo chunkText) :=
  (routing_follows_class asciiLowercase builtinRegistry_valid "conn-a" chunkText
    (by decide)).2.2.2 _ (by decide +kernel)

end Ingress
end Gateway

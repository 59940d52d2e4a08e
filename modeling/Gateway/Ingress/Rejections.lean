import Gateway.Ingress.Confinement
import Gateway.Ingress.MessageOperations
import Gateway.Ingress.Outcomes
import Gateway.State.Capacity

namespace Gateway
namespace Ingress

open Foundation State

/-!
# What a rejected message leaves behind

A command that is mirrored to the backend has its request route bound before the
relay step, which may still refuse it.  No other trace is left: all other
refusals come before any effect, and the relay authorization writes only its own
bookkeeping.
-/

/-- The route is not removed by pruning. -/
def RouteCurrent (state : GatewayState) (now : Int) (route : RequestRoute) : Prop :=
  saturatingSub now route.updatedAt ≤ requestRouteTtlSeconds /\
    route.connectionId ∈ state.connections

/-- The route is stored as it would be bound, and no pruning is due. -/
def AlreadyBound (state : GatewayState) (now : Int) (requestId connectionId userId : String) :
    Prop :=
  state.requestRoutes.lookup (trim requestId) =
      some { connectionId := connectionId, userId := userId, updatedAt := now } /\
    (state.requestRoutes.entries.length ≤ requestRouteMax \/
      forall key route, state.requestRoutes.lookup key = some route -> RouteCurrent state now route)

/-- Every request id has the route that it had. -/
def SameRoutes (before after : GatewayState) : Prop :=
  forall key, after.requestRoutes.lookup key = before.requestRoutes.lookup key

theorem not_marked_iff (state : GatewayState) (now : Int) (route : RequestRoute) :
    (!(decide (requestRouteTtlSeconds < saturatingSub now route.updatedAt) ||
      decide (route.connectionId ∉ state.connections))) = true <->
      RouteCurrent state now route := by
  rw [Bool.not_eq_true', Bool.or_eq_false_iff, decide_eq_false_iff_not, decide_eq_false_iff_not,
    not_lt, not_not]
  rfl

/-- What a bind leaves under a key. -/
theorem lookup_bindRequestRoute {state : GatewayState} {now : Int}
    {requestId connectionId userId : String} (visible : trim requestId ≠ "")
    (connection : connectionId ≠ "") (user : userId ≠ "") (key : String) :
    let route : RequestRoute :=
      { connectionId := connectionId, userId := userId, updatedAt := now }
    let inserted := state.requestRoutes.insert (trim requestId) route
    (state.bindRequestRoute now requestId connectionId userId).requestRoutes.lookup key =
      if inserted.entries.length ≤ requestRouteMax then inserted.lookup key
      else (inserted.lookup key).filter fun stored =>
        !(decide (requestRouteTtlSeconds < saturatingSub now stored.updatedAt) ||
          decide (stored.connectionId ∉ state.connections)) := by
  intro route inserted
  rw [GatewayState.bindRequestRoute_of_visible now state visible connection user,
    GatewayState.pruneRequestRoutes_requestRoutes]
  dsimp only
  by_cases short : inserted.entries.length ≤ requestRouteMax
  · rw [if_pos short, if_pos short]
  · rw [if_neg short, if_neg short, HashTable.lookup_eraseAll_filter]

/-- A bind leaves the routes alone exactly if it finds its route there. -/
theorem bindRequestRoute_sameRoutes_iff (state : GatewayState) (now : Int)
    {requestId connectionId userId : String} (visible : trim requestId ≠ "")
    (connection : connectionId ≠ "") (user : userId ≠ "")
    (registered : connectionId ∈ state.connections) :
    SameRoutes state (state.bindRequestRoute now requestId connectionId userId) <->
      AlreadyBound state now requestId connectionId userId := by
  unfold SameRoutes AlreadyBound
  simp only [lookup_bindRequestRoute visible connection user]
  generalize bound : ({ connectionId := connectionId, userId := userId, updatedAt := now } :
    RequestRoute) = route
  have current : RouteCurrent state now route := by
    rw [← bound]
    exact ⟨not_lt.mp (GatewayState.not_expired_at_bind now), registered⟩
  constructor
  · intro same
    have atKey := same (trim requestId)
    rw [AList.lookup_insert] at atKey
    by_cases short : (state.requestRoutes.insert (trim requestId) route).entries.length ≤
        requestRouteMax
    · rw [if_pos short] at atKey
      have stored : trim requestId ∈ state.requestRoutes := by
        rw [← AList.lookup_isSome, ← atKey]
        rfl
      rw [HashTable.length_insert_of_mem stored] at short
      exact ⟨atKey.symm, Or.inl short⟩
    · rw [if_neg short, Option.filter_some, if_pos ((not_marked_iff state now route).mpr current)]
        at atKey
      refine ⟨atKey.symm, Or.inr fun key other found => ?_⟩
      have kept := same key
      rw [if_neg short, found, Option.filter_eq_some_iff] at kept
      exact (not_marked_iff state now other).mp kept.2
  · rintro ⟨stored, small⟩ key
    have inserted : (state.requestRoutes.insert (trim requestId) route).lookup key =
        state.requestRoutes.lookup key := by
      rw [HashTable.lookup_insert_ite]
      split
      · next same => rw [same, stored]
      · rfl
    rw [inserted]
    by_cases short : (state.requestRoutes.insert (trim requestId) route).entries.length ≤
        requestRouteMax
    · rw [if_pos short]
    · rw [if_neg short]
      have member : trim requestId ∈ state.requestRoutes := by
        rw [← AList.lookup_isSome, stored]
        rfl
      rw [HashTable.length_insert_of_mem member] at short
      have every := small.resolve_left short
      cases found : state.requestRoutes.lookup key with
      | none => rfl
      | some other =>
          rw [Option.filter_some, if_pos ((not_marked_iff state now other).mpr
            (every key other found))]

/-! ## The state that reports the rejection -/

section Calls

variable (registry : CommandRegistry) (toLowercase : String -> String) (json : JsonText)
  (reading : ClientReading) (state : GatewayState) (info : ConnectionInfo)

/-- The state after the connection was marked alive and the route bound, if the
message binds one. -/
def boundState (connectionId raw : String) : GatewayState :=
  match boundRequest registry json raw with
  | none => state.markConnectionAlive connectionId reading.aliveNow
  | some requestId =>
      (state.markConnectionAlive connectionId reading.aliveNow).bindRequestRoute reading.bindNow
        requestId connectionId info.userId

/-- At most the bookkeeping of relay authorization differs. -/
def SameButBookkeeping (before after : GatewayState) : Prop :=
  Exists fun cache => Exists fun counters =>
    after = { before with relayReplayCache := cache, relayRateCounters := counters }

theorem SameButBookkeeping.refl : SameButBookkeeping state state :=
  ⟨state.relayReplayCache, state.relayRateCounters, rfl⟩

theorem authorizeCommand_bookkeeping (msgType : String) (data : Json) (targets : RelayTargets) :
    SameButBookkeeping state
      (authorizeCommand registry toLowercase reading state info msgType data targets).2 :=
  authorizeCommand_keeps (SameButBookkeeping state) (.refl state) fun _ =>
    GatewayState.authorizeRelayHotpath_touches toLowercase state _ _ _ _ _ _ _ _

theorem relayCommand_bookkeeping (msgType : String) (data : Json) (hasSymfonyStep : Bool)
    {rejection : CommandRejection} {after : GatewayState}
    (refused : relayCommand registry toLowercase json reading state info msgType data
      hasSymfonyStep = (.error rejection, after)) :
    SameButBookkeeping state after := by
  rcases relayCommand_error registry json reading info refused with ⟨_, same⟩ | unauthorized
  · rw [same]
    exact .refl state
  · have kept := authorizeCommand_bookkeeping registry toLowercase reading state info msgType data
      (collectRelayTargets toLowercase data)
    rw [unauthorized] at kept
    exact kept

theorem prepareCommand_of_not_ready (connectionId : String) (data : Json) {msgType : String}
    (notReady : msgType ≠ "session_ready") {hasSymfonyStep : Bool} :
    prepareCommand reading state connectionId info msgType data hasSymfonyStep =
      match if hasSymfonyStep = true then data.trimmedField "request_id" else none with
      | none => state
      | some requestId =>
          state.bindRequestRoute reading.bindNow requestId connectionId info.userId := by
  unfold prepareCommand bindCommand
  dsimp only
  rw [if_neg notReady]
  cases hasSymfonyStep with
  | true => rfl
  | false =>
      cases data.trimmedField "request_id" with
      | none => rfl
      | some requestId => rfl

/-- A rejected message has bound its route, marked its connection, and written at
most the bookkeeping.  Session reports are not relayed, and so no session is noted
as ready. -/
theorem rejected_state (unrelayed : forall spec,
      registry.resolveCommandSpec "session_ready" = some spec ->
        spec.routingClass ≠ .relayHotpath) (hasRedis : Bool) (connectionId raw : String)
    {rejection : CommandRejection}
    (rejected : (handleClientMessage registry toLowercase json reading hasRedis state connectionId
      info raw).rejection = some rejection) :
    Exists fun middle =>
      SameButBookkeeping (boundState registry json reading state info connectionId raw) middle /\
      (handleClientMessage registry toLowercase json reading hasRedis state connectionId info
        raw).state = sendGatewayCommandError json reading.errorNow middle connectionId rejection /\
      (handleClientMessage registry toLowercase json reading hasRedis state connectionId info
        raw).published = none := by
  rcases handleClientMessage_rejection registry json rejected with
    ⟨visible, ⟨screened, ended⟩ | ⟨spec, after, screened, subjects, refused, ended⟩⟩
  · rw [ended]
    refine ⟨_, ?_, rfl, rfl⟩
    unfold boundState boundRequest
    rw [if_neg visible, screened]
    exact .refl _
  · rw [ended]
    refine ⟨after, ?_, rfl, rfl⟩
    have notReady : messageType (decodeMessage json raw) ≠ "session_ready" := by
      intro ready
      have resolved := resolveCommandSpec_of_screened registry screened
      rw [ready] at resolved
      exact unrelayed spec resolved (relayHotpath_of_runtimeSteps subjects)
    have kept := relayCommand_bookkeeping registry toLowercase json reading _ info _ _ _ refused
    rw [prepareCommand_of_not_ready reading _ info connectionId _ notReady] at kept
    unfold boundState boundRequest
    rw [if_neg visible, screened]
    exact kept

theorem boundState_touches (connectionId raw : String) : Exists fun routes =>
    boundState registry json reading state info connectionId raw =
      { state.markConnectionAlive connectionId reading.aliveNow with requestRoutes := routes } := by
  unfold boundState
  cases boundRequest registry json raw with
  | none => exact ⟨state.requestRoutes, rfl⟩
  | some requestId => exact GatewayState.bindRequestRoute_touches _ _ _ _ _

variable {registry json raw} in
theorem trim_boundRequest {requestId : String}
    (binds : boundRequest registry json raw = some requestId) : trim requestId ≠ "" := by
  unfold boundRequest at binds
  split at binds
  · cases binds
  · split at binds
    · split at binds
      · rcases Option.filter_eq_some_iff.mp binds with ⟨field, visible⟩
        rcases Option.map_eq_some_iff.mp field with ⟨text, _, rfl⟩
        rw [trim_trim]
        exact of_decide_eq_true visible
      · cases binds
    · cases binds

/-- The message binds a route that was not there. -/
def BindsAnew (connectionId raw : String) : Prop :=
  Exists fun requestId => boundRequest registry json raw = some requestId /\ info.userId ≠ "" /\
    Not (AlreadyBound state reading.bindNow requestId connectionId info.userId)

theorem mem_markConnectionAlive (connectionId : String) (timestamp : Int) (id : String) :
    id ∈ (state.markConnectionAlive connectionId timestamp).connections <->
      id ∈ state.connections := by
  unfold GatewayState.markConnectionAlive
  rw [← AList.lookup_isSome, ← AList.lookup_isSome, HashTable.lookup_modify]
  split
  · next same => rw [same, Option.isSome_map]
  · exact Iff.rfl

theorem alreadyBound_markConnectionAlive_iff (marked : String) (timestamp now : Int)
    (requestId connectionId userId : String) :
    AlreadyBound (state.markConnectionAlive marked timestamp) now requestId connectionId userId <->
      AlreadyBound state now requestId connectionId userId := by
  unfold AlreadyBound RouteCurrent
  simp only [mem_markConnectionAlive]
  rfl

/-- The routes stay as they are exactly if none is bound anew. -/
theorem boundState_sameRoutes_iff {connectionId : String} (named : connectionId ≠ "")
    (registered : connectionId ∈ state.connections) (raw : String) :
    SameRoutes state (boundState registry json reading state info connectionId raw) <->
      Not (BindsAnew registry json reading state info connectionId raw) := by
  unfold boundState BindsAnew
  cases binds : boundRequest registry json raw with
  | none => exact iff_of_true (fun _ => rfl) fun ⟨_, found, _⟩ => nomatch found
  | some requestId =>
      dsimp only
      by_cases user : info.userId = ""
      · refine iff_of_true ?_ fun ⟨_, _, visible, _⟩ => visible user
        intro key
        rw [GatewayState.bindRequestRoute, if_pos (Or.inr (Or.inr user))]
        rfl
      · have still : connectionId ∈
            (state.markConnectionAlive connectionId reading.aliveNow).connections :=
          (mem_markConnectionAlive state connectionId reading.aliveNow connectionId).mpr registered
        have bound := bindRequestRoute_sameRoutes_iff
          (state.markConnectionAlive connectionId reading.aliveNow) reading.bindNow
          (trim_boundRequest binds) named user still
        rw [alreadyBound_markConnectionAlive_iff] at bound
        constructor
        · rintro same ⟨_, ⟨⟩, _, anew⟩
          exact anew (bound.mp same)
        · intro known
          apply bound.mpr
          by_contra anew
          exact known ⟨requestId, rfl, user, anew⟩

/-! ## The only effect -/

variable {json} in
theorem sendGatewayCommandError_of_reached (now : Int) {connectionId : String}
    (named : connectionId ≠ "") {rejection : CommandRejection} {text : String}
    (rendered : json.render (commandErrorEnvelope rejection now) = some text)
    (visible : text ≠ "") {handle : ConnectionHandle}
    (found : state.connections.lookup connectionId = some handle)
    (alive : state.channels[handle.sender]?.any Channel.receiverAlive = true) :
    sendGatewayCommandError json now state connectionId rejection =
      { state with channels := (sendOn state.channels handle.sender (.text text)).2 } := by
  have reached := sendOn_fst state.channels handle.sender (.text text)
  unfold sendGatewayCommandError GatewayState.sendToConnection
  rw [rendered]
  dsimp only
  rw [if_neg (not_or.mpr ⟨named, visible⟩), found]
  dsimp only
  rcases sent : sendOn state.channels handle.sender (.text text) with ⟨success, after⟩
  rw [sent, alive] at reached
  dsimp only at reached
  rw [reached]

/-- Nothing happened but that the connection was seen and received one text. -/
structure OnlySends (before after : GatewayState) (connectionId : String) (sender : Nat)
    (timestamp : Int) (text : String) : Prop where
  routes : SameRoutes before after
  ready : after.readyConnections = before.readyConnections
  subjects : after.subjects = before.subjects
  pending : after.pendingBySubject = before.pendingBySubject
  contexts : after.relayContextsBySubject = before.relayContextsBySubject
  connections : forall id, after.connections.lookup id =
    if id = connectionId then
      (before.connections.lookup connectionId).map fun handle =>
        { handle with info := { handle.info with lastSeenAt := timestamp } }
    else before.connections.lookup id
  own : Exists fun channel : Channel => before.channels[sender]? = some channel /\
    after.channels[sender]? = some { channel with sent := channel.sent ++ [.text text] }
  others : forall index, index ≠ sender -> after.channels[index]? = before.channels[index]?

/-- Everything but the routes is as the sending of one text leaves it. -/
theorem onlySends_iff {before after : GatewayState} {routes : RequestRouteTable}
    {cache : RelayReplayTable} {counters : RelayRateTable} {connectionId text : String}
    {timestamp : Int} {sender : Nat}
    (alive : before.channels[sender]?.any Channel.receiverAlive = true)
    (sent : after = { before.markConnectionAlive connectionId timestamp with
      requestRoutes := routes
      relayReplayCache := cache
      relayRateCounters := counters
      channels := (sendOn before.channels sender (.text text)).2 }) :
    OnlySends before after connectionId sender timestamp text <-> SameRoutes before after := by
  constructor
  · exact OnlySends.routes
  · intro same
    subst sent
    rcases Option.any_eq_true .. |>.mp alive with ⟨channel, found, open_⟩
    refine ⟨same, rfl, rfl, rfl, rfl, fun id => HashTable.lookup_modify _ _ _ _, ?_, ?_⟩
    · refine ⟨channel, found, ?_⟩
      dsimp only
      rw [getElem?_sendOn, if_pos rfl, found, Option.map_some, Channel.receive_of_alive open_]
    · intro index different
      dsimp only
      rw [getElem?_sendOn, if_neg different]

/-- A rejected message has no effect but its error report exactly if it binds no
route anew. -/
theorem rejected_only_reports_iff
    (renders : forall rejection now, Exists fun text =>
      json.render (commandErrorEnvelope rejection now) = some text /\ text ≠ "")
    (hasRedis : Bool) (connectionId raw : String) (named : connectionId ≠ "")
    (reached : state.reaches connectionId = true) {rejection : CommandRejection}
    (rejected : (handleClientMessage builtinRegistry toLowercase json reading hasRedis state
      connectionId info raw).rejection = some rejection) :
    let outcome := handleClientMessage builtinRegistry toLowercase json reading hasRedis state
      connectionId info raw
    (outcome.published = none /\ Exists fun handle => Exists fun text =>
      state.connections.lookup connectionId = some handle /\
      json.render (commandErrorEnvelope rejection reading.errorNow) = some text /\
      OnlySends state outcome.state connectionId handle.sender reading.aliveNow text) <->
    Not (BindsAnew builtinRegistry json reading state info connectionId raw) := by
  intro outcome
  rcases Option.any_eq_true .. |>.mp reached with ⟨handle, registered, alive⟩
  rcases renders rejection reading.errorNow with ⟨text, rendered, visible⟩
  have unrelayed : forall spec, builtinRegistry.resolveCommandSpec "session_ready" = some spec ->
      spec.routingClass ≠ .relayHotpath := by
    have resolved : builtinRegistry.resolveCommandSpec "session_ready" =
        some ⟨"session_ready", .backendControl, .signal, false⟩ := by decide +kernel
    intro spec found
    rw [resolved] at found
    cases found
    decide
  rcases rejected_state builtinRegistry toLowercase json reading state info unrelayed hasRedis
    connectionId raw rejected with
    ⟨middle, ⟨cache, counters, bookkeeping⟩, ended, unpublished⟩
  rcases boundState_touches builtinRegistry json reading state info connectionId raw with
    ⟨routes, touched⟩
  have stored : connectionId ∈ state.connections := by
    rw [← AList.lookup_isSome, registered]
    rfl
  have sameRoutes := boundState_sameRoutes_iff builtinRegistry json reading state info named stored
    raw
  have marked : (state.markConnectionAlive connectionId reading.aliveNow).connections.lookup
      connectionId =
        some { handle with info := { handle.info with lastSeenAt := reading.aliveNow } } := by
    rw [GatewayState.markConnectionAlive, HashTable.lookup_modify, if_pos rfl, registered]
    rfl
  rw [touched] at bookkeeping sameRoutes
  have sent := sendGatewayCommandError_of_reached middle reading.errorNow named rendered visible
    (by rw [bookkeeping]; exact marked) (by rw [bookkeeping]; exact alive)
  have written : outcome.state =
      { state.markConnectionAlive connectionId reading.aliveNow with
        requestRoutes := routes
        relayReplayCache := cache
        relayRateCounters := counters
        channels := (sendOn state.channels handle.sender (.text text)).2 } := by
    rw [ended, sent, bookkeeping]
    rfl
  have sends := onlySends_iff alive written
  have routesOnly : SameRoutes state outcome.state <-> SameRoutes state
      { state.markConnectionAlive connectionId reading.aliveNow with requestRoutes := routes } := by
    unfold SameRoutes
    rw [written]
  rw [routesOnly, sameRoutes] at sends
  constructor
  · rintro ⟨_, other, otherText, otherRegistered, otherRendered, only⟩
    rw [registered] at otherRegistered
    rw [rendered] at otherRendered
    cases otherRegistered
    cases otherRendered
    exact sends.mp only
  · intro known
    exact ⟨unpublished, handle, text, registered, rendered, sends.mpr known⟩

end Calls

/-- A command for Bob with a request id and no transfer id. -/
def keylessText (command : String) : String :=
  "\x7b\"type\":\"" ++ command ++ "\",\"to\":\"bob@test.de\",\"request_id\":\"r\"\x7d"

/-- The JSON functions on the texts of such a call. -/
def keylessJson (command : String) : JsonText :=
  .ofTexts [(keylessText command, Json.ofFields [("type", .string command),
    ("to", .string "bob@test.de"), ("request_id", .string "r")])]

def keylessOutcome (command : String) : ClientOutcome :=
  handleClientMessage builtinRegistry asciiLowercase (keylessJson command) (readingAt 10) true
    transferState "conn-a" aliceInfo (keylessText command)

theorem commandErrorEnvelope_fields (rejection : CommandRejection) (now : Int) :
    commandErrorEnvelope rejection now = .object
      [("payload", .object
        [("command", .string rejection.command), ("error", .string rejection.error),
          ("message", .string rejection.message), ("ts", Json.ofInt now),
          ("type", .string "gateway_command_error")]),
        ("type", .string "event")] := by
  have beforeType : "command" < "type" /\ "error" < "type" /\ "message" < "type" /\
      "ts" < "type" /\ "payload" < "type" := by decide
  have sorted : ¬ "error" < "command" /\ ¬ "message" < "command" /\ ¬ "message" < "error" /\
      ¬ "ts" < "command" /\ ¬ "ts" < "error" /\ ¬ "ts" < "message" := by decide
  simp [commandErrorEnvelope, eventEnvelope, Json.ofFields, Json.insertField, beforeType, sorted]

/-- Every error report has a text. -/
theorem commandErrorEnvelope_compact (rejection : CommandRejection) (now : Int) :
    Exists fun text => (commandErrorEnvelope rejection now).compact = some text /\ text ≠ "" := by
  have number : Exists fun chars => (Json.ofInt now).compactChars = some chars := by
    unfold Json.ofInt
    split
    · exact ⟨_, rfl⟩
    · exact ⟨_, rfl⟩
  rcases number with ⟨chars, number⟩
  have rendered : Exists fun text => (commandErrorEnvelope rejection now).compact = some text := by
    rw [commandErrorEnvelope_fields]
    simp [Json.compact, Json.compactChars, Json.compactFields, number]
  rcases rendered with ⟨text, rendered⟩
  exact ⟨text, rendered, Json.compact_ne_empty rendered⟩

/-- A chunk is not mirrored, and its rejection has no other effect. -/
theorem rejected_only_reports_iff_of_chunk :
    (keylessOutcome "file_transfer_chunk").published = none /\
      Exists fun handle => Exists fun text =>
        transferState.connections.lookup "conn-a" = some handle /\
        OnlySends transferState (keylessOutcome "file_transfer_chunk").state "conn-a" handle.sender
          10 text := by
  have rejected : (keylessOutcome "file_transfer_chunk").rejection =
      some ⟨"file_transfer_chunk", "relay_operation_key_missing",
        "Relay command is missing operation key."⟩ := by decide +kernel
  have unbound : boundRequest builtinRegistry (keylessJson "file_transfer_chunk")
      (keylessText "file_transfer_chunk") = none := by decide +kernel
  have only := (rejected_only_reports_iff asciiLowercase (keylessJson "file_transfer_chunk")
    (readingAt 10) transferState aliceInfo commandErrorEnvelope_compact true "conn-a"
    (keylessText "file_transfer_chunk") (by decide) (by decide +kernel) rejected).mpr (by
      rintro ⟨_, binds, _⟩
      rw [unbound] at binds
      cases binds)
  rcases only with ⟨unpublished, handle, text, registered, _, sends⟩
  exact ⟨unpublished, handle, text, registered, sends⟩

/-- An acceptance is mirrored, and its rejection leaves a request route behind. -/
theorem rejected_acceptance_binds_route :
    (keylessOutcome "file_transfer_accept").rejection =
      some ⟨"file_transfer_accept", "relay_operation_key_missing",
        "Relay command is missing operation key."⟩ /\
    forall sender timestamp text, Not (OnlySends transferState
      (keylessOutcome "file_transfer_accept").state "conn-a" sender timestamp text) := by
  have bound : transferState.requestRoutes.lookup "r" = none /\
      (keylessOutcome "file_transfer_accept").state.requestRoutes.lookup "r" =
        some { connectionId := "conn-a", userId := "alice@test.de", updatedAt := 10 } := by
    decide +kernel
  refine ⟨by decide +kernel, ?_⟩
  intro sender timestamp text only
  have same := only.routes "r"
  rw [bound.1, bound.2] at same
  cases same

end Ingress
end Gateway

import Gateway.Foundation.JsonCompact
import Gateway.Ingress.Confinement
import Gateway.Ingress.MessageOperations
import Gateway.State.RouteRefinement

namespace Gateway
namespace Ingress

open Foundation State

/-!
# Client messages and the request routes of others

Request ids are chosen by the clients and share one key space.  A message takes
over a route only by binding its id anew.  Messages that do not bind the id
leave the route alone, whatever else they do, as long as the route is young and
its connection registered.
-/

/-- A client message with everything its handling reads. -/
structure HandledMessage where
  connectionId : String
  info : ConnectionInfo
  raw : String
  hasRedis : Bool
  reading : ClientReading

/-- Handle messages one after the other. -/
def handleMessages (registry : CommandRegistry) (toLowercase : String -> String)
    (json : JsonText) (state : GatewayState) (messages : List HandledMessage) : GatewayState :=
  messages.foldl (fun state message =>
    (handleClientMessage registry toLowercase json message.reading message.hasRedis state
      message.connectionId message.info message.raw).state) state

/-- If the connection of the route is still registered, it is the one that
registered with this info, and the route is in the table. -/
def RouteHeld (key : String) (route : RequestRoute) (info : ConnectionInfo)
    (state : GatewayState) : Prop :=
  forall handle, state.connections.lookup route.connectionId = some handle ->
    handle.info.atRegistration = info /\ state.requestRoutes.lookup key = some route

namespace RouteHeld

variable {key : String} {route : RequestRoute} {info : ConnectionInfo} {state : GatewayState}

theorem kept (key : String) (route : RequestRoute) (info : ConnectionInfo) :
    KeptByChanges (RouteHeld key route info) := by
  refine KeptByRemoval.changes ⟨fun _ _ _ held => held, ?_⟩ (fun _ _ _ _ _ held => held) ?_
  · intro state removed held handle found
    rw [GatewayState.lookup_unregisterConnection] at found
    split at found
    · cases found
    · next different =>
      have before := held handle found
      refine ⟨before.1, ?_⟩
      rw [GatewayState.lookup_unregisterConnection_requestRoutes]
      exact ⟨before.2, Or.inr different⟩
  · intro state marked timestamp held handle found
    simp only [GatewayState.markConnectionAlive, HashTable.lookup_modify] at found
    split at found
    · next same =>
      rcases Option.map_eq_some_iff.mp found with ⟨old, oldFound, rfl⟩
      rw [← same] at oldFound
      exact held old oldFound
    · exact held handle found

/-- A bind of another id prunes routes, but not one that is young. -/
theorem bindRequestRoute (held : RouteHeld key route info state) {now : Int}
    (young : now - route.updatedAt ≤ requestRouteTtlSeconds) {requestId : String}
    (different : trim requestId ≠ key) (connectionId userId : String) :
    RouteHeld key route info (state.bindRequestRoute now requestId connectionId userId) := by
  intro handle found
  have sameConnections : (state.bindRequestRoute now requestId connectionId userId).connections =
      state.connections := by
    rcases GatewayState.bindRequestRoute_touches now state requestId connectionId userId with
      ⟨routes, touched⟩
    rw [touched]
  rw [sameConnections] at found
  have before := held handle found
  refine ⟨before.1, ?_⟩
  unfold GatewayState.bindRequestRoute
  split
  · exact before.2
  · apply GatewayState.lookup_pruneRequestRoutes_of_counting _ young
    · exact AList.lookup_isSome.mp (Option.isSome_iff_exists.mpr ⟨handle, found⟩)
    · rw [HashTable.lookup_insert_ite, if_neg (Ne.symm different)]
      exact before.2

/-- Handling a message that does not bind the id keeps the route. -/
theorem handleClientMessage (held : RouteHeld key route info state) (registry : CommandRegistry)
    (toLowercase : String -> String) (json : JsonText) {message : HandledMessage}
    (unbound : forall other, boundRequest registry json message.raw = some other ->
      trim other ≠ key)
    (young : message.reading.bindNow - route.updatedAt ≤ requestRouteTtlSeconds) :
    RouteHeld key route info
      (Ingress.handleClientMessage registry toLowercase json message.reading message.hasRedis state
        message.connectionId message.info message.raw).state := by
  refine (handleClientMessage_performs registry toLowercase json message.reading
    message.connectionId message.info message.raw state message.hasRedis).keeps ?_ held
  intro state operation allowed before
  cases allowed with
  | bind binds => exact before.bindRequestRoute young (unbound _ binds) _ _
  | ready =>
      exact (kept key route info).markSessionReady _ _ _ _ (fun _ _ => before) before
  | alive => exact (kept key route info).apply_of_plain toLowercase rfl before
  | authorize => exact (kept key route info).apply_of_plain toLowercase rfl before
  | dispatch => exact (kept key route info).apply_of_plain toLowercase rfl before
  | report => exact (kept key route info).apply_of_plain toLowercase rfl before

theorem handleMessages (held : RouteHeld key route info state) (registry : CommandRegistry)
    (toLowercase : String -> String) (json : JsonText) {messages : List HandledMessage}
    (unbound : forall message, message ∈ messages ->
      forall other, boundRequest registry json message.raw = some other -> trim other ≠ key)
    (young : forall message, message ∈ messages ->
      message.reading.bindNow - route.updatedAt ≤ requestRouteTtlSeconds) :
    RouteHeld key route info (handleMessages registry toLowercase json state messages) := by
  induction messages generalizing state with
  | nil => exact held
  | cons message messages ih =>
      have first := held.handleClientMessage registry toLowercase json
        (unbound message List.mem_cons_self) (young message List.mem_cons_self)
      exact ih first (fun other member => unbound other (List.mem_cons_of_mem _ member))
        fun other member => young other (List.mem_cons_of_mem _ member)

end RouteHeld

/-- A route survives all client messages that do not bind its id, until it
expires or its connection is gone. -/
theorem request_route_survives_messages (registry : CommandRegistry)
    (toLowercase : String -> String) (json : JsonText) (maxConnectionsPerUser : Option Nat)
    (operations : List Operation) (requestId : String) (route : RequestRoute)
    (handle : ConnectionHandle)
    (bound : (GatewayState.run toLowercase maxConnectionsPerUser operations).requestRoutes.lookup
      (trim requestId) = some route)
    (live : (GatewayState.run toLowercase maxConnectionsPerUser operations).connections.lookup
      route.connectionId = some handle)
    (owned : handle.info.userId = route.userId) (messages : List HandledMessage)
    (unbound : forall message, message ∈ messages ->
      forall other, boundRequest registry json message.raw = some other ->
        trim other ≠ trim requestId)
    (now : Int) (clock : forall message, message ∈ messages -> message.reading.bindNow ≤ now)
    (young : now - route.updatedAt ≤ requestRouteTtlSeconds) {subject : String}
    (subscribed : subject ∈ handle.info.subjects) :
    let after := handleMessages registry toLowercase json
      (GatewayState.run toLowercase maxConnectionsPerUser operations) messages
    (after.connections.lookup route.connectionId).isSome = true ->
      (after.resolveRequestRoute now requestId [subject]).1 = some route.connectionId := by
  intro after registered
  have proper := RoutesProper.run toLowercase maxConnectionsPerUser operations _ route bound
  have initial : RouteHeld (trim requestId) route handle.info.atRegistration
      (GatewayState.run toLowercase maxConnectionsPerUser operations) := by
    intro other found
    rw [live] at found
    rw [← Option.some.inj found]
    exact ⟨rfl, bound⟩
  have youngThroughout : forall message, message ∈ messages ->
      message.reading.bindNow - route.updatedAt ≤ requestRouteTtlSeconds := by
    intro message member
    have reading := clock message member
    omega
  have held := initial.handleMessages registry toLowercase json unbound youngThroughout
  rcases Option.isSome_iff_exists.mp registered with ⟨last, found⟩
  rcases held last found with ⟨same, stored⟩
  have sameUser : last.info.atRegistration.userId = handle.info.atRegistration.userId :=
    congrArg ConnectionInfo.userId same
  have sameSubjects : last.info.atRegistration.subjects = handle.info.atRegistration.subjects :=
    congrArg ConnectionInfo.subjects same
  have listed : subject ∈ last.info.atRegistration.subjects := by
    rw [sameSubjects]
    exact subscribed
  rw [GatewayState.resolveRequestRoute_eq_some_iff]
  exact ⟨proper.1, route, last, stored, young, found, sameUser.trans owned,
    Or.inr ⟨subject, List.mem_cons_self, listed⟩, rfl⟩

/-- Alice waits for the response to her request `r`, and Bob is connected. -/
def waitingState : GatewayState :=
  GatewayState.run asciiLowercase none
    [.registerConnection .sorted 0 "conn-a" "alice@test.de" "" ["user:alice@test.de"] 0,
      .registerConnection .sorted 0 "conn-b" "bob@test.de" "" ["user:bob@test.de"] 0,
      .bindRequestRoute 0 "r" "conn-a" "alice@test.de"]

def bobInfo : ConnectionInfo :=
  { connectionId := "conn-b"
    userId := "bob@test.de"
    clientInstanceId := ""
    subjects := ["user:bob@test.de"]
    connectedAt := 0
    lastSeenAt := 0 }

def requestText (requestId : String) : String :=
  "\x7b\"type\":\"contacts_request\",\"request_id\":\"" ++ requestId ++ "\"\x7d"

def requestData (requestId : String) : Json :=
  Json.ofFields [("type", .string "contacts_request"), ("request_id", .string requestId)]

/-- The JSON functions on the requests `q` and `r`. -/
def requestJson : JsonText :=
  .ofTexts [(requestText "q", requestData "q"), (requestText "r", requestData "r")]

def requestOfBob (requestId : String) : HandledMessage where
  connectionId := "conn-b"
  info := bobInfo
  raw := requestText requestId
  hasRedis := false
  reading := readingAt 1

theorem request_route_survives_messages_of_bob :
    let after := handleMessages builtinRegistry asciiLowercase requestJson waitingState
      [requestOfBob "q"]
    (after.connections.lookup "conn-a").isSome = true ->
      (after.resolveRequestRoute 2 "r" ["user:alice@test.de"]).1 = some "conn-a" := by
  have unbound : forall message, message ∈ [requestOfBob "q"] ->
      forall other, boundRequest builtinRegistry requestJson message.raw = some other ->
        trim other ≠ trim "r" := by
    intro message member other binds
    have bound : boundRequest builtinRegistry requestJson (requestText "q") = some "q" := by
      decide +kernel
    rw [List.mem_singleton.mp member] at binds
    rw [← Option.some.inj (bound.symm.trans binds)]
    decide
  exact request_route_survives_messages builtinRegistry asciiLowercase requestJson none
    [.registerConnection .sorted 0 "conn-a" "alice@test.de" "" ["user:alice@test.de"] 0,
      .registerConnection .sorted 0 "conn-b" "bob@test.de" "" ["user:bob@test.de"] 0,
      .bindRequestRoute 0 "r" "conn-a" "alice@test.de"] "r"
    ⟨"conn-a", "alice@test.de", 0⟩
    ⟨⟨"conn-a", "alice@test.de", "", ["user:alice@test.de"], 0, 0⟩, 0⟩ rfl rfl rfl
    [requestOfBob "q"] unbound 2 (by decide) (by decide) List.mem_cons_self

/-- Bob uses the request id of Alice, and her response no longer finds her. -/
theorem request_route_taken_over :
    let after := handleMessages builtinRegistry asciiLowercase requestJson waitingState
      [requestOfBob "r"]
    (waitingState.resolveRequestRoute 1 "r" ["user:alice@test.de"]).1 = some "conn-a" /\
      (requestOfBob "r").info.userId ≠ "alice@test.de" /\
      (after.connections.lookup "conn-a").isSome = true /\
      (after.resolveRequestRoute 2 "r" ["user:alice@test.de"]).1 = none := by
  decide +kernel

end Ingress
end Gateway

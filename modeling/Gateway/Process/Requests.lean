import Gateway.Ingress.Rejections
import Gateway.Process.Events

namespace Gateway
namespace Process

open Foundation State Ingress Broker Http

/-!
# Requests and their responses

A client message that goes to the backend binds the id of its request to the
connection.  The response comes back through the outbox, after any number of
other calls.  It goes to the connection that sent the last message with this id,
as long as that is not too long ago and the connection still listens.
-/

section Messages

variable {registry : CommandRegistry} {toLowercase : String -> String} {json : JsonText}
  {reading : ClientReading} {state : GatewayState} {info : ConnectionInfo}
  {holds : GatewayState -> Prop}

theorem sendGatewayCommandError_keeps (kept : KeptByChanges holds) (now : Int)
    (connectionId : String) (rejection : CommandRejection) (before : holds state) :
    holds (sendGatewayCommandError json now state connectionId rejection) := by
  unfold sendGatewayCommandError
  split
  · exact before
  · exact kept.toKeptByDelivery.sendToConnection _ _ before

theorem relayCommand_keeps (kept : KeptByChanges holds) (msgType : String) (data : Json)
    (hasSymfonyStep : Bool) (before : holds state) :
    holds (relayCommand registry toLowercase json reading state info msgType data
      hasSymfonyStep).2 := by
  have authorized : holds (authorizeCommand registry toLowercase reading state info msgType data
      (collectRelayTargets toLowercase data)).2 := by
    refine authorizeCommand_keeps holds before fun authSpec => ?_
    rcases GatewayState.authorizeRelayHotpath_touches toLowercase state info.userId msgType authSpec
      (operationKeyOf data authSpec) (collectRelayTargets toLowercase data).emails
      (replayNonce data) (payloadSizeHint data) reading.authorizeNow with ⟨cache, counters, touched⟩
    rw [touched]
    exact kept.tables state _ _ cache counters before
  unfold relayCommand
  dsimp only
  split
  · split <;> exact before
  · split
    · next result =>
      rw [result] at authorized
      exact authorized
    · next result =>
      rw [result] at authorized
      dsimp only at authorized ⊢
      unfold dispatchRelay
      split
      · exact authorized
      · exact kept.toKeptByDelivery.sendToSubjects
          (fun state pending held => kept.tables state pending _ _ _ held) _ _ _ _ _ _ _ authorized

/-- The rest of a call keeps what the changes of the gateway keep, once the
message has bound its request. -/
theorem handleClientMessage_keeps (kept : KeptByChanges holds)
    (ready : forall (state : GatewayState) table, holds state ->
      holds { state with readyConnections := table })
    (hasRedis : Bool) (connectionId raw : String) (before : trim raw = "" -> holds state)
    (bound : holds (boundState registry json reading state info connectionId raw)) :
    holds (handleClientMessage registry toLowercase json reading hasRedis state connectionId info
      raw).state := by
  unfold handleClientMessage
  split
  · next blank => exact before blank
  · next visible =>
    dsimp only
    unfold boundState boundRequest at bound
    rw [if_neg visible] at bound
    split
    · next rejection screened =>
      rw [screened] at bound
      exact sendGatewayCommandError_keeps kept _ _ rejection bound
    · next screened =>
      rw [screened] at bound
      exact bound
    · next spec screened =>
      rw [screened] at bound
      dsimp only at bound
      have prepared : holds (prepareCommand reading
          (state.markConnectionAlive connectionId reading.aliveNow) connectionId info
          (messageType (decodeMessage json raw)) (decodeMessage json raw)
          (runtimeSteps spec).2) := by
        have command : holds (bindCommand reading
            (state.markConnectionAlive connectionId reading.aliveNow) connectionId info
            (decodeMessage json raw) (runtimeSteps spec).2) := by
          unfold bindCommand
          cases named : (decodeMessage json raw).trimmedField "request_id" with
          | none =>
              rw [named, ite_self] at bound
              exact bound
          | some requestId =>
              rw [named] at bound
              dsimp only
              split
              · next backend =>
                rw [if_pos backend] at bound
                exact bound
              · next relayed =>
                rw [if_neg relayed] at bound
                exact bound
        unfold prepareCommand
        dsimp only
        split
        · exact kept.toKeptByDelivery.markSessionReady _ _ _ _
            (fun _ _ => ready _ _ command) command
        · exact command
      have relayed := @relayCommand_keeps registry toLowercase json reading _ info holds kept
        (messageType (decodeMessage json raw)) (decodeMessage json raw) (runtimeSteps spec).2 prepared
      unfold runCommand
      dsimp only
      by_cases subjects : (runtimeSteps spec).1 = true
      · rw [if_pos subjects]
        split
        · next result =>
          rw [result] at relayed
          exact sendGatewayCommandError_keeps kept _ _ _ relayed
        · next result =>
          rw [result] at relayed
          exact relayed
      · rw [if_neg subjects]
        exact prepared

end Messages

section Runs

variable (environs : Environs)

/-- The route that a message binds. -/
def GatewayEvent.request : GatewayEvent -> Option (String × Option RequestRoute)
  | .message handled =>
      (boundRequest environs.registry environs.json handled.raw).bind fun requestId =>
        if handled.connectionId = "" ∨ handled.info.userId = "" then none
        else
          some (trim requestId, some
            { connectionId := handled.connectionId
              userId := handled.info.userId
              updatedAt := handled.reading.bindNow })
  | _ => none

def lastRequest (events : List GatewayEvent) : String -> Option RequestRoute :=
  lastWrite (events.filterMap (GatewayEvent.request environs))

/-- The readings of the clock that matter for routes. -/
def GatewayEvent.routeClock : GatewayEvent -> Option Int
  | .message handled => some handled.reading.bindNow
  | .entry reading _ => some reading.routeNow
  | _ => none

/-- The route is within its time at every reading. -/
def Current (events : List GatewayEvent) (route : RequestRoute) : Prop :=
  forall now, now ∈ events.filterMap GatewayEvent.routeClock ->
    now - route.updatedAt ≤ requestRouteTtlSeconds

theorem Current.of_append {earlier later : List GatewayEvent} {route : RequestRoute}
    (current : Current (earlier ++ later) route) : Current earlier route := by
  intro now read
  apply current
  rw [List.filterMap_append]
  exact List.mem_append_left _ read

theorem Current.last {earlier : List GatewayEvent} {event : GatewayEvent} {route : RequestRoute}
    (current : Current (earlier ++ [event]) route) {now : Int}
    (reads : event.routeClock = some now) : now - route.updatedAt ≤ requestRouteTtlSeconds :=
  current now (List.mem_filterMap.mpr
    ⟨event, List.mem_append_right _ List.mem_cons_self, reads⟩)

variable {environs}

theorem lastRequest_concat_of_none {event : GatewayEvent}
    (silent : event.request environs = none) (events : List GatewayEvent) :
    lastRequest environs (events ++ [event]) = lastRequest environs events := by
  rw [lastRequest, List.filterMap_append, List.filterMap_cons_none silent, List.filterMap_nil,
    List.append_nil, lastRequest]

theorem lastRequest_concat_of_some {event : GatewayEvent} {write : String × Option RequestRoute}
    (writes : event.request environs = some write) (events : List GatewayEvent) (key : String) :
    lastRequest environs (events ++ [event]) key =
      if write.1 = key then write.2 else lastRequest environs events key := by
  rw [lastRequest, List.filterMap_append, List.filterMap_cons_some writes, List.filterMap_nil,
    lastWrite_concat]
  rfl

theorem request_eq_some {event : GatewayEvent} {key : String} {bound : Option RequestRoute}
    (writes : event.request environs = some (key, bound)) : Exists fun handled =>
      event = .message handled /\ Exists fun requestId =>
        boundRequest environs.registry environs.json handled.raw = some requestId /\
        trim requestId = key /\ handled.connectionId ≠ "" /\ handled.info.userId ≠ "" /\
        bound = some ⟨handled.connectionId, handled.info.userId, handled.reading.bindNow⟩ := by
  cases event with
  | message handled =>
      rcases Option.bind_eq_some_iff.mp writes with ⟨requestId, binds, named⟩
      split at named
      · cases named
      · next visible =>
        cases named
        exact ⟨handled, rfl, requestId, binds, rfl, (not_or.mp visible).1, (not_or.mp visible).2, rfl⟩
  | _ => cases writes

/-- The session whose message bound a request. -/
theorem session_of_lastRequest {events : List GatewayEvent}
    (handed : Throughout (OfSession environs) events) {key : String} {route : RequestRoute}
    (bound : lastRequest environs events key = some route) : Exists fun info =>
      info ∈ sessionInfos environs events /\ info.connectionId = route.connectionId /\
        info.userId = route.userId := by
  rcases (lastWrite_filterMap_eq_some_iff _ events key route).mp bound with
    ⟨earlier, event, later, rfl, writes, _⟩
  rcases request_eq_some writes with ⟨handled, rfl, _, _, _, _, _, same⟩
  cases same
  rw [List.append_cons] at handed
  have own := handed.append_left.last
  refine ⟨handled.info, ?_, own.2, rfl⟩
  rw [sessionInfos, List.filterMap_append]
  exact List.mem_append_left _ own.1

theorem owner_of_lastRequest {events : List GatewayEvent}
    (fresh : FreshSessions environs events) (handed : Throughout (OfSession environs) events)
    {key : String} {route : RequestRoute} {handle : ConnectionHandle}
    (bound : lastRequest environs events key = some route)
    (found : (GatewayEvent.run environs events).connections.lookup route.connectionId =
      some handle) : handle.info.userId = route.userId := by
  rcases session_of_lastRequest handed bound with ⟨info, listed, sameId, sameUser⟩
  rw [← sameId] at found
  rw [← sameUser, ← GatewayEvent.owner environs fresh listed found]
  rfl

/-! ## The route table over a run of events -/

section Entries

variable {bound : String -> Option RequestRoute} {young : RequestRoute -> Prop}
  {state : GatewayState}

/-- A route is only cleared if its connection has just been removed. -/
theorem routesRefine_sendAlongRoute (refines : RoutesRefine bound young state)
    (proper : RoutesProper state) (reading : OutboxReading)
    (counting : forall route, young route ->
      reading.routeNow - route.updatedAt ≤ requestRouteTtlSeconds)
    (owned : forall key route handle, bound key = some route ->
      state.connections.lookup route.connectionId = some handle ->
      handle.info.userId = route.userId)
    (requestId : String) (subjects : List String) {text : String} (visible : text ≠ "") :
    RoutesRefine bound young (sendAlongRoute reading state requestId subjects text).2.2 := by
  have resolved := refines.resolve requestId subjects counting owned
  have leads := GatewayState.resolveRequestRoute_eq_some_iff reading.routeNow state requestId
    subjects
  unfold sendAlongRoute
  generalize state.resolveRequestRoute reading.routeNow requestId subjects = outcome
    at resolved leads ⊢
  rcases outcome with ⟨target, next⟩
  cases target with
  | none => exact resolved
  | some connectionId =>
      rcases (leads connectionId).mp rfl with ⟨_, route, _, stored, _, _, _, _, rfl⟩
      have named := (proper _ route stored).2
      have sent := (RoutesRefine.kept bound young).toKeptByDelivery.sendToConnection
        route.connectionId text resolved
      have gone : (next.sendToConnection route.connectionId text).1 = false ->
          (next.sendToConnection route.connectionId text).2.connections.lookup
            route.connectionId = none := by
        unfold GatewayState.sendToConnection
        rw [if_neg (not_or.mpr ⟨named, visible⟩)]
        split
        · intro _
          rw [GatewayState.lookup_unregisterConnection, if_pos rfl]
        · split
          · intro impossible
            cases impossible
          · intro _
            rw [GatewayState.lookup_unregisterConnection, if_pos rfl]
      dsimp only
      generalize next.sendToConnection route.connectionId text = sending at sent gone ⊢
      rcases sending with ⟨success, after⟩
      cases success with
      | true => exact sent
      | false =>
          dsimp only [GatewayState.clearRequestRoute]
          split
          · exact sent
          · apply sent.forget
            intro other handle last _ registered
            have same := Option.some.inj (last.symm.trans (refines.sound _ route stored))
            rw [same, gone rfl] at registered
            cases registered

theorem routesRefine_processEntry {environs : Environs}
    (refines : RoutesRefine bound young state)
    (proper : RoutesProper state) (reading : OutboxReading)
    (counting : forall route, young route ->
      reading.routeNow - route.updatedAt ≤ requestRouteTtlSeconds)
    (owned : forall key route handle, bound key = some route ->
      state.connections.lookup route.connectionId = some handle ->
      handle.info.userId = route.userId)
    (visible : forall data text, environs.json.render data = some text -> text ≠ "")
    (parsed : ParsedEntry) :
    RoutesRefine bound young
      (processEntry environs.toLowercase environs.json reading state parsed).2 := by
  have kept := RoutesRefine.kept bound young
  have dispatched : forall (state : GatewayState) subjects text,
      RoutesRefine bound young state -> RoutesRefine bound young
        (state.sendToSubjects reading.order reading.stickyNow reading.bufferNow subjects text true
          none).2 := by
    intro state subjects text refines
    exact kept.toKeptByDelivery.sendToSubjects
      (fun state pending held => kept.tables state pending _ _ _ held) _ _ _ _ _ _ _ refines
  unfold processEntry
  split
  · exact refines
  · next decoded _ =>
    dsimp only
    split
    · exact refines
    · split
      · next snapshot _ =>
        rcases GatewayState.applyRelayContextSnapshot_touches environs.toLowercase reading.applyNow
          state snapshot with ⟨contexts, touched⟩
        dsimp only
        rw [touched]
        exact kept.tables state _ contexts _ _ refines
      · split
        · exact refines
        · next text renders =>
          dsimp only [dispatchEvent]
          split
          · exact dispatched state _ text refines
          · next requestId _ =>
            have along := routesRefine_sendAlongRoute refines proper reading counting owned
              requestId (decoded.stringsField "subjects") (visible _ text renders)
            split
            · next result =>
              rw [result] at along
              exact along
            · next result =>
              rw [result] at along
              exact dispatched _ _ text along

end Entries

variable {environs : Environs}

/-- The state in which the rest of a message runs refines the requests. -/
theorem routesRefine_boundState {events : List GatewayEvent} {young : RequestRoute -> Prop}
    {state : GatewayState} {handled : HandledMessage}
    (refines : RoutesRefine (lastRequest environs events) young state)
    (counting : forall route, young route ->
      handled.reading.bindNow - route.updatedAt ≤ requestRouteTtlSeconds) :
    RoutesRefine (lastRequest environs (events ++ [.message handled])) young
      (boundState environs.registry environs.json handled.reading state handled.info
        handled.connectionId handled.raw) := by
  have kept := RoutesRefine.kept (lastRequest environs events) young
  have alive := kept.alive state handled.connectionId handled.reading.aliveNow refines
  unfold boundState
  cases binds : boundRequest environs.registry environs.json handled.raw with
  | none =>
      rw [lastRequest_concat_of_none (by rw [GatewayEvent.request, binds]; rfl)]
      exact alive
  | some requestId =>
      dsimp only
      have visible := trim_boundRequest binds
      by_cases nameless : handled.connectionId = "" ∨ handled.info.userId = ""
      · rw [lastRequest_concat_of_none (by
          rw [GatewayEvent.request, binds, Option.bind_some, if_pos nameless]),
          GatewayState.bindRequestRoute, if_pos (Or.inr nameless)]
        exact alive
      · rw [GatewayState.bindRequestRoute, if_neg (not_or.mpr ⟨visible, nameless⟩)]
        have writes : GatewayEvent.request environs (.message handled) =
            some (trim requestId, some
              ⟨handled.connectionId, handled.info.userId, handled.reading.bindNow⟩) := by
          rw [GatewayEvent.request, binds, Option.bind_some, if_neg nameless]
        exact alive.bind (lastRequest_concat_of_some writes events) counting

/-- The route table holds the last request with each id, but for routes that
are too old or lead nowhere. -/
theorem routesRefine_events
    (visible : forall data text, environs.json.render data = some text -> text ≠ "")
    (events : List GatewayEvent) (fresh : FreshSessions environs events)
    (handed : Throughout (OfSession environs) events) :
    RoutesRefine (lastRequest environs events) (Current events)
      (GatewayEvent.run environs events) := by
  induction events using List.reverseRecOn with
  | nil =>
      constructor
      · intro key route found
        simp [GatewayEvent.run, GatewayState.new] at found
      · intro key route handle last
        cases last
  | append_singleton events event ih =>
      have refines : RoutesRefine (lastRequest environs events) (Current (events ++ [event]))
          (GatewayEvent.run environs events) :=
        (ih (fresh.of_append environs) handed.append_left).mono fun _ current => current.of_append
      have kept := RoutesRefine.kept (lastRequest environs events) (Current (events ++ [event]))
      rw [GatewayEvent.run_concat]
      cases event with
      | connect order now connectionId userId clientInstanceId connectedAt =>
          rw [lastRequest_concat_of_none rfl]
          apply kept.toKeptByCalls.registerConnection
          apply (kept.toKeptByDelivery.evictSameInstance order connectionId userId clientInstanceId
            refines).insertConnection
          intro key route bound same
          rcases session_of_lastRequest handed.append_left bound with ⟨info, listed, sameId, _⟩
          rw [FreshSessions, sessionInfos, List.filterMap_append, List.map_append] at fresh
          exact (List.nodup_append.mp fresh).2.2 connectionId
            (List.mem_map.mpr ⟨info, listed, sameId.trans same⟩) connectionId List.mem_cons_self rfl
      | message handled =>
          have counting : forall route, Current (events ++ [.message handled]) route ->
              handled.reading.bindNow - route.updatedAt ≤ requestRouteTtlSeconds :=
            fun route current => current.last rfl
          refine handleClientMessage_keeps (RoutesRefine.kept _ _)
            (fun _ _ held => ⟨held.sound, held.complete⟩) handled.hasRedis handled.connectionId
            handled.raw ?_ (routesRefine_boundState refines counting)
          intro blank
          have silent : GatewayEvent.request environs (.message handled) = none := by
            rw [GatewayEvent.request, boundRequest, if_pos blank]
            rfl
          rw [lastRequest_concat_of_none silent]
          exact refines
      | requeue now subjects text =>
          rw [lastRequest_concat_of_none rfl, GatewayEvent.apply]
          rcases GatewayState.requeueForSubjects_touches now
            (GatewayEvent.run environs events) subjects text with ⟨pending, touched⟩
          rw [touched]
          exact kept.tables _ pending _ _ _ refines
      | release receiver =>
          rw [lastRequest_concat_of_none rfl]
          exact kept.drop _ receiver refines
      | disconnect connectionId =>
          rw [lastRequest_concat_of_none rfl]
          exact kept.unregister _ connectionId refines
      | entry reading parsed =>
          rw [lastRequest_concat_of_none rfl]
          exact routesRefine_processEntry refines (GatewayEvent.routesProper_run environs events)
            reading (fun route current => current.last rfl)
            (fun key route handle bound found =>
              owner_of_lastRequest (fresh.of_append environs) handed.append_left bound found)
            visible parsed
      | publish reading headerKey request =>
          rw [lastRequest_concat_of_none rfl]
          rcases publish_cases environs.json environs.config reading
              (GatewayEvent.run environs events) headerKey request with
            ⟨_, same⟩ | ⟨subjects, text, admitted, given, nonempty, renders⟩
          · rw [GatewayEvent.apply, same]
            exact refines
          · rw [GatewayEvent.apply, publish_of_admitted admitted given nonempty renders]
            exact kept.toKeptByDelivery.sendToSubjects
              (fun state pending held => kept.tables state pending _ _ _ held) _ _ _ _ _ _ _ refines
      | pruneTick order now =>
          rw [lastRequest_concat_of_none rfl]
          exact kept.toKeptByDelivery.pruneStaleConnections order now _ refines
      | list order query =>
          rw [lastRequest_concat_of_none rfl]
          exact refines
      | listOfUser order userId =>
          rw [lastRequest_concat_of_none rfl]
          exact refines

/-! ## Who receives a response -/

/-- The connection of the last request with this id, if the response can still
reach it. -/
def Requester (environs : Environs) (events : List GatewayEvent) (now : Int) (requestId : Option String)
    (subjects : List String) (id : String) : Prop :=
  Exists fun request => Exists fun route =>
    requestId = some request /\ lastRequest environs events (trim request) = some route /\
      route.connectionId = id /\ now - route.updatedAt ≤ requestRouteTtlSeconds /\
      (GatewayEvent.run environs events).Addressee subjects id /\
      (GatewayEvent.run environs events).reaches id = true

/-- Blank ids are never bound. -/
theorem trim_of_lastRequest {events : List GatewayEvent} {request : String} {route : RequestRoute}
    (bound : lastRequest environs events (trim request) = some route) : trim request ≠ "" := by
  rcases (lastWrite_filterMap_eq_some_iff _ events _ route).mp bound with
    ⟨_, event, _, _, writes, _⟩
  rcases request_eq_some writes with ⟨_, _, requestId, binds, same, _⟩
  rw [← same]
  exact trim_boundRequest binds

/-- The route of a response leads to its requester. -/
theorem routesTo_iff_requester
    (visible : forall data text, environs.json.render data = some text -> text ≠ "")
    {events : List GatewayEvent} (fresh : FreshSessions environs events)
    (handed : Throughout (OfSession environs) events) {now : Int}
    (clock : forall reading, reading ∈ events.filterMap GatewayEvent.routeClock -> reading ≤ now)
    (requestId : Option String) {subjects : List String} (nonempty : subjects ≠ []) (id : String) :
    RoutesTo (GatewayEvent.run environs events) now requestId subjects id <->
      Requester environs events now requestId subjects id := by
  have refines := routesRefine_events visible events fresh handed
  constructor
  · rintro ⟨request, same, resolved, reached⟩
    rcases (GatewayState.resolveRequestRoute_eq_some_iff _ _ _ _ _).mp resolved with
      ⟨_, route, handle, stored, young, found, _, agrees, rfl⟩
    exact ⟨request, route, same, refines.sound _ route stored, rfl, young,
      ⟨handle, found, agrees.resolve_left nonempty⟩, reached⟩
  · rintro ⟨request, route, same, bound, rfl, young, ⟨handle, found, agrees⟩, reached⟩
    have current : Current events route := by
      intro reading member
      have earlier := clock reading member
      omega
    refine ⟨request, same, ?_, reached⟩
    rw [GatewayState.resolveRequestRoute_eq_some_iff]
    exact ⟨trim_of_lastRequest bound, route, handle, refines.complete _ route handle bound current
      found, young, found, owner_of_lastRequest fresh handed bound found, Or.inr agrees, rfl⟩

/-- The event of an entry reaches the open connections of its subjects.  If the
connection of the last request with the id of the payload is one of them, the
event reaches it alone, and nothing is buffered for the others. -/
theorem responses_reach_requesters (environs : Environs)
    (visible : forall data text, environs.json.render data = some text -> text ≠ "")
    (events : List GatewayEvent) (fresh : FreshSessions environs events)
    (handed : Throughout (OfSession environs) events) (reading : OutboxReading)
    (clock : forall earlier, earlier ∈ events.filterMap GatewayEvent.routeClock ->
      earlier ≤ reading.routeNow)
    (entry : ParsedEntry) (decoded : Json)
    (decodes : decodeEntry environs.json entry.2 = some decoded)
    (nonempty : decoded.stringsField "subjects" ≠ [])
    (noSnapshot : parseRelayContextSnapshot environs.toLowercase reading.snapshotNow
      ((decoded.get "payload").getD .null) = none)
    (text : String)
    (renders : environs.json.render (eventEnvelope ((decoded.get "payload").getD .null)) =
      some text) :
    let before := GatewayEvent.run environs events
    let after := (processEntry environs.toLowercase environs.json reading before entry).2
    let subjects := decoded.stringsField "subjects"
    let requester := Requester environs events reading.routeNow
      (extractRequestId ((decoded.get "payload").getD .null)) subjects
    (forall receiver, Received before after receiver text <->
      before.Addressee subjects receiver /\ before.reaches receiver = true /\
        forall id, requester id -> receiver = id) /\
      forall id, requester id -> after.pendingBySubject = before.pendingBySubject := by
  intro before after subjects requester
  have reaches := dispatchEvent_reachesAudience (GatewayEvent.wellFormed_run environs fresh)
    (GatewayEvent.routesProper_run environs events) reading
    (extractRequestId ((decoded.get "payload").getD .null)) nonempty (visible _ text renders)
  have dispatched : after = (dispatchEvent reading before
      (extractRequestId ((decoded.get "payload").getD .null)) subjects text).2 := by
    simp only [after, subjects, processEntry, decodes, if_neg nonempty, noSnapshot, renders]
  rw [← dispatched] at reaches
  have routed : forall id, RoutesTo before reading.routeNow
      (extractRequestId ((decoded.get "payload").getD .null)) subjects id <-> requester id :=
    routesTo_iff_requester visible fresh handed clock _ nonempty
  refine ⟨?_, fun id asked => (reaches.alone id ((routed id).mpr asked)).2⟩
  intro receiver
  by_cases awaited : Exists fun id => requester id
  · rcases awaited with ⟨id, asked⟩
    rw [(reaches.alone id ((routed id).mpr asked)).1 receiver]
    constructor
    · rintro rfl
      rcases asked with ⟨request, route, same, bound, sameId, young, addressee, reached⟩
      refine ⟨addressee, reached, ?_⟩
      rintro other ⟨otherRequest, otherRoute, otherSame, otherBound, otherId, _⟩
      rw [same] at otherSame
      cases otherSame
      rw [bound] at otherBound
      cases otherBound
      exact sameId.symm.trans otherId
    · rintro ⟨_, _, only⟩
      exact only id asked
  · have unrouted : forall id, Not (RoutesTo before reading.routeNow
        (extractRequestId ((decoded.get "payload").getD .null)) subjects id) :=
      fun id leads => awaited ⟨id, (routed id).mp leads⟩
    rw [reaches.everybody unrouted receiver]
    constructor
    · rintro ⟨addressee, reached⟩
      exact ⟨addressee, reached, fun id asked => absurd ⟨id, asked⟩ awaited⟩
    · rintro ⟨addressee, reached, _⟩
      exact ⟨addressee, reached⟩

end Runs

def aliceInfo : ConnectionInfo :=
  { bobInfo with
    connectionId := "conn-a"
    userId := "alice@test.de"
    subjects := ["user:alice@test.de"] }

/-- An event for both users, with the request id that both have used. -/
def sharedEntry : Json :=
  Json.ofFields [("subjects", .array [.string "user:alice@test.de", .string "user:bob@test.de"]),
    ("payload", Json.ofFields [("request_id", .string " r ")])]

def sharedText : String :=
  "\x7b\"subjects\":[\"user:alice@test.de\",\"user:bob@test.de\"]," ++
    "\"payload\":\x7b\"request_id\":\" r \"\x7d\x7d"

def sharedEventText : String :=
  "\x7b\"payload\":\x7b\"request_id\":\" r \"\x7d,\"type\":\"event\"\x7d"

def sharedEnvirons : Environs where
  registry := builtinRegistry
  toLowercase := asciiLowercase
  json := .ofTexts [(sharedText, sharedEntry), (requestText "r", requestData "r")]
  config := Config.fromEnv asciiLowercase ⟨fun _ => none, fun _ => none⟩

/-- Bob and then Alice send a request with the id. -/
def sharedEvents : List GatewayEvent :=
  [.connect .sorted 0 "conn-a" "alice@test.de" "" 0, .connect .sorted 0 "conn-b" "bob@test.de" "" 0,
    .message (requestOfBob "r"),
    .message { requestOfBob "r" with connectionId := "conn-a", info := aliceInfo }]

/-- The event goes to Alice. -/
theorem responses_reach_requesters_of_alice :
    let before := GatewayEvent.run sharedEnvirons sharedEvents
    let after := (processEntry asciiLowercase sharedEnvirons.json responseReading before
      ("1-0", AList.insert "data" sharedText ∅)).2
    let subjects := ["user:alice@test.de", "user:bob@test.de"]
    let requester := Requester sharedEnvirons sharedEvents 2 (some "r") subjects
    (forall receiver, Received before after receiver sharedEventText <->
      before.Addressee subjects receiver /\ before.reaches receiver = true /\
        forall id, requester id -> receiver = id) /\
      (forall id, requester id -> after.pendingBySubject = before.pendingBySubject) /\
      requester "conn-a" := by
  intro before after subjects requester
  have reached := responses_reach_requesters sharedEnvirons (fun _ _ => Json.compact_ne_empty)
    sharedEvents (by decide +kernel) (by decide +kernel) responseReading (by decide)
    ("1-0", AList.insert "data" sharedText ∅) sharedEntry (by rfl) (by decide +kernel)
    (by decide +kernel) sharedEventText (by decide +kernel)
  have addressee : before.Addressee subjects "conn-a" :=
    ⟨⟨{ aliceInfo with lastSeenAt := 1 }, 0⟩, by decide +kernel, "user:alice@test.de", by decide,
      by decide⟩
  exact ⟨reached.1, reached.2, "r", ⟨"conn-a", "alice@test.de", 1⟩, rfl, by decide +kernel, rfl,
    by decide, addressee, by decide +kernel⟩

end Process
end Gateway

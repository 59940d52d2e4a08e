import Gateway.Broker.SnapshotLeaks
import Gateway.Http.Api
import Gateway.Ingress.RouteIsolation
import Gateway.Session.Traffic

namespace Gateway
namespace Process

open Foundation State Ingress Broker Http

/-!
# Runs of the whole process

The sessions, the outbox consumer, the HTTP interface and the prune task share
one gateway state.  Here each of their calls is one event: a session that
connects, a client message, a push whose write has failed, an entry of the
outbox, and so on.  A run of events is a run of the operations that the calls
consist of.
-/

/-- What the calls of one process have in common. -/
structure Environs where
  registry : CommandRegistry
  toLowercase : String -> String
  json : JsonText
  config : Config

/-- The calls, each with its readings of the clock and its iteration orders. -/
inductive GatewayEvent where
  | connect (order : HashOrder String) (now : Int)
      (connectionId userId clientInstanceId : String) (connectedAt : Int)
  | message (handled : HandledMessage)
  | requeue (now : Int) (subjects : List String) (text : String)
  | release (receiver : Nat)
  | disconnect (connectionId : String)
  | entry (reading : OutboxReading) (parsed : ParsedEntry)
  | publish (reading : ApiReading) (headerKey : Option String) (request : PublishRequest)
  | pruneTick (order : HashOrder String) (now : Int)
  | list (order : HashOrder String) (query : ListQuery)
  | listOfUser (order : HashOrder String) (userId : String)

namespace GatewayEvent

def apply (environs : Environs) (state : GatewayState) : GatewayEvent -> GatewayState
  | .connect order now connectionId userId clientInstanceId connectedAt =>
      (state.registerConnection order now connectionId userId clientInstanceId
        (Session.connectionSubjects environs.toLowercase userId) connectedAt).2
  | .message handled =>
      (handleClientMessage environs.registry environs.toLowercase environs.json handled.reading
        handled.hasRedis state handled.connectionId handled.info handled.raw).state
  | .requeue now subjects text => state.requeueForSubjects now subjects text
  | .release receiver => state.dropReceiver receiver
  | .disconnect connectionId => (state.unregisterConnection connectionId).2
  | .entry reading parsed =>
      (processEntry environs.toLowercase environs.json reading state parsed).2
  | .publish reading headerKey request =>
      (Http.publish environs.json environs.config reading state headerKey request).2
  | .pruneTick order now =>
      (state.pruneStaleConnections order now environs.config.staleConnectionTimeoutSeconds).2
  | .list _ _ => state
  | .listOfUser _ _ => state

/-- The connection that an event registers. -/
def registered (environs : Environs) : GatewayEvent -> Option ConnectionInfo
  | .connect _ _ connectionId userId clientInstanceId connectedAt =>
      some
        { connectionId := connectionId
          userId := userId
          clientInstanceId := clientInstanceId
          subjects := Session.connectionSubjects environs.toLowercase userId
          connectedAt := connectedAt
          lastSeenAt := connectedAt }
  | _ => none

end GatewayEvent

section Entries

variable {holds : GatewayState -> Prop} {state : GatewayState}

theorem sendAlongRoute_keeps (kept : KeptByDelivery holds)
    (routes : forall (state : GatewayState) table, holds state ->
      holds { state with requestRoutes := table })
    (reading : OutboxReading) (before : holds state) (requestId : String) (subjects : List String)
    (text : String) : holds (sendAlongRoute reading state requestId subjects text).2.2 := by
  rcases sendAlongRoute_cases reading state requestId subjects text with
    ⟨_, table, same⟩ | ⟨connectionId, resolved, table, _, same⟩
  · rw [same]
    exact routes state table before
  · rw [same]
    exact routes _ table (kept.sendToConnection connectionId text (routes state resolved before))

theorem dispatchEvent_keeps (kept : KeptByDelivery holds)
    (pending : forall (state : GatewayState) table, holds state ->
      holds { state with pendingBySubject := table })
    (routes : forall (state : GatewayState) table, holds state ->
      holds { state with requestRoutes := table })
    (reading : OutboxReading) (before : holds state) (requestId : Option String)
    (subjects : List String) (text : String) :
    holds (dispatchEvent reading state requestId subjects text).2 := by
  have fanOut : forall state, holds state -> holds (state.sendToSubjects reading.order
      reading.stickyNow reading.bufferNow subjects text true none).2 :=
    fun _ held => kept.sendToSubjects pending _ _ _ _ _ _ _ held
  cases requestId with
  | none => exact fanOut state before
  | some requestId =>
      have routed := sendAlongRoute_keeps kept routes reading before requestId subjects text
      unfold dispatchEvent
      dsimp only
      split
      · next result =>
        rw [result] at routed
        exact routed
      · next result =>
        rw [result] at routed
        exact fanOut _ routed

theorem processEntry_keeps (kept : KeptByDelivery holds)
    (pending : forall (state : GatewayState) table, holds state ->
      holds { state with pendingBySubject := table })
    (routes : forall (state : GatewayState) table, holds state ->
      holds { state with requestRoutes := table })
    (toLowercase : String -> String) (json : JsonText) (reading : OutboxReading)
    (before : holds state) (snapshot : forall snapshot,
      holds (state.applyRelayContextSnapshot toLowercase reading.applyNow snapshot))
    (entry : ParsedEntry) : holds (processEntry toLowercase json reading state entry).2 := by
  unfold processEntry
  split
  · exact before
  · dsimp only
    split
    · exact before
    · split
      · exact snapshot _
      · split
        · exact before
        · exact dispatchEvent_keeps kept pending routes reading before _ _ _

end Entries

section Runs

variable (environs : Environs)

def GatewayEvent.run (events : List GatewayEvent) : GatewayState :=
  events.foldl (GatewayEvent.apply environs)
    (GatewayState.new environs.config.maxConnectionsPerUser)

/-- The infos of all sessions so far. -/
def sessionInfos (events : List GatewayEvent) : List ConnectionInfo :=
  events.filterMap (GatewayEvent.registered environs)

/-- No connection id is used twice. -/
def FreshSessions (events : List GatewayEvent) : Prop :=
  ((sessionInfos environs events).map ConnectionInfo.connectionId).Nodup

instance (events : List GatewayEvent) : Decidable (FreshSessions environs events) :=
  inferInstanceAs (Decidable (List.Nodup _))

/-- A message is handled on behalf of a session that has registered. -/
def OfSession (earlier : List GatewayEvent) : GatewayEvent -> Prop
  | .message handled =>
      handled.info ∈ sessionInfos environs earlier /\
        handled.info.connectionId = handled.connectionId
  | _ => True

instance (earlier : List GatewayEvent) (event : GatewayEvent) :
    Decidable (OfSession environs earlier event) := by
  cases event <;> unfold OfSession <;> infer_instance

theorem GatewayEvent.run_concat (events : List GatewayEvent) (event : GatewayEvent) :
    GatewayEvent.run environs (events ++ [event]) =
      event.apply environs (GatewayEvent.run environs events) := by
  rw [GatewayEvent.run, List.foldl_append]
  rfl

theorem FreshSessions.of_append {earlier later : List GatewayEvent}
    (fresh : FreshSessions environs (earlier ++ later)) : FreshSessions environs earlier := by
  rw [FreshSessions, sessionInfos, List.filterMap_append, List.map_append] at fresh
  exact (List.nodup_append.mp fresh).1

/-! ## Events as operations -/

/-- The operations of a run of traffic, and the state that they lead to. -/
theorem operations_of_byTraffic {toLowercase : String -> String} {before after : GatewayState}
    (traffic : Session.ByTraffic toLowercase before after) : Exists fun operations : List Operation =>
      operations.foldl (Operation.apply toLowercase) before = after /\
        operations.filterMap Operation.registered = [] := by
  rcases traffic with ⟨operations, reached⟩
  refine ⟨operations, ?_⟩
  refine reached.history (fun labels state =>
    labels.foldl (Operation.apply toLowercase) before = state /\
      labels.filterMap Operation.registered = []) ⟨rfl, rfl⟩ ?_
  rintro history state operation next ⟨rfl, nobody⟩ ⟨traffic, rfl⟩
  refine ⟨List.foldl_append, ?_⟩
  rw [List.filterMap_append, nobody, List.nil_append, List.filterMap_cons_none]
  · rfl
  · cases operation <;> first | rfl | cases traffic

/-- The operations that a call consists of register whom the event registers. -/
theorem GatewayEvent.operations (event : GatewayEvent) (state : GatewayState) :
    Exists fun operations : List Operation =>
      operations.foldl (Operation.apply environs.toLowercase) state = event.apply environs state /\
        operations.filterMap Operation.registered = (event.registered environs).toList := by
  cases event with
  | connect order now connectionId userId clientInstanceId connectedAt =>
      exact ⟨[.registerConnection order now connectionId userId clientInstanceId
        (Session.connectionSubjects environs.toLowercase userId) connectedAt], rfl, rfl⟩
  | message handled =>
      exact operations_of_byTraffic (Session.handleClientMessage_byTraffic environs.registry
        environs.toLowercase environs.json handled.reading state handled.info handled.hasRedis
        handled.connectionId handled.raw)
  | requeue now subjects text => exact ⟨[.requeueForSubjects now subjects text], rfl, rfl⟩
  | release receiver => exact ⟨[.dropReceiver receiver], rfl, rfl⟩
  | disconnect connectionId => exact ⟨[.unregisterConnection connectionId], rfl, rfl⟩
  | entry reading parsed =>
      exact operations_of_byTraffic (Session.processEntry_byTraffic environs.toLowercase
        environs.json reading state parsed)
  | publish reading headerKey request =>
      rcases publish_cases environs.json environs.config reading state headerKey request with
        ⟨_, same⟩ | ⟨subjects, text, admitted, given, nonempty, renders⟩
      · exact ⟨[], same.symm, rfl⟩
      · refine ⟨[.sendToSubjects reading.order reading.stickyNow reading.bufferNow subjects text true
          none], ?_, rfl⟩
        rw [GatewayEvent.apply, publish_of_admitted admitted given nonempty renders]
        rfl
  | pruneTick order now =>
      exact ⟨[.pruneStaleConnections order now environs.config.staleConnectionTimeoutSeconds], rfl,
        rfl⟩
  | list order query => exact ⟨[], rfl, rfl⟩
  | listOfUser order userId => exact ⟨[], rfl, rfl⟩

/-- A run of events is a run of operations that registers the same connections. -/
theorem GatewayEvent.exists_operations (events : List GatewayEvent) :
    Exists fun operations : List Operation =>
      GatewayState.run environs.toLowercase environs.config.maxConnectionsPerUser operations =
        GatewayEvent.run environs events /\
      operations.filterMap Operation.registered = sessionInfos environs events := by
  induction events using List.reverseRecOn with
  | nil => exact ⟨[], rfl, rfl⟩
  | append_singleton events event ih =>
      rcases ih with ⟨earlier, reached, registered⟩
      rcases event.operations environs (GatewayEvent.run environs events) with
        ⟨later, performed, registers⟩
      refine ⟨earlier ++ later, ?_, ?_⟩
      · rw [GatewayState.run, List.foldl_append, ← GatewayState.run, reached, performed,
          GatewayEvent.run_concat]
      · rw [List.filterMap_append, registered, registers, sessionInfos, sessionInfos,
          List.filterMap_append]
        cases registers : event.registered environs with
        | none => rw [List.filterMap_cons_none registers]; rfl
        | some info => rw [List.filterMap_cons_some registers]; rfl

theorem freshIds_of_sessions {events : List GatewayEvent} {operations : List Operation}
    (registered : operations.filterMap Operation.registered = sessionInfos environs events)
    (fresh : FreshSessions environs events) : FreshIds operations := by
  rw [FreshIds, filterMap_registeredId, registered]
  exact fresh

theorem GatewayEvent.wellFormed_run {events : List GatewayEvent}
    (fresh : FreshSessions environs events) : WellFormed (GatewayEvent.run environs events) := by
  rcases GatewayEvent.exists_operations environs events with ⟨operations, reached, registered⟩
  rw [← reached]
  exact WellFormed.run _ _ operations (freshIds_of_sessions environs registered fresh)

theorem GatewayEvent.routesProper_run (events : List GatewayEvent) :
    RoutesProper (GatewayEvent.run environs events) := by
  rcases GatewayEvent.exists_operations environs events with ⟨operations, reached, _⟩
  rw [← reached]
  exact RoutesProper.run _ _ operations

/-- A registered connection belongs to the session that registered it. -/
theorem GatewayEvent.owner {events : List GatewayEvent} (fresh : FreshSessions environs events)
    {info : ConnectionInfo} (listed : info ∈ sessionInfos environs events)
    {handle : ConnectionHandle}
    (found : (GatewayEvent.run environs events).connections.lookup info.connectionId =
      some handle) : handle.info.atRegistration = info := by
  rcases GatewayEvent.exists_operations environs events with ⟨operations, reached, registered⟩
  have freshIds := freshIds_of_sessions environs registered fresh
  rw [← reached] at found
  rw [← registered] at listed
  have known := registered_of_run environs.toLowercase environs.config.maxConnectionsPerUser
    operations freshIds info.connectionId handle found
  exact freshIds.eq_of_connectionId known.2 listed known.1

end Runs

end Process
end Gateway

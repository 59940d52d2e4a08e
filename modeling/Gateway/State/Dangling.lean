import Gateway.State.RouteRefinement
import Gateway.State.SubjectIndex

namespace Gateway
namespace State

open Foundation

/-!
# Names of connections that are not registered

Besides the connection table, three tables name connections: the subject index,
the ready marks and the request routes.  Unregistering a connection takes its
name out of all of them.  Marking a session as ready and binding a route put a
name in without looking whether the connection is registered, and if it is not,
nothing takes the name out again.
-/

/-- Every name in the tables is the name of a registered connection. -/
structure NoDangling (state : GatewayState) : Prop where
  consistent : IndexConsistent state
  ready : forall connectionId mark, state.readyConnections.lookup connectionId = some mark ->
    Exists fun handle => state.connections.lookup connectionId = some handle
  routes : forall key route, state.requestRoutes.lookup key = some route ->
    Exists fun handle => state.connections.lookup route.connectionId = some handle

/-- The connection is named nowhere. -/
structure LeavesNoTrace (state : GatewayState) (connectionId : String) : Prop where
  connections : state.connections.lookup connectionId = none
  ready : state.readyConnections.lookup connectionId = none
  subjects : forall subject group, state.subjects.lookup subject = some group ->
    connectionId ∉ group
  routes : forall key route, state.requestRoutes.lookup key = some route ->
    route.connectionId ≠ connectionId

/-- A ready mark or a route that the operation puts in is for a connection that
is registered at this moment. -/
def FindsConnection (state : GatewayState) : Operation -> Prop
  | .markSessionReady _ _ connectionId userId =>
      connectionId ≠ "" -> userId ≠ "" -> (state.connections.lookup connectionId).isSome = true
  | .bindRequestRoute _ requestId connectionId userId =>
      trim requestId ≠ "" -> connectionId ≠ "" -> userId ≠ "" ->
        (state.connections.lookup connectionId).isSome = true
  | _ => True

namespace NoDangling

variable {state : GatewayState}

theorem new (maxConnectionsPerUser : Option Nat) :
    NoDangling (GatewayState.new maxConnectionsPerUser) where
  consistent := IndexConsistent.new maxConnectionsPerUser
  ready := by
    intro connectionId mark found
    simp [GatewayState.new] at found
  routes := by
    intro key route found
    simp [GatewayState.new] at found

theorem leavesNoTrace (noDangling : NoDangling state) {connectionId : String}
    (absent : state.connections.lookup connectionId = none) :
    LeavesNoTrace state connectionId where
  connections := absent
  ready := by
    cases marked : state.readyConnections.lookup connectionId with
    | none => rfl
    | some mark =>
        rcases noDangling.ready connectionId mark marked with ⟨handle, found⟩
        rw [absent] at found
        cases found
  subjects := by
    intro subject group stored member
    have listed := (InvertedIndex.mem_members_iff_lookup state.subjects connectionId subject).mpr
      ⟨group, stored, member⟩
    rcases (noDangling.consistent.index.mem_iff connectionId subject).mp listed with
      ⟨handle, found, _⟩
    rw [absent] at found
    cases found
  routes := by
    rintro key route stored rfl
    rcases noDangling.routes key route stored with ⟨handle, found⟩
    rw [absent] at found
    cases found

theorem unregisterConnection (noDangling : NoDangling state) (connectionId : String) :
    NoDangling (state.unregisterConnection connectionId).2 := by
  cases registered : state.connections.lookup connectionId with
  | none =>
      rw [GatewayState.unregisterConnection_of_absent registered]
      exact noDangling
  | some handle =>
      refine ⟨noDangling.consistent.unregisterConnection connectionId, ?_, ?_⟩
      · intro other mark found
        rw [GatewayState.lookup_unregisterConnection_readyConnections, registered] at found
        rw [GatewayState.lookup_unregisterConnection]
        rcases found with ⟨marked, missing | different⟩
        · cases missing
        · rw [if_neg different]
          exact noDangling.ready other mark marked
      · intro key route found
        rw [GatewayState.lookup_unregisterConnection_requestRoutes, registered] at found
        rw [GatewayState.lookup_unregisterConnection]
        rcases found with ⟨stored, missing | different⟩
        · cases missing
        · rw [if_neg different]
          exact noDangling.routes key route stored

theorem markConnectionAlive (noDangling : NoDangling state) (connectionId : String)
    (timestamp : Int) : NoDangling (state.markConnectionAlive connectionId timestamp) := by
  have still : forall other, (Exists fun handle => state.connections.lookup other = some handle) ->
      Exists fun handle =>
        (state.markConnectionAlive connectionId timestamp).connections.lookup other =
          some handle := by
    rintro other ⟨handle, found⟩
    simp only [GatewayState.markConnectionAlive, HashTable.lookup_modify]
    split
    · next same =>
      rw [← same, found]
      exact ⟨_, rfl⟩
    · exact ⟨handle, found⟩
  exact ⟨noDangling.consistent.markConnectionAlive connectionId timestamp,
    fun other mark found => still other (noDangling.ready other mark found),
    fun key route found => still route.connectionId (noDangling.routes key route found)⟩

theorem kept : KeptByChanges NoDangling :=
  KeptByRemoval.changes
    ⟨fun _ _ length noDangling =>
      ⟨IndexConsistent.kept.channels _ _ length noDangling.consistent, noDangling.ready,
        noDangling.routes⟩,
      fun _ connectionId noDangling => noDangling.unregisterConnection connectionId⟩
    (fun _ _ _ _ _ noDangling =>
      ⟨⟨noDangling.consistent.index, noDangling.consistent.ids⟩, noDangling.ready,
        noDangling.routes⟩)
    fun _ connectionId timestamp noDangling => noDangling.markConnectionAlive connectionId timestamp

theorem insertConnection (noDangling : NoDangling state) {info : ConnectionInfo}
    (absent : state.connections.lookup info.connectionId = none) :
    NoDangling (state.insertConnection info) := by
  have still : forall other, (Exists fun handle => state.connections.lookup other = some handle) ->
      Exists fun handle => (state.insertConnection info).connections.lookup other =
        some handle := by
    rintro other ⟨handle, found⟩
    simp only [GatewayState.insertConnection, HashTable.lookup_insert_ite]
    split
    · exact ⟨_, rfl⟩
    · exact ⟨handle, found⟩
  exact ⟨noDangling.consistent.insertConnection absent,
    fun other mark found => still other (noDangling.ready other mark found),
    fun key route found => still route.connectionId (noDangling.routes key route found)⟩

/-- A ready mark for a registered connection. -/
theorem markReady (noDangling : NoDangling state) {connectionId : String}
    (registered : (state.connections.lookup connectionId).isSome = true)
    (mark : ReadyConnection) :
    NoDangling
      { state with readyConnections := state.readyConnections.insert connectionId mark } := by
  refine ⟨⟨noDangling.consistent.index, noDangling.consistent.ids⟩, ?_, noDangling.routes⟩
  intro other stored found
  rw [HashTable.lookup_insert_ite] at found
  split at found
  · next same =>
    rw [same]
    exact Option.isSome_iff_exists.mp registered
  · exact noDangling.ready other stored found

/-- Fewer routes. -/
theorem eraseRoute (noDangling : NoDangling state) (key : String) :
    NoDangling { state with requestRoutes := state.requestRoutes.erase key } := by
  refine ⟨⟨noDangling.consistent.index, noDangling.consistent.ids⟩, noDangling.ready, ?_⟩
  intro other route found
  rw [HashTable.lookup_erase_ite] at found
  split at found
  · cases found
  · exact noDangling.routes other route found

theorem bindRequestRoute (noDangling : NoDangling state) (now : Int)
    {requestId connectionId userId : String}
    (finds : FindsConnection state (.bindRequestRoute now requestId connectionId userId)) :
    NoDangling (state.bindRequestRoute now requestId connectionId userId) := by
  unfold GatewayState.bindRequestRoute
  split
  · exact noDangling
  · next visible =>
    simp only [not_or] at visible
    have registered := finds visible.1 visible.2.1 visible.2.2
    rcases GatewayState.pruneRequestRoutes_touches now { state with
      requestRoutes := state.requestRoutes.insert (trim requestId)
        { connectionId := connectionId, userId := userId, updatedAt := now } } with
      ⟨routes, touched⟩
    have stored : forall key route, routes.lookup key = some route ->
        Exists fun handle => state.connections.lookup route.connectionId = some handle := by
      intro key route found
      have routesOf := congrArg GatewayState.requestRoutes touched
      dsimp only at routesOf
      rw [← routesOf] at found
      have kept := GatewayState.lookup_pruneRequestRoutes found
      simp only [HashTable.lookup_insert_ite] at kept
      split at kept
      · rw [← Option.some.inj kept]
        exact Option.isSome_iff_exists.mp registered
      · exact noDangling.routes key route kept
    rw [touched]
    exact ⟨⟨noDangling.consistent.index, noDangling.consistent.ids⟩, noDangling.ready, stored⟩

/-- Operations that find the connections they name leave no dangling name. -/
theorem apply (noDangling : NoDangling state) (toLowercase : String -> String)
    (operation : Operation) (finds : FindsConnection state operation)
    (fresh : forall connectionId, operation.registeredId = some connectionId ->
      state.connections.lookup connectionId = none) :
    NoDangling (operation.apply toLowercase state) := by
  cases operation using Operation.plainCases with
  | register order now connectionId userId clientInstanceId subjects connectedAt =>
      apply kept.registerConnection
      apply (kept.evictSameInstance order connectionId userId clientInstanceId
        noDangling).insertConnection
      exact (GatewayState.absentKept connectionId).delivery.evictSameInstance order connectionId
        userId clientInstanceId (fresh connectionId rfl)
  | ready order now connectionId userId =>
      exact kept.markSessionReady order now connectionId userId
        (fun named owned => noDangling.markReady (finds named owned) _) noDangling
  | bind now requestId connectionId userId => exact noDangling.bindRequestRoute now finds
  | clear requestId =>
      rw [Operation.apply, GatewayState.clearRequestRoute]
      split
      · exact noDangling
      · exact noDangling.eraseRoute _
  | resolve now requestId subjects =>
      rw [Operation.apply]
      rcases GatewayState.resolveRequestRoute_cases now state requestId subjects with same | erased
      · rw [same]
        exact noDangling
      · rw [erased]
        exact noDangling.eraseRoute _
  | plain operation plain => exact kept.apply_of_plain toLowercase plain noDangling

end NoDangling

end State
end Gateway

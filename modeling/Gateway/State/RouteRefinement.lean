import Gateway.Foundation.LastWrite
import Gateway.State.Registrations

namespace Gateway
namespace State

open Foundation

/-!
# Request routes refine a last-bind map

Seen from outside, the route table is a map from request ids to the last bind of
each id that was not cleared, of which only the binds younger than the time to
live and to connections that are still registered count.  The table holds less
than this map, because size-triggered pruning, unregistration and lazy removal
take routes out of it.  They take out only routes that do not count any more.
-/

/-- What an operation writes to the last-bind map.  A call that the guards
refuse writes nothing. -/
def Operation.routeWrite : Operation -> Option (String × Option RequestRoute)
  | .bindRequestRoute now requestId connectionId userId =>
      if trim requestId = "" ∨ connectionId = "" ∨ userId = "" then none
      else
        some (trim requestId,
          some { connectionId := connectionId, userId := userId, updatedAt := now })
  | .clearRequestRoute requestId =>
      if trim requestId = "" then none else some (trim requestId, none)
  | _ => none

def lastBind (operations : List Operation) : String -> Option RequestRoute :=
  lastWrite (operations.filterMap Operation.routeWrite)

/-- The clock reading of a call on the route table. -/
def Operation.routeClock : Operation -> Option Int
  | .bindRequestRoute now _ _ _ => some now
  | .resolveRequestRoute now _ _ => some now
  | _ => none

/-- A route is bound only for a connection that has registered, with its own
user. -/
def BindsOwn (earlier : List Operation) : Operation -> Prop
  | .bindRequestRoute _ _ connectionId userId => (connectionId, userId) ∈ registeredUsers earlier
  | _ => True

instance (earlier : List Operation) (operation : Operation) :
    Decidable (BindsOwn earlier operation) := by
  cases operation <;> unfold BindsOwn <;> infer_instance

theorem lastBind_concat_of_none {operation : Operation} (silent : operation.routeWrite = none)
    (operations : List Operation) : lastBind (operations ++ [operation]) = lastBind operations := by
  rw [lastBind, lastBind, List.filterMap_append, List.filterMap_cons_none silent,
    List.filterMap_nil, List.append_nil]

theorem lastBind_concat_of_some {operation : Operation} {write : String × Option RequestRoute}
    (writes : operation.routeWrite = some write) (operations : List Operation) (key : String) :
    lastBind (operations ++ [operation]) key =
      if write.1 = key then write.2 else lastBind operations key := by
  rw [lastBind, lastBind, List.filterMap_append, List.filterMap_cons_some writes,
    List.filterMap_nil, lastWrite_concat]

theorem Operation.routeWrite_of_plain {operation : Operation} (plain : operation.isPlain = true) :
    operation.routeWrite = none := by
  cases operation <;> first | rfl | cases plain

/-- A write that stores a route is a bind. -/
theorem Operation.routeWrite_eq_some {operation : Operation} {key : String} {route : RequestRoute}
    (writes : operation.routeWrite = some (key, some route)) : Exists fun requestId =>
      operation = .bindRequestRoute route.updatedAt requestId route.connectionId route.userId /\
        trim requestId = key /\ key ≠ "" /\ route.connectionId ≠ "" /\ route.userId ≠ "" := by
  cases operation with
  | bindRequestRoute now requestId connectionId userId =>
      rw [routeWrite] at writes
      split at writes
      · cases writes
      · next visible =>
        cases writes
        simp only [not_or] at visible
        exact ⟨requestId, rfl, rfl, visible⟩
  | clearRequestRoute requestId =>
      rw [routeWrite] at writes
      split at writes <;> cases writes
  | _ => cases writes

/-- The last bind of an id, spelled out. -/
theorem lastBind_eq_some_iff (operations : List Operation) (key : String) (route : RequestRoute) :
    lastBind operations key = some route <->
      Exists fun earlier => Exists fun bind => Exists fun later =>
        operations = earlier ++ bind :: later /\ bind.routeWrite = some (key, some route) /\
          forall other write, other ∈ later -> other.routeWrite = some write -> write.1 ≠ key :=
  lastWrite_filterMap_eq_some_iff Operation.routeWrite operations key route

/-- The connection of a last bind has registered, with the user of the route. -/
theorem registered_of_lastBind {operations : List Operation}
    (own : Throughout BindsOwn operations) {key : String} {route : RequestRoute}
    (bound : lastBind operations key = some route) : Exists fun info =>
      info ∈ operations.filterMap Operation.registered /\
        info.connectionId = route.connectionId /\ info.userId = route.userId := by
  rcases (lastBind_eq_some_iff operations key route).mp bound with
    ⟨earlier, bind, later, rfl, writes, _⟩
  rcases Operation.routeWrite_eq_some writes with ⟨requestId, rfl, _⟩
  rw [List.append_cons] at own
  rcases List.mem_map.mp own.append_left.last with ⟨info, listed, same⟩
  refine ⟨info, ?_, congrArg Prod.fst same, congrArg Prod.snd same⟩
  rw [List.filterMap_append]
  exact List.mem_append_left _ listed

namespace GatewayState

theorem lookup_pruneRequestRoutes {now : Int} {state : GatewayState} {key : String}
    {route : RequestRoute}
    (found : (state.pruneRequestRoutes now).requestRoutes.lookup key = some route) :
    state.requestRoutes.lookup key = some route := by
  unfold pruneRequestRoutes at found
  split at found
  · exact found
  · dsimp only at found
    rw [HashTable.lookup_eraseAll_filter, Option.filter_eq_some_iff] at found
    exact found.1

/-- Pruning keeps the routes that count. -/
theorem lookup_pruneRequestRoutes_of_counting {now : Int} {state : GatewayState} {key : String}
    {route : RequestRoute} (found : state.requestRoutes.lookup key = some route)
    (young : now - route.updatedAt ≤ requestRouteTtlSeconds)
    (registered : route.connectionId ∈ state.connections) :
    (state.pruneRequestRoutes now).requestRoutes.lookup key = some route := by
  have notExpired : ¬ requestRouteTtlSeconds < saturatingSub now route.updatedAt := by
    rw [lt_saturatingSub_iff (by decide) (by decide)]
    omega
  unfold pruneRequestRoutes
  split
  · exact found
  · dsimp only
    rw [HashTable.lookup_eraseAll_filter, Option.filter_eq_some_iff]
    refine ⟨found, ?_⟩
    simp [notExpired, registered]

/-- When a resolution finds a connection. -/
theorem resolveRequestRoute_eq_some_iff (now : Int) (state : GatewayState) (requestId : String)
    (subjects : List String) (connectionId : String) :
    (state.resolveRequestRoute now requestId subjects).1 = some connectionId <->
      trim requestId ≠ "" /\ Exists fun route => Exists fun handle =>
        state.requestRoutes.lookup (trim requestId) = some route /\
        now - route.updatedAt ≤ requestRouteTtlSeconds /\
        state.connections.lookup route.connectionId = some handle /\
        handle.info.userId = route.userId /\
        (subjects = [] \/ Exists fun subject =>
          subject ∈ subjects /\ subject ∈ handle.info.subjects) /\
        route.connectionId = connectionId := by
  have agrees : forall handle : ConnectionHandle,
      (subjects ≠ [] /\ (subjects.any fun subject =>
        decide (subject ∈ handle.info.subjects)) = false) <->
      Not (subjects = [] \/ Exists fun subject =>
        subject ∈ subjects /\ subject ∈ handle.info.subjects) := by
    intro handle
    simp
  unfold resolveRequestRoute
  by_cases blank : trim requestId = ""
  · simp [blank]
  · rw [if_neg blank]
    dsimp only
    cases stored : state.requestRoutes.lookup (trim requestId) with
    | none => simp
    | some route =>
        have expired := lt_saturatingSub_iff (by decide : i64Min ≤ requestRouteTtlSeconds)
          (by decide) now route.updatedAt
        dsimp only
        by_cases young : now - route.updatedAt ≤ requestRouteTtlSeconds
        · rw [if_neg (expired.not.mpr (not_lt.mpr young))]
          cases found : state.connections.lookup route.connectionId with
          | none => simp [found]
          | some handle =>
              dsimp only
              rw [if_congr (agrees handle) rfl rfl]
              by_cases owned : handle.info.userId = route.userId
              · by_cases addressed : subjects = [] \/ Exists fun subject =>
                    subject ∈ subjects /\ subject ∈ handle.info.subjects
                · simp [-tsub_le_iff_right, blank, found, young, owned, addressed]
                · simp [found, owned, addressed]
              · simp [found, owned]
        · rw [if_pos (expired.mpr (not_le.mp young))]
          simp [-tsub_le_iff_right, young]

end GatewayState

/-! ## The refinement relation -/

/-- The table holds last binds only, and it holds every last bind that counts. -/
structure RoutesRefine (bound : String -> Option RequestRoute) (young : RequestRoute -> Prop)
    (state : GatewayState) : Prop where
  sound : forall key route, state.requestRoutes.lookup key = some route -> bound key = some route
  complete : forall key route handle, bound key = some route -> young route ->
    state.connections.lookup route.connectionId = some handle ->
    state.requestRoutes.lookup key = some route

namespace RoutesRefine

variable {bound : String -> Option RequestRoute} {young : RequestRoute -> Prop}
  {state : GatewayState}

/-- Fewer routes count as time goes on. -/
theorem mono (refines : RoutesRefine bound young state) {younger : RequestRoute -> Prop}
    (fewer : forall route, younger route -> young route) : RoutesRefine bound younger state :=
  ⟨refines.sound, fun key route handle last counts found =>
    refines.complete key route handle last (fewer route counts) found⟩

theorem kept (bound : String -> Option RequestRoute) (young : RequestRoute -> Prop) :
    KeptByChanges (RoutesRefine bound young) := by
  refine KeptByRemoval.changes ⟨?_, ?_⟩ ?_ ?_
  · exact fun _ _ _ refines => ⟨refines.sound, refines.complete⟩
  · intro state removed refines
    constructor
    · intro key route found
      rw [GatewayState.lookup_unregisterConnection_requestRoutes] at found
      exact refines.sound key route found.1
    · intro key route handle last counts found
      rw [GatewayState.lookup_unregisterConnection] at found
      split at found
      · cases found
      · next different =>
        rw [GatewayState.lookup_unregisterConnection_requestRoutes]
        exact ⟨refines.complete key route handle last counts found, Or.inr different⟩
  · exact fun _ _ _ _ _ refines => ⟨refines.sound, refines.complete⟩
  · intro state marked timestamp refines
    refine ⟨refines.sound, ?_⟩
    intro key route handle last counts found
    simp only [GatewayState.markConnectionAlive, HashTable.lookup_modify] at found
    split at found
    · next same =>
      rcases Option.map_eq_some_iff.mp found with ⟨old, oldFound, _⟩
      exact refines.complete key route old last counts (same ▸ oldFound)
    · exact refines.complete key route handle last counts found

/-- No route that counts leads to a connection that is about to register. -/
theorem insertConnection (refines : RoutesRefine bound young state) {info : ConnectionInfo}
    (unbound : forall key route, bound key = some route -> route.connectionId ≠ info.connectionId) :
    RoutesRefine bound young (state.insertConnection info) where
  sound := refines.sound
  complete := by
    intro key route handle last counts found
    simp only [GatewayState.insertConnection, HashTable.lookup_insert_ite,
      if_neg (unbound key route last)] at found
    exact refines.complete key route handle last counts found

/-- A bind replaces the last bind of its id and prunes only what does not count. -/
theorem bind (refines : RoutesRefine bound young state) {key : String} {now : Int}
    {route : RequestRoute} {next : String -> Option RequestRoute}
    (writes : forall other, next other = if key = other then some route else bound other)
    (counting : forall route, young route -> now - route.updatedAt ≤ requestRouteTtlSeconds) :
    RoutesRefine next young
      ({ state with requestRoutes := state.requestRoutes.insert key route }.pruneRequestRoutes
        now) := by
  constructor
  · intro other stored found
    have kept := GatewayState.lookup_pruneRequestRoutes found
    rw [writes]
    simp only [HashTable.lookup_insert_ite] at kept
    split at kept
    · next same => rw [if_pos same.symm, kept]
    · next different => rw [if_neg (Ne.symm different), refines.sound other stored kept]
  · intro other stored handle last counts found
    rcases GatewayState.pruneRequestRoutes_touches now
      { state with requestRoutes := state.requestRoutes.insert key route } with ⟨routes, touched⟩
    rw [touched] at found
    refine GatewayState.lookup_pruneRequestRoutes_of_counting ?_ (counting stored counts) ?_
    · rw [HashTable.lookup_insert_ite]
      rw [writes] at last
      split at last
      · next same => rw [if_pos same.symm, last]
      · next different =>
        rw [if_neg (Ne.symm different)]
        exact refines.complete other stored handle last counts found
    · exact AList.lookup_isSome.mp (Option.isSome_iff_exists.mpr ⟨handle, found⟩)

theorem clear (refines : RoutesRefine bound young state) {key : String}
    {next : String -> Option RequestRoute}
    (writes : forall other, next other = if key = other then none else bound other) :
    RoutesRefine next young { state with requestRoutes := state.requestRoutes.erase key } := by
  constructor
  · intro other stored found
    rw [HashTable.lookup_erase_ite] at found
    split at found
    · cases found
    · next different =>
      rw [writes, if_neg (Ne.symm different)]
      exact refines.sound other stored found
  · intro other stored handle last counts found
    rw [writes] at last
    split at last
    · cases last
    · next different =>
      rw [HashTable.lookup_erase_ite, if_neg (Ne.symm different)]
      exact refines.complete other stored handle last counts found

/-- Removing a route that does not count is not observable. -/
theorem forget (refines : RoutesRefine bound young state) {key : String}
    (useless : forall route handle, bound key = some route -> young route ->
      state.connections.lookup route.connectionId = some handle -> False) :
    RoutesRefine bound young { state with requestRoutes := state.requestRoutes.erase key } := by
  constructor
  · intro other stored found
    rw [HashTable.lookup_erase_ite] at found
    split at found
    · cases found
    · exact refines.sound other stored found
  · intro other stored handle last counts found
    rw [HashTable.lookup_erase_ite]
    split
    · next same =>
      rw [same] at last
      exact (useless stored handle last counts found).elim
    · exact refines.complete other stored handle last counts found

/-- The lazy removals of a resolution take out only routes that do not count. -/
theorem resolve (refines : RoutesRefine bound young state) {now : Int} (requestId : String)
    (subjects : List String)
    (counting : forall route, young route -> now - route.updatedAt ≤ requestRouteTtlSeconds)
    (owned : forall key route handle, bound key = some route ->
      state.connections.lookup route.connectionId = some handle ->
      handle.info.userId = route.userId) :
    RoutesRefine bound young (state.resolveRequestRoute now requestId subjects).2 := by
  unfold GatewayState.resolveRequestRoute
  split
  · exact refines
  · dsimp only
    split
    · exact refines
    · next route found =>
      have last := refines.sound _ route found
      have onlyThis : forall other, bound (trim requestId) = some other -> other = route := by
        intro other same
        exact Option.some.inj (same.symm.trans last)
      split
      · next expired =>
        rw [lt_saturatingSub_iff (by decide) (by decide)] at expired
        apply refines.forget
        intro other _ same counts _
        have limit := counting other counts
        rw [onlyThis other same] at limit
        omega
      · split
        · next gone =>
          apply refines.forget
          intro other handle same _ registered
          rw [onlyThis other same, gone] at registered
          cases registered
        · next handle registered =>
          rw [if_neg (not_not.mpr (owned _ route handle last registered))]
          split
          · exact refines
          · exact refines

end RoutesRefine

/-- No route is stored under the empty id or leads to the empty connection id. -/
def RoutesProper (state : GatewayState) : Prop :=
  forall key route, state.requestRoutes.lookup key = some route ->
    key ≠ "" /\ route.connectionId ≠ ""

namespace RoutesProper

theorem kept : KeptByChanges RoutesProper := by
  refine KeptByRemoval.changes ⟨fun _ _ _ proper => proper, ?_⟩ (fun _ _ _ _ _ proper => proper)
    fun _ _ _ proper => proper
  intro state removed proper key route found
  rw [GatewayState.lookup_unregisterConnection_requestRoutes] at found
  exact proper key route found.1

theorem erase {state : GatewayState} (proper : RoutesProper state) (key : String) :
    RoutesProper { state with requestRoutes := state.requestRoutes.erase key } := by
  intro other route found
  rw [HashTable.lookup_erase_ite] at found
  split at found
  · cases found
  · exact proper other route found

theorem bindRequestRoute {state : GatewayState} (proper : RoutesProper state) (now : Int)
    (requestId connectionId userId : String) :
    RoutesProper (state.bindRequestRoute now requestId connectionId userId) := by
  unfold GatewayState.bindRequestRoute
  split
  · exact proper
  · next visible =>
    simp only [not_or] at visible
    intro key route found
    have stored := GatewayState.lookup_pruneRequestRoutes found
    simp only [HashTable.lookup_insert_ite] at stored
    split at stored
    · next same =>
      rw [same, ← Option.some.inj stored]
      exact ⟨visible.1, visible.2.1⟩
    · exact proper key route stored

theorem resolveRequestRoute {state : GatewayState} (proper : RoutesProper state) (now : Int)
    (requestId : String) (subjects : List String) :
    RoutesProper (state.resolveRequestRoute now requestId subjects).2 := by
  rcases GatewayState.resolveRequestRoute_cases now state requestId subjects with same | erased
  · rw [same]
    exact proper
  · rw [erased]
    exact proper.erase _

theorem apply {state : GatewayState} (proper : RoutesProper state)
    (toLowercase : String -> String) (operation : Operation) :
    RoutesProper (operation.apply toLowercase state) := by
  cases operation using Operation.plainCases with
  | register order now connectionId userId clientInstanceId subjects connectedAt =>
      have evicted := kept.evictSameInstance order connectionId userId clientInstanceId proper
      exact kept.registerConnection order now connectionId userId clientInstanceId subjects
        connectedAt evicted
  | ready order now connectionId userId =>
      exact kept.markSessionReady order now connectionId userId (fun _ _ => proper) proper
  | bind now requestId connectionId userId =>
      exact proper.bindRequestRoute now requestId connectionId userId
  | clear requestId =>
      rw [Operation.apply, GatewayState.clearRequestRoute]
      split
      · exact proper
      · exact proper.erase _
  | resolve now requestId subjects => exact proper.resolveRequestRoute now requestId subjects
  | plain operation plain => exact kept.apply_of_plain toLowercase plain proper

theorem run (toLowercase : String -> String) (maxConnectionsPerUser : Option Nat)
    (operations : List Operation) :
    RoutesProper (GatewayState.run toLowercase maxConnectionsPerUser operations) := by
  refine foldl_invariant RoutesProper ?_ (fun _ operation proper =>
    proper.apply toLowercase operation) operations
  intro key route found
  simp [GatewayState.new] at found

end RoutesProper

/-! ## Runs -/

/-- The route is within its time to live at every reading of the clock. -/
def YoungThroughout (operations : List Operation) (route : RequestRoute) : Prop :=
  forall reading, reading ∈ operations.filterMap Operation.routeClock ->
    reading - route.updatedAt ≤ requestRouteTtlSeconds

theorem YoungThroughout.of_append {earlier later : List Operation} {route : RequestRoute}
    (young : YoungThroughout (earlier ++ later) route) : YoungThroughout earlier route := by
  intro reading member
  apply young
  rw [List.filterMap_append]
  exact List.mem_append_left _ member

theorem YoungThroughout.last {earlier : List Operation} {operation : Operation}
    {route : RequestRoute} (young : YoungThroughout (earlier ++ [operation]) route) {now : Int}
    (reads : operation.routeClock = some now) :
    now - route.updatedAt ≤ requestRouteTtlSeconds := by
  apply young
  rw [List.filterMap_append, List.filterMap_cons_some reads]
  exact List.mem_append_right _ List.mem_cons_self

section Runs

variable (toLowercase : String -> String) (maxConnectionsPerUser : Option Nat)

/-- The registered connection of a last bind belongs to the user of the route. -/
theorem owner_of_lastBind {operations : List Operation} (fresh : FreshIds operations)
    (own : Throughout BindsOwn operations) (key : String) (route : RequestRoute)
    (handle : ConnectionHandle) (bound : lastBind operations key = some route)
    (found : (GatewayState.run toLowercase maxConnectionsPerUser operations).connections.lookup
      route.connectionId = some handle) : handle.info.userId = route.userId :=
  userId_of_registeredUsers toLowercase maxConnectionsPerUser fresh
    (mem_registeredUsers.mpr (registered_of_lastBind own bound)) found

theorem routesRefine_run (operations : List Operation) (fresh : FreshIds operations)
    (own : Throughout BindsOwn operations) :
    RoutesRefine (lastBind operations) (YoungThroughout operations)
      (GatewayState.run toLowercase maxConnectionsPerUser operations) := by
  refine GatewayState.run_history
    (fun history state => Throughout BindsOwn history ->
      RoutesRefine (lastBind history) (YoungThroughout history) state)
    toLowercase maxConnectionsPerUser ?_ ?_ operations fresh own
  · intro _
    constructor
    · intro key route found
      simp [GatewayState.new] at found
    · intro key route handle last
      cases last
  · intro history operation freshNow absent before ownNow
    have refines : RoutesRefine (lastBind history) (YoungThroughout (history ++ [operation]))
        (GatewayState.run toLowercase maxConnectionsPerUser history) :=
      (before ownNow.append_left).mono fun _ young => young.of_append
    have kept := RoutesRefine.kept (lastBind history) (YoungThroughout (history ++ [operation]))
    cases operation using Operation.plainCases with
    | register order now connectionId userId clientInstanceId subjects connectedAt =>
        rw [lastBind_concat_of_none rfl]
        apply kept.registerConnection
        apply (kept.evictSameInstance order connectionId userId clientInstanceId
          refines).insertConnection
        intro key route bound same
        rcases registered_of_lastBind ownNow.append_left bound with ⟨info, listed, sameId, _⟩
        exact freshNow.ne_of_registers rfl listed (sameId.trans same)
    | ready order now connectionId userId =>
        rw [lastBind_concat_of_none rfl]
        exact kept.markSessionReady order now connectionId userId
          (fun _ _ => ⟨refines.sound, refines.complete⟩) refines
    | bind now requestId connectionId userId =>
        rw [Operation.apply, GatewayState.bindRequestRoute]
        split
        · next refused =>
          rw [lastBind_concat_of_none (by rw [Operation.routeWrite, if_pos refused])]
          exact refines
        · next visible =>
          have writes : Operation.routeWrite (.bindRequestRoute now requestId connectionId userId) =
              some (trim requestId, some ⟨connectionId, userId, now⟩) := by
            rw [Operation.routeWrite, if_neg visible]
          exact refines.bind (lastBind_concat_of_some writes history) fun _ young => young.last rfl
    | clear requestId =>
        rw [Operation.apply, GatewayState.clearRequestRoute]
        split
        · next blank =>
          rw [lastBind_concat_of_none (by rw [Operation.routeWrite, if_pos blank])]
          exact refines
        · next visible =>
          have writes : Operation.routeWrite (.clearRequestRoute requestId) =
              some (trim requestId, none) := by
            rw [Operation.routeWrite, if_neg visible]
          exact refines.clear (lastBind_concat_of_some writes history)
    | resolve now requestId subjects =>
        rw [lastBind_concat_of_none rfl]
        exact refines.resolve requestId subjects (fun route young => young.last rfl)
          (owner_of_lastBind toLowercase maxConnectionsPerUser freshNow.of_append
            ownNow.append_left)
    | plain operation plain =>
        rw [lastBind_concat_of_none (Operation.routeWrite_of_plain plain)]
        exact kept.apply_of_plain toLowercase plain refines

/-- A resolution finds a connection exactly if the last bind of the id that was
not cleared counts and the subjects agree. -/
theorem request_routes_refine_last_binds (operations : List Operation)
    (fresh : FreshIds operations) (own : Throughout BindsOwn operations) (now : Int)
    (clock : forall reading, reading ∈ operations.filterMap Operation.routeClock -> reading ≤ now)
    (requestId : String) (subjects : List String) (connectionId : String) :
    let state := GatewayState.run toLowercase maxConnectionsPerUser operations
    (state.resolveRequestRoute now requestId subjects).1 = some connectionId <->
      trim requestId ≠ "" /\ Exists fun route => Exists fun handle =>
        lastBind operations (trim requestId) = some route /\
        route.connectionId = connectionId /\
        now - route.updatedAt ≤ requestRouteTtlSeconds /\
        state.connections.lookup connectionId = some handle /\
        (subjects = [] \/ Exists fun subject =>
          subject ∈ subjects /\ subject ∈ handle.info.subjects) := by
  intro state
  have refines := routesRefine_run toLowercase maxConnectionsPerUser operations fresh own
  have owner := owner_of_lastBind toLowercase maxConnectionsPerUser fresh own
  rw [GatewayState.resolveRequestRoute_eq_some_iff]
  constructor
  · rintro ⟨visible, route, handle, stored, young, found, _, agrees, rfl⟩
    exact ⟨visible, route, handle, refines.sound _ route stored, rfl, young, found, agrees⟩
  · rintro ⟨visible, route, handle, bound, rfl, young, found, agrees⟩
    have youngBefore : YoungThroughout operations route := by
      intro reading member
      have earlier := clock reading member
      omega
    exact ⟨visible, route, handle, refines.complete _ route handle bound youngBefore found, young,
      found, owner _ route handle bound found, agrees, rfl⟩

end Runs

/-- A route that is bound anew from another connection of the user, found again
just before it expires. -/
theorem request_routes_refine_last_binds_of_rebind :
    let operations : List Operation :=
      [.registerConnection .sorted 0 "c1" "u" "" ["user:u"] 0,
        .registerConnection .sorted 0 "c2" "u" "" ["user:u"] 0,
        .bindRequestRoute 1 "r" "c1" "u", .bindRequestRoute 5 " r " "c2" "u",
        .resolveRequestRoute 6 "r" ["user:v"], .clearRequestRoute "q"]
    let state := GatewayState.run asciiLowercase none operations
    (state.resolveRequestRoute 125 "r " ["user:u"]).1 = some "c2" <->
      trim "r " ≠ "" /\ Exists fun route => Exists fun handle =>
        lastBind operations (trim "r ") = some route /\
        route.connectionId = "c2" /\
        125 - route.updatedAt ≤ requestRouteTtlSeconds /\
        state.connections.lookup "c2" = some handle /\
        (["user:u"] = [] \/ Exists fun subject =>
          subject ∈ ["user:u"] /\ subject ∈ handle.info.subjects) :=
  request_routes_refine_last_binds asciiLowercase none _ (by decide) (by decide) 125 (by decide)
    "r " ["user:u"] "c2"

/-- The most recent call that binds the id and is not followed by a call that
clears it, whether or not the guards refused these calls. -/
def LastBindCall (operations : List Operation) (key connectionId : String) (time : Int) : Prop :=
  Exists fun earlier => Exists fun requestId => Exists fun userId => Exists fun later =>
    operations = earlier ++ .bindRequestRoute time requestId connectionId userId :: later /\
    trim requestId = key /\
    (forall now otherId otherConnection otherUser,
      .bindRequestRoute now otherId otherConnection otherUser ∈ later -> trim otherId ≠ key) /\
    forall otherId, .clearRequestRoute otherId ∈ later -> trim otherId ≠ key

/-- A call with an empty connection id binds nothing, although the connection is
registered. -/
theorem empty_connection_id_is_not_bound :
    let operations : List Operation :=
      [.registerConnection .sorted 0 "" "u" "" [] 0, .bindRequestRoute 0 "r" "" "u"]
    let state := GatewayState.run asciiLowercase none operations
    FreshIds operations /\ Throughout BindsOwn operations /\
      Not ((state.resolveRequestRoute 0 "r" []).1 = some "" <->
        trim "r" ≠ "" /\ Exists fun time => Exists fun handle =>
          LastBindCall operations (trim "r") "" time /\ 0 - time ≤ requestRouteTtlSeconds /\
          state.connections.lookup "" = some handle /\
          (([] : List String) = [] \/ Exists fun subject =>
            subject ∈ ([] : List String) /\ subject ∈ handle.info.subjects)) := by
  intro operations state
  refine ⟨by decide, by decide, ?_⟩
  intro refines
  have lastCall : LastBindCall operations (trim "r") "" 0 :=
    ⟨[.registerConnection .sorted 0 "" "u" "" [] 0], "r", "u", [], rfl, rfl,
      fun _ _ _ _ member => absurd member List.not_mem_nil,
      fun _ member => absurd member List.not_mem_nil⟩
  have resolved := refines.mpr ⟨by decide, 0, _, lastCall, by decide, rfl, Or.inl rfl⟩
  have nothing : (state.resolveRequestRoute 0 "r" []).1 = none := by decide
  rw [nothing] at resolved
  cases resolved

end State
end Gateway

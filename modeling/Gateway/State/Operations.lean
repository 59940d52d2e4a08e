import Gateway.Foundation.Execution
import Gateway.State.Connections
import Gateway.State.Relay

namespace Gateway
namespace State

open Foundation

/-!
# Operations on the gateway state and their runs

Every public method of the gateway state is one operation.  Dropping the
receiver of a channel, which any session may do at any time, is an operation
too.  A run applies a list of operations to the empty state; each operation
carries the clock readings and the iteration order of its call, so that runs
range over all of them.

The second half of the module says which tables an operation can touch.  An
operation on one table equals the old state with that table replaced, and the
removal paths are all built from `unregisterConnection`.
-/

inductive Operation where
  | registerConnection (order : HashOrder String) (now : Int)
      (connectionId userId clientInstanceId : String) (subjects : List String)
      (connectedAt : Int)
  | unregisterConnection (connectionId : String)
  | markSessionReady (order : HashOrder String) (now : Int) (connectionId userId : String)
  | sendToSubjects (order : HashOrder String) (stickyNow now : Int) (subjects : List String)
      (message : String) (bufferIfUndelivered : Bool) (stickyKey : Option String)
  | sendToConnection (connectionId message : String)
  | markConnectionAlive (connectionId : String) (timestamp : Int)
  | pruneStaleConnections (order : HashOrder String) (now staleAfterSeconds : Int)
  | bindRequestRoute (now : Int) (requestId connectionId userId : String)
  | clearRequestRoute (requestId : String)
  | resolveRequestRoute (now : Int) (requestId : String) (subjects : List String)
  | requeueForSubjects (now : Int) (subjects : List String) (message : String)
  | bufferLatestForSubjects (now : Int) (subjects : List String) (message stickyKey : String)
  | applyRelayContextSnapshot (now : Int) (snapshot : RelayContextSnapshot)
  | authorizeRelayHotpath (senderEmail commandName : String)
      (authSpec : RelayAuthorizationSpec) (operationKey : String) (targetEmails : List String)
      (replayNonce : Option String) (payloadSizeHint : Option Nat) (now : Int)
  | dropReceiver (receiver : Nat)

namespace Operation

/-- The state after an operation. -/
def apply (toLowercase : String -> String) (state : GatewayState) : Operation -> GatewayState
  | .registerConnection order now connectionId userId clientInstanceId subjects connectedAt =>
      (state.registerConnection order now connectionId userId clientInstanceId subjects
        connectedAt).2
  | .unregisterConnection connectionId => (state.unregisterConnection connectionId).2
  | .markSessionReady order now connectionId userId =>
      (state.markSessionReady order now connectionId userId).2
  | .sendToSubjects order stickyNow now subjects message bufferIfUndelivered stickyKey =>
      (state.sendToSubjects order stickyNow now subjects message bufferIfUndelivered stickyKey).2
  | .sendToConnection connectionId message => (state.sendToConnection connectionId message).2
  | .markConnectionAlive connectionId timestamp =>
      state.markConnectionAlive connectionId timestamp
  | .pruneStaleConnections order now staleAfterSeconds =>
      (state.pruneStaleConnections order now staleAfterSeconds).2
  | .bindRequestRoute now requestId connectionId userId =>
      state.bindRequestRoute now requestId connectionId userId
  | .clearRequestRoute requestId => state.clearRequestRoute requestId
  | .resolveRequestRoute now requestId subjects =>
      (state.resolveRequestRoute now requestId subjects).2
  | .requeueForSubjects now subjects message => state.requeueForSubjects now subjects message
  | .bufferLatestForSubjects now subjects message stickyKey =>
      state.bufferLatestForSubjects now subjects message stickyKey
  | .applyRelayContextSnapshot now snapshot =>
      state.applyRelayContextSnapshot toLowercase now snapshot
  | .authorizeRelayHotpath senderEmail commandName authSpec operationKey targetEmails
      replayNonce payloadSizeHint now =>
      (state.authorizeRelayHotpath toLowercase senderEmail commandName authSpec operationKey
        targetEmails replayNonce payloadSizeHint now).2
  | .dropReceiver receiver => state.dropReceiver receiver

/-- The connection that an operation registers. -/
def registered : Operation -> Option ConnectionInfo
  | .registerConnection _ _ connectionId userId clientInstanceId subjects connectedAt =>
      some
        { connectionId := connectionId
          userId := userId
          clientInstanceId := clientInstanceId
          subjects := subjects
          connectedAt := connectedAt
          lastSeenAt := connectedAt }
  | _ => none

/-- The operations that handling client messages and outbox entries is made
of.  They register nobody, and they unregister only by evicting a session over
the cap or after a failed send. -/
def isTraffic : Operation -> Bool
  | .registerConnection .. => false
  | .unregisterConnection _ => false
  | .pruneStaleConnections .. => false
  | .dropReceiver _ => false
  | _ => true

def registeredId (operation : Operation) : Option String :=
  operation.registered.map ConnectionInfo.connectionId

/-- The operations that register nobody and write neither request routes nor
ready marks, except by removing connections. -/
def isPlain : Operation -> Bool
  | .registerConnection .. => false
  | .markSessionReady .. => false
  | .bindRequestRoute .. => false
  | .clearRequestRoute .. => false
  | .resolveRequestRoute .. => false
  | _ => true

/-- The operations one by one, with the plain ones taken together. -/
theorem plainCases {motive : Operation -> Prop}
    (register : forall order now connectionId userId clientInstanceId subjects connectedAt,
      motive (.registerConnection order now connectionId userId clientInstanceId subjects
        connectedAt))
    (ready : forall order now connectionId userId,
      motive (.markSessionReady order now connectionId userId))
    (bind : forall now requestId connectionId userId,
      motive (.bindRequestRoute now requestId connectionId userId))
    (clear : forall requestId, motive (.clearRequestRoute requestId))
    (resolve : forall now requestId subjects,
      motive (.resolveRequestRoute now requestId subjects))
    (plain : forall operation : Operation, operation.isPlain = true -> motive operation)
    (operation : Operation) : motive operation := by
  cases operation with
  | registerConnection => exact register _ _ _ _ _ _ _
  | markSessionReady => exact ready _ _ _ _
  | bindRequestRoute => exact bind _ _ _ _
  | clearRequestRoute => exact clear _
  | resolveRequestRoute => exact resolve _ _ _
  | _ => exact plain _ rfl

end Operation

/-- The state after a list of operations on the empty gateway. -/
def GatewayState.run (toLowercase : String -> String) (maxConnectionsPerUser : Option Nat)
    (operations : List Operation) : GatewayState :=
  operations.foldl (Operation.apply toLowercase) (GatewayState.new maxConnectionsPerUser)

/-- Connection ids are generated afresh: no id is registered twice in a run. -/
def FreshIds (operations : List Operation) : Prop :=
  (operations.filterMap Operation.registeredId).Nodup

instance (operations : List Operation) : Decidable (FreshIds operations) :=
  inferInstanceAs (Decidable (List.Nodup _))

theorem FreshIds.of_append {earlier later : List Operation}
    (fresh : FreshIds (earlier ++ later)) : FreshIds earlier := by
  rw [FreshIds, List.filterMap_append] at fresh
  exact (List.nodup_append.mp fresh).1

/-- The last operation of such a run registers an id that was not used before. -/
theorem FreshIds.not_mem_of_registers {earlier : List Operation} {operation : Operation}
    {connectionId : String} (fresh : FreshIds (earlier ++ [operation]))
    (registers : operation.registeredId = some connectionId) :
    connectionId ∉ earlier.filterMap Operation.registeredId := by
  intro used
  rw [FreshIds, List.filterMap_append, List.filterMap_cons_some registers] at fresh
  exact (List.nodup_append.mp fresh).2.2 connectionId used connectionId List.mem_cons_self rfl

/-- One operation out of a set of operations. -/
def OperationStep (toLowercase : String -> String) (allowed : Operation -> Prop)
    (before : GatewayState) (operation : Operation) (after : GatewayState) : Prop :=
  allowed operation /\ after = operation.apply toLowercase before

/-- Some run of allowed operations leads from one state to the other. -/
def Performs (toLowercase : String -> String) (allowed : Operation -> Prop)
    (before after : GatewayState) : Prop :=
  Exists fun operations => Execution (OperationStep toLowercase allowed) before operations after

namespace Performs

variable {toLowercase : String -> String} {allowed : Operation -> Prop}
  {before middle after : GatewayState}

theorem refl (state : GatewayState) : Performs toLowercase allowed state state :=
  ⟨[], .refl⟩

theorem trans (first : Performs toLowercase allowed before middle)
    (second : Performs toLowercase allowed middle after) :
    Performs toLowercase allowed before after := by
  rcases first with ⟨earlier, reached⟩
  rcases second with ⟨later, continued⟩
  exact ⟨earlier ++ later, reached.trans continued⟩

theorem operation {operation : Operation} (allows : allowed operation) (state : GatewayState) :
    Performs toLowercase allowed state (operation.apply toLowercase state) :=
  ⟨[operation], .single ⟨allows, rfl⟩⟩

/-- What the allowed operations keep, a run of them keeps. -/
theorem keeps {holds : GatewayState -> Prop} (performs : Performs toLowercase allowed before after)
    (step : forall state operation, allowed operation -> holds state ->
      holds (operation.apply toLowercase state)) (initial : holds before) : holds after := by
  rcases performs with ⟨operations, reached⟩
  refine reached.invariant holds initial ?_
  rintro state operation next held ⟨allows, rfl⟩
  exact step state operation allows held

end Performs

namespace GatewayState

/-! ## Operations that touch only one kind of table -/

theorem requeueForSubjects_touches (now : Int) (state : GatewayState)
    (subjects : List String) (message : String) : Exists fun pending =>
      state.requeueForSubjects now subjects message =
        { state with pendingBySubject := pending } := by
  unfold requeueForSubjects
  split
  · exact ⟨state.pendingBySubject, rfl⟩
  · exact ⟨_, rfl⟩

theorem bufferLatestForSubjects_touches (now : Int) (state : GatewayState)
    (subjects : List String) (message stickyKey : String) : Exists fun pending =>
      state.bufferLatestForSubjects now subjects message stickyKey =
        { state with pendingBySubject := pending } := by
  unfold bufferLatestForSubjects
  split
  · exact ⟨state.pendingBySubject, rfl⟩
  · exact ⟨_, rfl⟩

theorem bufferSticky_touches (now : Int) (state : GatewayState) (subjects : List String)
    (message : String) (stickyKey : Option String) : Exists fun pending =>
      state.bufferSticky now subjects message stickyKey =
        { state with pendingBySubject := pending } := by
  cases stickyKey with
  | none => exact ⟨state.pendingBySubject, rfl⟩
  | some key => exact bufferLatestForSubjects_touches now state subjects message key

theorem pruneRequestRoutes_touches (now : Int) (state : GatewayState) : Exists fun routes =>
    state.pruneRequestRoutes now = { state with requestRoutes := routes } := by
  unfold pruneRequestRoutes
  split
  · exact ⟨state.requestRoutes, rfl⟩
  · exact ⟨_, rfl⟩

theorem bindRequestRoute_touches (now : Int) (state : GatewayState)
    (requestId connectionId userId : String) : Exists fun routes =>
      state.bindRequestRoute now requestId connectionId userId =
        { state with requestRoutes := routes } := by
  unfold bindRequestRoute
  split
  · exact ⟨state.requestRoutes, rfl⟩
  · rcases pruneRequestRoutes_touches now { state with
      requestRoutes := state.requestRoutes.insert (trim requestId)
        { connectionId := connectionId, userId := userId, updatedAt := now } } with
      ⟨routes, pruned⟩
    exact ⟨routes, pruned⟩

theorem clearRequestRoute_touches (state : GatewayState) (requestId : String) :
    Exists fun routes =>
      state.clearRequestRoute requestId = { state with requestRoutes := routes } := by
  unfold clearRequestRoute
  split
  · exact ⟨state.requestRoutes, rfl⟩
  · exact ⟨_, rfl⟩

/-- A resolution leaves the table as it is or removes the route it looked at. -/
theorem resolveRequestRoute_cases (now : Int) (state : GatewayState) (requestId : String)
    (subjects : List String) :
    (state.resolveRequestRoute now requestId subjects).2 = state \/
      (state.resolveRequestRoute now requestId subjects).2 =
        { state with requestRoutes := state.requestRoutes.erase (trim requestId) } := by
  unfold resolveRequestRoute
  dsimp only
  split
  · exact Or.inl rfl
  · split
    · exact Or.inl rfl
    · split
      · exact Or.inr rfl
      · split
        · exact Or.inr rfl
        · split
          · exact Or.inr rfl
          · split
            · exact Or.inl rfl
            · exact Or.inl rfl

theorem resolveRequestRoute_touches (now : Int) (state : GatewayState) (requestId : String)
    (subjects : List String) : Exists fun routes =>
      (state.resolveRequestRoute now requestId subjects).2 =
        { state with requestRoutes := routes } := by
  rcases resolveRequestRoute_cases now state requestId subjects with same | erased
  · exact ⟨state.requestRoutes, same⟩
  · exact ⟨_, erased⟩

theorem applyRelayContextSnapshot_touches (toLowercase : String -> String) (now : Int)
    (state : GatewayState) (snapshot : RelayContextSnapshot) : Exists fun contexts =>
      state.applyRelayContextSnapshot toLowercase now snapshot =
        { state with relayContextsBySubject := contexts } := by
  unfold applyRelayContextSnapshot
  split
  · exact ⟨state.relayContextsBySubject, rfl⟩
  · split
    · exact ⟨state.relayContextsBySubject, rfl⟩
    · exact ⟨_, rfl⟩

theorem ensureRelayReplayFresh_touches (state : GatewayState) (replayKey : String)
    (now : Int) : Exists fun cache =>
      (state.ensureRelayReplayFresh replayKey now).2 =
        { state with relayReplayCache := cache } := by
  have pruned : forall cache, Exists fun kept =>
      pruneRelayReplayCache now { state with relayReplayCache := cache } =
        { state with relayReplayCache := kept } := by
    intro cache
    unfold pruneRelayReplayCache
    split
    · exact ⟨cache, rfl⟩
    · exact ⟨_, rfl⟩
  unfold ensureRelayReplayFresh
  split
  · exact ⟨state.relayReplayCache, rfl⟩
  · split
    · split
      · exact ⟨state.relayReplayCache, rfl⟩
      · exact pruned _
    · exact pruned _

theorem ensureRelayRateLimit_touches (toLowercase : String -> String) (state : GatewayState)
    (senderEmail commandName contextId : String) (now : Int) : Exists fun counters =>
      (state.ensureRelayRateLimit toLowercase senderEmail commandName contextId now).2 =
        { state with relayRateCounters := counters } := by
  unfold ensureRelayRateLimit
  simp only
  split
  · exact ⟨_, rfl⟩
  · exact ⟨_, rfl⟩

theorem ensureNonceFresh_touches (state : GatewayState)
    (sender commandName contextId : String) (replayNonce : Option String) (now : Int) :
    Exists fun cache =>
      (state.ensureNonceFresh sender commandName contextId replayNonce now).2 =
        { state with relayReplayCache := cache } := by
  unfold ensureNonceFresh
  split
  · exact ⟨state.relayReplayCache, rfl⟩
  · split
    · exact ⟨state.relayReplayCache, rfl⟩
    · exact ensureRelayReplayFresh_touches state _ now

theorem admitRelay_touches (toLowercase : String -> String) (state : GatewayState)
    (sender commandName : String) (context : RelayOperationContext)
    (replayNonce : Option String) (now : Int) : Exists fun cache => Exists fun counters =>
      (state.admitRelay toLowercase sender commandName context replayNonce now).2 =
        { state with relayReplayCache := cache, relayRateCounters := counters } := by
  rcases ensureNonceFresh_touches state sender commandName context.contextId replayNonce now with
    ⟨cache, nonceTouched⟩
  unfold admitRelay
  split
  · next next fresh =>
    rw [fresh] at nonceTouched
    exact ⟨cache, state.relayRateCounters, nonceTouched⟩
  · next next fresh =>
    rw [fresh] at nonceTouched
    subst nonceTouched
    rcases ensureRelayRateLimit_touches toLowercase { state with relayReplayCache := cache } sender
      commandName context.contextId now with ⟨counters, rateTouched⟩
    split
    · next limited =>
      rw [limited] at rateTouched
      exact ⟨cache, counters, rateTouched⟩
    · next limited =>
      rw [limited] at rateTouched
      exact ⟨cache, counters, rateTouched⟩

theorem authorizeRelayHotpath_touches (toLowercase : String -> String) (state : GatewayState)
    (senderEmail commandName : String) (authSpec : RelayAuthorizationSpec)
    (operationKey : String) (targetEmails : List String) (replayNonce : Option String)
    (payloadSizeHint : Option Nat) (now : Int) : Exists fun cache => Exists fun counters =>
      (state.authorizeRelayHotpath toLowercase senderEmail commandName authSpec operationKey
        targetEmails replayNonce payloadSizeHint now).2 =
        { state with relayReplayCache := cache, relayRateCounters := counters } := by
  have untouched : Exists fun cache => Exists fun counters => state =
      { state with relayReplayCache := cache, relayRateCounters := counters } :=
    ⟨state.relayReplayCache, state.relayRateCounters, rfl⟩
  unfold authorizeRelayHotpath
  split
  · exact untouched
  · split
    · exact untouched
    · split
      · exact untouched
      · split
        · exact untouched
        · split
          · exact untouched
          · split
            · exact untouched
            · split
              · exact untouched
              · exact admitRelay_touches toLowercase state _ _ _ _ now

end GatewayState

end State
end Gateway

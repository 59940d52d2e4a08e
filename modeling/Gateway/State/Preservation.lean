import Gateway.State.Channels
import Gateway.State.Operations

namespace Gateway
namespace State

open Foundation

/-!
# Which properties the operations preserve

Eviction, cap enforcement, stale pruning and failed sends change the state only
by putting messages on channels and by unregistering connections.  A property
that survives these two changes therefore survives every removal path.  If it
also survives writes to the other tables and the liveness mark, then it survives
every operation that does not register anybody, and a registration only has to
be checked for the insertion itself.
-/

namespace GatewayState

/-- What writes to the ready table and evictions keep, marking a session as
ready keeps. -/
theorem markSessionReady_keeps {holds : GatewayState -> Prop}
    {state : GatewayState} {connectionId userId : String} {now : Int}
    (ready : connectionId ≠ "" -> userId ≠ "" -> holds
      { state with
        readyConnections :=
          state.readyConnections.insert connectionId { userId := userId, readyAt := now } })
    (evict : forall state connectionId close, holds state ->
      holds (state.evictConnection connectionId close).2)
    (order : HashOrder String) (before : holds state) :
    holds (state.markSessionReady order now connectionId userId).2 := by
  unfold markSessionReady
  split
  · exact before
  · next visible =>
    rw [not_or] at visible
    have marked := ready visible.1 visible.2
    dsimp only
    split
    · exact marked
    · split
      · exact marked
      · refine foldl_invariant
          (fun evicted : List ConnectionInfo × GatewayState => holds evicted.2) marked ?_ _
        intro evicted entry held
        dsimp only
        split
        · exact held
        · split
          · exact held
          · exact evict _ _ _ held

end GatewayState

/-! ## Sends and removals -/

/-- A property of states that does not depend on the contents of the channels,
only on their number, and is kept when a connection is unregistered. -/
structure KeptByRemoval (holds : GatewayState -> Prop) : Prop where
  channels : forall (state : GatewayState) channels,
    channels.length = state.channels.length -> holds state ->
    holds { state with channels := channels }
  unregister : forall state connectionId, holds state ->
    holds (state.unregisterConnection connectionId).2

/-- A property that is kept when a text is put on the channel of a registered
connection, and when a connection is unregistered or evicted. -/
structure KeptByDelivery (holds : GatewayState -> Prop) : Prop where
  text : forall (state : GatewayState) connectionId handle text,
    state.connections.lookup connectionId = some handle -> holds state ->
    holds { state with channels := (sendOn state.channels handle.sender (.text text)).2 }
  unregister : forall state connectionId, holds state ->
    holds (state.unregisterConnection connectionId).2
  evict : forall state connectionId close, holds state ->
    holds (state.evictConnection connectionId close).2

theorem KeptByRemoval.delivery {holds : GatewayState -> Prop} (kept : KeptByRemoval holds) :
    KeptByDelivery holds where
  text := fun _ _ _ _ _ held => kept.channels _ _ (length_sendOn _ _ _) held
  unregister := kept.unregister
  evict := by
    intro state connectionId close held
    unfold GatewayState.evictConnection
    apply kept.unregister
    split
    · exact kept.channels _ _ (length_sendOn _ _ _) held
    · exact held

namespace KeptByDelivery

variable {holds : GatewayState -> Prop} {state : GatewayState}

theorem evictEach (kept : KeptByDelivery holds) (close : Option (Nat × String))
    (connectionIds : List String) (before : holds state) :
    holds (state.evictEach close connectionIds).2 :=
  foldl_invariant (fun evicted : List ConnectionInfo × GatewayState => holds evicted.2)
    before (fun evicted connectionId held => kept.evict evicted.2 connectionId close held)
    connectionIds

theorem evictSameInstance (kept : KeptByDelivery holds) (order : HashOrder String)
    (connectionId userId clientInstanceId : String) (before : holds state) :
    holds (state.evictSameInstance order connectionId userId clientInstanceId).2 := by
  unfold GatewayState.evictSameInstance
  split
  · exact before
  · exact kept.evictEach _ _ before

theorem unregisterEach (kept : KeptByDelivery holds) (connectionIds : List String)
    (before : holds state) : holds (state.unregisterEach connectionIds).2 :=
  foldl_invariant (fun removed : List ConnectionInfo × GatewayState => holds removed.2)
    before (fun removed connectionId held => kept.unregister removed.2 connectionId held)
    connectionIds

/-- Marking a session as ready also writes the ready table. -/
theorem markSessionReady (kept : KeptByDelivery holds)
    (order : HashOrder String) (now : Int) (connectionId userId : String)
    (ready : connectionId ≠ "" -> userId ≠ "" -> holds
      { state with
        readyConnections :=
          state.readyConnections.insert connectionId { userId := userId, readyAt := now } })
    (before : holds state) :
    holds (state.markSessionReady order now connectionId userId).2 :=
  GatewayState.markSessionReady_keeps ready kept.evict order before

/-- Replaying texts to a registered connection. -/
theorem sendTexts (kept : KeptByDelivery holds) {connectionId : String}
    {handle : ConnectionHandle} (texts : List String)
    (found : state.connections.lookup connectionId = some handle) (before : holds state) :
    holds (state.sendTexts handle.sender texts) := by
  induction texts generalizing state with
  | nil => exact before
  | cons text texts ih =>
      have sent := kept.text state connectionId handle text found before
      refine ih ?_ sent
      exact found

/-- The send loop finds its targets in the connection table. -/
theorem sendToTargets (kept : KeptByDelivery holds) (message : String) (ids : List String)
    (before : holds state) :
    holds { state with channels := (state.sendToTargets message ids).channels } := by
  refine foldl_invariant
    (fun outcome : GatewayState.SendOutcome =>
      holds { state with channels := outcome.channels }) before ?_ ids
  intro outcome id held
  unfold GatewayState.sendToTarget
  split
  · exact held
  · next handle found =>
    have sent := kept.text { state with channels := outcome.channels } id handle message found held
    split
    · next channels result =>
      rw [result] at sent
      exact sent
    · next channels result =>
      rw [result] at sent
      exact sent

/-- A dispatch also writes the pending queues. -/
theorem deliverToSubjects (kept : KeptByDelivery holds)
    (pending : forall state pending, holds state -> holds { state with pendingBySubject := pending })
    (order : HashOrder String) (now : Int) (subjects : List String) (message : String)
    (bufferIfUndelivered : Bool) (before : holds state) :
    holds (state.deliverToSubjects order now subjects message bufferIfUndelivered).2 := by
  unfold GatewayState.deliverToSubjects
  dsimp only
  have cleaned := kept.unregisterEach
    (state.sendToTargets message (order.enumerate (state.targetIds subjects))).staleIds
    (kept.sendToTargets message (order.enumerate (state.targetIds subjects)) before)
  split
  · rcases GatewayState.requeueForSubjects_touches now _ subjects message with ⟨table, touched⟩
    rw [touched]
    exact pending _ table cleaned
  · exact cleaned

theorem sendToSubjects (kept : KeptByDelivery holds)
    (pending : forall state pending, holds state -> holds { state with pendingBySubject := pending })
    (order : HashOrder String) (stickyNow now : Int) (subjects : List String) (message : String)
    (bufferIfUndelivered : Bool) (stickyKey : Option String) (before : holds state) :
    holds (state.sendToSubjects order stickyNow now subjects message bufferIfUndelivered
      stickyKey).2 := by
  unfold GatewayState.sendToSubjects
  split
  · exact before
  · apply kept.deliverToSubjects pending
    rcases GatewayState.bufferSticky_touches stickyNow state subjects message stickyKey with
      ⟨table, touched⟩
    rw [touched]
    exact pending state table before

theorem sendToConnection (kept : KeptByDelivery holds) (connectionId message : String)
    (before : holds state) : holds (state.sendToConnection connectionId message).2 := by
  unfold GatewayState.sendToConnection
  split
  · exact before
  · split
    · exact kept.unregister _ _ before
    · next handle found =>
      have sent := kept.text state connectionId handle message found before
      split
      · next channels result =>
        rw [result] at sent
        exact sent
      · next channels result =>
        rw [result] at sent
        exact kept.unregister _ _ sent

theorem pruneStaleConnections (kept : KeptByDelivery holds) (order : HashOrder String)
    (now staleAfterSeconds : Int) (before : holds state) :
    holds (state.pruneStaleConnections order now staleAfterSeconds).2 := by
  unfold GatewayState.pruneStaleConnections
  split
  · exact before
  · exact kept.unregisterEach _ before

end KeptByDelivery

namespace GatewayState

theorem unregisterConnection_of_absent {state : GatewayState} {connectionId : String}
    (absent : state.connections.lookup connectionId = none) :
    state.unregisterConnection connectionId = (none, state) := by
  simp only [unregisterConnection, absent]

theorem unregisterConnection_connections (state : GatewayState) (connectionId : String) :
    (state.unregisterConnection connectionId).2.connections =
      state.connections.erase connectionId := by
  unfold unregisterConnection
  cases found : state.connections.lookup connectionId with
  | some handle => rfl
  | none =>
      apply AList.ext
      exact (List.kerase_of_notMem_keys (AList.lookup_eq_none.mp found)).symm

theorem lookup_unregisterConnection (state : GatewayState) (connectionId other : String) :
    (state.unregisterConnection connectionId).2.connections.lookup other =
      if other = connectionId then none else state.connections.lookup other := by
  rw [unregisterConnection_connections, HashTable.lookup_erase_ite]

theorem unregisterConnection_fst (state : GatewayState) (connectionId : String) :
    (state.unregisterConnection connectionId).1 =
      (state.connections.lookup connectionId).map ConnectionHandle.info := by
  unfold unregisterConnection
  cases state.connections.lookup connectionId <;> rfl

theorem unregisterConnection_channels (state : GatewayState) (connectionId : String) :
    (state.unregisterConnection connectionId).2.channels = state.channels := by
  unfold unregisterConnection
  split <;> rfl

theorem unregisterConnection_pending (state : GatewayState) (connectionId : String) :
    (state.unregisterConnection connectionId).2.pendingBySubject = state.pendingBySubject := by
  unfold unregisterConnection
  split <;> rfl

/-- An unregistration takes out the routes of its connection. -/
theorem lookup_unregisterConnection_requestRoutes (state : GatewayState)
    (connectionId key : String) (route : RequestRoute) :
    (state.unregisterConnection connectionId).2.requestRoutes.lookup key = some route <->
      state.requestRoutes.lookup key = some route /\
        (state.connections.lookup connectionId = none \/ route.connectionId ≠ connectionId) := by
  cases found : state.connections.lookup connectionId with
  | none =>
      rw [unregisterConnection_of_absent found]
      simp only [true_or, and_true]
  | some handle =>
      have swept : (state.unregisterConnection connectionId).2.requestRoutes =
          state.requestRoutes.eraseAll ((state.requestRoutes.entries.filter fun entry =>
            decide (entry.2.connectionId = connectionId)).map Sigma.fst) := by
        simp only [unregisterConnection, found]
      rw [swept, HashTable.lookup_eraseAll_filter, Option.filter_eq_some_iff]
      simp

/-- An unregistration takes out the ready mark of its connection. -/
theorem lookup_unregisterConnection_readyConnections (state : GatewayState)
    (connectionId other : String) (mark : ReadyConnection) :
    (state.unregisterConnection connectionId).2.readyConnections.lookup other = some mark <->
      state.readyConnections.lookup other = some mark /\
        (state.connections.lookup connectionId = none \/ other ≠ connectionId) := by
  cases found : state.connections.lookup connectionId with
  | none =>
      rw [unregisterConnection_of_absent found]
      simp only [true_or, and_true]
  | some handle =>
      have erased : (state.unregisterConnection connectionId).2.readyConnections =
          state.readyConnections.erase connectionId := by
        simp only [unregisterConnection, found]
      rw [erased, HashTable.lookup_erase_ite]
      by_cases same : other = connectionId
      · simp [same]
      · simp [same]

/-- Removal paths never register anybody. -/
theorem absentKept (connectionId : String) : KeptByRemoval fun state =>
    state.connections.lookup connectionId = none where
  channels := fun _ _ _ absent => absent
  unregister := by
    intro state other before
    rw [lookup_unregisterConnection, before]
    split <;> rfl

end GatewayState

/-! ## All operations -/

/-- A property that deliveries, removals, writes to the tables other than the
routes and the ready marks, and liveness marks keep. -/
structure KeptByCalls (holds : GatewayState -> Prop) : Prop extends
    KeptByDelivery holds where
  tables : forall state pending contexts cache counters, holds state -> holds
    { state with
      pendingBySubject := pending
      relayContextsBySubject := contexts
      relayReplayCache := cache
      relayRateCounters := counters }
  alive : forall state connectionId timestamp, holds state ->
    holds (state.markConnectionAlive connectionId timestamp)

/-- A property that is also kept when a session drops its receiver. -/
structure KeptByChanges (holds : GatewayState -> Prop) : Prop extends KeptByCalls holds where
  drop : forall state receiver, holds state -> holds (state.dropReceiver receiver)

/-- Properties that do not look at the contents of the channels. -/
theorem KeptByRemoval.changes {holds : GatewayState -> Prop} (kept : KeptByRemoval holds)
    (tables : forall state pending contexts cache counters, holds state -> holds
      { state with
        pendingBySubject := pending
        relayContextsBySubject := contexts
        relayReplayCache := cache
        relayRateCounters := counters })
    (alive : forall state connectionId timestamp, holds state ->
      holds (state.markConnectionAlive connectionId timestamp)) : KeptByChanges holds where
  toKeptByDelivery := kept.delivery
  tables := tables
  alive := alive
  drop := fun _ _ held => kept.channels _ _ (List.length_modify _ _ _) held

namespace KeptByCalls

variable {holds : GatewayState -> Prop} {state : GatewayState}

theorem takePendingForSubjects (kept : KeptByCalls holds) (now : Int) (subjects : List String)
    (before : holds state) : holds (state.takePendingForSubjects now subjects).2 :=
  kept.tables _ _ _ _ _ before

/-- After the insertion a registration only replays pending messages to the new
connection. -/
theorem registerConnection (kept : KeptByCalls holds) (order : HashOrder String) (now : Int)
    (connectionId userId clientInstanceId : String) (subjects : List String) (connectedAt : Int)
    (inserted : holds
      ((state.evictSameInstance order connectionId userId clientInstanceId).2.insertConnection
        ⟨connectionId, userId, clientInstanceId, subjects, connectedAt, connectedAt⟩)) :
    holds (state.registerConnection order now connectionId userId clientInstanceId subjects
      connectedAt).2 := by
  have taken := kept.takePendingForSubjects now subjects inserted
  exact kept.toKeptByDelivery.sendTexts _ (AList.lookup_insert _) taken

theorem apply_of_plain (kept : KeptByCalls holds) (toLowercase : String -> String)
    {operation : Operation} (plain : operation.isPlain = true)
    (drop : forall receiver, operation = .dropReceiver receiver ->
      holds (state.dropReceiver receiver)) (before : holds state) :
    holds (operation.apply toLowercase state) := by
  have pending : forall state pending, holds state ->
      holds { state with pendingBySubject := pending } :=
    fun _ _ held => kept.tables _ _ _ _ _ held
  cases operation with
  | registerConnection => cases plain
  | markSessionReady => cases plain
  | bindRequestRoute => cases plain
  | clearRequestRoute => cases plain
  | resolveRequestRoute => cases plain
  | unregisterConnection connectionId => exact kept.unregister state connectionId before
  | sendToSubjects order stickyNow now subjects message bufferIfUndelivered stickyKey =>
      exact kept.toKeptByDelivery.sendToSubjects pending order stickyNow now subjects message
        bufferIfUndelivered stickyKey before
  | sendToConnection connectionId message =>
      exact kept.toKeptByDelivery.sendToConnection connectionId message before
  | markConnectionAlive connectionId timestamp =>
      exact kept.alive state connectionId timestamp before
  | pruneStaleConnections order now staleAfterSeconds =>
      exact kept.toKeptByDelivery.pruneStaleConnections order now staleAfterSeconds before
  | requeueForSubjects now subjects message =>
      rcases GatewayState.requeueForSubjects_touches now state subjects message with
        ⟨pending, touched⟩
      rw [Operation.apply, touched]
      exact kept.tables _ _ _ _ _ before
  | bufferLatestForSubjects now subjects message stickyKey =>
      rcases GatewayState.bufferLatestForSubjects_touches now state subjects message stickyKey with
        ⟨pending, touched⟩
      rw [Operation.apply, touched]
      exact kept.tables _ _ _ _ _ before
  | applyRelayContextSnapshot now snapshot =>
      rcases GatewayState.applyRelayContextSnapshot_touches toLowercase now state snapshot with
        ⟨contexts, touched⟩
      rw [Operation.apply, touched]
      exact kept.tables _ _ _ _ _ before
  | authorizeRelayHotpath senderEmail commandName authSpec operationKey targetEmails replayNonce
      payloadSizeHint now =>
      rcases GatewayState.authorizeRelayHotpath_touches toLowercase state senderEmail commandName
        authSpec operationKey targetEmails replayNonce payloadSizeHint now with
        ⟨cache, counters, touched⟩
      rw [Operation.apply, touched]
      exact kept.tables _ _ _ _ _ before
  | dropReceiver receiver => exact drop receiver rfl

/-- A property that does not look at the request routes only has to be checked
for dropped receivers, for ready marks and for the insertion of a registration. -/
theorem apply (kept : KeptByCalls holds) (toLowercase : String -> String) (operation : Operation)
    (routes : forall table, holds { state with requestRoutes := table })
    (drop : forall receiver, operation = .dropReceiver receiver ->
      holds (state.dropReceiver receiver))
    (ready : forall order now connectionId userId,
      operation = .markSessionReady order now connectionId userId ->
      holds (state.markSessionReady order now connectionId userId).2)
    (inserted : forall order now connectionId userId clientInstanceId subjects connectedAt,
      operation = .registerConnection order now connectionId userId clientInstanceId subjects
        connectedAt -> holds
      ((state.evictSameInstance order connectionId userId clientInstanceId).2.insertConnection
        ⟨connectionId, userId, clientInstanceId, subjects, connectedAt, connectedAt⟩))
    (before : holds state) : holds (operation.apply toLowercase state) := by
  cases operation using Operation.plainCases with
  | register order now connectionId userId clientInstanceId subjects connectedAt =>
      exact kept.registerConnection order now connectionId userId clientInstanceId subjects
        connectedAt (inserted order now connectionId userId clientInstanceId subjects connectedAt
          rfl)
  | ready order now connectionId userId => exact ready order now connectionId userId rfl
  | bind now requestId connectionId userId =>
      rcases GatewayState.bindRequestRoute_touches now state requestId connectionId userId with
        ⟨table, touched⟩
      rw [Operation.apply, touched]
      exact routes table
  | clear requestId =>
      rcases GatewayState.clearRequestRoute_touches state requestId with ⟨table, touched⟩
      rw [Operation.apply, touched]
      exact routes table
  | resolve now requestId subjects =>
      rcases GatewayState.resolveRequestRoute_touches now state requestId subjects with
        ⟨table, touched⟩
      rw [Operation.apply, touched]
      exact routes table
  | plain operation plain => exact kept.apply_of_plain toLowercase plain drop before

end KeptByCalls

theorem KeptByChanges.apply_of_plain {holds : GatewayState -> Prop} {state : GatewayState}
    (kept : KeptByChanges holds) (toLowercase : String -> String) {operation : Operation}
    (plain : operation.isPlain = true) (before : holds state) :
    holds (operation.apply toLowercase state) :=
  kept.toKeptByCalls.apply_of_plain toLowercase plain
    (fun receiver _ => kept.drop state receiver before) before

/-- A property that removals, writes to the other tables and liveness marks
keep. -/
structure KeptByOperations (holds : GatewayState -> Prop) : Prop extends
    KeptByRemoval holds where
  tables : forall state pending routes contexts cache counters ready, holds state -> holds
    { state with
      pendingBySubject := pending
      requestRoutes := routes
      relayContextsBySubject := contexts
      relayReplayCache := cache
      relayRateCounters := counters
      readyConnections := ready }
  alive : forall state connectionId timestamp, holds state ->
    holds (state.markConnectionAlive connectionId timestamp)

namespace KeptByOperations

variable {holds : GatewayState -> Prop} {state : GatewayState}

theorem changes (kept : KeptByOperations holds) : KeptByChanges holds :=
  kept.toKeptByRemoval.changes (fun _ _ _ _ _ held => kept.tables _ _ _ _ _ _ _ held) kept.alive

/-- Evictions before the insertion never register the new id. -/
theorem apply (kept : KeptByOperations holds) (toLowercase : String -> String)
    (operation : Operation)
    (inserted : forall info, operation.registered = some info -> forall evicted : GatewayState,
      evicted.connections.lookup info.connectionId = none -> holds evicted ->
      holds (evicted.insertConnection info))
    (absent : forall connectionId, operation.registeredId = some connectionId ->
      state.connections.lookup connectionId = none)
    (before : holds state) : holds (operation.apply toLowercase state) := by
  refine kept.changes.apply toLowercase operation
    (fun _ => kept.tables _ _ _ _ _ _ _ before)
    (fun receiver _ => kept.changes.drop state receiver before)
    (fun order now connectionId userId _ =>
      kept.delivery.markSessionReady order now connectionId userId
        (fun _ _ => kept.tables _ _ _ _ _ _ _ before) before) ?_ before
  rintro order now connectionId userId clientInstanceId subjects connectedAt rfl
  have evicted := kept.delivery.evictSameInstance order connectionId userId clientInstanceId before
  have stillAbsent := (GatewayState.absentKept connectionId).delivery.evictSameInstance order
    connectionId userId clientInstanceId (absent connectionId rfl)
  exact inserted _ rfl _ stillAbsent evicted

theorem registerConnection (kept : KeptByOperations holds) (order : HashOrder String) (now : Int)
    (connectionId userId clientInstanceId : String) (subjects : List String) (connectedAt : Int)
    (inserted : forall evicted : GatewayState, evicted.connections.lookup connectionId = none ->
      holds evicted -> holds (evicted.insertConnection
        ⟨connectionId, userId, clientInstanceId, subjects, connectedAt, connectedAt⟩))
    (absent : state.connections.lookup connectionId = none) (before : holds state) :
    holds (state.registerConnection order now connectionId userId clientInstanceId subjects
      connectedAt).2 := by
  refine kept.apply id (.registerConnection order now connectionId userId clientInstanceId subjects
    connectedAt) ?_ ?_ before
  · intro info registers
    cases registers
    exact inserted
  · intro registered registers
    cases registers
    exact absent

end KeptByOperations

/-! ## Runs with fresh connection ids -/

theorem GatewayState.absentKeptByOperations (connectionId : String) : KeptByOperations fun state =>
    state.connections.lookup connectionId = none where
  toKeptByRemoval := absentKept connectionId
  tables := fun _ _ _ _ _ _ _ absent => absent
  alive := by
    intro state other timestamp absent
    simp only [markConnectionAlive, HashTable.lookup_modify]
    split
    · next same => rw [← same, absent, Option.map_none]
    · exact absent

/-- A fresh registration leaves every other absent id absent. -/
theorem lookup_apply_of_absent {state : GatewayState} {connectionId : String}
    (toLowercase : String -> String) (operation : Operation)
    (absent : state.connections.lookup connectionId = none)
    (fresh : forall other, operation.registeredId = some other ->
      state.connections.lookup other = none)
    (different : operation.registeredId ≠ some connectionId) :
    (operation.apply toLowercase state).connections.lookup connectionId = none := by
  refine (GatewayState.absentKeptByOperations connectionId).apply toLowercase operation ?_ fresh
    absent
  intro info registers evicted _ stillAbsent
  have notSame : connectionId ≠ info.connectionId := by
    rintro rfl
    apply different
    rw [Operation.registeredId, registers, Option.map_some]
  simp only [GatewayState.insertConnection, HashTable.lookup_insert_ite, if_neg notSame]
  exact stillAbsent

/-- In a run with fresh ids, only ids that some operation registers are ever
registered. -/
theorem lookup_run_of_unregistered (toLowercase : String -> String)
    (maxConnectionsPerUser : Option Nat) (operations : List Operation)
    (fresh : FreshIds operations) (connectionId : String)
    (never : connectionId ∉ operations.filterMap Operation.registeredId) :
    (GatewayState.run toLowercase maxConnectionsPerUser operations).connections.lookup
      connectionId = none := by
  refine foldl_history (fun history (state : GatewayState) => FreshIds history ->
    forall other, other ∉ history.filterMap Operation.registeredId ->
      state.connections.lookup other = none) (fun _ _ _ => rfl) ?_ operations fresh connectionId
    never
  intro history state operation before freshNow other unregistered
  have known := before freshNow.of_append
  rw [List.filterMap_append, List.mem_append, not_or] at unregistered
  refine lookup_apply_of_absent toLowercase operation (known other unregistered.1) ?_ ?_
  · intro registeredId registers
    exact known registeredId (freshNow.not_mem_of_registers registers)
  · intro registers
    apply unregistered.2
    rw [List.filterMap_cons_some registers]
    exact List.mem_cons_self

theorem GatewayState.run_concat (toLowercase : String -> String)
    (maxConnectionsPerUser : Option Nat) (operations : List Operation) (operation : Operation) :
    GatewayState.run toLowercase maxConnectionsPerUser (operations ++ [operation]) =
      operation.apply toLowercase
        (GatewayState.run toLowercase maxConnectionsPerUser operations) := by
  rw [GatewayState.run, List.foldl_append]
  rfl

/-- The rule of histories for runs with fresh ids: a registration finds its id
unused. -/
theorem GatewayState.run_history (holds : List Operation -> GatewayState -> Prop)
    (toLowercase : String -> String) (maxConnectionsPerUser : Option Nat)
    (initial : holds [] (GatewayState.new maxConnectionsPerUser))
    (preserved : forall history operation, FreshIds (history ++ [operation]) ->
      (forall connectionId, operation.registeredId = some connectionId ->
        (GatewayState.run toLowercase maxConnectionsPerUser history).connections.lookup
          connectionId = none) ->
      holds history (GatewayState.run toLowercase maxConnectionsPerUser history) ->
      holds (history ++ [operation]) (operation.apply toLowercase
        (GatewayState.run toLowercase maxConnectionsPerUser history)))
    (operations : List Operation) (fresh : FreshIds operations) :
    holds operations (GatewayState.run toLowercase maxConnectionsPerUser operations) := by
  induction operations using List.reverseRecOn with
  | nil => exact initial
  | append_singleton operations operation ih =>
      rw [GatewayState.run_concat]
      refine preserved operations operation fresh ?_ (ih fresh.of_append)
      intro connectionId registers
      exact lookup_run_of_unregistered toLowercase maxConnectionsPerUser operations
        fresh.of_append connectionId (fresh.not_mem_of_registers registers)

/-- The rule of invariants for runs with fresh ids. -/
theorem KeptByOperations.run {holds : GatewayState -> Prop} (kept : KeptByOperations holds)
    (toLowercase : String -> String) (maxConnectionsPerUser : Option Nat)
    (initial : holds (GatewayState.new maxConnectionsPerUser))
    (inserted : forall (info : ConnectionInfo) (evicted : GatewayState),
      evicted.connections.lookup info.connectionId = none -> holds evicted ->
      holds (evicted.insertConnection info))
    (operations : List Operation) (fresh : FreshIds operations) :
    holds (GatewayState.run toLowercase maxConnectionsPerUser operations) :=
  GatewayState.run_history (fun _ state => holds state) toLowercase maxConnectionsPerUser initial
    (fun _ operation _ absent before =>
      kept.apply toLowercase operation (fun info _ => inserted info) absent before)
    operations fresh

end State
end Gateway

import Gateway.State.Preservation

namespace Gateway
namespace State

open Foundation

/-!
# Where the registered connections come from

Whatever is registered after a run was registered by one of its operations.
Since ids are never reused, this operation is determined by the id, and so is
everything that was registered with it.
-/

/-- The info as it was when the connection registered.  Only the liveness mark
changes it afterwards. -/
def ConnectionInfo.atRegistration (info : ConnectionInfo) : ConnectionInfo :=
  { info with lastSeenAt := info.connectedAt }

/-- Every registered connection is known, and is stored under its own id. -/
def AllKnown (known : ConnectionInfo -> Prop) (state : GatewayState) : Prop :=
  forall connectionId handle, state.connections.lookup connectionId = some handle ->
    handle.info.connectionId = connectionId /\ known handle.info.atRegistration

namespace AllKnown

theorem mono {known other : ConnectionInfo -> Prop} {state : GatewayState}
    (allKnown : AllKnown known state) (more : forall info, known info -> other info) :
    AllKnown other state := by
  intro connectionId handle found
  have held := allKnown connectionId handle found
  exact ⟨held.1, more _ held.2⟩

theorem kept (known : ConnectionInfo -> Prop) : KeptByOperations (AllKnown known) where
  channels := fun _ _ _ allKnown => allKnown
  unregister := by
    intro state removed allKnown connectionId handle found
    rw [GatewayState.lookup_unregisterConnection] at found
    split at found
    · cases found
    · exact allKnown connectionId handle found
  tables := fun _ _ _ _ _ _ _ allKnown => allKnown
  alive := by
    intro state marked timestamp allKnown connectionId handle found
    simp only [GatewayState.markConnectionAlive, HashTable.lookup_modify] at found
    split at found
    · next same =>
      rcases Option.map_eq_some_iff.mp found with ⟨old, oldFound, rfl⟩
      rw [← same] at oldFound
      exact allKnown connectionId old oldFound
    · exact allKnown connectionId handle found

theorem insertConnection {known : ConnectionInfo -> Prop} {state : GatewayState}
    (allKnown : AllKnown known state) {info : ConnectionInfo} (listed : known info.atRegistration) :
    AllKnown known (state.insertConnection info) := by
  intro connectionId handle found
  simp only [GatewayState.insertConnection, HashTable.lookup_insert_ite] at found
  split at found
  · next same =>
    rw [← Option.some.inj found]
    exact ⟨same.symm, listed⟩
  · exact allKnown connectionId handle found

end AllKnown

theorem Operation.atRegistration_of_registered {operation : Operation} {info : ConnectionInfo}
    (registers : operation.registered = some info) : info.atRegistration = info := by
  cases operation <;> cases registers
  rfl

/-- What is registered after a run was registered in the run. -/
theorem registered_of_run (toLowercase : String -> String) (maxConnectionsPerUser : Option Nat)
    (operations : List Operation) (fresh : FreshIds operations) :
    AllKnown (fun info => info ∈ operations.filterMap Operation.registered)
      (GatewayState.run toLowercase maxConnectionsPerUser operations) := by
  refine GatewayState.run_history
    (fun history => AllKnown fun info => info ∈ history.filterMap Operation.registered)
    toLowercase maxConnectionsPerUser ?_ ?_ operations fresh
  · intro connectionId handle found
    simp [GatewayState.new] at found
  · intro history operation freshNow absent before
    have known := before.mono fun info member => List.mem_filterMap.mpr
      ((List.mem_filterMap.mp member).imp fun _ listed =>
        ⟨List.mem_append_left [operation] listed.1, listed.2⟩)
    refine (AllKnown.kept _).apply toLowercase operation ?_ absent known
    intro info registers evicted _ held
    apply held.insertConnection
    rw [Operation.atRegistration_of_registered registers]
    exact List.mem_filterMap.mpr
      ⟨operation, List.mem_append_right history List.mem_cons_self, registers⟩

/-- The ids that a run registers, each with its user. -/
def registeredUsers (operations : List Operation) : List (String × String) :=
  (operations.filterMap Operation.registered).map fun info => (info.connectionId, info.userId)

theorem filterMap_registeredId (operations : List Operation) :
    operations.filterMap Operation.registeredId =
      (operations.filterMap Operation.registered).map ConnectionInfo.connectionId := by
  rw [List.map_filterMap]
  rfl

/-- In a run with fresh ids the id determines the registration. -/
theorem FreshIds.eq_of_connectionId {operations : List Operation} (fresh : FreshIds operations)
    {left right : ConnectionInfo} (leftListed : left ∈ operations.filterMap Operation.registered)
    (rightListed : right ∈ operations.filterMap Operation.registered)
    (same : left.connectionId = right.connectionId) : left = right := by
  rw [FreshIds, filterMap_registeredId] at fresh
  exact List.inj_on_of_nodup_map fresh leftListed rightListed same

theorem mem_registeredUsers {operations : List Operation} {connectionId userId : String} :
    (connectionId, userId) ∈ registeredUsers operations <-> Exists fun info =>
      info ∈ operations.filterMap Operation.registered /\ info.connectionId = connectionId /\
        info.userId = userId := by
  rw [registeredUsers, List.mem_map]
  simp only [Prod.mk.injEq]

/-- A connection that was registered with a user belongs to this user. -/
theorem userId_of_registeredUsers (toLowercase : String -> String)
    (maxConnectionsPerUser : Option Nat) {operations : List Operation}
    (fresh : FreshIds operations) {connectionId userId : String}
    (listed : (connectionId, userId) ∈ registeredUsers operations) {handle : ConnectionHandle}
    (found : (GatewayState.run toLowercase maxConnectionsPerUser operations).connections.lookup
      connectionId = some handle) : handle.info.userId = userId := by
  rcases mem_registeredUsers.mp listed with ⟨info, registers, sameId, sameUser⟩
  rcases registered_of_run toLowercase maxConnectionsPerUser operations fresh connectionId handle
    found with ⟨keyed, registered⟩
  have same := fresh.eq_of_connectionId registered registers (keyed.trans sameId.symm)
  rw [← sameUser, ← same]
  rfl

/-- The last operation of a run with fresh ids registers an id that no earlier
registration used. -/
theorem FreshIds.ne_of_registers {earlier : List Operation} {operation : Operation}
    {connectionId : String} (fresh : FreshIds (earlier ++ [operation]))
    (registers : operation.registeredId = some connectionId) {info : ConnectionInfo}
    (listed : info ∈ earlier.filterMap Operation.registered) : info.connectionId ≠ connectionId := by
  rintro rfl
  apply fresh.not_mem_of_registers registers
  rw [filterMap_registeredId]
  exact List.mem_map_of_mem listed

end State
end Gateway

import Gateway.State.Preservation

namespace Gateway
namespace State

open Foundation

/-!
# The subject index agrees with the registered connections

The index and the connection table are updated separately on every path.  The
invariant says that they describe the same subscriptions, that no subject keeps
an empty set, and that connections are stored under their own ids.  It is kept
by every operation as long as a registration uses an id that is not registered.
-/

/-- The connection is registered with the subject in its list. -/
def Subscribed (connections : HashTable String ConnectionHandle)
    (connectionId subject : String) : Prop :=
  Exists fun handle =>
    connections.lookup connectionId = some handle /\ subject ∈ handle.info.subjects

structure IndexConsistent (state : GatewayState) : Prop where
  index : state.subjects.Represents (Subscribed state.connections)
  ids : forall connectionId handle, state.connections.lookup connectionId = some handle ->
    handle.info.connectionId = connectionId

namespace IndexConsistent

theorem new (maxConnectionsPerUser : Option Nat) :
    IndexConsistent (GatewayState.new maxConnectionsPerUser) where
  index := by
    refine InvertedIndex.represents_empty.congr ?_
    intro connectionId subject
    constructor
    · exact False.elim
    · rintro ⟨handle, found, _⟩
      simp [GatewayState.new] at found
  ids := by
    intro connectionId handle found
    simp [GatewayState.new] at found

theorem unregisterConnection {state : GatewayState} (consistent : IndexConsistent state)
    (connectionId : String) : IndexConsistent (state.unregisterConnection connectionId).2 := by
  cases found : state.connections.lookup connectionId with
  | none =>
      rw [GatewayState.unregisterConnection_of_absent found]
      exact consistent
  | some handle =>
      have subjects : (state.unregisterConnection connectionId).2.subjects =
          state.subjects.delistAll connectionId handle.info.subjects := by
        simp only [GatewayState.unregisterConnection, found]
      constructor
      · rw [subjects]
        refine (consistent.index.delistAll connectionId handle.info.subjects).congr ?_
        intro other subject
        simp only [Subscribed, GatewayState.lookup_unregisterConnection]
        by_cases same : other = connectionId
        · subst other
          simp [found]
        · simp [same]
      · intro other stored lookup
        rw [GatewayState.lookup_unregisterConnection] at lookup
        by_cases same : other = connectionId
        · rw [if_pos same] at lookup
          cases lookup
        · rw [if_neg same] at lookup
          exact consistent.ids other stored lookup

/-- Listing a new connection under its subjects adds exactly its subscriptions. -/
theorem insertConnection {state : GatewayState} (consistent : IndexConsistent state)
    {info : ConnectionInfo} (absent : state.connections.lookup info.connectionId = none) :
    IndexConsistent (state.insertConnection info) where
  index := by
    refine (consistent.index.enlistAll info.connectionId info.subjects).congr ?_
    intro other subject
    simp only [Subscribed, GatewayState.insertConnection, HashTable.lookup_insert_ite]
    by_cases same : other = info.connectionId
    · subst other
      simp [absent]
    · simp [same]
  ids := by
    intro other stored lookup
    simp only [GatewayState.insertConnection, HashTable.lookup_insert_ite] at lookup
    by_cases same : other = info.connectionId
    · rw [if_pos same] at lookup
      rw [← Option.some.inj lookup]
      exact same.symm
    · rw [if_neg same] at lookup
      exact consistent.ids other stored lookup

theorem markConnectionAlive {state : GatewayState} (consistent : IndexConsistent state)
    (connectionId : String) (timestamp : Int) :
    IndexConsistent (state.markConnectionAlive connectionId timestamp) where
  index := by
    refine consistent.index.congr ?_
    intro other subject
    simp only [Subscribed, GatewayState.markConnectionAlive, HashTable.lookup_modify]
    by_cases same : other = connectionId
    · subst other
      simp
    · simp [same]
  ids := by
    intro other stored lookup
    simp only [GatewayState.markConnectionAlive, HashTable.lookup_modify] at lookup
    by_cases same : other = connectionId
    · rw [if_pos same, Option.map_eq_some_iff] at lookup
      rcases lookup with ⟨handle, found, rfl⟩
      rw [same]
      exact consistent.ids connectionId handle found
    · rw [if_neg same] at lookup
      exact consistent.ids other stored lookup

theorem kept : KeptByOperations IndexConsistent where
  channels := fun _ _ _ consistent => ⟨consistent.index, consistent.ids⟩
  unregister := fun _ connectionId consistent => consistent.unregisterConnection connectionId
  tables := fun _ _ _ _ _ _ _ consistent => ⟨consistent.index, consistent.ids⟩
  alive := fun _ connectionId timestamp consistent =>
    consistent.markConnectionAlive connectionId timestamp

theorem run (toLowercase : String -> String) (maxConnectionsPerUser : Option Nat)
    (operations : List Operation) (fresh : FreshIds operations) :
    IndexConsistent (GatewayState.run toLowercase maxConnectionsPerUser operations) :=
  kept.run toLowercase maxConnectionsPerUser (new maxConnectionsPerUser)
    (fun _ _ absent evicted => evicted.insertConnection absent) operations fresh

end IndexConsistent

/-- In every run with fresh connection ids, the index and the connection table
describe the same subscriptions, whichever of the removal paths were taken. -/
theorem subject_index_agrees_with_connections (toLowercase : String -> String)
    (maxConnectionsPerUser : Option Nat) (operations : List Operation)
    (fresh : FreshIds operations) :
    let state := GatewayState.run toLowercase maxConnectionsPerUser operations
    (forall subject connectionId,
      (Exists fun group =>
        state.subjects.lookup subject = some group /\ connectionId ∈ group) <->
      Exists fun handle =>
        state.connections.lookup connectionId = some handle /\
          subject ∈ handle.info.subjects) /\
    (forall subject, state.subjects.lookup subject ≠ some ∅) /\
    (forall connectionId handle, state.connections.lookup connectionId = some handle ->
      handle.info.connectionId = connectionId) := by
  intro state
  have consistent := IndexConsistent.run toLowercase maxConnectionsPerUser operations fresh
  refine ⟨?_, ?_, consistent.ids⟩
  · intro subject connectionId
    rw [← InvertedIndex.mem_members_iff_lookup]
    exact consistent.index.mem_iff connectionId subject
  · intro subject found
    exact consistent.index.tidy subject ∅ found rfl

/-- A reconnect of one client instance, a dropped receiver found by a send, and
a stale connection, with repeated subjects in between. -/
theorem subject_index_agrees_after_evictions :
    let state := GatewayState.run asciiLowercase (some 1)
      [.registerConnection .sorted 0 "c1" "u" "tab" ["s", "s", "t"] 0,
        .registerConnection .sorted 1 "c2" "u" "tab" ["s"] 1,
        .registerConnection .sorted 2 "c3" "v" "" [] 2,
        .dropReceiver 1,
        .sendToSubjects .sorted 3 3 ["s"] "m" true none,
        .pruneStaleConnections .sorted 100 30]
    (forall subject connectionId,
      (Exists fun group =>
        state.subjects.lookup subject = some group /\ connectionId ∈ group) <->
      Exists fun handle =>
        state.connections.lookup connectionId = some handle /\
          subject ∈ handle.info.subjects) /\
    (forall subject, state.subjects.lookup subject ≠ some ∅) /\
    (forall connectionId handle, state.connections.lookup connectionId = some handle ->
      handle.info.connectionId = connectionId) :=
  subject_index_agrees_with_connections asciiLowercase (some 1) _ (by decide)

end State
end Gateway

import Gateway.Foundation.Scheduling
import Gateway.State.SubjectIndex

namespace Gateway
namespace Concurrency

open Foundation State

/-!
# Unregistering a connection, call by call

`unregister_connection` removes the connection, then its ready mark, then its
listing under each of its subjects, and last the request routes that point to
it.  A subject whose set was found empty is removed in a call of its own, and
the routes are collected in one call and removed one by one.
-/

/-- What a removal does next.  Once the connection is removed, its info is
known. -/
inductive RemovalPhase where
  | remove
  | unready (info : ConnectionInfo)
  | withdraw (info : ConnectionInfo) (subject : String) (remaining : List String)
  | discard (info : ConnectionInfo) (subject : String) (remaining : List String)
  | scanRoutes (info : ConnectionInfo)
  | unroute (info : ConnectionInfo) (requestId : String) (remaining : List String)
  deriving DecidableEq

/-- One call of `unregister_connection` and how far it has come. -/
structure Removal where
  connectionId : String
  phase : RemovalPhase
  deriving DecidableEq

namespace Removal

def start (connectionId : String) : Removal where
  connectionId := connectionId
  phase := .remove

/-- The loop over the subjects up to the next call. -/
def overSubjects (connectionId : String) (info : ConnectionInfo) : List String -> Removal
  | [] => { connectionId := connectionId, phase := .scanRoutes info }
  | subject :: remaining =>
      { connectionId := connectionId, phase := .withdraw info subject remaining }

/-- The loop over the stale request ids up to the next call. -/
def overRoutes (connectionId : String) (info : ConnectionInfo) :
    List String -> Progress (Option ConnectionInfo) Removal
  | [] => .finished (some info)
  | requestId :: remaining =>
      .more { connectionId := connectionId, phase := .unroute info requestId remaining }

end Removal

inductive RemovalCall where
  | removeConnection (connectionId : String)
  | removeReady (connectionId : String)
  | removeMember (subject : String)
  | removeSubject (subject : String)
  | scanRoutes
  | removeRoute (requestId : String)
  deriving DecidableEq

/-- The next atomic call of a removal, the state after it, and what is left. -/
def nextRemoval (state : GatewayState) (removal : Removal) :
    RemovalCall × GatewayState × Progress (Option ConnectionInfo) Removal :=
  match removal.phase with
  | .remove =>
      (.removeConnection removal.connectionId,
        { state with connections := state.connections.erase removal.connectionId },
        match state.connections.lookup removal.connectionId with
        | none => .finished none
        | some handle => .more { removal with phase := .unready handle.info })
  | .unready info =>
      (.removeReady removal.connectionId,
        { state with readyConnections := state.readyConnections.erase removal.connectionId },
        .more (Removal.overSubjects removal.connectionId info info.subjects))
  | .withdraw info subject remaining =>
      let subjects := state.subjects.withdraw removal.connectionId subject
      (.removeMember subject, { state with subjects := subjects },
        if subjects.lookup subject = some ∅ then
          .more { removal with phase := .discard info subject remaining }
        else .more (Removal.overSubjects removal.connectionId info remaining))
  | .discard info subject remaining =>
      (.removeSubject subject, { state with subjects := state.subjects.erase subject },
        .more (Removal.overSubjects removal.connectionId info remaining))
  | .scanRoutes info =>
      let staleRequestIds := (state.requestRoutes.entries.filter fun entry =>
        decide (entry.2.connectionId = removal.connectionId)).map Sigma.fst
      (.scanRoutes, state, Removal.overRoutes removal.connectionId info staleRequestIds)
  | .unroute info requestId remaining =>
      (.removeRoute requestId, { state with requestRoutes := state.requestRoutes.erase requestId },
        Removal.overRoutes removal.connectionId info remaining)

/-- A removal writes neither the pending queues nor the channels, and lists
nobody. -/
structure Removes (before after : GatewayState) : Prop where
  pending : after.pendingBySubject = before.pendingBySubject
  channels : after.channels = before.channels
  members : forall subject, after.subjects.members subject ⊆ before.subjects.members subject

theorem nextRemoval_removes (state : GatewayState) (removal : Removal) :
    Removes state (nextRemoval state removal).2.1 := by
  rcases removal with ⟨connectionId, phase⟩
  cases phase with
  | remove => exact ⟨rfl, rfl, fun _ => Finset.Subset.refl _⟩
  | unready info => exact ⟨rfl, rfl, fun _ => Finset.Subset.refl _⟩
  | withdraw info subject remaining =>
      refine ⟨rfl, rfl, ?_⟩
      intro asked other listed
      exact ((InvertedIndex.mem_members_withdraw _ _ _ _ _).mp listed).1
  | discard info subject remaining =>
      refine ⟨rfl, rfl, ?_⟩
      intro asked
      simp only [nextRemoval]
      rw [InvertedIndex.members_discard]
      split
      · exact Finset.empty_subset _
      · exact Finset.Subset.refl _
  | scanRoutes info => exact ⟨rfl, rfl, fun _ => Finset.Subset.refl _⟩
  | unroute info requestId remaining => exact ⟨rfl, rfl, fun _ => Finset.Subset.refl _⟩

theorem routes_uninterrupted (connectionId : String) (info : ConnectionInfo)
    (requestIds : List String) {before state : GatewayState} {removal : Removal}
    {event : RemovalCall}
    (call : nextRemoval before removal =
      (event, state, Removal.overRoutes connectionId info requestIds)) :
    RunsTo nextRemoval before removal
      { state with requestRoutes := state.requestRoutes.eraseAll requestIds } (some info) := by
  induction requestIds generalizing before state removal event with
  | nil => exact RunsTo.last call
  | cons requestId requestIds ih =>
      have routed : nextRemoval state
          { connectionId := connectionId, phase := .unroute info requestId requestIds } =
            (.removeRoute requestId,
              { state with requestRoutes := state.requestRoutes.erase requestId },
              Removal.overRoutes connectionId info requestIds) := rfl
      exact RunsTo.step call (ih routed)

theorem subjects_uninterrupted (connectionId : String) (info : ConnectionInfo)
    (subjects : List String) (state : GatewayState) :
    let staleRequestIds := (state.requestRoutes.entries.filter fun entry =>
      decide (entry.2.connectionId = connectionId)).map Sigma.fst
    RunsTo nextRemoval state (Removal.overSubjects connectionId info subjects)
      { state with
        subjects := state.subjects.delistAll connectionId subjects
        requestRoutes := state.requestRoutes.eraseAll staleRequestIds } (some info) := by
  induction subjects generalizing state with
  | nil => exact routes_uninterrupted connectionId info _ rfl
  | cons subject subjects ih =>
      have rest := ih { state with subjects := state.subjects.delist connectionId subject }
      have withdraws : nextRemoval state
          (Removal.overSubjects connectionId info (subject :: subjects)) =
            (.removeMember subject,
              { state with subjects := state.subjects.withdraw connectionId subject },
              if (state.subjects.withdraw connectionId subject).lookup subject = some ∅ then
                .more
                  { connectionId := connectionId, phase := .discard info subject subjects }
              else .more (Removal.overSubjects connectionId info subjects)) := rfl
      by_cases empty : (state.subjects.withdraw connectionId subject).lookup subject = some ∅
      · have discards : nextRemoval
            { state with subjects := state.subjects.withdraw connectionId subject }
            { connectionId := connectionId, phase := .discard info subject subjects } =
              (.removeSubject subject,
                { state with subjects := state.subjects.delist connectionId subject },
                .more (Removal.overSubjects connectionId info subjects)) := by
          rw [InvertedIndex.delist_eq_ite, if_pos empty]
          rfl
        rw [if_pos empty] at withdraws
        exact RunsTo.step withdraws (RunsTo.step discards rest)
      · have delisted : state.subjects.withdraw connectionId subject =
            state.subjects.delist connectionId subject := by
          rw [InvertedIndex.delist_eq_ite, if_neg empty]
        rw [if_neg empty, delisted] at withdraws
        exact RunsTo.step withdraws rest

/-- Without interruption, the atomic calls do what the operation does. -/
theorem removal_uninterrupted (state : GatewayState) (connectionId : String) :
    RunsTo nextRemoval state (Removal.start connectionId)
      (state.unregisterConnection connectionId).2
      (state.unregisterConnection connectionId).1 := by
  unfold GatewayState.unregisterConnection
  cases found : state.connections.lookup connectionId with
  | none =>
      have removes : nextRemoval state (Removal.start connectionId) =
          (.removeConnection connectionId, state, .finished none) := by
        have unchanged := GatewayState.unregisterConnection_connections state connectionId
        rw [GatewayState.unregisterConnection, found] at unchanged
        simp only [nextRemoval, Removal.start, found, ← unchanged]
      exact RunsTo.last removes
  | some handle =>
      have removes : nextRemoval state (Removal.start connectionId) =
          (.removeConnection connectionId,
            { state with connections := state.connections.erase connectionId },
            .more { connectionId := connectionId, phase := .unready handle.info }) := by
        simp only [nextRemoval, Removal.start, found]
      exact RunsTo.step removes (RunsTo.step rfl (subjects_uninterrupted connectionId _ _ _))

end Concurrency
end Gateway

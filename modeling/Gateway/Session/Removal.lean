import Gateway.State.SubjectIndex

namespace Gateway
namespace Session

open Foundation State

/-!
# Every removal reports its connection once

Whoever removes a connection from the table gets its info back, and nobody
else does.  Over a list of removals the infos that are returned are exactly the
connections that were registered before and are not registered after.
-/

def isRegistered (state : GatewayState) (connectionId : String) : Bool :=
  (state.connections.lookup connectionId).isSome

/-- How often a connection occurs in a list of infos. -/
def reports (infos : List ConnectionInfo) (connectionId : String) : Nat :=
  infos.countP fun info => decide (info.connectionId = connectionId)

theorem reports_append (left right : List ConnectionInfo) (connectionId : String) :
    reports (left ++ right) connectionId =
      reports left connectionId + reports right connectionId :=
  List.countP_append

theorem isRegistered_eq_false {state : GatewayState} {connectionId : String} :
    isRegistered state connectionId = false <->
      state.connections.lookup connectionId = none := by
  rw [isRegistered, Option.isSome_eq_false_iff, Option.isNone_iff_eq_none]

/-- One removal reports the connection that it removed. -/
theorem reports_unregisterConnection {state : GatewayState} (consistent : IndexConsistent state)
    (removed connectionId : String) :
    reports (state.unregisterConnection removed).1.toList connectionId +
        (isRegistered (state.unregisterConnection removed).2 connectionId).toNat =
      (isRegistered state connectionId).toNat := by
  rw [isRegistered, GatewayState.lookup_unregisterConnection,
    GatewayState.unregisterConnection_fst, isRegistered]
  cases found : state.connections.lookup removed with
  | none =>
      by_cases same : connectionId = removed
      · rw [if_pos same, same, found]
        rfl
      · rw [if_neg same]
        exact Nat.zero_add _
  | some handle =>
      have keyed := consistent.ids removed handle found
      by_cases same : connectionId = removed
      · rw [if_pos same, same, found]
        simp [reports, keyed]
      · have other : ¬ handle.info.connectionId = connectionId := by
          rw [keyed]
          exact Ne.symm same
        rw [if_neg same]
        simp [reports, other]

theorem reports_unregisterEach {state : GatewayState} (consistent : IndexConsistent state)
    (removed : List String) (connectionId : String) :
    reports (state.unregisterEach removed).1 connectionId +
        (isRegistered (state.unregisterEach removed).2 connectionId).toNat =
      (isRegistered state connectionId).toNat := by
  have both : IndexConsistent (state.unregisterEach removed).2 /\
      reports (state.unregisterEach removed).1 connectionId +
          (isRegistered (state.unregisterEach removed).2 connectionId).toNat =
        (isRegistered state connectionId).toNat := by
    refine foldl_invariant
      (fun result : List ConnectionInfo × GatewayState => IndexConsistent result.2 /\
        reports result.1 connectionId + (isRegistered result.2 connectionId).toNat =
          (isRegistered state connectionId).toNat) ⟨consistent, Nat.zero_add _⟩ ?_ removed
    rintro result id ⟨held, counted⟩
    refine ⟨held.unregisterConnection id, ?_⟩
    have reported := reports_unregisterConnection held id connectionId
    dsimp only
    rw [reports_append]
    omega
  exact both.2

/-- The prune task gets back exactly the connections that it removed. -/
theorem reports_pruneStaleConnections {state : GatewayState} (consistent : IndexConsistent state)
    (order : HashOrder String) (now staleAfterSeconds : Int) (connectionId : String) :
    reports (state.pruneStaleConnections order now staleAfterSeconds).1 connectionId +
        (isRegistered (state.pruneStaleConnections order now staleAfterSeconds).2
          connectionId).toNat =
      (isRegistered state connectionId).toNat := by
  unfold GatewayState.pruneStaleConnections
  split
  · exact Nat.zero_add _
  · exact reports_unregisterEach consistent _ connectionId

end Session
end Gateway

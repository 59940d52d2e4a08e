import Gateway.Session.Lifecycle
import Gateway.Session.Removal

namespace Gateway
namespace Session

open Foundation State

/-!
# Steps of one handler and changes of the gateway

A step of the sessions moves one handler, and the other handlers keep their
phases.  Since every handler has a connection id of its own, a fact about each
handler is kept as soon as it holds of the one that moved and the step changed
nothing that the fact says about other connections.  Only a registration
registers anybody.
-/

/-- The ids of the handlers never change. -/
theorem handlers_set_ids {handlers : List SessionHandler} {index : Nat} {connectionId : String}
    {phase next : HandlerPhase} (found : handlers[index]? = some ⟨connectionId, phase⟩) :
    (handlers.set index ⟨connectionId, next⟩).map SessionHandler.connectionId =
      handlers.map SessionHandler.connectionId := by
  rw [List.map_set]
  apply List.ext_getElem?
  intro other
  rw [List.getElem?_set]
  split
  · next same =>
    subst same
    rw [List.getElem?_map, found]
    split
    · rfl
    · next outside =>
      rw [List.length_map] at outside
      exact absurd (List.getElem?_eq_some_iff.mp found).1 outside
  · rfl

/-- Handlers at different places have different connections. -/
theorem ne_of_elsewhere {handlers : List SessionHandler}
    (distinct : (handlers.map SessionHandler.connectionId).Nodup) {index other : Nat}
    {left right : SessionHandler} (found : handlers[index]? = some left)
    (otherFound : handlers[other]? = some right) (elsewhere : other ≠ index) :
    right.connectionId ≠ left.connectionId := by
  intro same
  apply elsewhere
  have bound : other < (handlers.map SessionHandler.connectionId).length := by
    rw [List.length_map]
    exact (List.getElem?_eq_some_iff.mp otherFound).1
  apply (List.getElem?_inj bound distinct).mp
  rw [List.getElem?_map, List.getElem?_map, found, otherFound, Option.map_some, Option.map_some,
    same]

/-- A fact about every handler after one of them has moved. -/
theorem forall_mem_set {handlers : List SessionHandler}
    (distinct : (handlers.map SessionHandler.connectionId).Nodup) {index : Nat}
    {connectionId : String} {phase after : HandlerPhase}
    (found : handlers[index]? = some ⟨connectionId, phase⟩)
    {before next : SessionHandler -> Prop} (own : next ⟨connectionId, after⟩)
    (others : forall handler, before handler -> handler.connectionId ≠ connectionId ->
      next handler)
    (held : forall handler, handler ∈ handlers -> before handler) :
    forall handler, handler ∈ handlers.set index ⟨connectionId, after⟩ -> next handler := by
  intro handler member
  rcases List.mem_iff_getElem?.mp member with ⟨other, there⟩
  rcases getElem?_set_cases there with ⟨_, same⟩ | ⟨elsewhere, old⟩
  · rw [same]
    exact own
  · exact others handler (held handler (List.mem_of_getElem? old))
      (ne_of_elsewhere distinct found old elsewhere)

theorem registered_of_isTraffic {operation : Operation}
    (traffic : operation.isTraffic = true) : operation.registered = none := by
  cases operation <;> first | rfl | cases traffic

theorem isRegistered_apply_of_absent (toLowercase : String -> String) {state : GatewayState}
    {operation : Operation} (nobody : operation.registered = none) {connectionId : String}
    (absent : isRegistered state connectionId = false) :
    isRegistered (operation.apply toLowercase state) connectionId = false := by
  have unnamed : operation.registeredId = none := by rw [Operation.registeredId, nobody]; rfl
  refine isRegistered_eq_false.mpr (lookup_apply_of_absent toLowercase operation
    (isRegistered_eq_false.mp absent) ?_ ?_)
  · intro other registers
    rw [unnamed] at registers
    cases registers
  · rw [unnamed]
    exact (Option.some_ne_none connectionId).symm

/-- A registration of an id that was absent registers no other id. -/
theorem isRegistered_registerConnection_of_ne {state : GatewayState} {connectionId : String}
    (absent : isRegistered state connectionId = false) (order : HashOrder String) (now : Int)
    (userId clientInstanceId : String) (subjects : List String) (connectedAt : Int)
    {other : String} (different : other ≠ connectionId)
    (missing : isRegistered state other = false) :
    isRegistered (state.registerConnection order now connectionId userId clientInstanceId subjects
      connectedAt).2 other = false := by
  have stillAbsent := lookup_apply_of_absent id
    (.registerConnection order now connectionId userId clientInstanceId subjects connectedAt)
    (isRegistered_eq_false.mp missing)
    (fun registered same => Option.some.inj same ▸ isRegistered_eq_false.mp absent)
    (fun same => different (Option.some.inj same).symm)
  exact isRegistered_eq_false.mpr stillAbsent

end Session
end Gateway

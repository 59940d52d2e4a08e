import Gateway.Process.Events
import Gateway.State.PolicyTable

namespace Gateway
namespace Process

open Foundation State Ingress Broker Http

/-!
# The policy that a process has been delivered

The backend tells the gateway its policy through the outbox, snapshot by
snapshot, between any other calls.  At every moment the relay store holds the
policy of the snapshots that were delivered so far, and no call but these
deliveries changes it.
-/

/-- The snapshot that an event applies, with the clock it is applied at. -/
def GatewayEvent.snapshot (environs : Environs) :
    GatewayEvent -> Option (Int × RelayContextSnapshot)
  | .entry reading parsed =>
      (decodeEntry environs.json parsed.2).bind fun decoded =>
        if decoded.stringsField "subjects" = [] then none
        else
          (parseRelayContextSnapshot environs.toLowercase reading.snapshotNow
            ((decoded.get "payload").getD .null)).map fun snapshot => (reading.applyNow, snapshot)
  | _ => none

/-- The policy to which the snapshots of the events add up. -/
def deliveredPolicy (environs : Environs) (events : List GatewayEvent) : Policy :=
  (events.filterMap (GatewayEvent.snapshot environs)).foldl
    (fun policy delivered => policy.extend environs.toLowercase delivered.1 delivered.2) Policy.empty

theorem deliveredPolicy_concat_of_none {environs : Environs} {event : GatewayEvent}
    (nothing : event.snapshot environs = none) (events : List GatewayEvent) :
    deliveredPolicy environs (events ++ [event]) = deliveredPolicy environs events := by
  rw [deliveredPolicy, List.filterMap_append, List.filterMap_cons_none nothing, List.filterMap_nil,
    List.append_nil, ← deliveredPolicy]

theorem deliveredPolicy_concat_of_some {environs : Environs} {event : GatewayEvent}
    {delivered : Int × RelayContextSnapshot}
    (delivers : event.snapshot environs = some delivered) (events : List GatewayEvent) :
    deliveredPolicy environs (events ++ [event]) =
      (deliveredPolicy environs events).extend environs.toLowercase delivered.1 delivered.2 := by
  rw [deliveredPolicy, List.filterMap_append, List.filterMap_cons_some delivers, List.filterMap_nil,
    List.foldl_append, ← deliveredPolicy]
  rfl

section Store

variable {toLowercase : String -> String} {state : GatewayState}

theorem contexts_of_operation {operation : Operation} (other : operation.isRelay = false) :
    (operation.apply toLowercase state).relayContextsBySubject = state.relayContextsBySubject :=
  (Operation.sameRelayTables_apply toLowercase state other).contexts

/-- Of the operations of a message only the authorization works with the relay
tables, and it leaves the contexts alone. -/
theorem contexts_handleClientMessage (registry : CommandRegistry) (json : JsonText)
    (reading : ClientReading) (info : ConnectionInfo) (hasRedis : Bool)
    (connectionId raw : String) :
    (handleClientMessage registry toLowercase json reading hasRedis state connectionId info
      raw).state.relayContextsBySubject = state.relayContextsBySubject := by
  have performs := handleClientMessage_performs registry toLowercase json reading connectionId info
    raw state hasRedis
  refine @Performs.keeps _ _ _ _
    (fun after => after.relayContextsBySubject = state.relayContextsBySubject) performs ?_ rfl
  intro middle operation performed same
  cases performed with
  | authorize commandName authSpec operationKey targetEmails nonce sizeHint =>
      exact (AuthorizeCall.perform_contexts toLowercase ⟨info.userId, commandName, authSpec,
        operationKey, targetEmails, nonce, sizeHint, reading.authorizeNow⟩ middle).trans same
  | _ => exact (contexts_of_operation rfl).trans same

theorem contexts_sendToSubjects (order : HashOrder String) (stickyNow now : Int)
    (state : GatewayState) (subjects : List String) (text : String) :
    (state.sendToSubjects order stickyNow now subjects text true none).2.relayContextsBySubject =
      state.relayContextsBySubject :=
  @contexts_of_operation id state (.sendToSubjects order stickyNow now subjects text true none) rfl

/-- An entry without a snapshot leaves the contexts alone. -/
theorem contexts_processEntry {environs : Environs} {reading : OutboxReading}
    {entry : ParsedEntry}
    (nothing : (GatewayEvent.entry reading entry).snapshot environs = none) :
    (processEntry environs.toLowercase environs.json reading state
      entry).2.relayContextsBySubject = state.relayContextsBySubject := by
  unfold processEntry
  unfold GatewayEvent.snapshot at nothing
  split
  · rfl
  · next decoded decodes =>
    dsimp only at nothing ⊢
    rw [decodes, Option.bind_some] at nothing
    split
    · rfl
    · next addressed =>
      rw [if_neg addressed, Option.map_eq_none_iff] at nothing
      rw [nothing]
      dsimp only
      split
      · rfl
      · exact (dispatchEvent_keeps (GatewayState.sameRelayTables_kept state)
          (fun _ _ same => ⟨same.contexts, same.cache, same.counters⟩)
          (fun _ _ same => ⟨same.contexts, same.cache, same.counters⟩) reading
          (GatewayState.SameRelayTables.refl state) _ _ _).contexts

end Store

namespace GatewayEvent

variable {environs : Environs} {event : GatewayEvent}

theorem apply_of_snapshot {delivered : Int × RelayContextSnapshot}
    (delivers : event.snapshot environs = some delivered) (state : GatewayState) :
    event.apply environs state =
      state.applyRelayContextSnapshot environs.toLowercase delivered.1 delivered.2 := by
  cases event with
  | entry reading parsed =>
      unfold snapshot at delivers
      rcases Option.bind_eq_some_iff.mp delivers with ⟨decoded, decodes, addressed⟩
      rw [Option.ite_none_left_eq_some] at addressed
      rcases Option.map_eq_some_iff.mp addressed.2 with ⟨snapshot, parses, rfl⟩
      simp only [apply, processEntry, decodes, if_neg addressed.1, parses]
  | _ => cases delivers

/-- Only a delivered snapshot changes the relay store. -/
theorem contexts_apply (nothing : event.snapshot environs = none) (state : GatewayState) :
    (event.apply environs state).relayContextsBySubject = state.relayContextsBySubject := by
  cases event with
  | connect order now connectionId userId clientInstanceId connectedAt =>
      exact @contexts_of_operation environs.toLowercase state
        (.registerConnection order now connectionId userId clientInstanceId _ connectedAt) rfl
  | message handled =>
      exact contexts_handleClientMessage environs.registry environs.json handled.reading handled.info
        handled.hasRedis handled.connectionId handled.raw
  | requeue now subjects text =>
      exact @contexts_of_operation environs.toLowercase state
        (.requeueForSubjects now subjects text) rfl
  | release receiver => rfl
  | disconnect connectionId =>
      exact @contexts_of_operation environs.toLowercase state
        (.unregisterConnection connectionId) rfl
  | entry reading parsed => exact contexts_processEntry nothing
  | publish reading headerKey request =>
      rcases publish_cases environs.json environs.config reading state headerKey request with
        ⟨_, same⟩ | ⟨subjects, text, admitted, given, nonempty, renders⟩
      · rw [apply, same]
      · rw [apply, publish_of_admitted admitted given nonempty renders]
        exact contexts_sendToSubjects reading.order reading.stickyNow reading.bufferNow state
          subjects text
  | pruneTick order now =>
      exact @contexts_of_operation environs.toLowercase state
        (.pruneStaleConnections order now environs.config.staleConnectionTimeoutSeconds) rfl
  | list order query => rfl
  | listOfUser order userId => rfl

end GatewayEvent

/-- The relay store holds the policy that the process has been delivered, apart
from contexts that have expired. -/
theorem describes_events (environs : Environs) (events : List GatewayEvent) (time : Int)
    (clock : forall now snapshot, (now, snapshot) ∈ events.filterMap (GatewayEvent.snapshot environs) ->
      now ≤ time) :
    (deliveredPolicy environs events).Describes time
      (GatewayEvent.run environs events).relayContextsBySubject := by
  induction events using List.reverseRecOn with
  | nil => exact Policy.empty_describes time environs.config.maxConnectionsPerUser
  | append_singleton events event ih =>
      have before := ih fun now snapshot delivered =>
        clock now snapshot (by rw [List.filterMap_append]; exact List.mem_append_left _ delivered)
      rw [GatewayEvent.run_concat]
      cases delivers : event.snapshot environs with
      | none =>
          rw [GatewayEvent.contexts_apply delivers, deliveredPolicy_concat_of_none delivers]
          exact before
      | some delivered =>
          rw [GatewayEvent.apply_of_snapshot delivers, deliveredPolicy_concat_of_some delivers]
          rcases GatewayEvent.exists_operations environs events with ⟨operations, reached, _⟩
          have tidy := storeTidy_run environs.toLowercase environs.config.maxConnectionsPerUser
            operations
          rw [reached] at tidy
          refine before.extend tidy (clock delivered.1 delivered.2 ?_) delivered.2
          rw [List.filterMap_append, List.filterMap_cons_some delivers]
          exact List.mem_append_right _ List.mem_cons_self

end Process
end Gateway

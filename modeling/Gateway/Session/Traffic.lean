import Gateway.Broker.Outbox
import Gateway.Ingress.MessageOperations
import Gateway.Session.Lifecycle

namespace Gateway
namespace Session

open Foundation State Ingress Broker

/-!
# Client messages and outbox entries are traffic

Handling a client message and processing an outbox entry change the gateway by
a run of traffic operations.  Whatever holds of every order of traffic steps
therefore holds of every order of client messages and outbox entries.
-/

/-- One traffic operation on the gateway alone. -/
def TrafficStep (toLowercase : String -> String) (before : GatewayState)
    (operation : Operation) (after : GatewayState) : Prop :=
  operation.isTraffic = true /\ after = operation.apply toLowercase before

/-- Some run of traffic operations leads from one state to the other. -/
def ByTraffic (toLowercase : String -> String) (before after : GatewayState) : Prop :=
  Exists fun operations => Execution (TrafficStep toLowercase) before operations after

section Traffic

variable {toLowercase : String -> String} {before middle after : GatewayState}

theorem ByTraffic.refl (state : GatewayState) : ByTraffic toLowercase state state :=
  ⟨[], .refl⟩

theorem ByTraffic.trans (first : ByTraffic toLowercase before middle)
    (second : ByTraffic toLowercase middle after) : ByTraffic toLowercase before after := by
  rcases first with ⟨earlier, reached⟩
  rcases second with ⟨later, continued⟩
  exact ⟨earlier ++ later, reached.trans continued⟩

theorem ByTraffic.operation (operation : Operation) (traffic : operation.isTraffic = true)
    (state : GatewayState) : ByTraffic toLowercase state (operation.apply toLowercase state) :=
  ⟨[operation], .single ⟨traffic, rfl⟩⟩

/-- A run of traffic is a run of the sessions in which no handler moves. -/
theorem ByTraffic.execution {world : SessionWorld}
    (traffic : ByTraffic toLowercase world.gateway after) : Exists fun operations : List Operation =>
      Execution (SessionStep toLowercase) world (operations.map SessionEvent.traffic)
        { world with gateway := after } := by
  rcases traffic with ⟨operations, reached⟩
  refine ⟨operations, reached.map (fun gateway => { world with gateway := gateway }) _ ?_⟩
  rintro before operation after ⟨traffic, rfl⟩
  exact .traffic operation traffic

end Traffic

/-- The operations of a client message are traffic. -/
theorem isTraffic_of_messageOperation {registry : CommandRegistry} {json : JsonText}
    {reading : ClientReading} {connectionId : String} {info : ConnectionInfo} {raw : String}
    {operation : Operation}
    (allowed : MessageOperation registry json reading connectionId info raw operation) :
    operation.isTraffic = true := by
  cases allowed <;> rfl

/-- Handling a client message is traffic. -/
theorem handleClientMessage_byTraffic (registry : CommandRegistry)
    (toLowercase : String -> String) (json : JsonText) (reading : ClientReading)
    (state : GatewayState) (info : ConnectionInfo) (hasRedis : Bool) (connectionId raw : String) :
    ByTraffic toLowercase state
      (handleClientMessage registry toLowercase json reading hasRedis state connectionId info
        raw).state := by
  rcases handleClientMessage_performs registry toLowercase json reading connectionId info raw
    state hasRedis with ⟨operations, reached⟩
  refine ⟨operations, reached.mono ?_⟩
  rintro before operation after ⟨allowed, applied⟩
  exact ⟨isTraffic_of_messageOperation allowed, applied⟩

section OutboxEntries

variable (toLowercase : String -> String) (json : JsonText) (reading : OutboxReading)
  (state : GatewayState)

theorem sendAlongRoute_byTraffic (requestId : String) (subjects : List String) (text : String) :
    ByTraffic toLowercase state
      (sendAlongRoute reading state requestId subjects text).2.2 := by
  have resolution : ByTraffic toLowercase state _ :=
    .operation (.resolveRequestRoute reading.routeNow requestId subjects) rfl state
  dsimp only [Operation.apply] at resolution
  unfold sendAlongRoute
  split
  · next result =>
    rw [result] at resolution
    exact resolution
  · next connectionId resolved result =>
    rw [result] at resolution
    have sending : ByTraffic toLowercase resolved _ :=
      .operation (.sendToConnection connectionId text) rfl resolved
    dsimp only [Operation.apply] at sending
    split
    · next delivery =>
      rw [delivery] at sending
      exact resolution.trans sending
    · next delivery =>
      rw [delivery] at sending
      exact (resolution.trans sending).trans (.operation (.clearRequestRoute requestId) rfl _)

theorem dispatchEvent_byTraffic (requestId : Option String) (subjects : List String)
    (text : String) :
    ByTraffic toLowercase state
      (dispatchEvent reading state requestId subjects text).2 := by
  have fanOut : forall state : GatewayState, ByTraffic toLowercase state
      (state.sendToSubjects reading.order reading.stickyNow reading.bufferNow subjects text true
        none).2 :=
    fun state => .operation (.sendToSubjects reading.order reading.stickyNow reading.bufferNow
      subjects text true none) rfl state
  cases requestId with
  | none => exact fanOut state
  | some requestId =>
      have routed := sendAlongRoute_byTraffic toLowercase reading state requestId subjects text
      unfold dispatchEvent
      dsimp only
      split
      · next result =>
        rw [result] at routed
        exact routed
      · next failed result =>
        rw [result] at routed
        exact routed.trans (fanOut failed)

/-- Processing an outbox entry is traffic. -/
theorem processEntry_byTraffic (entry : ParsedEntry) :
    ByTraffic toLowercase state (processEntry toLowercase json reading state entry).2 := by
  unfold processEntry
  split
  · exact .refl state
  · dsimp only
    split
    · exact .refl state
    · split
      · exact .operation (.applyRelayContextSnapshot reading.applyNow _) rfl state
      · split
        · exact .refl state
        · exact dispatchEvent_byTraffic toLowercase reading state _ _ _

end OutboxEntries

/-- A client message and an outbox entry are runs of traffic steps of the
sessions. -/
theorem handleClientMessage_execution (registry : CommandRegistry)
    (toLowercase : String -> String) (json : JsonText) (reading : ClientReading)
    (world : SessionWorld) (info : ConnectionInfo) (hasRedis : Bool) (connectionId raw : String) :
    Exists fun operations : List Operation =>
      Execution (SessionStep toLowercase) world (operations.map SessionEvent.traffic)
        { world with
          gateway := (handleClientMessage registry toLowercase json reading hasRedis
            world.gateway connectionId info raw).state } :=
  (handleClientMessage_byTraffic registry toLowercase json reading world.gateway info hasRedis
    connectionId raw).execution

theorem processEntry_execution (toLowercase : String -> String) (json : JsonText)
    (reading : OutboxReading) (world : SessionWorld) (entry : ParsedEntry) :
    Exists fun operations : List Operation =>
      Execution (SessionStep toLowercase) world (operations.map SessionEvent.traffic)
        { world with
          gateway := (processEntry toLowercase json reading world.gateway entry).2 } :=
  (processEntry_byTraffic toLowercase json reading world.gateway entry).execution

end Session
end Gateway

import Gateway.Ingress.Outcomes
import Gateway.State.IterationOrder

namespace Gateway
namespace Ingress

open Foundation State

/-!
# Client messages and iteration orders

A message may report its session ready and may be dispatched, both of which walk
through a hashed container.  The outcome does not depend on the two orders.
-/

/-- The same call with other iteration orders. -/
def ClientReading.reordered (reading : ClientReading)
    (readyOrder dispatchOrder : HashOrder String) : ClientReading :=
  { reading with readyOrder := readyOrder, dispatchOrder := dispatchOrder }

/-- The outcomes are the same but for the subject index of the state. -/
structure SameOutcome (left right : ClientOutcome) : Prop where
  state : left.state.unindexed = right.state.unindexed
  rejection : left.rejection = right.rejection
  relay : left.relay = right.relay
  published : left.published = right.published

section Messages

variable {registry : CommandRegistry} {toLowercase : String -> String} {json : JsonText}
  {reading : ClientReading} {left right : GatewayState} {info : ConnectionInfo}
  (readyOrder dispatchOrder : HashOrder String)

theorem sendGatewayCommandError_agrees (same : left.unindexed = right.unindexed) (now : Int)
    (connectionId : String) (rejection : CommandRejection) :
    (sendGatewayCommandError json now left connectionId rejection).unindexed =
      (sendGatewayCommandError json now right connectionId rejection).unindexed := by
  unfold sendGatewayCommandError
  split
  · exact same
  · exact (GatewayState.sendToConnection_agrees same connectionId _).state

theorem prepareCommand_wellFormed {state : GatewayState} (formed : WellFormed state)
    (connectionId msgType : String) (data : Json) (hasSymfonyStep : Bool) :
    WellFormed (prepareCommand reading state connectionId info msgType data hasSymfonyStep) := by
  refine prepareCommand_keeps WellFormed formed (fun requestId => ?_) (fun bound held => ?_) _ _
  · rcases GatewayState.bindRequestRoute_touches reading.bindNow state requestId connectionId
      info.userId with ⟨routes, touched⟩
    rw [touched]
    exact formed.withRoutes routes
  · exact WellFormed.kept.changes.toKeptByDelivery.markSessionReady _ _ connectionId info.userId
      (fun _ _ => WellFormed.kept.tables bound _ _ _ _ _ _ held) held

theorem authorizeCommand_wellFormed {state : GatewayState} (formed : WellFormed state)
    (msgType : String) (data : Json) (targets : RelayTargets) :
    WellFormed
      (authorizeCommand registry toLowercase reading state info msgType data targets).2 := by
  refine authorizeCommand_keeps WellFormed formed fun authSpec => ?_
  rcases GatewayState.authorizeRelayHotpath_touches toLowercase state info.userId msgType authSpec
    (operationKeyOf data authSpec) targets.emails (replayNonce data) (payloadSizeHint data)
    reading.authorizeNow with ⟨cache, counters, touched⟩
  rw [touched]
  exact WellFormed.kept.changes.tables state _ _ cache counters formed

theorem bindCommand_touches (state : GatewayState) (connectionId : String) (data : Json)
    (hasSymfonyStep : Bool) : Exists fun routes =>
      bindCommand reading state connectionId info data hasSymfonyStep =
        { state with requestRoutes := routes } := by
  unfold bindCommand
  split
  · exact ⟨state.requestRoutes, rfl⟩
  · split
    · exact GatewayState.bindRequestRoute_touches _ _ _ _ _
    · exact ⟨state.requestRoutes, rfl⟩

theorem bindCommand_agrees (same : left.unindexed = right.unindexed) (connectionId : String)
    (data : Json) (hasSymfonyStep : Bool) :
    (bindCommand reading left connectionId info data hasSymfonyStep).unindexed =
      (bindCommand reading right connectionId info data hasSymfonyStep).unindexed := by
  unfold bindCommand
  split
  · exact same
  · split
    · exact GatewayState.bindRequestRoute_agrees same _ _ _ _
    · exact same

/-- A route does not change who is ready. -/
theorem readyTimesDistinct_of_routes {state : GatewayState} {routes : RequestRouteTable}
    {now : Int} {connectionId userId : String}
    (distinct : (state.markReady now connectionId userId).ReadyTimesDistinct userId) :
    (GatewayState.markReady now { state with requestRoutes := routes } connectionId
      userId).ReadyTimesDistinct userId := by
  unfold GatewayState.markReady at distinct ⊢
  split <;> next blank =>
    first
    | rw [if_pos blank] at distinct; exact distinct
    | rw [if_neg blank] at distinct; exact distinct

theorem prepareCommand_agrees (same : left.unindexed = right.unindexed)
    (leftFormed : WellFormed left) (rightFormed : WellFormed right) (connectionId msgType : String)
    (data : Json) (hasSymfonyStep : Bool)
    (distinct : left.maxConnectionsPerUser = none \/
      (left.markReady reading.readyNow connectionId info.userId).ReadyTimesDistinct info.userId) :
    (prepareCommand reading left connectionId info msgType data hasSymfonyStep).unindexed =
      (prepareCommand (reading.reordered readyOrder dispatchOrder) right connectionId info msgType
        data hasSymfonyStep).unindexed := by
  have bound : (bindCommand reading left connectionId info data hasSymfonyStep).unindexed =
      (bindCommand reading right connectionId info data hasSymfonyStep).unindexed :=
    bindCommand_agrees same connectionId data hasSymfonyStep
  rcases @bindCommand_touches reading info left connectionId data hasSymfonyStep with
    ⟨leftRoutes, leftBound⟩
  rcases @bindCommand_touches reading info right connectionId data hasSymfonyStep with
    ⟨rightRoutes, rightBound⟩
  have sameBinding : bindCommand (reading.reordered readyOrder dispatchOrder) right connectionId
      info data hasSymfonyStep =
        bindCommand reading right connectionId info data hasSymfonyStep := rfl
  unfold prepareCommand
  dsimp only
  rw [sameBinding]
  rw [leftBound, rightBound] at bound ⊢
  split
  · refine GatewayState.markSessionReady_agrees _ _ bound (leftFormed.withRoutes leftRoutes).senders
      (rightFormed.withRoutes rightRoutes).senders _ connectionId info.userId ?_
    exact distinct.imp_right readyTimesDistinct_of_routes
  · exact bound

theorem authorizeCommand_agrees (same : left.unindexed = right.unindexed) (msgType : String)
    (data : Json) (targets : RelayTargets) :
    GatewayState.Agree
      (authorizeCommand registry toLowercase reading left info msgType data targets)
      (authorizeCommand registry toLowercase (reading.reordered readyOrder dispatchOrder) right info
        msgType data targets) := by
  unfold authorizeCommand ClientReading.reordered
  dsimp only
  split
  · exact ⟨rfl, same⟩
  · next authSpec _ =>
    split
    · exact ⟨rfl, same⟩
    · split
      · rcases (GatewayState.authorizeRelayHotpath_agrees same toLowercase info.userId msgType
          authSpec (operationKeyOf data authSpec) targets.emails (replayNonce data)
          (payloadSizeHint data) reading.authorizeNow).exists_states with
          ⟨decided, leftAfter, rightAfter, leftDone, rightDone, after⟩
        rw [leftDone, rightDone]
        cases decided <;> exact ⟨rfl, after⟩
      · exact ⟨rfl, same⟩

theorem dispatchRelay_agrees (same : left.unindexed = right.unindexed)
    (leftFormed : WellFormed left) (rightFormed : WellFormed right) (relay : RelayDispatch) :
    (dispatchRelay json reading left relay).1.unindexed =
        (dispatchRelay json (reading.reordered readyOrder dispatchOrder) right relay).1.unindexed /\
      (dispatchRelay json reading left relay).2 =
        (dispatchRelay json (reading.reordered readyOrder dispatchOrder) right relay).2 := by
  unfold dispatchRelay
  cases json.render relay.envelope with
  | none => exact ⟨same, rfl⟩
  | some text =>
      exact ⟨(GatewayState.sendToSubjects_agrees _ _ same leftFormed rightFormed _ _ _ _ _ _).state,
        rfl⟩

theorem relayCommand_agrees (same : left.unindexed = right.unindexed)
    (leftFormed : WellFormed left) (rightFormed : WellFormed right) (msgType : String)
    (data : Json) (hasSymfonyStep : Bool) :
    GatewayState.Agree
      (relayCommand registry toLowercase json reading left info msgType data hasSymfonyStep)
      (relayCommand registry toLowercase json (reading.reordered readyOrder dispatchOrder) right
        info msgType data hasSymfonyStep) := by
  have leftAuthorized : WellFormed (authorizeCommand registry toLowercase reading left info msgType
      data (collectRelayTargets toLowercase data)).2 :=
    authorizeCommand_wellFormed leftFormed msgType data _
  have rightAuthorized : WellFormed (authorizeCommand registry toLowercase
      (reading.reordered readyOrder dispatchOrder) right info msgType data
      (collectRelayTargets toLowercase data)).2 :=
    authorizeCommand_wellFormed rightFormed msgType data _
  unfold relayCommand
  dsimp only
  split
  · split <;> exact ⟨rfl, same⟩
  · rcases (@authorizeCommand_agrees registry toLowercase reading left right info readyOrder
      dispatchOrder same msgType data (collectRelayTargets toLowercase data)).exists_states with
      ⟨checked, leftAfter, rightAfter, leftDone, rightDone, after⟩
    rw [leftDone] at leftAuthorized ⊢
    rw [rightDone] at rightAuthorized ⊢
    cases checked with
    | error rejection => exact ⟨rfl, after⟩
    | ok done =>
        have dispatched := @dispatchRelay_agrees json reading leftAfter rightAfter readyOrder
          dispatchOrder after leftAuthorized rightAuthorized
          ⟨(collectRelayTargets toLowercase data).subjects, eventEnvelope (relayPayload data info)⟩
        exact ⟨congrArg Except.ok dispatched.2, dispatched.1⟩

theorem runCommand_agrees (same : left.unindexed = right.unindexed)
    (leftFormed : WellFormed left) (rightFormed : WellFormed right) (hasRedis : Bool)
    (connectionId raw : String) (data : Json) (spec : CommandSpec)
    (distinct : left.maxConnectionsPerUser = none \/
      (left.markReady reading.readyNow connectionId info.userId).ReadyTimesDistinct info.userId) :
    SameOutcome
      (runCommand registry toLowercase json reading hasRedis left connectionId info raw data spec)
      (runCommand registry toLowercase json (reading.reordered readyOrder dispatchOrder) hasRedis
        right connectionId info raw data spec) := by
  have prepared := @prepareCommand_agrees reading left right info readyOrder dispatchOrder same
    leftFormed rightFormed connectionId (messageType data) data (runtimeSteps spec).2 distinct
  have leftPrepared : WellFormed (prepareCommand reading left connectionId info
      (messageType data) data (runtimeSteps spec).2) :=
    prepareCommand_wellFormed leftFormed connectionId _ data _
  have rightPrepared : WellFormed (prepareCommand (reading.reordered readyOrder dispatchOrder)
      right connectionId info (messageType data) data (runtimeSteps spec).2) :=
    prepareCommand_wellFormed rightFormed connectionId _ data _
  rw [runCommand_eq, runCommand_eq]
  generalize prepareCommand reading left connectionId info (messageType data) data
    (runtimeSteps spec).2 = leftMiddle at prepared leftPrepared ⊢
  generalize prepareCommand (reading.reordered readyOrder dispatchOrder) right connectionId info
    (messageType data) data (runtimeSteps spec).2 = rightMiddle at prepared rightPrepared ⊢
  by_cases subjects : (runtimeSteps spec).1 = true
  · rw [if_pos subjects, if_pos subjects]
    rcases (@relayCommand_agrees registry toLowercase json reading leftMiddle rightMiddle info
      readyOrder dispatchOrder prepared leftPrepared rightPrepared (messageType data) data
      (runtimeSteps spec).2).exists_states with
      ⟨relayed, leftAfter, rightAfter, leftDone, rightDone, after⟩
    rw [leftDone, rightDone]
    cases relayed with
    | error rejection =>
        exact ⟨sendGatewayCommandError_agrees after _ connectionId rejection, rfl, rfl, rfl⟩
    | ok relay => exact ⟨after, rfl, rfl, rfl⟩
  · rw [if_neg subjects, if_neg subjects]
    exact ⟨prepared, rfl, rfl, rfl⟩

/-- The whole call does not depend on the orders. -/
theorem handleClientMessage_agrees (same : left.unindexed = right.unindexed)
    (leftFormed : WellFormed left) (rightFormed : WellFormed right) (hasRedis : Bool)
    (connectionId raw : String)
    (distinct : left.maxConnectionsPerUser = none \/
      ((left.markConnectionAlive connectionId reading.aliveNow).markReady reading.readyNow
        connectionId info.userId).ReadyTimesDistinct info.userId) :
    SameOutcome
      (handleClientMessage registry toLowercase json reading hasRedis left connectionId info raw)
      (handleClientMessage registry toLowercase json (reading.reordered readyOrder dispatchOrder)
        hasRedis right connectionId info raw) := by
  have alive := GatewayState.markConnectionAlive_agrees same connectionId reading.aliveNow
  unfold handleClientMessage
  split
  · exact ⟨same, rfl, rfl, rfl⟩
  · dsimp only
    split
    · exact ⟨sendGatewayCommandError_agrees alive _ connectionId _, rfl, rfl, rfl⟩
    · exact ⟨alive, rfl, rfl, rfl⟩
    · exact runCommand_agrees readyOrder dispatchOrder alive
        (WellFormed.kept.alive left connectionId reading.aliveNow leftFormed)
        (WellFormed.kept.alive right connectionId reading.aliveNow rightFormed) hasRedis
        connectionId raw _ _ distinct

end Messages

end Ingress
end Gateway

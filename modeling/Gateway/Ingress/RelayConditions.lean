import Gateway.Ingress.Outcomes
import Gateway.Ingress.Validation
import Gateway.State.Fanout

namespace Gateway
namespace Ingress

open Foundation State

/-!
# When a message is relayed

The checks of a relayed command stand in four functions, one inside the other.
Taken together they are one condition on the message and on the tables that the
authorization reads, and the relay is dispatched exactly if it holds.
-/

section Steps

variable {registry : CommandRegistry} {toLowercase : String -> String} {json : JsonText}
  {reading : ClientReading} {state : GatewayState} {info : ConnectionInfo}

/-- The checks of a command are all there are. -/
theorem authorizeCommand_ok_iff (msgType : String) (data : Json) (targets : RelayTargets) :
    (authorizeCommand registry toLowercase reading state info msgType data targets).1 = .ok () <->
      Exists fun authSpec =>
        CommandAuthorized registry toLowercase reading state info msgType data targets
          authSpec := by
  refine ⟨authorizeCommand_ok registry toLowercase reading state info msgType data targets, ?_⟩
  rintro ⟨authSpec, passed⟩
  unfold authorizeCommand
  rw [passed.spec]
  dsimp only
  rw [if_neg passed.key]
  by_cases required : authSpec.requiresRelayContext = true
  · rw [if_pos required]
    rcases passed.context with notRequired | ⟨decision, accepted⟩
    · rw [notRequired] at required
      cases required
    · cases result : state.authorizeRelayHotpath toLowercase info.userId msgType authSpec
          (operationKeyOf data authSpec) targets.emails (replayNonce data) (payloadSizeHint data)
          reading.authorizeNow with
      | mk decided after =>
          rw [result] at accepted
          cases accepted
          rfl
  · rw [if_neg required]

theorem authorizeCommand_touches (msgType : String) (data : Json) (targets : RelayTargets) :
    Exists fun cache => Exists fun counters =>
      (authorizeCommand registry toLowercase reading state info msgType data targets).2 =
        { state with relayReplayCache := cache, relayRateCounters := counters } :=
  authorizeCommand_keeps (fun after => Exists fun cache => Exists fun counters =>
      after = { state with relayReplayCache := cache, relayRateCounters := counters })
    ⟨state.relayReplayCache, state.relayRateCounters, rfl⟩
    fun _ => GatewayState.authorizeRelayHotpath_touches toLowercase state _ _ _ _ _ _ _ _

/-- The relay step dispatches exactly the authorized commands with a target and
a text. -/
theorem relayCommand_relays_iff (msgType : String) (data : Json) (hasSymfonyStep : Bool)
    (relay : RelayDispatch) (after : GatewayState) :
    relayCommand registry toLowercase json reading state info msgType data hasSymfonyStep =
        (.ok (some relay), after) <->
      let authorized := authorizeCommand registry toLowercase reading state info msgType data
        (collectRelayTargets toLowercase data)
      relay = relayOf toLowercase info data /\ relay.subjects ≠ [] /\ authorized.1 = .ok () /\
        Exists fun text => json.render relay.envelope = some text /\
          (authorized.2.sendToSubjects reading.dispatchOrder reading.stickyNow reading.dispatchNow
            relay.subjects text true none).2 = after := by
  unfold relayCommand
  dsimp only
  by_cases nobody : (collectRelayTargets toLowercase data).subjects = []
  · rw [if_pos nobody]
    refine iff_of_false ?_ ?_
    · cases hasSymfonyStep <;> nofun
    · rintro ⟨rfl, targeted, _⟩
      exact targeted nobody
  · rw [if_neg nobody]
    rcases authorizeCommand registry toLowercase reading state info msgType data
      (collectRelayTargets toLowercase data) with ⟨checked, authorized⟩
    cases checked with
    | error rejection => exact iff_of_false nofun fun all => nomatch all.2.2.1
    | ok done =>
        dsimp only
        rw [← relayOf, dispatchRelay]
        constructor
        · intro same
          cases renders : json.render (relayOf toLowercase info data).envelope with
          | none =>
              rw [renders] at same
              cases same
          | some text =>
              rw [renders] at same
              cases same
              exact ⟨rfl, nobody, rfl, text, renders, rfl⟩
        · rintro ⟨rfl, _, _, text, renders, rfl⟩
          rw [renders]

/-- What a call relays, its relay step has dispatched. -/
theorem handleClientMessage_relays_iff (hasRedis : Bool) (connectionId raw : String)
    (relay : RelayDispatch) (after : GatewayState) :
    let data := decodeMessage json raw
    let outcome := handleClientMessage registry toLowercase json reading hasRedis state
      connectionId info raw
    outcome.relay = some relay /\ outcome.state = after <->
      trim raw ≠ "" /\ trim (messageType data) ≠ "" /\ Exists fun spec =>
        registry.resolveCommandSpec (messageType data) = some spec /\
        spec.routingClass = .relayHotpath /\
        relayCommand registry toLowercase json reading
          (prepareCommand reading (state.markConnectionAlive connectionId reading.aliveNow)
            connectionId info (messageType data) data spec.mirrorToBackend) info (messageType data)
          data spec.mirrorToBackend = (.ok (some relay), after) := by
  intro data outcome
  simp only [outcome]
  unfold handleClientMessage
  by_cases blank : trim raw = ""
  · rw [if_pos blank]
    exact iff_of_false (fun both => nomatch both.1) fun all => all.1 blank
  · rw [if_neg blank, ne_eq, and_iff_right blank]
    dsimp only
    have screened : forall spec, screenCommand registry (messageType data) = .ok (some spec) <-> _ :=
      screenCommand_some_iff (messageType data)
    cases result : screenCommand registry (messageType (decodeMessage json raw)) with
    | error rejection =>
        refine iff_of_false (fun both => nomatch both.1) ?_
        rintro ⟨typed, spec, resolved, hotpath, _⟩
        rw [(screened spec).mpr ⟨typed, resolved, Or.inl hotpath⟩] at result
        cases result
    | ok passed =>
        cases passed with
        | none =>
            refine iff_of_false (fun both => nomatch both.1) ?_
            rintro ⟨typed, spec, resolved, hotpath, _⟩
            rw [(screened spec).mpr ⟨typed, resolved, Or.inl hotpath⟩] at result
            cases result
        | some spec =>
            rcases (screened spec).mp result with ⟨typed, resolved, routed⟩
            rw [and_iff_right typed]
            have only : forall other, registry.resolveCommandSpec (messageType data) = some other ->
                other = spec := fun other found => Option.some_inj.mp (found.symm.trans resolved)
            rcases routed with hotpath | backend
            · have steps : runtimeSteps spec = (true, spec.mirrorToBackend) := by
                unfold runtimeSteps
                rw [hotpath]
              dsimp only
              rw [runCommand_eq, steps, if_pos rfl]
              dsimp only
              constructor
              · intro relayed
                refine ⟨spec, resolved, hotpath, ?_⟩
                revert relayed
                generalize relayCommand registry toLowercase json reading _ _ _ _ _ = step
                rcases step with ⟨error | found, done⟩
                · rintro ⟨nothing, _⟩
                  cases nothing
                · rintro ⟨rfl, rfl⟩
                  rfl
              · rintro ⟨other, found, _, relayed⟩
                cases only other found
                simp only [data] at relayed
                rw [relayed]
                exact ⟨rfl, rfl⟩
            · have steps : runtimeSteps spec = (false, true) := by
                unfold runtimeSteps
                rw [backend]
              dsimp only
              rw [runCommand_eq, steps]
              refine iff_of_false (fun both => nomatch both.1) ?_
              rintro ⟨other, found, hotpath, _⟩
              cases only other found
              rw [backend] at hotpath
              cases hotpath

variable (registry toLowercase json reading state info) in
/-- What the checks of a relayed command ask of its message. -/
structure RelayConditions (raw : String) (authSpec : RelayAuthorizationSpec) : Prop where
  visible : trim raw ≠ ""
  typed : trim (messageType (decodeMessage json raw)) ≠ ""
  command : Exists fun spec =>
    registry.resolveCommandSpec (messageType (decodeMessage json raw)) = some spec /\
      spec.routingClass = .relayHotpath
  authorized : CommandAuthorized registry toLowercase reading state info
    (messageType (decodeMessage json raw)) (decodeMessage json raw)
    (collectRelayTargets toLowercase (decodeMessage json raw)) authSpec

/-- The authorization of a command only reads the relay tables. -/
theorem commandAuthorized_congr {before after : GatewayState}
    (tables : GatewayState.SameRelayTables before after) (msgType : String) (data : Json)
    (targets : RelayTargets) (authSpec : RelayAuthorizationSpec) :
    CommandAuthorized registry toLowercase reading after info msgType data targets authSpec <->
      CommandAuthorized registry toLowercase reading before info msgType data targets authSpec := by
  constructor
  · rintro ⟨spec, key, context⟩
    rw [GatewayState.authorizeRelayHotpath_fst_congr toLowercase tables] at context
    exact ⟨spec, key, context⟩
  · rintro ⟨spec, key, context⟩
    rw [← GatewayState.authorizeRelayHotpath_fst_congr toLowercase tables] at context
    exact ⟨spec, key, context⟩

theorem prepared_sameRelayTables (connectionId msgType : String) (data : Json)
    (hasSymfonyStep : Bool) :
    GatewayState.SameRelayTables state
      (prepareCommand reading (state.markConnectionAlive connectionId reading.aliveNow)
        connectionId info msgType data hasSymfonyStep) := by
  have alive : GatewayState.SameRelayTables state
      (state.markConnectionAlive connectionId reading.aliveNow) := ⟨rfl, rfl, rfl⟩
  exact alive.trans (prepareCommand_sameRelayTables reading _ info connectionId msgType data
    hasSymfonyStep)

/-- A call relays exactly under the conditions, if the relay names somebody and
has a text. -/
theorem relay_isSome_iff (hasRedis : Bool) (connectionId raw : String) :
    let relay := relayOf toLowercase info (decodeMessage json raw)
    (handleClientMessage registry toLowercase json reading hasRedis state connectionId info
        raw).relay.isSome = true <->
      (Exists fun authSpec =>
        RelayConditions registry toLowercase json reading state info raw authSpec) /\
      relay.subjects ≠ [] /\ (json.render relay.envelope).isSome = true := by
  intro relay
  rw [Option.isSome_iff_exists]
  constructor
  · rintro ⟨found, relayed⟩
    rcases (handleClientMessage_relays_iff hasRedis connectionId raw found _).mp ⟨relayed, rfl⟩ with
      ⟨visible, typed, spec, resolved, hotpath, step⟩
    rcases (relayCommand_relays_iff _ _ _ _ _).mp step with
      ⟨rfl, targeted, authorized, text, renders, _⟩
    rcases (authorizeCommand_ok_iff _ _ _).mp authorized with ⟨authSpec, passed⟩
    have tables := @prepared_sameRelayTables reading state info connectionId
      (messageType (decodeMessage json raw)) (decodeMessage json raw) spec.mirrorToBackend
    exact ⟨⟨authSpec, visible, typed, ⟨spec, resolved, hotpath⟩,
      (commandAuthorized_congr tables _ _ _ _).mp passed⟩, targeted,
      Option.isSome_iff_exists.mpr ⟨text, renders⟩⟩
  · rintro ⟨⟨authSpec, visible, typed, ⟨spec, resolved, hotpath⟩, passed⟩, targeted, renders⟩
    rcases Option.isSome_iff_exists.mp renders with ⟨text, renders⟩
    have tables := @prepared_sameRelayTables reading state info connectionId
      (messageType (decodeMessage json raw)) (decodeMessage json raw) spec.mirrorToBackend
    have authorized := (authorizeCommand_ok_iff _ _ _).mpr
      ⟨authSpec, (commandAuthorized_congr tables _ _ _ _).mpr passed⟩
    have step := (relayCommand_relays_iff _ _ spec.mirrorToBackend relay _).mpr
      ⟨rfl, targeted, authorized, text, renders, rfl⟩
    exact ⟨relay, ((handleClientMessage_relays_iff hasRedis connectionId raw relay _).mpr
      ⟨visible, typed, spec, resolved, hotpath, step⟩).1⟩

/-! ## The receivers of a relay -/

/-- But for a session that reports itself ready, preparing a command touches no
connection other than the sender's own. -/
theorem relay_state {hasRedis : Bool} {connectionId raw : String}
    (ordinary : messageType (decodeMessage json raw) ≠ "session_ready")
    {relay : RelayDispatch} (relayed : (handleClientMessage registry toLowercase json reading
      hasRedis state connectionId info raw).relay = some relay) :
    relay = relayOf toLowercase info (decodeMessage json raw) /\
    Exists fun text => json.render relay.envelope = some text /\
      Exists fun routes => Exists fun cache => Exists fun counters =>
        (handleClientMessage registry toLowercase json reading hasRedis state connectionId info
            raw).state =
          (GatewayState.sendToSubjects reading.dispatchOrder reading.stickyNow reading.dispatchNow
            { state.markConnectionAlive connectionId reading.aliveNow with
              requestRoutes := routes
              relayReplayCache := cache
              relayRateCounters := counters } relay.subjects text true none).2 := by
  rcases (handleClientMessage_relays_iff hasRedis connectionId raw relay _).mp ⟨relayed, rfl⟩ with
    ⟨_, _, spec, _, _, step⟩
  rcases (relayCommand_relays_iff _ _ _ _ _).mp step with ⟨same, _, _, text, renders, sent⟩
  have prepared : Exists fun routes =>
      prepareCommand reading (state.markConnectionAlive connectionId reading.aliveNow) connectionId
        info (messageType (decodeMessage json raw)) (decodeMessage json raw) spec.mirrorToBackend =
      { state.markConnectionAlive connectionId reading.aliveNow with requestRoutes := routes } := by
    unfold prepareCommand
    dsimp only
    rw [if_neg ordinary]
    unfold bindCommand
    split
    · exact ⟨state.requestRoutes, rfl⟩
    · split
      · exact GatewayState.bindRequestRoute_touches _ _ _ _ _
      · exact ⟨state.requestRoutes, rfl⟩
  rcases prepared with ⟨routes, prepared⟩
  rw [prepared] at sent
  rcases @authorizeCommand_touches registry toLowercase reading
      { state.markConnectionAlive connectionId reading.aliveNow with requestRoutes := routes } info
      (messageType (decodeMessage json raw)) (decodeMessage json raw)
      (collectRelayTargets toLowercase (decodeMessage json raw)) with ⟨cache, counters, touched⟩
  rw [touched] at sent
  exact ⟨same, text, renders, routes, cache, counters, sent.symm⟩

/-- Nothing but the message of a dispatch is received. -/
theorem fansOut_message {before after : GatewayState} {subjects : List String} {message : String}
    {enqueued : Nat} (fansOut : GatewayState.FansOut before after subjects message enqueued)
    {receiver text : String} (received : Received before after receiver text) : text = message := by
  rcases GatewayState.changed_of_received received with ⟨handle, found, changed⟩
  rcases fansOut.reached_of_changed changed with
    ⟨id, offered, offeredFound, sameSender, addressee, reached⟩
  have receives := fansOut.offered id offered offeredFound addressee
  rcases (GatewayState.reaches_iff before id).mp reached with
    ⟨live, channel, liveFound, stored, alive⟩
  rcases received with ⟨receiverHandle, queue, receiverFound, queued, grown⟩
  rw [offeredFound] at liveFound
  rw [found] at receiverFound
  cases liveFound
  cases receiverFound
  rw [sameSender] at receives stored
  rw [queued] at stored
  cases stored
  rw [grown, queued, Option.map_some, Channel.receive_of_alive alive] at receives
  simpa using receives

/-- A report is received by its own connection alone. -/
theorem OnlyReports.not_received {connectionId : String} {outcome : ClientOutcome}
    (senders : GatewayState.SendersDistinct state)
    (only : OnlyReports json state connectionId outcome) {receiver text : String}
    (other : receiver ≠ connectionId) : Not (Received state outcome.state receiver text) := by
  rintro ⟨handle, channel, found, stored, grown⟩
  have grew : outcome.state.textsOn handle.sender = state.textsOn handle.sender ++ [text] := by
    simp [GatewayState.textsOn, stored, grown, Channel.texts]
  have shrinks : state.textsOn handle.sender ≠ state.textsOn handle.sender ++ [text] := by
    simp
  rcases only with ⟨_, middle, silent, reported⟩
  rcases reported with same | ⟨rejection, now, same⟩
  · rw [same, silent.texts] at grew
    exact shrinks grew
  · unfold sendGatewayCommandError at same
    split at same
    · rw [same, silent.texts] at grew
      exact shrinks grew
    · next report rendered =>
      rcases GatewayState.sendToConnection_texts middle connectionId report handle.sender with
        quiet | ⟨later, laterFound, ownChannel, _⟩
      · rw [same, quiet, silent.texts] at grew
        exact shrinks grew
      · rcases silent.senders connectionId later laterFound with ⟨old, oldFound, sameSender⟩
        exact other (senders.distinct receiver connectionId handle old found oldFound
          (ownChannel.trans sameSender.symm))

/-- Apart from its sender, a call sends the relay to the open connections that
its message names, exactly under the conditions. -/
theorem handleClientMessage_received_iff (wellFormed : WellFormed state)
    (rendered : forall data text, json.render data = some text -> text ≠ "") (hasRedis : Bool)
    {connectionId raw receiver : String}
    (ordinary : messageType (decodeMessage json raw) ≠ "session_ready")
    (other : receiver ≠ connectionId) (text : String) :
    let relay := relayOf toLowercase info (decodeMessage json raw)
    Received state (handleClientMessage registry toLowercase json reading hasRedis state
        connectionId info raw).state receiver text <->
      (Exists fun authSpec =>
        RelayConditions registry toLowercase json reading state info raw authSpec) /\
      json.render relay.envelope = some text /\ state.Addressee relay.subjects receiver /\
        state.reaches receiver = true := by
  intro relay
  have relays := @relay_isSome_iff registry toLowercase json reading state info hasRedis
    connectionId raw
  cases relayed : (handleClientMessage registry toLowercase json reading hasRedis state
      connectionId info raw).relay with
  | none =>
      rw [relayed] at relays
      refine iff_of_false ?_ ?_
      · rcases handleClientMessage_cases registry toLowercase json reading state info hasRedis
          connectionId raw with only | ⟨⟨dispatched, _⟩, _⟩
        · exact only.not_received wellFormed.senders other
        · rw [relayed] at dispatched
          cases dispatched
      · rintro ⟨conditions, renders, ⟨handle, _, subject, listed, _⟩, _⟩
        have targeted : relay.subjects ≠ [] := List.ne_nil_of_mem listed
        cases relays.mpr ⟨conditions, targeted, Option.isSome_iff_exists.mpr ⟨text, renders⟩⟩
  | some found =>
      rw [relayed] at relays
      rcases relays.mp rfl with ⟨conditions, targeted, _⟩
      rcases relay_state ordinary relayed with
        ⟨rfl, message, renders, routes, cache, counters, sent⟩
      rw [sent]
      have middle : WellFormed { state.markConnectionAlive connectionId reading.aliveNow with
          requestRoutes := routes
          relayReplayCache := cache
          relayRateCounters := counters } :=
        WellFormed.kept.tables _ _ routes _ cache counters _
          (WellFormed.kept.alive state connectionId reading.aliveNow wellFormed)
      have fansOut := GatewayState.sendToSubjects_fansOut middle reading.dispatchOrder
        reading.stickyNow reading.dispatchNow targeted (rendered _ _ renders) true
      have received_iff := fansOut.received_iff middle.senders receiver
      -- But for the time of its sender, the state is as before the call.
      have lookup : (state.markConnectionAlive connectionId reading.aliveNow).connections.lookup
          receiver = state.connections.lookup receiver := by
        rw [GatewayState.markConnectionAlive, HashTable.lookup_modify, if_neg other]
      rw [GatewayState.Addressee, GatewayState.reaches, lookup] at received_iff
      constructor
      · rintro ⟨handle, channel, found, stored, grown⟩
        have received : Received { state.markConnectionAlive connectionId reading.aliveNow with
            requestRoutes := routes
            relayReplayCache := cache
            relayRateCounters := counters } _ receiver text :=
          ⟨handle, channel, lookup.trans found, stored, grown⟩
        have same : text = message := fansOut_message fansOut received
        subst same
        exact ⟨conditions, renders, received_iff.mp received⟩
      · rintro ⟨_, rendersText, reached⟩
        cases renders.symm.trans rendersText
        rcases received_iff.mpr reached with ⟨handle, channel, found, stored, grown⟩
        exact ⟨handle, channel, lookup.symm.trans found, stored, grown⟩

end Steps

end Ingress
end Gateway

import Gateway.State.Preservation

namespace Gateway
namespace State

open Foundation

/-!
# Operations that send no text

Marking a connection alive, binding a request route, marking a session as ready
and authorizing a relay put no text on any channel and buffer nothing.  An
eviction sends only a close message.  Apart from authorization they also leave
the relay tables alone.
-/

/-- The texts on a channel, without close messages. -/
def Channel.texts (channel : Channel) : List String :=
  channel.sent.filterMap fun message =>
    match message with
    | .text text => some text
    | .close _ _ => none

namespace GatewayState

def textsOn (state : GatewayState) (index : Nat) : List String :=
  (state.channels[index]?.map Channel.texts).getD []

/-- No queue gained anything, and every connection that is still registered
keeps its channel. -/
structure Silent (before after : GatewayState) : Prop where
  texts : forall index, after.textsOn index = before.textsOn index
  pending : after.pendingBySubject = before.pendingBySubject
  senders : forall id handle, after.connections.lookup id = some handle ->
    Exists fun old => before.connections.lookup id = some old /\ old.sender = handle.sender

/-- The tables that relay authorization reads. -/
structure SameRelayTables (before after : GatewayState) : Prop where
  contexts : after.relayContextsBySubject = before.relayContextsBySubject
  cache : after.relayReplayCache = before.relayReplayCache
  counters : after.relayRateCounters = before.relayRateCounters

theorem Silent.refl (state : GatewayState) : Silent state state :=
  ⟨fun _ => rfl, rfl, fun _ handle found => ⟨handle, found, rfl⟩⟩

theorem Silent.trans {before middle after : GatewayState} (first : Silent before middle)
    (second : Silent middle after) : Silent before after where
  texts := fun index => (second.texts index).trans (first.texts index)
  pending := second.pending.trans first.pending
  senders := by
    intro id handle found
    rcases second.senders id handle found with ⟨later, laterFound, laterSame⟩
    rcases first.senders id later laterFound with ⟨old, oldFound, oldSame⟩
    exact ⟨old, oldFound, oldSame.trans laterSame⟩

theorem SameRelayTables.refl (state : GatewayState) : SameRelayTables state state :=
  ⟨rfl, rfl, rfl⟩

theorem SameRelayTables.trans {before middle after : GatewayState}
    (first : SameRelayTables before middle) (second : SameRelayTables middle after) :
    SameRelayTables before after :=
  ⟨second.contexts.trans first.contexts, second.cache.trans first.cache,
    second.counters.trans first.counters⟩

theorem textsOn_sendOn (state : GatewayState) (sender : Nat) (message : OutboundMessage)
    (index : Nat) :
    textsOn { state with channels := (sendOn state.channels sender message).2 } index =
      ((if index = sender then state.channels[index]?.map (Channel.receive message)
        else state.channels[index]?).map Channel.texts).getD [] := by
  rw [textsOn, getElem?_sendOn]

/-- A close message is not a text. -/
theorem textsOn_sendOn_close (state : GatewayState) (sender code : Nat) (reason : String)
    (index : Nat) :
    textsOn { state with channels := (sendOn state.channels sender (.close code reason)).2 } index =
      state.textsOn index := by
  rw [textsOn_sendOn, textsOn]
  split
  · cases state.channels[index]? with
    | none => rfl
    | some channel =>
        simp only [Option.map_some, Option.getD_some, Channel.receive]
        split
        · simp [Channel.texts]
        · rfl
  · rfl

/-- A text reaches at most the channel that it is sent on. -/
theorem textsOn_sendOn_text (state : GatewayState) (sender : Nat) (text : String) (index : Nat) :
    textsOn { state with channels := (sendOn state.channels sender (.text text)).2 } index =
        state.textsOn index \/
      (index = sender /\
        textsOn { state with channels := (sendOn state.channels sender (.text text)).2 } index =
          state.textsOn index ++ [text]) := by
  rw [textsOn_sendOn, textsOn]
  split
  · next same =>
    cases state.channels[index]? with
    | none => exact Or.inl rfl
    | some channel =>
        simp only [Option.map_some, Option.getD_some, Channel.receive]
        split
        · exact Or.inr ⟨same, by simp [Channel.texts]⟩
        · exact Or.inl rfl
  · exact Or.inl rfl

/-! ## The silent operations -/

theorem unregisterConnection_silent (state : GatewayState) (connectionId : String) :
    Silent state (state.unregisterConnection connectionId).2 where
  texts := fun index => by rw [textsOn, unregisterConnection_channels, textsOn]
  pending := unregisterConnection_pending state connectionId
  senders := by
    intro id handle found
    rw [lookup_unregisterConnection] at found
    split at found
    · cases found
    · exact ⟨handle, found, rfl⟩

theorem evictConnection_silent (state : GatewayState) (connectionId : String)
    (close : Option (Nat × String)) :
    Silent state (state.evictConnection connectionId close).2 := by
  have notified : forall sender code reason, Silent state
      { state with channels := (sendOn state.channels sender (.close code reason)).2 } :=
    fun sender code reason => ⟨textsOn_sendOn_close state sender code reason, rfl,
      fun _ handle found => ⟨handle, found, rfl⟩⟩
  unfold evictConnection
  refine Silent.trans ?_ (unregisterConnection_silent _ connectionId)
  split
  · exact notified _ _ _
  · exact Silent.refl state

theorem evictConnection_sameRelayTables (state : GatewayState) (connectionId : String)
    (close : Option (Nat × String)) :
    SameRelayTables state (state.evictConnection connectionId close).2 := by
  have removed : forall state : GatewayState,
      SameRelayTables state (state.unregisterConnection connectionId).2 := by
    intro state
    unfold unregisterConnection
    split
    · exact SameRelayTables.refl state
    · exact ⟨rfl, rfl, rfl⟩
  unfold evictConnection
  refine SameRelayTables.trans ?_ (removed _)
  split
  · exact ⟨rfl, rfl, rfl⟩
  · exact SameRelayTables.refl state

theorem markSessionReady_silent (order : HashOrder String) (now : Int) (state : GatewayState)
    (connectionId userId : String) :
    Silent state (state.markSessionReady order now connectionId userId).2 :=
  markSessionReady_keeps (fun _ _ => ⟨fun _ => rfl, rfl, fun _ handle found => ⟨handle, found, rfl⟩⟩)
    (fun _ _ _ held => held.trans (evictConnection_silent _ _ _)) order (Silent.refl state)

theorem markSessionReady_sameRelayTables (order : HashOrder String) (now : Int)
    (state : GatewayState) (connectionId userId : String) :
    SameRelayTables state (state.markSessionReady order now connectionId userId).2 :=
  markSessionReady_keeps (fun _ _ => ⟨rfl, rfl, rfl⟩)
    (fun _ _ _ held => held.trans (evictConnection_sameRelayTables _ _ _)) order
    (SameRelayTables.refl state)

theorem markConnectionAlive_silent (state : GatewayState) (connectionId : String)
    (timestamp : Int) : Silent state (state.markConnectionAlive connectionId timestamp) where
  texts := fun _ => rfl
  pending := rfl
  senders := by
    intro id handle found
    simp only [markConnectionAlive, HashTable.lookup_modify] at found
    split at found
    · next same =>
      rcases Option.map_eq_some_iff.mp found with ⟨old, oldFound, rfl⟩
      exact ⟨old, same ▸ oldFound, rfl⟩
    · exact ⟨handle, found, rfl⟩

theorem bindRequestRoute_silent (now : Int) (state : GatewayState)
    (requestId connectionId userId : String) :
    Silent state (state.bindRequestRoute now requestId connectionId userId) := by
  rcases bindRequestRoute_touches now state requestId connectionId userId with ⟨routes, touched⟩
  rw [touched]
  exact ⟨fun _ => rfl, rfl, fun _ handle found => ⟨handle, found, rfl⟩⟩

theorem bindRequestRoute_sameRelayTables (now : Int) (state : GatewayState)
    (requestId connectionId userId : String) :
    SameRelayTables state (state.bindRequestRoute now requestId connectionId userId) := by
  rcases bindRequestRoute_touches now state requestId connectionId userId with ⟨routes, touched⟩
  rw [touched]
  exact ⟨rfl, rfl, rfl⟩

theorem authorizeRelayHotpath_silent (toLowercase : String -> String) (state : GatewayState)
    (senderEmail commandName : String) (authSpec : RelayAuthorizationSpec) (operationKey : String)
    (targetEmails : List String) (replayNonce : Option String) (payloadSizeHint : Option Nat)
    (now : Int) :
    Silent state (state.authorizeRelayHotpath toLowercase senderEmail commandName authSpec
      operationKey targetEmails replayNonce payloadSizeHint now).2 := by
  rcases authorizeRelayHotpath_touches toLowercase state senderEmail commandName authSpec
    operationKey targetEmails replayNonce payloadSizeHint now with ⟨cache, counters, touched⟩
  rw [touched]
  exact ⟨fun _ => rfl, rfl, fun _ handle found => ⟨handle, found, rfl⟩⟩

/-- Sending to one connection reaches at most its own channel. -/
theorem sendToConnection_texts (state : GatewayState) (connectionId message : String)
    (index : Nat) :
    (state.sendToConnection connectionId message).2.textsOn index = state.textsOn index \/
      Exists fun handle => state.connections.lookup connectionId = some handle /\
        index = handle.sender /\
        (state.sendToConnection connectionId message).2.textsOn index =
          state.textsOn index ++ [message] := by
  unfold sendToConnection
  split
  · exact Or.inl rfl
  · split
    · exact Or.inl ((unregisterConnection_silent state connectionId).texts index)
    · next handle found =>
      have sent := textsOn_sendOn_text state handle.sender message index
      split
      · next channels result =>
        rw [result] at sent
        exact sent.imp_right fun reached => ⟨handle, found, reached⟩
      · next channels result =>
        rw [result] at sent
        have silent := (unregisterConnection_silent { state with channels := channels }
          connectionId).texts index
        rw [silent]
        exact sent.imp_right fun reached => ⟨handle, found, reached⟩

theorem sendToConnection_pending (state : GatewayState) (connectionId message : String) :
    (state.sendToConnection connectionId message).2.pendingBySubject =
      state.pendingBySubject := by
  unfold sendToConnection
  split
  · rfl
  · split
    · exact unregisterConnection_pending state connectionId
    · split
      · rfl
      · exact unregisterConnection_pending _ connectionId

section RelayTables

variable (toLowercase : String -> String) {left right : GatewayState}

theorem ensureNonceFresh_fst_congr (same : SameRelayTables left right)
    (sender commandName contextId : String) (replayNonce : Option String) (now : Int) :
    (right.ensureNonceFresh sender commandName contextId replayNonce now).1 =
      (left.ensureNonceFresh sender commandName contextId replayNonce now).1 := by
  unfold ensureNonceFresh ensureRelayReplayFresh
  rw [same.cache]
  cases replayNonce with
  | none => rfl
  | some nonce =>
      dsimp only
      split
      · rfl
      · split
        · rfl
        · split
          · split <;> rfl
          · rfl

theorem ensureRelayRateLimit_fst_congr (counters : right.relayRateCounters = left.relayRateCounters)
    (sender commandName contextId : String) (now : Int) :
    (right.ensureRelayRateLimit toLowercase sender commandName contextId now).1 =
      (left.ensureRelayRateLimit toLowercase sender commandName contextId now).1 := by
  have rate : forall key window,
      right.currentRelayRate key window = left.currentRelayRate key window := by
    intro key window
    rw [currentRelayRate, currentRelayRate, counters]
  unfold ensureRelayRateLimit
  dsimp only
  rw [rate]
  split
  · rfl
  · rfl

/-- The nonce check leaves the rate counters alone, so both checks can be read
off the state before them. -/
theorem admitRelay_fst (state : GatewayState) (sender commandName : String)
    (context : RelayOperationContext) (replayNonce : Option String) (now : Int) :
    (state.admitRelay toLowercase sender commandName context replayNonce now).1 =
      (state.ensureNonceFresh sender commandName context.contextId replayNonce now).1.bind
        fun _ =>
          (state.ensureRelayRateLimit toLowercase sender commandName context.contextId now).1.bind
            fun _ => .ok ⟨context.contextId, context.policyVersion⟩ := by
  rcases ensureNonceFresh_touches state sender commandName context.contextId replayNonce now with
    ⟨cache, touched⟩
  unfold admitRelay
  rcases fresh : state.ensureNonceFresh sender commandName context.contextId replayNonce now with
    ⟨result, next⟩
  rw [fresh] at touched
  have counters : next.relayRateCounters = state.relayRateCounters := by
    have same := congrArg GatewayState.relayRateCounters touched
    exact same
  cases result with
  | error error => rfl
  | ok checked =>
      have limit := ensureRelayRateLimit_fst_congr toLowercase counters sender commandName
        context.contextId now
      rcases limited : next.ensureRelayRateLimit toLowercase sender commandName context.contextId
        now with ⟨decision, last⟩
      rw [limited] at limit
      dsimp only [Except.bind] at limit ⊢
      rw [limited, ← limit]
      cases decision <;> rfl

theorem authorizeRelayHotpath_fst_congr (same : SameRelayTables left right)
    (senderEmail commandName : String) (authSpec : RelayAuthorizationSpec) (operationKey : String)
    (targetEmails : List String) (replayNonce : Option String) (payloadSizeHint : Option Nat)
    (now : Int) :
    (right.authorizeRelayHotpath toLowercase senderEmail commandName authSpec operationKey
        targetEmails replayNonce payloadSizeHint now).1 =
      (left.authorizeRelayHotpath toLowercase senderEmail commandName authSpec operationKey
        targetEmails replayNonce payloadSizeHint now).1 := by
  unfold authorizeRelayHotpath
  rw [same.contexts]
  split
  · rfl
  · split
    · rfl
    · split
      · rfl
      · split
        · rfl
        · split
          · rfl
          · split
            · rfl
            · split
              · rfl
              · rw [admitRelay_fst, admitRelay_fst, ensureNonceFresh_fst_congr same,
                  ensureRelayRateLimit_fst_congr toLowercase same.counters]

end RelayTables

end GatewayState

end State
end Gateway

import Gateway.State.RelayAuthorization
import Gateway.State.RelayRuns
import Gateway.State.Silence

namespace Gateway
namespace State

open Foundation

/-!
# The two halves of a relay call

A call first selects a context of its sender, for which it reads the relay
store alone.  Only then does it read and write the replay cache and the rate
counters.  No other operation writes these two tables, and only snapshots write
the store.
-/

section Selection

variable (toLowercase : String -> String)

/-- The context that a call is decided on, or the refusal before any
bookkeeping. -/
def AuthorizeCall.select (call : AuthorizeCall) (store : RelayContextTable) :
    Except RelayAuthError RelayOperationContext :=
  match sanitizeEmail toLowercase call.senderEmail with
  | none => .error .senderBindingInvalid
  | some sender =>
      if trim call.operationKey = "" then .error .missingContext
      else if call.targetEmails = [] then .error .scopeViolation
      else if call.payloadSizeHint.any fun size =>
          decide (relayChunkCiphertextMaxBytes < size) then .error .payloadTooLarge
      else
        match store.lookup sender with
        | none => .error .missingContext
        | some subjectContexts =>
            if subjectContexts.contextType ≠ call.authSpec.relayContextType then
              .error .missingContext
            else
              GatewayState.scanContexts
                (GatewayState.judgeContext toLowercase sender call.authSpec
                  (trim call.operationKey) call.targetEmails call.now)
                subjectContexts.contexts

def AuthorizeCall.sender (call : AuthorizeCall) : String :=
  normalize toLowercase call.senderEmail

/-- The key under which a nonce of the call is recorded. -/
def AuthorizeCall.replayKey (call : AuthorizeCall) (contextId nonce : String) : String :=
  GatewayState.relayReplayKey (call.sender toLowercase) call.commandName contextId (trim nonce)

/-- The key under which the call is counted. -/
def AuthorizeCall.rateKey (call : AuthorizeCall) (contextId : String) : String :=
  GatewayState.relayRateKey toLowercase (call.sender toLowercase) call.commandName contextId
    call.now

/-- The nonce check of the call passes. -/
def AuthorizeCall.NonceFresh (call : AuthorizeCall) (contextId : String)
    (cache : RelayReplayTable) : Prop :=
  GatewayState.NonceFresh cache (call.sender toLowercase) call.commandName contextId
    call.replayNonce call.now

/-- The rate check of the call passes. -/
def AuthorizeCall.RateBelowLimit (call : AuthorizeCall) (contextId : String)
    (counters : RelayRateTable) : Prop :=
  GatewayState.RateBelowLimit counters (call.rateKey toLowercase contextId) call.now

/-- The bookkeeping of a call that is decided on the context. -/
def AuthorizeCall.admitUnder (call : AuthorizeCall) (context : RelayOperationContext)
    (state : GatewayState) : Except RelayAuthError RelayAuthDecision × GatewayState :=
  state.admitRelay toLowercase (call.sender toLowercase) call.commandName context
    call.replayNonce call.now

theorem AuthorizeCall.perform_eq (call : AuthorizeCall) (state : GatewayState) :
    call.perform toLowercase state =
      match call.select toLowercase state.relayContextsBySubject with
      | .error error => (.error error, state)
      | .ok context => call.admitUnder toLowercase context state := by
  unfold perform GatewayState.authorizeRelayHotpath select admitUnder sender sanitizeEmail
  by_cases blank : normalize toLowercase call.senderEmail = ""
  · rw [if_pos blank]
  · rw [if_neg blank]
    dsimp only
    by_cases keyless : trim call.operationKey = ""
    · rw [if_pos keyless, if_pos keyless]
    · rw [if_neg keyless, if_neg keyless]
      by_cases nobody : call.targetEmails = []
      · rw [if_pos nobody, if_pos nobody]
      · rw [if_neg nobody, if_neg nobody]
        by_cases large : (call.payloadSizeHint.any fun size =>
            decide (relayChunkCiphertextMaxBytes < size)) = true
        · rw [if_pos large, if_pos large]
        · rw [if_neg large, if_neg large]
          cases state.relayContextsBySubject.lookup (normalize toLowercase call.senderEmail) with
          | none => rfl
          | some entry =>
              dsimp only
              generalize GatewayState.scanContexts _ entry.contexts = scanned
              by_cases different : entry.contextType ≠ call.authSpec.relayContextType
              · rw [if_pos different, if_pos different]
              · cases scanned with
                | error error => rw [if_neg different, if_neg different]
                | ok context => rw [if_neg different, if_neg different]

theorem AuthorizeCall.perform_of_error {call : AuthorizeCall} {state : GatewayState}
    {error : RelayAuthError}
    (refused : call.select toLowercase state.relayContextsBySubject = .error error) :
    call.perform toLowercase state = (.error error, state) := by
  rw [perform_eq, refused]

theorem AuthorizeCall.perform_of_ok {call : AuthorizeCall} {state : GatewayState}
    {context : RelayOperationContext}
    (selected : call.select toLowercase state.relayContextsBySubject = .ok context) :
    call.perform toLowercase state = call.admitUnder toLowercase context state := by
  rw [perform_eq, selected]

/-- A call is refused by its selection, or comes down to its bookkeeping. -/
theorem AuthorizeCall.perform_cases (call : AuthorizeCall) (state : GatewayState) :
    (Exists fun error =>
      call.select toLowercase state.relayContextsBySubject = .error error /\
        call.perform toLowercase state = (.error error, state)) \/
    Exists fun context =>
      call.select toLowercase state.relayContextsBySubject = .ok context /\
        call.perform toLowercase state = call.admitUnder toLowercase context state := by
  cases selection : call.select toLowercase state.relayContextsBySubject with
  | error error => exact Or.inl ⟨error, rfl, perform_of_error toLowercase selection⟩
  | ok context => exact Or.inr ⟨context, rfl, perform_of_ok toLowercase selection⟩

/-- The result of the bookkeeping depends on its two checks only. -/
theorem AuthorizeCall.admitUnder_fst_congr (call : AuthorizeCall) (context : RelayOperationContext)
    {left right : GatewayState}
    (fresh : call.NonceFresh toLowercase context.contextId left.relayReplayCache <->
      call.NonceFresh toLowercase context.contextId right.relayReplayCache)
    (below : call.RateBelowLimit toLowercase context.contextId left.relayRateCounters <->
      call.RateBelowLimit toLowercase context.contextId right.relayRateCounters) :
    (call.admitUnder toLowercase context left).1 =
      (call.admitUnder toLowercase context right).1 := by
  unfold NonceFresh at fresh
  unfold RateBelowLimit rateKey at below
  unfold admitUnder
  rcases GatewayState.admitRelay_cases toLowercase left (call.sender toLowercase) call.commandName
    context call.replayNonce call.now with
    ⟨leftSeen, leftSame⟩ | ⟨leftFresh, leftFull, leftSame⟩ | ⟨leftFresh, leftBelow, leftSame⟩ <;>
  rcases GatewayState.admitRelay_cases toLowercase right (call.sender toLowercase) call.commandName
    context call.replayNonce call.now with
    ⟨rightSeen, rightSame⟩ | ⟨rightFresh, rightFull, rightSame⟩ |
      ⟨rightFresh, rightBelow, rightSame⟩
  all_goals rw [leftSame, rightSame]
  all_goals tauto

/-! ## What the bookkeeping writes -/

/-- The nonce of the call, if it has a visible one. -/
def AuthorizeCall.visibleNonce (call : AuthorizeCall) : Option String :=
  call.replayNonce.filter fun nonce => decide (trim nonce ≠ "")

/-- The counter that the rate check of the call works with. -/
def AuthorizeCall.currentCounter (call : AuthorizeCall) (contextId : String)
    (state : GatewayState) : RelayRateCounter :=
  state.currentRelayRate (call.rateKey toLowercase contextId) call.now

theorem AuthorizeCall.nonceFresh_iff (call : AuthorizeCall) (contextId : String)
    (cache : RelayReplayTable) :
    call.NonceFresh toLowercase contextId cache <->
      forall nonce, call.visibleNonce = some nonce ->
        GatewayState.ReplayFresh cache (call.replayKey toLowercase contextId nonce) call.now := by
  simp only [NonceFresh, GatewayState.NonceFresh, visibleNonce, Option.filter_eq_some_iff,
    decide_eq_true_eq, and_imp]
  rfl

/-- A record survives the pruning of its own time. -/
theorem GatewayState.lookup_recorded (state : GatewayState) (key : String) (now : Int) :
    ((state.recordReplay key now).pruneRelayReplayCache now).relayReplayCache.lookup key =
      some { seenAt := now } := by
  apply GatewayState.lookup_pruneRelayReplayCache_of_recent
  · exact AList.lookup_insert _
  · rw [sub_self]
    decide

/-- A nonce that passes is recorded, and old records may be pruned. -/
theorem AuthorizeCall.admitUnder_replayCache (call : AuthorizeCall)
    (context : RelayOperationContext) (state : GatewayState) :
    (call.NonceFresh toLowercase context.contextId state.relayReplayCache /\
      Exists fun nonce => call.visibleNonce = some nonce /\
        (call.admitUnder toLowercase context state).2.relayReplayCache =
          ((state.recordReplay (call.replayKey toLowercase context.contextId nonce)
            call.now).pruneRelayReplayCache call.now).relayReplayCache) \/
    (((call.NonceFresh toLowercase context.contextId state.relayReplayCache ->
        call.visibleNonce = none) /\
      (call.admitUnder toLowercase context state).2.relayReplayCache =
        state.relayReplayCache)) := by
  unfold NonceFresh admitUnder replayKey
  rcases GatewayState.admitRelay_cases toLowercase state (call.sender toLowercase)
    call.commandName context call.replayNonce call.now with
    ⟨seen, same⟩ | ⟨fresh, _, same⟩ | ⟨fresh, _, same⟩
  · rw [same]
    exact Or.inr ⟨fun fresh => absurd fresh seen, rfl⟩
  all_goals
    rw [same]
    dsimp only
    rcases GatewayState.ensureNonceFresh_cases state (call.sender toLowercase) call.commandName
      context.contextId call.replayNonce call.now with
      ⟨_, blank, done⟩ | ⟨seen, _⟩ | ⟨_, nonce, given, visible, done⟩
    · rw [done]
      refine Or.inr ⟨fun _ => ?_, rfl⟩
      rw [visibleNonce, Option.filter_eq_none_iff]
      intro nonce given
      rw [decide_eq_true_eq, not_not]
      exact blank nonce given
    · exact absurd fresh seen
    · rw [done]
      refine Or.inl ⟨fresh, nonce, ?_, rfl⟩
      rw [visibleNonce, given, Option.filter_some, if_pos (decide_eq_true visible)]

/-- The counter of the call is written once the nonce has passed. -/
theorem AuthorizeCall.admitUnder_rateCounters (call : AuthorizeCall)
    (context : RelayOperationContext)
    (state : GatewayState) :
    let key := call.rateKey toLowercase context.contextId
    let counter := call.currentCounter toLowercase context.contextId state
    (Not (call.NonceFresh toLowercase context.contextId state.relayReplayCache) /\
      (call.admitUnder toLowercase context state).2.relayRateCounters = state.relayRateCounters) \/
    (call.NonceFresh toLowercase context.contextId state.relayReplayCache /\
      Not (call.RateBelowLimit toLowercase context.contextId state.relayRateCounters) /\
      (call.admitUnder toLowercase context state).2.relayRateCounters =
        state.relayRateCounters.insert key counter) \/
    (call.NonceFresh toLowercase context.contextId state.relayReplayCache /\
      call.RateBelowLimit toLowercase context.contextId state.relayRateCounters /\
      (call.admitUnder toLowercase context state).2.relayRateCounters =
        state.relayRateCounters.insert key { counter with count := counter.count + 1 }) := by
  intro key counter
  rcases GatewayState.admitRelay_cases toLowercase state (call.sender toLowercase)
    call.commandName context call.replayNonce call.now with
    ⟨seen, same⟩ | ⟨fresh, full, same⟩ | ⟨fresh, below, same⟩
  · exact Or.inl ⟨seen, by rw [admitUnder, same]⟩
  · exact Or.inr (Or.inl ⟨fresh, full, by rw [admitUnder, same]; rfl⟩)
  · exact Or.inr (Or.inr ⟨fresh, below, by rw [admitUnder, same]; rfl⟩)

end Selection

/-- The operations that write a relay table. -/
def Operation.isRelay : Operation -> Bool
  | .applyRelayContextSnapshot .. => true
  | .authorizeRelayHotpath .. => true
  | _ => false

/-- The relay tables are as in the given state. -/
theorem GatewayState.sameRelayTables_kept (base : GatewayState) :
    KeptByDelivery (GatewayState.SameRelayTables base) where
  text := fun _ _ _ _ _ same => ⟨same.contexts, same.cache, same.counters⟩
  unregister := by
    intro state connectionId same
    unfold GatewayState.unregisterConnection
    split
    · exact same
    · exact ⟨same.contexts, same.cache, same.counters⟩
  evict := fun state connectionId close same =>
    same.trans (GatewayState.evictConnection_sameRelayTables state connectionId close)

theorem Operation.sameRelayTables_apply (toLowercase : String -> String) (state : GatewayState)
    {operation : Operation} (other : operation.isRelay = false) :
    GatewayState.SameRelayTables state (operation.apply toLowercase state) := by
  have kept := GatewayState.sameRelayTables_kept state
  have before := GatewayState.SameRelayTables.refl state
  have pending : forall middle pending, GatewayState.SameRelayTables state middle ->
      GatewayState.SameRelayTables state { middle with pendingBySubject := pending } :=
    fun _ _ same => ⟨same.contexts, same.cache, same.counters⟩
  cases operation with
  | registerConnection order now connectionId userId clientInstanceId subjects connectedAt =>
      have evicted := kept.evictSameInstance order connectionId userId clientInstanceId before
      have taken : GatewayState.SameRelayTables state
          (((state.evictSameInstance order connectionId userId clientInstanceId).2.insertConnection
            ⟨connectionId, userId, clientInstanceId, subjects, connectedAt,
              connectedAt⟩).takePendingForSubjects now subjects).2 :=
        ⟨evicted.contexts, evicted.cache, evicted.counters⟩
      exact kept.sendTexts _ (AList.lookup_insert _) taken
  | unregisterConnection connectionId => exact kept.unregister state connectionId before
  | markSessionReady order now connectionId userId =>
      exact GatewayState.markSessionReady_sameRelayTables order now state connectionId userId
  | sendToSubjects order stickyNow now subjects message bufferIfUndelivered stickyKey =>
      exact kept.sendToSubjects pending order stickyNow now subjects message bufferIfUndelivered
        stickyKey before
  | sendToConnection connectionId message =>
      exact kept.sendToConnection connectionId message before
  | markConnectionAlive connectionId timestamp => exact ⟨rfl, rfl, rfl⟩
  | pruneStaleConnections order now staleAfterSeconds =>
      exact kept.pruneStaleConnections order now staleAfterSeconds before
  | bindRequestRoute now requestId connectionId userId =>
      exact GatewayState.bindRequestRoute_sameRelayTables now state requestId connectionId userId
  | clearRequestRoute requestId =>
      rcases GatewayState.clearRequestRoute_touches state requestId with ⟨routes, touched⟩
      rw [apply, touched]
      exact ⟨rfl, rfl, rfl⟩
  | resolveRequestRoute now requestId subjects =>
      rcases GatewayState.resolveRequestRoute_touches now state requestId subjects with
        ⟨routes, touched⟩
      rw [apply, touched]
      exact ⟨rfl, rfl, rfl⟩
  | requeueForSubjects now subjects message =>
      rcases GatewayState.requeueForSubjects_touches now state subjects message with
        ⟨queues, touched⟩
      rw [apply, touched]
      exact pending state queues before
  | bufferLatestForSubjects now subjects message stickyKey =>
      rcases GatewayState.bufferLatestForSubjects_touches now state subjects message stickyKey with
        ⟨queues, touched⟩
      rw [apply, touched]
      exact pending state queues before
  | applyRelayContextSnapshot => cases other
  | authorizeRelayHotpath => cases other
  | dropReceiver receiver => exact ⟨rfl, rfl, rfl⟩

/-- The authorization writes the replay cache and the counters alone. -/
theorem AuthorizeCall.perform_contexts (toLowercase : String -> String) (call : AuthorizeCall)
    (state : GatewayState) :
    (call.perform toLowercase state).2.relayContextsBySubject = state.relayContextsBySubject := by
  rcases GatewayState.authorizeRelayHotpath_touches toLowercase state call.senderEmail
    call.commandName call.authSpec call.operationKey call.targetEmails call.replayNonce
    call.payloadSizeHint call.now with ⟨cache, counters, touched⟩
  rw [perform, touched]

/-- A context of Alice for transfers with Bob. -/
def transferContext : RelayOperationContext where
  contextId := "ctx"
  operationKey := "op"
  operationClass := "relay_hotpath"
  contextType := .fileTransferPeer
  state := .active
  authorizedSubject := "a@x"
  audienceScope := { mode := .fixedPeer, peers := ["b@x"] }
  allowedCommandFamilies := ["file"]
  policyVersion := 1
  grant := { grantId := "g", policyVersion := 1, issuedAt := 0, expiresAt := 900 }
  openedAt := 0
  updatedAt := 0
  expiresAt := 900

def transferSnapshot : RelayContextSnapshot where
  subjectEmail := "a@x"
  contextType := .fileTransferPeer
  policyVersion := 1
  contexts := [transferContext]
  receivedAt := 0

def transferSpec : RelayAuthorizationSpec where
  requiresRelayContext := true
  relayContextType := .fileTransferPeer
  audienceScopeMode := .fixedPeer
  guardClass := .contextBoundPeer
  commandFamily := "file"
  operationKeyField := "op"

def transferCall (commandName nonce : String) (now : Int) : AuthorizeCall where
  senderEmail := "a@x"
  commandName := commandName
  authSpec := transferSpec
  operationKey := "op"
  targetEmails := ["b@x"]
  replayNonce := some nonce
  payloadSizeHint := none
  now := now

def AuthorizeCall.operation (call : AuthorizeCall) : Operation :=
  .authorizeRelayHotpath call.senderEmail call.commandName call.authSpec call.operationKey
    call.targetEmails call.replayNonce call.payloadSizeHint call.now

end State
end Gateway

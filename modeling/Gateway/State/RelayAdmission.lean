import Gateway.State.Operations

namespace Gateway
namespace State

open Foundation

/-!
# What relay authorization decides and what it records

Every check of relay authorization gets one lemma that says when it passes and
what it writes.  The scan over the contexts skips, refuses or selects, and with
at most one context that it does not skip, the order of the contexts is
irrelevant.  The bookkeeping checks write the replay cache and the rate
counters, also when the command is refused in the end.
-/

namespace GatewayState

/-- The key was not seen within the replay window. -/
def ReplayFresh (cache : RelayReplayTable) (key : String) (now : Int) : Prop :=
  forall seen, cache.lookup key = some seen -> relayReplayTtlSeconds < now - seen.seenAt

/-- The nonce is absent, blank, or fresh. -/
def NonceFresh (cache : RelayReplayTable) (sender commandName contextId : String)
    (replayNonce : Option String) (now : Int) : Prop :=
  forall nonce, replayNonce = some nonce -> trim nonce ≠ "" ->
    ReplayFresh cache (relayReplayKey sender commandName contextId (trim nonce)) now

theorem trim_relayReplayKey_ne_empty (sender commandName contextId nonce : String) :
    trim (relayReplayKey sender commandName contextId nonce) ≠ "" := by
  have bar : '|' ∈ (relayReplayKey sender commandName contextId nonce).toList := by
    simp [relayReplayKey]
  exact trim_ne_empty_of_mem bar (by decide)

theorem relayReplayTtl_lt_saturatingSub (left right : Int) :
    relayReplayTtlSeconds < saturatingSub left right <->
      relayReplayTtlSeconds < left - right :=
  lt_saturatingSub_iff (by decide) (by decide) left right

/-- The state with the key recorded at the given time, before pruning. -/
def recordReplay (state : GatewayState) (key : String) (now : Int) : GatewayState :=
  { state with relayReplayCache := state.relayReplayCache.insert key { seenAt := now } }

theorem ensureRelayReplayFresh_of_fresh {state : GatewayState} {key : String} {now : Int}
    (visible : trim key ≠ "") (fresh : ReplayFresh state.relayReplayCache key now) :
    state.ensureRelayReplayFresh key now =
      (.ok (), (state.recordReplay key now).pruneRelayReplayCache now) := by
  unfold ensureRelayReplayFresh
  rw [if_neg visible]
  cases found : state.relayReplayCache.lookup key with
  | none => rfl
  | some seen =>
      have expired := (relayReplayTtl_lt_saturatingSub now seen.seenAt).mpr (fresh seen found)
      dsimp only
      rw [if_neg (not_le.mpr expired)]
      rfl

theorem ensureRelayReplayFresh_of_seen {state : GatewayState} {key : String} {now : Int}
    (visible : trim key ≠ "") (seen : Not (ReplayFresh state.relayReplayCache key now)) :
    state.ensureRelayReplayFresh key now = (.error .replayDetected, state) := by
  unfold ensureRelayReplayFresh
  rw [if_neg visible]
  cases found : state.relayReplayCache.lookup key with
  | none =>
      exact absurd (fun entry same => by rw [found] at same; cases same) seen
  | some entry =>
      have recent : Not (relayReplayTtlSeconds < saturatingSub now entry.seenAt) := by
        intro expired
        apply seen
        intro other same
        rw [found] at same
        rw [← Option.some.inj same]
        exact (relayReplayTtl_lt_saturatingSub now entry.seenAt).mp expired
      dsimp only
      rw [if_pos (not_lt.mp recent)]

/-- What the nonce check does: nothing, a refusal, or a record. -/
theorem ensureNonceFresh_cases (state : GatewayState) (sender commandName contextId : String)
    (replayNonce : Option String) (now : Int) :
    (NonceFresh state.relayReplayCache sender commandName contextId replayNonce now /\
      (forall nonce, replayNonce = some nonce -> trim nonce = "") /\
      state.ensureNonceFresh sender commandName contextId replayNonce now = (.ok (), state)) \/
    (Not (NonceFresh state.relayReplayCache sender commandName contextId replayNonce now) /\
      state.ensureNonceFresh sender commandName contextId replayNonce now =
        (.error .replayDetected, state)) \/
    (NonceFresh state.relayReplayCache sender commandName contextId replayNonce now /\
      Exists fun nonce => replayNonce = some nonce /\ trim nonce ≠ "" /\
        state.ensureNonceFresh sender commandName contextId replayNonce now =
          (.ok (),
            (state.recordReplay (relayReplayKey sender commandName contextId (trim nonce))
              now).pruneRelayReplayCache now)) := by
  cases replayNonce with
  | none =>
      refine Or.inl ⟨?_, ?_, rfl⟩
      · intro nonce given
        cases given
      · intro nonce given
        cases given
  | some nonce =>
      by_cases blank : trim nonce = ""
      · refine Or.inl ⟨?_, ?_, ?_⟩
        · intro given same visible
          cases same
          exact absurd blank visible
        · intro given same
          cases same
          exact blank
        · simp only [ensureNonceFresh, if_pos blank]
      · have visible := trim_relayReplayKey_ne_empty sender commandName contextId (trim nonce)
        by_cases fresh : ReplayFresh state.relayReplayCache
            (relayReplayKey sender commandName contextId (trim nonce)) now
        · refine Or.inr (Or.inr ⟨?_, nonce, rfl, blank, ?_⟩)
          · intro given same _
            cases same
            exact fresh
          · simp only [ensureNonceFresh, if_neg blank]
            exact ensureRelayReplayFresh_of_fresh visible fresh
        · refine Or.inr (Or.inl ⟨?_, ?_⟩)
          · intro every
            exact fresh (every nonce rfl blank)
          · simp only [ensureNonceFresh, if_neg blank]
            exact ensureRelayReplayFresh_of_seen visible fresh

/-- Pruning forgets only what is older than the replay window. -/
theorem lookup_pruneRelayReplayCache_of_recent {state : GatewayState} {key : String} {now : Int}
    {seen : RelayReplayEntry} (found : state.relayReplayCache.lookup key = some seen)
    (recent : now - seen.seenAt ≤ relayReplayTtlSeconds) :
    (state.pruneRelayReplayCache now).relayReplayCache.lookup key = some seen := by
  unfold pruneRelayReplayCache
  split
  · exact found
  · dsimp only
    have kept : decide (relayReplayTtlSeconds < saturatingSub now seen.seenAt) = false := by
      rw [decide_eq_false_iff_not, relayReplayTtl_lt_saturatingSub]
      exact not_lt.mpr recent
    rw [HashTable.lookup_eraseAll_filter, found]
    simp only [Option.filter_some, kept, Bool.not_false, if_true]

/-- Fewer admissions than the limit are counted for the key in this second. -/
def RateBelowLimit (counters : RelayRateTable) (key : String) (now : Int) : Prop :=
  forall counter, counters.lookup key = some counter -> counter.windowStart = now ->
    counter.count < relayRateLimitDefault

theorem relayRateWindow_eq (now : Int) : relayRateWindow now = now :=
  Int.tdiv_one now

theorem currentRelayRate_windowStart (state : GatewayState) (key : String) (window : Int) :
    (state.currentRelayRate key window).windowStart = window := by
  unfold currentRelayRate
  split
  · rfl
  · split
    · rfl
    · next same => exact not_not.mp same

theorem rateBelowLimit_iff (state : GatewayState) (key : String) (now : Int) :
    RateBelowLimit state.relayRateCounters key now <->
      (state.currentRelayRate key now).count < relayRateLimitDefault := by
  unfold RateBelowLimit currentRelayRate
  cases state.relayRateCounters.lookup key with
  | none => simp [relayRateLimitDefault]
  | some counter =>
      by_cases same : counter.windowStart = now
      · simp [same]
      · simp [same, relayRateLimitDefault]

variable (toLowercase : String -> String)

/-- What the rate check does: it counts the admission, or refuses and leaves
the counter of this second in place. -/
theorem ensureRelayRateLimit_cases (state : GatewayState)
    (sender commandName contextId : String) (now : Int) :
    let key := relayRateKey toLowercase sender commandName contextId now
    let counter := state.currentRelayRate key now
    (Not (RateBelowLimit state.relayRateCounters key now) /\
      state.ensureRelayRateLimit toLowercase sender commandName contextId now =
        (.error .rateLimited,
          { state with relayRateCounters := state.relayRateCounters.insert key counter })) \/
    (RateBelowLimit state.relayRateCounters key now /\
      state.ensureRelayRateLimit toLowercase sender commandName contextId now =
        (.ok (),
          { state with
            relayRateCounters := state.relayRateCounters.insert key
              { counter with count := counter.count + 1 } })) := by
  intro key counter
  unfold ensureRelayRateLimit
  simp only [relayRateWindow_eq]
  rw [rateBelowLimit_iff]
  by_cases full : relayRateLimitDefault ≤ counter.count
  · rw [if_pos full]
    exact Or.inl ⟨not_lt.mpr full, rfl⟩
  · have below := not_le.mp full
    have unsaturated : min (counter.count + 1) u32Max = counter.count + 1 := by
      have bound : counter.count < 240 := below
      unfold u32Max
      omega
    rw [if_neg full]
    refine Or.inr ⟨below, ?_⟩
    rw [unsaturated]

/-- What the two bookkeeping checks do together: the nonce is refused, the rate
is refused after the nonce was recorded, or the command is admitted. -/
theorem admitRelay_cases (state : GatewayState) (sender commandName : String)
    (context : RelayOperationContext) (replayNonce : Option String) (now : Int) :
    let recorded :=
      (state.ensureNonceFresh sender commandName context.contextId replayNonce now).2
    let key := relayRateKey toLowercase sender commandName context.contextId now
    let counter := state.currentRelayRate key now
    (Not (NonceFresh state.relayReplayCache sender commandName context.contextId replayNonce now) /\
      state.admitRelay toLowercase sender commandName context replayNonce now =
        (.error .replayDetected, state)) \/
    (NonceFresh state.relayReplayCache sender commandName context.contextId replayNonce now /\
      Not (RateBelowLimit state.relayRateCounters key now) /\
      state.admitRelay toLowercase sender commandName context replayNonce now =
        (.error .rateLimited,
          { recorded with relayRateCounters := state.relayRateCounters.insert key counter })) \/
    (NonceFresh state.relayReplayCache sender commandName context.contextId replayNonce now /\
      RateBelowLimit state.relayRateCounters key now /\
      state.admitRelay toLowercase sender commandName context replayNonce now =
        (.ok { contextId := context.contextId, policyVersion := context.policyVersion },
          { recorded with
            relayRateCounters := state.relayRateCounters.insert key
              { counter with count := counter.count + 1 } })) := by
  intro recorded key counter
  have passed : NonceFresh state.relayReplayCache sender commandName context.contextId replayNonce
      now -> state.ensureNonceFresh sender commandName context.contextId replayNonce now =
        (.ok (), recorded) := by
    intro fresh
    rcases ensureNonceFresh_cases state sender commandName context.contextId replayNonce now with
      ⟨_, _, done⟩ | ⟨seen, _⟩ | ⟨_, nonce, _, _, done⟩
    · exact done.trans (congrArg (Prod.mk _) (congrArg Prod.snd done).symm)
    · exact absurd fresh seen
    · exact done.trans (congrArg (Prod.mk _) (congrArg Prod.snd done).symm)
  by_cases fresh : NonceFresh state.relayReplayCache sender commandName context.contextId
      replayNonce now
  · rcases ensureNonceFresh_touches state sender commandName context.contextId replayNonce now with
      ⟨cache, touched⟩
    have counters : recorded.relayRateCounters = state.relayRateCounters := by
      simp only [recorded, touched]
    have sameCounter : recorded.currentRelayRate key now = counter := by
      simp only [currentRelayRate, counters, counter]
    rcases ensureRelayRateLimit_cases toLowercase recorded sender commandName context.contextId
      now with ⟨full, limited⟩ | ⟨below, limited⟩
    · rw [counters] at full
      refine Or.inr (Or.inl ⟨fresh, full, ?_⟩)
      rw [admitRelay, passed fresh]
      dsimp only
      rw [limited, counters, sameCounter]
    · rw [counters] at below
      refine Or.inr (Or.inr ⟨fresh, below, ?_⟩)
      rw [admitRelay, passed fresh]
      dsimp only
      rw [limited, counters, sameCounter]
  · refine Or.inl ⟨fresh, ?_⟩
    rcases ensureNonceFresh_cases state sender commandName context.contextId replayNonce now with
      ⟨isFresh, _, _⟩ | ⟨_, refused⟩ | ⟨isFresh, _, _, _, _⟩
    · exact absurd isFresh fresh
    · rw [admitRelay, refused]
    · exact absurd isFresh fresh

/-- A selected context is admitted exactly when both bookkeeping checks pass. -/
theorem admitRelay_ok_iff (state : GatewayState) (sender commandName : String)
    (context : RelayOperationContext) (replayNonce : Option String) (now : Int)
    (decision : RelayAuthDecision) :
    (state.admitRelay toLowercase sender commandName context replayNonce now).1 = .ok decision <->
      NonceFresh state.relayReplayCache sender commandName context.contextId replayNonce now /\
      RateBelowLimit state.relayRateCounters
        (relayRateKey toLowercase sender commandName context.contextId now) now /\
      decision = { contextId := context.contextId, policyVersion := context.policyVersion } := by
  rcases admitRelay_cases toLowercase state sender commandName context replayNonce now with
    ⟨seen, refused⟩ | ⟨_, full, refused⟩ | ⟨fresh, below, admitted⟩
  · rw [refused]
    simp [seen]
  · rw [refused]
    simp [full]
  · rw [admitted]
    simp [fresh, below, eq_comm]

/-! ## The scan over the contexts -/

theorem scanContexts_ok_mem {judge : RelayOperationContext -> ContextVerdict}
    {contexts : List RelayOperationContext} {context : RelayOperationContext}
    (selected : scanContexts judge contexts = .ok context) :
    context ∈ contexts /\ judge context = .select := by
  induction contexts with
  | nil => cases selected
  | cons head tail ih =>
      rw [scanContexts] at selected
      cases verdict : judge head with
      | skip =>
          rw [verdict] at selected
          have later := ih selected
          exact ⟨List.mem_cons_of_mem head later.1, later.2⟩
      | refuse error =>
          rw [verdict] at selected
          cases selected
      | select =>
          rw [verdict] at selected
          cases selected
          exact ⟨List.mem_cons_self, verdict⟩

/-- If at most one context is not skipped, then the scan selects exactly the
contexts with a favourable verdict. -/
theorem scanContexts_ok_iff {judge : RelayOperationContext -> ContextVerdict}
    {contexts : List RelayOperationContext}
    (unique : forall left, left ∈ contexts -> forall right, right ∈ contexts ->
      judge left ≠ .skip -> judge right ≠ .skip -> left = right)
    (context : RelayOperationContext) :
    scanContexts judge contexts = .ok context <->
      context ∈ contexts /\ judge context = .select := by
  constructor
  · exact scanContexts_ok_mem
  · rintro ⟨member, favourable⟩
    have relevant : judge context ≠ .skip := by
      rw [favourable]
      exact ContextVerdict.noConfusion
    induction contexts with
    | nil => cases member
    | cons head tail ih =>
        rw [scanContexts]
        by_cases skipped : judge head = .skip
        · have later : context ∈ tail := by
            rcases List.mem_cons.mp member with same | later
            · rw [same] at relevant
              exact absurd skipped relevant
            · exact later
          rw [skipped]
          exact ih (fun left leftMember right rightMember =>
            unique left (List.mem_cons_of_mem head leftMember) right
              (List.mem_cons_of_mem head rightMember)) later
        · have same := unique head List.mem_cons_self context member skipped relevant
          rw [same, favourable]

/-- A guard that skips or refuses lets only the favourable verdict of the rest
through. -/
theorem guarded_select_iff {condition : Prop} [Decidable condition]
    {stopped rest : ContextVerdict} (stops : stopped ≠ .select) :
    (if condition then stopped else rest) = .select <-> Not condition /\ rest = .select := by
  by_cases met : condition
  · rw [if_pos met]
    exact ⟨fun same => absurd same stops, fun both => absurd met both.1⟩
  · rw [if_neg met]
    exact ⟨fun same => ⟨met, same⟩, fun both => both.2⟩

/-- The favourable verdict, condition by condition. -/
theorem judgeContext_select_iff (sender : String) (authSpec : RelayAuthorizationSpec)
    (operationKey : String) (targetEmails : List String) (now : Int)
    (context : RelayOperationContext) :
    judgeContext toLowercase sender authSpec operationKey targetEmails now context = .select <->
      context.contextType = authSpec.relayContextType /\
      context.operationKey = operationKey /\
      normalize toLowercase authSpec.commandFamily ∈ context.allowedCommandFamilies /\
      context.authorizedSubject = sender /\
      trim context.grant.grantId ≠ "" /\
      (context.policyVersion = context.grant.policyVersion /\ context.policyVersion ≠ 0) /\
      (now ≤ context.expiresAt /\ now ≤ context.grant.expiresAt) /\
      context.audienceScope.mode = authSpec.audienceScopeMode /\
      (forall target, target ∈ targetEmails ->
        normalize toLowercase target ∈ context.audienceScope.peers) /\
      context.state = .active := by
  have permitted : Not (context.state.isRelayPermitted = false) <-> context.state = .active := by
    cases context.state <;> simp [RelayContextState.isRelayPermitted]
  have versions : Not (context.policyVersion = 0 ∨ context.grant.policyVersion = 0 ∨
      context.policyVersion ≠ context.grant.policyVersion) <->
        context.policyVersion = context.grant.policyVersion /\ context.policyVersion ≠ 0 := by
    omega
  have times : Not (context.expiresAt < now ∨ context.grant.expiresAt < now) <->
      now ≤ context.expiresAt /\ now ≤ context.grant.expiresAt := by
    omega
  have skips : ContextVerdict.skip ≠ .select := ContextVerdict.noConfusion
  have refuses : forall error, ContextVerdict.refuse error ≠ .select :=
    fun _ => ContextVerdict.noConfusion
  unfold judgeContext
  simp only [guarded_select_iff skips, guarded_select_iff (refuses _), permitted, versions, times,
    not_not, ne_eq, and_true]

theorem operationKey_eq_of_not_skip {sender : String} {authSpec : RelayAuthorizationSpec}
    {operationKey : String} {targetEmails : List String} {now : Int}
    {context : RelayOperationContext}
    (relevant : judgeContext toLowercase sender authSpec operationKey targetEmails now context ≠
      .skip) : context.operationKey = operationKey := by
  by_contra different
  apply relevant
  unfold judgeContext
  rw [if_pos different]
  split <;> rfl

/-- The checks that are made before the store is looked at. -/
structure RelayRequestAcceptable (senderEmail operationKey : String) (targetEmails : List String)
    (payloadSizeHint : Option Nat) : Prop where
  sender : normalize toLowercase senderEmail ≠ ""
  key : trim operationKey ≠ ""
  targets : targetEmails ≠ []
  size : forall size, payloadSizeHint = some size -> size ≤ relayChunkCiphertextMaxBytes

/-- Either the call is refused and nothing is recorded, or it selects a stored
context of the sender and comes down to the admission of this context. -/
theorem authorizeRelayHotpath_cases (state : GatewayState) (senderEmail commandName : String)
    (authSpec : RelayAuthorizationSpec) (operationKey : String) (targetEmails : List String)
    (replayNonce : Option String) (payloadSizeHint : Option Nat) (now : Int) :
    (Exists fun error => state.authorizeRelayHotpath toLowercase senderEmail commandName authSpec
      operationKey targetEmails replayNonce payloadSizeHint now = (.error error, state)) \/
    (RelayRequestAcceptable toLowercase senderEmail operationKey targetEmails payloadSizeHint /\
      Exists fun entry => Exists fun context =>
        state.relayContextsBySubject.lookup (normalize toLowercase senderEmail) = some entry /\
        context ∈ entry.contexts /\
        judgeContext toLowercase (normalize toLowercase senderEmail) authSpec (trim operationKey)
          targetEmails now context = .select /\
        state.authorizeRelayHotpath toLowercase senderEmail commandName authSpec operationKey
          targetEmails replayNonce payloadSizeHint now =
          state.admitRelay toLowercase (normalize toLowercase senderEmail) commandName context
            replayNonce now) := by
  unfold authorizeRelayHotpath sanitizeEmail
  by_cases blankSender : normalize toLowercase senderEmail = ""
  · rw [if_pos blankSender]
    exact Or.inl ⟨_, rfl⟩
  · rw [if_neg blankSender]
    dsimp only
    split
    · exact Or.inl ⟨_, rfl⟩
    · next visibleKey =>
      split
      · exact Or.inl ⟨_, rfl⟩
      · next someTarget =>
        split
        · exact Or.inl ⟨_, rfl⟩
        · next notTooLarge =>
          split
          · exact Or.inl ⟨_, rfl⟩
          · next entry found =>
            split
            · exact Or.inl ⟨_, rfl⟩
            · split
              · exact Or.inl ⟨_, rfl⟩
              · next context selected =>
                have chosen := scanContexts_ok_mem selected
                refine Or.inr ⟨⟨blankSender, visibleKey, someTarget, ?_⟩, entry, context, found,
                  chosen.1, chosen.2, rfl⟩
                intro size hint
                simpa [hint] using notTooLarge

/-- Conversely, an acceptable call for which the scan selects a context comes
down to the admission of this context. -/
theorem authorizeRelayHotpath_of_selected {state : GatewayState}
    {senderEmail operationKey : String} {targetEmails : List String}
    {payloadSizeHint : Option Nat} (acceptable : RelayRequestAcceptable toLowercase senderEmail
      operationKey targetEmails payloadSizeHint)
    (commandName : String) (authSpec : RelayAuthorizationSpec) (replayNonce : Option String)
    (now : Int) {entry : RelaySubjectContexts} {context : RelayOperationContext}
    (found : state.relayContextsBySubject.lookup (normalize toLowercase senderEmail) = some entry)
    (sameType : entry.contextType = authSpec.relayContextType)
    (selected : scanContexts (judgeContext toLowercase (normalize toLowercase senderEmail) authSpec
      (trim operationKey) targetEmails now) entry.contexts = .ok context) :
    state.authorizeRelayHotpath toLowercase senderEmail commandName authSpec operationKey
      targetEmails replayNonce payloadSizeHint now =
      state.admitRelay toLowercase (normalize toLowercase senderEmail) commandName context
        replayNonce now := by
  have notTooLarge : Not ((payloadSizeHint.any fun size =>
      decide (relayChunkCiphertextMaxBytes < size)) = true) := by
    intro large
    rcases Option.any_eq_true _ _ |>.mp large with ⟨size, hint, exceeds⟩
    exact absurd (acceptable.size size hint) (not_le.mpr (of_decide_eq_true exceeds))
  unfold authorizeRelayHotpath sanitizeEmail
  rw [if_neg acceptable.sender]
  dsimp only
  rw [if_neg acceptable.key, if_neg acceptable.targets, if_neg notTooLarge, found]
  dsimp only
  rw [if_neg (not_not.mpr sameType), selected]

end GatewayState

end State
end Gateway

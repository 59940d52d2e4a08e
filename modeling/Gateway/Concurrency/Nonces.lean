import Gateway.Foundation.Scheduling
import Gateway.State.RelayRuns

namespace Gateway
namespace Concurrency

open Foundation State

/-!
# Relay authorizations in any order

A call of `authorize_relay_hotpath` selects a context, looks its nonce up in
the replay cache, records it there, prunes the cache, and counts the admission
in the rate table.  Each of these is one atomic call, and nothing holds between
two of them: after its lookup a call records the nonce even if another call has
recorded it in the meantime.  The rate table, in contrast, is read and written
through one entry in one atomic call.
-/

section Calls

variable (toLowercase : String -> String)

/-- The part of `authorize_relay_hotpath` before the two bookkeeping checks. -/
def selectContext (store : RelayContextTable) (call : AuthorizeCall) :
    Except RelayAuthError RelayOperationContext :=
  match sanitizeEmail toLowercase call.senderEmail with
  | none => .error .senderBindingInvalid
  | some sender =>
      if trim call.operationKey = "" then .error .missingContext
      else if call.targetEmails = [] then .error .scopeViolation
      else if call.payloadSizeHint.any fun size => decide (relayChunkCiphertextMaxBytes < size) then
        .error .payloadTooLarge
      else
        match store.lookup sender with
        | none => .error .missingContext
        | some subjectContexts =>
            if subjectContexts.contextType ≠ call.authSpec.relayContextType then
              .error .missingContext
            else
              GatewayState.scanContexts
                (GatewayState.judgeContext toLowercase sender call.authSpec
                  (trim call.operationKey) call.targetEmails call.now)
                subjectContexts.contexts

/-- The key under which the nonce of a call is recorded, if it has one. -/
def replayKey (call : AuthorizeCall) (contextId : String) : Option String :=
  match call.replayNonce with
  | none => none
  | some nonce =>
      if trim nonce = "" then none
      else some (GatewayState.relayReplayKey (normalize toLowercase call.senderEmail)
        call.commandName contextId (trim nonce))

/-- A selected context and the key of the nonce for it. -/
structure NonceCheck (call : AuthorizeCall) where
  context : RelayOperationContext
  key : String
  keyed : replayKey toLowercase call context.contextId = some key

/-- What a call does next. -/
inductive NoncePhase (call : AuthorizeCall) where
  /-- Select a context of the sender. -/
  | select
  /-- Look the key up in the replay cache. -/
  | lookup (check : NonceCheck toLowercase call)
  /-- Insert the key into the replay cache. -/
  | record (check : NonceCheck toLowercase call)
  /-- Prune the replay cache. -/
  | prune (check : NonceCheck toLowercase call)
  /-- Count the admission in the rate table. -/
  | count (context : RelayOperationContext)
  | returned (result : Except RelayAuthError RelayAuthDecision)

/-- One call of `authorize_relay_hotpath` and how far it has come. -/
structure Authorizing where
  call : AuthorizeCall
  phase : NoncePhase toLowercase call

/-- The atomic calls, with the data that they work on. -/
inductive NonceCall where
  | selectContext
  | lookupKey (key : String)
  | recordKey (key : String) (now : Int)
  | pruneCache (now : Int)
  | countRate
  deriving DecidableEq

/-- After the selection: a call without a nonce skips the replay cache. -/
def afterSelection (call : AuthorizeCall) (context : RelayOperationContext) :
    NoncePhase toLowercase call :=
  match keyed : replayKey toLowercase call context.contextId with
  | none => .count context
  | some key => .lookup { context := context, key := key, keyed := keyed }

/-- The next atomic call of a thread, the state after it, and the rest of the
thread. -/
def nextNonceCall (state : GatewayState) :
    Authorizing toLowercase -> Option (NonceCall × GatewayState × Authorizing toLowercase)
  | { call, phase := .select } =>
      match selectContext toLowercase state.relayContextsBySubject call with
      | .error error => some (.selectContext, state, { call, phase := .returned (.error error) })
      | .ok context =>
          some (.selectContext, state, { call, phase := afterSelection toLowercase call context })
  | { call, phase := .lookup check } =>
      match state.relayReplayCache.lookup check.key with
      | some existing =>
          if saturatingSub call.now existing.seenAt ≤ relayReplayTtlSeconds then
            some (.lookupKey check.key, state,
              { call, phase := .returned (.error .replayDetected) })
          else some (.lookupKey check.key, state, { call, phase := .record check })
      | none => some (.lookupKey check.key, state, { call, phase := .record check })
  | { call, phase := .record check } =>
      some (.recordKey check.key call.now, state.recordReplay check.key call.now,
        { call, phase := .prune check })
  | { call, phase := .prune check } =>
      some (.pruneCache call.now, state.pruneRelayReplayCache call.now,
        { call, phase := .count check.context })
  | { call, phase := .count context } =>
      match state.ensureRelayRateLimit toLowercase (normalize toLowercase call.senderEmail)
          call.commandName context.contextId call.now with
      | (.error error, next) =>
          some (.countRate, next, { call, phase := .returned (.error error) })
      | (.ok (), next) =>
          some (.countRate, next,
            { call
              phase := .returned (.ok
                { contextId := context.contextId, policyVersion := context.policyVersion }) })
  | { call := _, phase := .returned _ } => none

theorem nextNonceCall_call {toLowercase : String -> String} {before after : GatewayState}
    {thread next : Authorizing toLowercase} {event : NonceCall}
    (advances : nextNonceCall toLowercase before thread = some (event, after, next)) :
    next.call = thread.call := by
  unfold nextNonceCall at advances
  split at advances
  · split at advances <;> cases advances <;> rfl
  · split at advances
    · split at advances <;> cases advances <;> rfl
    · cases advances
      rfl
  · cases advances
    rfl
  · cases advances
    rfl
  · split at advances <;> cases advances <;> rfl
  · cases advances

end Calls

namespace Authorizing

variable {toLowercase : String -> String}

/-- The key that the call may still look up or record. -/
def pendingKey (store : RelayContextTable) : Authorizing toLowercase -> Option String
  | { call, phase := .select } =>
      match selectContext toLowercase store call with
      | .error _ => none
      | .ok context => replayKey toLowercase call context.contextId
  | { call := _, phase := .lookup check } => some check.key
  | { call := _, phase := .record check } => some check.key
  | { call := _, phase := _ } => none

/-- The key that the call has recorded, unless it was refused since. -/
def recordedKey : Authorizing toLowercase -> Option String
  | { call := _, phase := .prune check } => some check.key
  | { call, phase := .count context } => replayKey toLowercase call context.contextId
  | { call, phase := .returned (.ok decision) } => replayKey toLowercase call decision.contextId
  | { call := _, phase := _ } => none

/-- The decision of a call that returned `Ok`. -/
def decision : Authorizing toLowercase -> Option RelayAuthDecision
  | { call := _, phase := .returned (.ok decision) } => some decision
  | { call := _, phase := _ } => none

theorem recordedKey_of_decision {thread : Authorizing toLowercase} {decision : RelayAuthDecision}
    (returned : thread.decision = some decision) :
    thread.recordedKey = replayKey toLowercase thread.call decision.contextId := by
  unfold Authorizing.decision at returned
  split at returned
  · cases returned
    rfl
  · cases returned

end Authorizing

abbrev NonceSystem (toLowercase : String -> String) :=
  Configuration GatewayState (Authorizing toLowercase)

section Conditions

variable {toLowercase : String -> String}

/-- Pruning at this time removes no key that a call still to be checked would
find within its replay window. -/
def ForgetsNoPending (system : NonceSystem toLowercase) (now : Int) : Prop :=
  forall thread, thread ∈ system.threads ->
    forall key, thread.pendingKey system.shared.relayContextsBySubject = some key ->
    forall seen, system.shared.relayReplayCache.lookup key = some seen ->
      (system.shared.pruneRelayReplayCache now).relayReplayCache.lookup key = some seen \/
        relayReplayTtlSeconds < thread.call.now - seen.seenAt

instance (system : NonceSystem toLowercase) (now : Int) :
    Decidable (ForgetsNoPending system now) :=
  inferInstanceAs (Decidable (forall thread, thread ∈ system.threads ->
    forall key, key ∈ thread.pendingKey system.shared.relayContextsBySubject ->
    forall seen, seen ∈ system.shared.relayReplayCache.lookup key -> _))

instance (cache : RelayReplayTable) (key : String) (now : Int) :
    Decidable (GatewayState.ReplayFresh cache key now) :=
  inferInstanceAs (Decidable (forall seen, seen ∈ cache.lookup key -> _))

/-- The condition of a step: a call that records its key still finds it fresh,
and pruning removes no key that matters to a call still to be checked. -/
def RecordsFreshKey (before : NonceSystem toLowercase) (label : Nat × NonceCall) : Prop :=
  match label.2 with
  | .recordKey key now => GatewayState.ReplayFresh before.shared.relayReplayCache key now
  | .pruneCache now => ForgetsNoPending before now
  | _ => True

instance (before : NonceSystem toLowercase) (label : Nat × NonceCall) :
    Decidable (RecordsFreshKey before label) :=
  match label with
  | (_, .recordKey key now) =>
      inferInstanceAs (Decidable (GatewayState.ReplayFresh before.shared.relayReplayCache key now))
  | (_, .pruneCache now) => inferInstanceAs (Decidable (ForgetsNoPending before now))
  | (_, .selectContext) => .isTrue trivial
  | (_, .lookupKey _) => .isTrue trivial
  | (_, .countRate) => .isTrue trivial

/-- Some thread takes its next atomic call. -/
def NoncesInterleaved : NonceSystem toLowercase -> Nat × NonceCall -> NonceSystem toLowercase -> Prop :=
  Turn (Advances (nextNonceCall toLowercase))

/-- The steps that meet the condition. -/
def NoncesCareful (before : NonceSystem toLowercase) (label : Nat × NonceCall)
    (after : NonceSystem toLowercase) : Prop :=
  NoncesInterleaved before label after /\ RecordsFreshKey before label

/-- No call has begun. -/
def NoneBegun (system : NonceSystem toLowercase) : Prop :=
  forall thread, thread ∈ system.threads -> Exists fun call => thread = { call, phase := .select }

end Conditions

/-! ## The invariant -/

/-- Every recorded nonce is still cached or too old for all calls that may
still use it, and recorded nonces are further apart than the replay window. -/
structure NoncesGuarded {toLowercase : String -> String} (system : NonceSystem toLowercase) :
    Prop where
  guarded : forall thread, thread ∈ system.threads ->
    forall key, thread.recordedKey = some key ->
    forall other, other ∈ system.threads ->
      other.pendingKey system.shared.relayContextsBySubject = some key ->
      Guarded system.shared.relayReplayCache key thread.call.now other.call.now
  separated : forall left right : Nat, left ≠ right ->
    forall first second : Authorizing toLowercase, system.threads[left]? = some first ->
    system.threads[right]? = some second ->
    forall key, first.recordedKey = some key -> second.recordedKey = some key ->
      600 < first.call.now - second.call.now \/ 600 < second.call.now - first.call.now

theorem NoneBegun.guarded {toLowercase : String -> String} {system : NonceSystem toLowercase}
    (noneBegun : NoneBegun system) : NoncesGuarded system where
  guarded := by
    intro thread member key recorded
    rcases noneBegun thread member with ⟨call, rfl⟩
    cases recorded
  separated := by
    intro left right _ first second found _ key recorded
    rcases noneBegun first (List.mem_of_getElem? found) with ⟨call, rfl⟩
    cases recorded

namespace NoncesGuarded

variable {toLowercase : String -> String} {before after : GatewayState}
  {threads : List (Authorizing toLowercase)} {index : Nat} {thread next : Authorizing toLowercase}

/-- A step that records no key keeps the invariant, if it keeps what the calls
still to be checked need from the cache. -/
theorem advance (guarded : NoncesGuarded ⟨before, threads⟩)
    (picked : threads[index]? = some thread) (sameCall : next.call = thread.call)
    (sameStore : after.relayContextsBySubject = before.relayContextsBySubject)
    (recorded : forall key, next.recordedKey = some key -> thread.recordedKey = some key)
    (pending : forall key, next.pendingKey before.relayContextsBySubject = some key ->
      thread.pendingKey before.relayContextsBySubject = some key)
    (kept : forall other, other ∈ threads ->
      forall key, other.pendingKey before.relayContextsBySubject = some key ->
      forall since, Guarded before.relayReplayCache key since other.call.now ->
        Guarded after.relayReplayCache key since other.call.now) :
    NoncesGuarded ⟨after, threads.set index next⟩ := by
  have earlier : forall {place : Nat} {other : Authorizing toLowercase},
      (threads.set index next)[place]? = some other ->
      Exists fun old => threads[place]? = some old /\ other.call.now = old.call.now /\
        (forall key, other.recordedKey = some key -> old.recordedKey = some key) /\
        (forall key, other.pendingKey before.relayContextsBySubject = some key ->
          old.pendingKey before.relayContextsBySubject = some key) := by
    intro place other found
    rcases getElem?_set_cases found with ⟨rfl, rfl⟩ | ⟨_, there⟩
    · exact ⟨thread, picked, congrArg AuthorizeCall.now sameCall, recorded, pending⟩
    · exact ⟨other, there, rfl, fun _ same => same, fun _ same => same⟩
  constructor
  · intro holder holderMember key holds other otherMember awaits
    rcases List.mem_iff_getElem?.mp holderMember with ⟨_, holderFound⟩
    rcases List.mem_iff_getElem?.mp otherMember with ⟨_, otherFound⟩
    rcases earlier holderFound with ⟨oldHolder, holderThere, holderNow, heldBefore, _⟩
    rcases earlier otherFound with ⟨oldOther, otherThere, otherNow, _, awaitedBefore⟩
    dsimp only at awaits
    rw [sameStore] at awaits
    have member := List.mem_of_getElem? otherThere
    have guardedBefore := guarded.guarded oldHolder (List.mem_of_getElem? holderThere) key
      (heldBefore key holds) oldOther member (awaitedBefore key awaits)
    rw [holderNow, otherNow]
    exact kept oldOther member key (awaitedBefore key awaits) _ guardedBefore
  · intro left right different first second firstFound secondFound key firstHolds secondHolds
    rcases earlier firstFound with ⟨oldFirst, firstThere, firstNow, firstBefore, _⟩
    rcases earlier secondFound with ⟨oldSecond, secondThere, secondNow, secondBefore, _⟩
    rw [firstNow, secondNow]
    exact guarded.separated left right different oldFirst oldSecond firstThere secondThere key
      (firstBefore key firstHolds) (secondBefore key secondHolds)

/-- A step that leaves the replay cache as it is keeps the invariant. -/
theorem advance_elsewhere (guarded : NoncesGuarded ⟨before, threads⟩)
    (picked : threads[index]? = some thread) (sameCall : next.call = thread.call)
    (sameStore : after.relayContextsBySubject = before.relayContextsBySubject)
    (sameCache : after.relayReplayCache = before.relayReplayCache)
    (recorded : forall key, next.recordedKey = some key -> thread.recordedKey = some key)
    (pending : forall key, next.pendingKey before.relayContextsBySubject = some key ->
      thread.pendingKey before.relayContextsBySubject = some key) :
    NoncesGuarded ⟨after, threads.set index next⟩ := by
  refine guarded.advance picked sameCall sameStore recorded pending ?_
  intro _ _ _ _ _ before
  rw [sameCache]
  exact before

variable {call : AuthorizeCall}

theorem selectContext (guarded : NoncesGuarded ⟨before, threads⟩)
    (picked : threads[index]? = some { call, phase := .select }) {context : RelayOperationContext}
    (selected : Concurrency.selectContext toLowercase before.relayContextsBySubject call =
      .ok context) :
    NoncesGuarded ⟨before,
      threads.set index { call, phase := afterSelection toLowercase call context }⟩ := by
  have wasPending : Authorizing.pendingKey before.relayContextsBySubject
      ({ call, phase := .select } : Authorizing toLowercase) =
        replayKey toLowercase call context.contextId := by
    simp only [Authorizing.pendingKey, selected]
  unfold afterSelection
  split
  · next keyless =>
    refine guarded.advance_elsewhere picked rfl rfl rfl ?_ nofun
    intro key recorded
    simp only [Authorizing.recordedKey, keyless] at recorded
    cases recorded
  · next key keyed =>
    refine guarded.advance_elsewhere picked rfl rfl rfl nofun ?_
    intro other pending
    rw [wasPending, keyed]
    exact pending

theorem pruneCache (guarded : NoncesGuarded ⟨before, threads⟩)
    {check : NonceCheck toLowercase call}
    (picked : threads[index]? = some { call, phase := .prune check })
    (forgetsNone : ForgetsNoPending ⟨before, threads⟩ call.now) :
    NoncesGuarded ⟨before.pruneRelayReplayCache call.now,
      threads.set index { call, phase := .count check.context }⟩ := by
  have sameStore : (before.pruneRelayReplayCache call.now).relayContextsBySubject =
      before.relayContextsBySubject := by
    unfold GatewayState.pruneRelayReplayCache
    split <;> rfl
  refine guarded.advance picked rfl sameStore ?_ nofun ?_
  · intro key recorded
    exact check.keyed.symm.trans recorded
  · intro other member key awaits since guardedBefore
    rcases guardedBefore with ⟨seen, found, order⟩ | expired
    · rcases forgetsNone other member key awaits seen found with stillFound | tooOld
      · exact Or.inl ⟨seen, stillFound, order⟩
      · exact Or.inr (by omega)
    · exact Or.inr expired

/-- A call that records a key finds all earlier records of the key too old for
itself, and its own record serves all others. -/
theorem recordKey (guarded : NoncesGuarded ⟨before, threads⟩)
    {check : NonceCheck toLowercase call}
    (picked : threads[index]? = some { call, phase := .record check })
    (fresh : GatewayState.ReplayFresh before.relayReplayCache check.key call.now) :
    NoncesGuarded ⟨before.recordReplay check.key call.now,
      threads.set index { call, phase := .prune check }⟩ := by
  have older : forall holder, holder ∈ threads -> holder.recordedKey = some check.key ->
      600 < call.now - holder.call.now := by
    intro holder member holds
    have still := guarded.guarded holder member check.key holds _ (List.mem_of_getElem? picked) rfl
    exact still.expired_of_fresh fresh
  have recordedNow : (before.recordReplay check.key call.now).relayReplayCache.lookup check.key =
      some { seenAt := call.now } := AList.lookup_insert _
  have sameElsewhere : forall key, key ≠ check.key ->
      (before.recordReplay check.key call.now).relayReplayCache.lookup key =
        before.relayReplayCache.lookup key := by
    intro key different
    exact AList.lookup_insert_ne different
  constructor
  · intro holder holderMember key holds other otherMember awaits
    rcases List.mem_iff_getElem?.mp otherMember with ⟨_, otherFound⟩
    rcases getElem?_set_cases otherFound with ⟨_, rfl⟩ | ⟨_, otherThere⟩
    · cases awaits
    · rcases List.mem_iff_getElem?.mp holderMember with ⟨_, holderFound⟩
      rcases getElem?_set_cases holderFound with ⟨_, rfl⟩ | ⟨_, holderThere⟩
      · cases holds
        exact Or.inl ⟨_, recordedNow, le_refl _⟩
      · have member := List.mem_of_getElem? holderThere
        by_cases same : key = check.key
        · subst same
          have earlier := older holder member holds
          exact Or.inl ⟨_, recordedNow, by dsimp only; omega⟩
        · have guardedBefore := guarded.guarded holder member key holds other
            (List.mem_of_getElem? otherThere) awaits
          unfold Guarded at guardedBefore ⊢
          dsimp only
          rw [sameElsewhere key same]
          exact guardedBefore
  · intro left right different first second firstFound secondFound key firstHolds secondHolds
    rcases getElem?_set_cases firstFound with ⟨sameLeft, rfl⟩ | ⟨_, firstThere⟩
    · rcases getElem?_set_cases secondFound with ⟨sameRight, _⟩ | ⟨_, secondThere⟩
      · exact absurd (sameLeft.trans sameRight.symm) different
      · cases firstHolds
        exact Or.inl (older second (List.mem_of_getElem? secondThere) secondHolds)
    · rcases getElem?_set_cases secondFound with ⟨_, rfl⟩ | ⟨_, secondThere⟩
      · cases secondHolds
        exact Or.inr (older first (List.mem_of_getElem? firstThere) firstHolds)
      · exact guarded.separated left right different first second firstThere secondThere key
          firstHolds secondHolds

/-- A careful step keeps the invariant, whichever thread takes it. -/
theorem step {before after : NonceSystem toLowercase} {label : Nat × NonceCall}
    (guarded : NoncesGuarded before) (careful : NoncesCareful before label after) :
    NoncesGuarded after := by
  rcases careful with ⟨turn, condition⟩
  cases turn with
  | @take before after threads index thread next event picked advances =>
      rcases thread with ⟨call, phase⟩
      unfold Advances at advances
      cases phase with
      | select =>
          unfold nextNonceCall at advances
          dsimp only at advances
          split at advances
          · cases advances
            exact guarded.advance_elsewhere picked rfl rfl rfl nofun nofun
          · next context selected =>
            cases advances
            exact guarded.selectContext picked selected
      | lookup check =>
          unfold nextNonceCall at advances
          dsimp only at advances
          split at advances
          · split at advances
            · cases advances
              exact guarded.advance_elsewhere picked rfl rfl rfl nofun nofun
            · cases advances
              exact guarded.advance_elsewhere picked rfl rfl rfl nofun fun _ same => same
          · cases advances
            exact guarded.advance_elsewhere picked rfl rfl rfl nofun fun _ same => same
      | record check =>
          cases advances
          exact guarded.recordKey picked condition
      | prune check =>
          cases advances
          exact guarded.pruneCache picked condition
      | count context =>
          unfold nextNonceCall at advances
          dsimp only at advances
          rcases GatewayState.ensureRelayRateLimit_touches toLowercase before
            (normalize toLowercase call.senderEmail) call.commandName context.contextId call.now
            with ⟨counters, touched⟩
          split at advances
          · next error state limited =>
            rw [limited] at touched
            cases advances
            cases touched
            exact guarded.advance_elsewhere picked rfl rfl rfl nofun nofun
          · next state limited =>
            rw [limited] at touched
            cases advances
            cases touched
            exact guarded.advance_elsewhere picked rfl rfl rfl (fun _ same => same) nofun
      | returned result => cases advances

end NoncesGuarded

/-! ## Runs -/

/-- A thread keeps the arguments of its call. -/
theorem calls_unchanged {toLowercase : String -> String} {start final : NonceSystem toLowercase}
    {labels : List (Nat × NonceCall)} (execution : Execution NoncesInterleaved start labels final) :
    final.threads.map Authorizing.call = start.threads.map Authorizing.call := by
  refine execution.invariant
    (fun system => system.threads.map Authorizing.call = start.threads.map Authorizing.call) rfl ?_
  intro before label after same turn
  cases turn with
  | @take before after threads index thread next event picked advances =>
      exact (map_set_of_eq picked (nextNonceCall_call advances)).trans same

theorem replayKey_of_trim {toLowercase : String -> String} {call : AuthorizeCall} {nonce : String}
    (given : call.replayNonce.map trim = some nonce) (visible : nonce ≠ "") (contextId : String) :
    replayKey toLowercase call contextId = some (GatewayState.relayReplayKey
      (normalize toLowercase call.senderEmail) call.commandName contextId nonce) := by
  rcases Option.map_eq_some_iff.mp given with ⟨offered, same, rfl⟩
  simp only [replayKey, same, if_neg visible]

/-- In every interleaving of calls that find their key fresh when they record
it, and whose pruning takes no key from a call still to be checked, two calls
that return `Ok` for one nonce are more than 600 seconds apart. -/
theorem nonce_admitted_once_of_careful {toLowercase : String -> String}
    {start final : NonceSystem toLowercase} {labels : List (Nat × NonceCall)}
    (noneBegun : NoneBegun start) (execution : Execution NoncesCareful start labels final)
    {left right : Nat} (different : left ≠ right) {first second : Authorizing toLowercase}
    (firstFound : final.threads[left]? = some first)
    (secondFound : final.threads[right]? = some second)
    {firstDecision secondDecision : RelayAuthDecision}
    (firstOk : first.decision = some firstDecision)
    (secondOk : second.decision = some secondDecision)
    (sameSender : normalize toLowercase first.call.senderEmail =
      normalize toLowercase second.call.senderEmail)
    (sameCommand : first.call.commandName = second.call.commandName)
    (sameContext : firstDecision.contextId = secondDecision.contextId) {nonce : String}
    (firstNonce : first.call.replayNonce.map trim = some nonce)
    (secondNonce : second.call.replayNonce.map trim = some nonce) (visible : nonce ≠ "") :
    600 < first.call.now - second.call.now \/ 600 < second.call.now - first.call.now := by
  have guarded := execution.invariant NoncesGuarded noneBegun.guarded
    (fun _ _ _ before taken => before.step taken)
  have firstKey := first.recordedKey_of_decision firstOk
  have secondKey := second.recordedKey_of_decision secondOk
  rw [replayKey_of_trim firstNonce visible, sameSender, sameCommand, sameContext] at firstKey
  rw [replayKey_of_trim secondNonce visible] at secondKey
  exact guarded.separated left right different first second firstFound secondFound _ firstKey
    secondKey

/-- A store in which one user may offer files to another. -/
def offerStore : GatewayState :=
  (GatewayState.new none).applyRelayContextSnapshot asciiLowercase 0
    { subjectEmail := "alice@x"
      contextType := .fileTransferPeer
      policyVersion := 1
      contexts :=
        [{ contextId := "ctx"
           operationKey := "op"
           operationClass := "file"
           contextType := .fileTransferPeer
           state := .active
           authorizedSubject := "alice@x"
           audienceScope := { mode := .explicitSubset, peers := ["bob@x"] }
           allowedCommandFamilies := ["offer"]
           policyVersion := 1
           grant := { grantId := "g", policyVersion := 1, issuedAt := 0, expiresAt := 0 }
           openedAt := 0
           updatedAt := 0
           expiresAt := 0 }]
      receivedAt := 0 }

/-- Two calls with one nonce, as two sessions of a user make them. -/
def offeredTwice (first second : Int) : NonceSystem asciiLowercase where
  shared := offerStore
  threads := [first, second].map fun now =>
    { call :=
        { senderEmail := "alice@x"
          commandName := "file_offer"
          authSpec :=
            { requiresRelayContext := true
              relayContextType := .fileTransferPeer
              audienceScopeMode := .explicitSubset
              guardClass := .contextBoundPeer
              commandFamily := "offer"
              operationKeyField := "key" }
          operationKey := "op"
          targetEmails := ["bob@x"]
          replayNonce := some "n1"
          payloadSizeHint := none
          now := now }
      phase := .select }

theorem offeredTwice_noneBegun (first second : Int) : NoneBegun (offeredTwice first second) := by
  intro thread member
  rcases List.mem_map.mp member with ⟨now, _, rfl⟩
  exact ⟨_, rfl⟩

theorem offeredTwice_finished {first second : Int} {labels : List (Nat × NonceCall)}
    {final : NonceSystem asciiLowercase}
    (execution : Execution NoncesInterleaved (offeredTwice first second) labels final)
    {firstDecision secondDecision : RelayAuthDecision}
    (decisions : final.threads.map Authorizing.decision =
      [some firstDecision, some secondDecision]) :
    Exists fun left => Exists fun right => final.threads = [left, right] /\
      (offeredTwice first second).threads.map Authorizing.call = [left.call, right.call] /\
      left.decision = some firstDecision /\ right.decision = some secondDecision := by
  have calls := calls_unchanged execution
  rcases List.map_eq_cons_iff.mp decisions with ⟨left, rest, threads, leftOk, later⟩
  rcases List.map_eq_singleton_iff.mp later with ⟨right, rfl, rightOk⟩
  rw [threads] at calls
  exact ⟨left, right, threads, calls.symm, leftOk, rightOk⟩

/-- The second call comes after the replay window, and records the nonce
before the first one counts its admission. -/
theorem nonce_admitted_once_of_late_repetition :
    Exists fun labels => Exists fun final : NonceSystem asciiLowercase =>
      Execution NoncesCareful (offeredTwice 10 611) labels final /\
      Exists fun first => Exists fun second => final.threads = [first, second] /\
        first.decision = some { contextId := "ctx", policyVersion := 1 } /\
        second.decision = some { contextId := "ctx", policyVersion := 1 } /\
        (600 < first.call.now - second.call.now \/ 600 < second.call.now - first.call.now) := by
  have finished : (takeTurns (nextNonceCall asciiLowercase)
      (fun before label => decide (RecordsFreshKey before label)) (offeredTwice 10 611)
      [0, 0, 0, 0, 1, 1, 1, 0, 1, 1]).map (fun run => run.2.threads.map Authorizing.decision) =
        some [some { contextId := "ctx", policyVersion := 1 },
          some { contextId := "ctx", policyVersion := 1 }] := by decide +kernel
  rcases Option.map_eq_some_iff.mp finished with ⟨⟨labels, final⟩, taken, decisions⟩
  have careful : Execution NoncesCareful (offeredTwice 10 611) labels final :=
    (takeTurns_execution taken).mono fun _ _ _ both => ⟨both.1, of_decide_eq_true both.2⟩
  rcases offeredTwice_finished (careful.mono fun _ _ _ both => both.1) decisions with
    ⟨first, second, threads, calls, firstOk, secondOk⟩
  refine ⟨labels, final, careful, first, second, threads, firstOk, secondOk, ?_⟩
  rcases List.cons.inj calls with ⟨firstCall, rest⟩
  have secondCall := (List.cons.inj rest).1
  exact nonce_admitted_once_of_careful (offeredTwice_noneBegun 10 611) careful
    Nat.zero_ne_one (by rw [threads]; rfl) (by rw [threads]; rfl) firstOk secondOk
    (by rw [← firstCall, ← secondCall]) (by rw [← firstCall, ← secondCall]) rfl
    (by rw [← firstCall]; rfl) (by rw [← secondCall]; rfl) (by decide)

/-- Both calls look the nonce up before one of them records it, so that both
are admitted in the same second. -/
theorem nonce_admitted_twice_of_interleaved_lookups :
    NoneBegun (offeredTwice 10 10) /\
    Exists fun labels => Exists fun final : NonceSystem asciiLowercase =>
      Execution NoncesInterleaved (offeredTwice 10 10) labels final /\
      Exists fun first => Exists fun second => final.threads = [first, second] /\
        first.decision = some { contextId := "ctx", policyVersion := 1 } /\
        second.decision = some { contextId := "ctx", policyVersion := 1 } /\
        first.call = second.call /\ first.call.replayNonce = some "n1" := by
  have finished : (takeTurns (nextNonceCall asciiLowercase) (fun _ _ => true) (offeredTwice 10 10)
      [0, 1, 0, 1, 0, 1, 0, 1, 0, 1]).map (fun run => run.2.threads.map Authorizing.decision) =
        some [some { contextId := "ctx", policyVersion := 1 },
          some { contextId := "ctx", policyVersion := 1 }] := by decide +kernel
  rcases Option.map_eq_some_iff.mp finished with ⟨⟨labels, final⟩, taken, decisions⟩
  have execution : Execution NoncesInterleaved (offeredTwice 10 10) labels final :=
    (takeTurns_execution taken).mono fun _ _ _ both => both.1
  rcases offeredTwice_finished execution decisions with
    ⟨first, second, threads, calls, firstOk, secondOk⟩
  rcases List.cons.inj calls with ⟨firstCall, rest⟩
  have secondCall := (List.cons.inj rest).1
  refine ⟨offeredTwice_noneBegun 10 10, labels, final, execution, first, second, threads, firstOk,
    secondOk, ?_, ?_⟩
  · rw [← firstCall, ← secondCall]
  · rw [← firstCall]

/-! ## A call that runs alone -/

section Alone

variable (toLowercase : String -> String) (call : AuthorizeCall)

/-- A call either fails in the selection or comes down to the two bookkeeping
checks on the selected context. -/
theorem perform_eq_selection (state : GatewayState) :
    call.perform toLowercase state =
      match selectContext toLowercase state.relayContextsBySubject call with
      | .error error => (.error error, state)
      | .ok context =>
          state.admitRelay toLowercase (normalize toLowercase call.senderEmail) call.commandName
            context call.replayNonce call.now := by
  unfold AuthorizeCall.perform GatewayState.authorizeRelayHotpath selectContext sanitizeEmail
  by_cases blank : normalize toLowercase call.senderEmail = ""
  · simp only [if_pos blank]
  · simp only [if_neg blank]
    split
    · rfl
    · split
      · rfl
      · split
        · rfl
        · cases state.relayContextsBySubject.lookup (normalize toLowercase call.senderEmail) with
          | none => rfl
          | some subjectContexts =>
              dsimp only
              split
              · rfl
              · cases GatewayState.scanContexts
                  (GatewayState.judgeContext toLowercase (normalize toLowercase call.senderEmail)
                    call.authSpec (trim call.operationKey) call.targetEmails call.now)
                  subjectContexts.contexts with
                | error error => rfl
                | ok context => rfl

variable {toLowercase call}

theorem count_alone (state : GatewayState) (context : RelayOperationContext) :
    RunsAlone (nextNonceCall toLowercase) state { call, phase := .count context }
      (state.ensureRelayRateLimit toLowercase (normalize toLowercase call.senderEmail)
        call.commandName context.contextId call.now).2
      { call
        phase := .returned ((state.ensureRelayRateLimit toLowercase
          (normalize toLowercase call.senderEmail) call.commandName context.contextId
          call.now).1.map fun _ =>
            { contextId := context.contextId, policyVersion := context.policyVersion }) } := by
  have counts : nextNonceCall toLowercase state { call, phase := .count context } =
      some (.countRate,
        (state.ensureRelayRateLimit toLowercase (normalize toLowercase call.senderEmail)
          call.commandName context.contextId call.now).2,
        { call
          phase := .returned ((state.ensureRelayRateLimit toLowercase
            (normalize toLowercase call.senderEmail) call.commandName context.contextId
            call.now).1.map fun _ =>
              { contextId := context.contextId, policyVersion := context.policyVersion }) }) := by
    unfold nextNonceCall
    dsimp only
    split
    · next limited =>
      rw [limited]
      rfl
    · next limited =>
      rw [limited]
      rfl
  exact RunsAlone.call counts (RunsAlone.refl _ _)

/-- The lookup lets exactly the fresh keys through. -/
theorem lookup_of_fresh {state : GatewayState} {check : NonceCheck toLowercase call}
    (fresh : GatewayState.ReplayFresh state.relayReplayCache check.key call.now) :
    nextNonceCall toLowercase state { call, phase := .lookup check } =
      some (.lookupKey check.key, state, { call, phase := .record check }) := by
  unfold nextNonceCall
  dsimp only
  split
  · next existing found =>
    have expired := (GatewayState.relayReplayTtl_lt_saturatingSub _ _).mpr (fresh existing found)
    rw [if_neg (not_le.mpr expired)]
  · rfl

theorem lookup_of_seen {state : GatewayState} {check : NonceCheck toLowercase call}
    (seen : Not (GatewayState.ReplayFresh state.relayReplayCache check.key call.now)) :
    nextNonceCall toLowercase state { call, phase := .lookup check } =
      some (.lookupKey check.key, state,
        { call, phase := .returned (.error .replayDetected) }) := by
  unfold nextNonceCall
  dsimp only
  split
  · next existing found =>
    have recent : saturatingSub call.now existing.seenAt ≤ relayReplayTtlSeconds := by
      by_contra expired
      apply seen
      intro entry same
      rw [found] at same
      cases same
      exact (GatewayState.relayReplayTtl_lt_saturatingSub _ _).mp (not_le.mp expired)
    rw [if_pos recent]
  · next absent =>
    apply absurd _ seen
    intro entry same
    rw [absent] at same
    cases same

theorem trim_replayKey_ne_empty {contextId key : String}
    (keyed : replayKey toLowercase call contextId = some key) : trim key ≠ "" := by
  unfold replayKey at keyed
  split at keyed
  · cases keyed
  · split at keyed
    · cases keyed
    · cases keyed
      exact GatewayState.trim_relayReplayKey_ne_empty _ _ _ _

variable (toLowercase call)

theorem ensureNonceFresh_eq_replayKey (state : GatewayState) (contextId : String) :
    state.ensureNonceFresh (normalize toLowercase call.senderEmail) call.commandName contextId
        call.replayNonce call.now =
      match replayKey toLowercase call contextId with
      | none => (.ok (), state)
      | some key => state.ensureRelayReplayFresh key call.now := by
  unfold GatewayState.ensureNonceFresh replayKey
  cases call.replayNonce with
  | none => rfl
  | some nonce =>
      dsimp only
      by_cases blank : trim nonce = ""
      · rw [if_pos blank, if_pos blank]
      · rw [if_neg blank, if_neg blank]

/-- When the nonce check passes, the rate check decides. -/
theorem admitRelay_of_fresh {state next : GatewayState} (context : RelayOperationContext)
    (fresh : state.ensureNonceFresh (normalize toLowercase call.senderEmail) call.commandName
      context.contextId call.replayNonce call.now = (.ok (), next)) :
    let limited := next.ensureRelayRateLimit toLowercase (normalize toLowercase call.senderEmail)
      call.commandName context.contextId call.now
    state.admitRelay toLowercase (normalize toLowercase call.senderEmail) call.commandName context
        call.replayNonce call.now =
      (limited.1.map fun _ =>
        { contextId := context.contextId, policyVersion := context.policyVersion }, limited.2) := by
  intro limited
  simp only [GatewayState.admitRelay, fresh]
  split
  · next error =>
    simp only [limited, error]
    rfl
  · next counted =>
    simp only [limited, counted]
    rfl

/-- After the selection, the atomic calls do what the two bookkeeping checks
do. -/
theorem admit_alone (state : GatewayState) (context : RelayOperationContext) :
    let admitted := state.admitRelay toLowercase (normalize toLowercase call.senderEmail)
      call.commandName context call.replayNonce call.now
    RunsAlone (nextNonceCall toLowercase) state
      { call, phase := afterSelection toLowercase call context } admitted.2
      { call, phase := .returned admitted.1 } := by
  intro admitted
  have checked := ensureNonceFresh_eq_replayKey toLowercase call state context.contextId
  unfold afterSelection
  split
  · next keyless =>
    rw [keyless] at checked
    have result := admitRelay_of_fresh toLowercase call context checked
    dsimp only [admitted]
    rw [result]
    exact count_alone state context
  · next key keyed =>
    rw [keyed] at checked
    dsimp only at checked
    have visible := trim_replayKey_ne_empty keyed
    by_cases fresh : GatewayState.ReplayFresh state.relayReplayCache key call.now
    · rw [GatewayState.ensureRelayReplayFresh_of_fresh visible fresh] at checked
      have result := admitRelay_of_fresh toLowercase call context checked
      dsimp only [admitted]
      rw [result]
      exact ((count_alone _ context).call rfl).call rfl |>.call (lookup_of_fresh fresh)
    · rw [GatewayState.ensureRelayReplayFresh_of_seen visible fresh] at checked
      have result : admitted = (.error .replayDetected, state) := by
        simp only [admitted, GatewayState.admitRelay, checked]
      rw [result]
      exact RunsAlone.call (lookup_of_seen fresh) (RunsAlone.refl _ _)

/-- Alone, the atomic calls do what the operation does. -/
theorem authorize_alone (state : GatewayState) :
    RunsAlone (nextNonceCall toLowercase) state { call, phase := .select }
      (call.perform toLowercase state).2
      { call, phase := .returned (call.perform toLowercase state).1 } := by
  rw [perform_eq_selection]
  cases selected : selectContext toLowercase state.relayContextsBySubject call with
  | error error =>
      have refuses : nextNonceCall toLowercase state { call, phase := .select } =
          some (.selectContext, state, { call, phase := .returned (.error error) }) := by
        simp only [nextNonceCall, selected]
      exact RunsAlone.call refuses (RunsAlone.refl _ _)
  | ok context =>
      have selects : nextNonceCall toLowercase state { call, phase := .select } =
          some (.selectContext, state,
            { call, phase := afterSelection toLowercase call context }) := by
        simp only [nextNonceCall, selected]
      exact RunsAlone.call selects (admit_alone toLowercase call state context)

end Alone

end Concurrency
end Gateway

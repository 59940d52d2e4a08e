import Gateway.State.RelayAdmission

namespace Gateway
namespace State

open Foundation

/-!
# Admissions over whole runs

The replay cache and the rate counters forget and are pruned, and calls that
are refused write them as well.  What they must remember is the history of the
admitted calls.  The invariant says that every admitted nonce is still cached
or too old to matter, and that every counter is at least the number of
admissions in its second.
-/

/-- The arguments of one call of `authorize_relay_hotpath`. -/
structure AuthorizeCall where
  senderEmail : String
  commandName : String
  authSpec : RelayAuthorizationSpec
  operationKey : String
  targetEmails : List String
  replayNonce : Option String
  payloadSizeHint : Option Nat
  now : Int

inductive RelayCall where
  | applySnapshot (clock : Int) (snapshot : RelayContextSnapshot)
  | authorize (call : AuthorizeCall)

/-- A call that returned `Ok`, with its decision. -/
structure Admission where
  call : AuthorizeCall
  decision : RelayAuthDecision

/-- The state and the admissions so far, oldest first. -/
structure RelayRun where
  state : GatewayState
  admissions : List Admission

section Runs

variable (toLowercase : String -> String)

def AuthorizeCall.perform (call : AuthorizeCall) (state : GatewayState) :
    Except RelayAuthError RelayAuthDecision × GatewayState :=
  state.authorizeRelayHotpath toLowercase call.senderEmail call.commandName call.authSpec
    call.operationKey call.targetEmails call.replayNonce call.payloadSizeHint call.now

/-- The admission that a call yields, if it returns `Ok`. -/
def AuthorizeCall.admission (call : AuthorizeCall) (state : GatewayState) : List Admission :=
  match (call.perform toLowercase state).1 with
  | .error _ => []
  | .ok decision => [{ call := call, decision := decision }]

def RelayRun.step (run : RelayRun) : RelayCall -> RelayRun
  | .applySnapshot clock snapshot =>
      { run with state := run.state.applyRelayContextSnapshot toLowercase clock snapshot }
  | .authorize call =>
      { state := (call.perform toLowercase run.state).2
        admissions := run.admissions ++ call.admission toLowercase run.state }

def relayRun (maxConnectionsPerUser : Option Nat) (calls : List RelayCall) : RelayRun :=
  calls.foldl (RelayRun.step toLowercase)
    { state := GatewayState.new maxConnectionsPerUser, admissions := [] }

def Admission.sender (admission : Admission) : String :=
  normalize toLowercase admission.call.senderEmail

def Admission.replayKey (admission : Admission) (nonce : String) : String :=
  GatewayState.relayReplayKey (admission.sender toLowercase) admission.call.commandName
    admission.decision.contextId (trim nonce)

def Admission.rateKey (admission : Admission) : String :=
  GatewayState.relayRateKey toLowercase (admission.sender toLowercase) admission.call.commandName
    admission.decision.contextId admission.call.now

end Runs

/-- The times of the authorize calls, in call order. -/
def authorizeTimes (calls : List RelayCall) : List Int :=
  calls.filterMap fun call =>
    match call with
    | .applySnapshot _ _ => none
    | .authorize call => some call.now

theorem authorizeTimes_append (earlier later : List RelayCall) :
    authorizeTimes (earlier ++ later) = authorizeTimes earlier ++ authorizeTimes later :=
  List.filterMap_append

/-- The authorize calls are made at non-decreasing times. -/
def NonDecreasingTimes (calls : List RelayCall) : Prop :=
  (authorizeTimes calls).Pairwise (· ≤ ·)

instance (calls : List RelayCall) : Decidable (NonDecreasingTimes calls) :=
  inferInstanceAs (Decidable (List.Pairwise _ _))

/-- The key is cached with a time not before `since`, or `since` is outside
the replay window. -/
def Guarded (cache : RelayReplayTable) (key : String) (since now : Int) : Prop :=
  (Exists fun seen => cache.lookup key = some seen /\ since ≤ seen.seenAt) \/
    relayReplayTtlSeconds < now - since

theorem Guarded.later {cache : RelayReplayTable} {key : String} {since now later : Int}
    (guarded : Guarded cache key since now) (order : now ≤ later) :
    Guarded cache key since later := by
  rcases guarded with cached | expired
  · exact Or.inl cached
  · exact Or.inr (by omega)

/-- A guarded key is fresh only outside the replay window. -/
theorem Guarded.expired_of_fresh {cache : RelayReplayTable} {key : String} {since now : Int}
    (guarded : Guarded cache key since now)
    (fresh : GatewayState.ReplayFresh cache key now) :
    relayReplayTtlSeconds < now - since := by
  rcases guarded with ⟨seen, found, order⟩ | expired
  · have outside := fresh seen found
    omega
  · exact expired

theorem Guarded.pruneRelayReplayCache {state : GatewayState} {key : String} {since now : Int}
    (guarded : Guarded state.relayReplayCache key since now) :
    Guarded (state.pruneRelayReplayCache now).relayReplayCache key since now := by
  rcases guarded with ⟨seen, found, order⟩ | expired
  · by_cases recent : now - seen.seenAt ≤ relayReplayTtlSeconds
    · exact Or.inl ⟨seen,
        GatewayState.lookup_pruneRelayReplayCache_of_recent found recent, order⟩
    · exact Or.inr (by omega)
  · exact Or.inr expired

/-- Recording any key at a later time keeps the guard. -/
theorem Guarded.recordReplay {state : GatewayState} {key : String} {since now : Int}
    (guarded : Guarded state.relayReplayCache key since now) (order : since ≤ now)
    (recorded : String) :
    Guarded (state.recordReplay recorded now).relayReplayCache key since now := by
  by_cases same : key = recorded
  · refine Or.inl ⟨{ seenAt := now }, ?_, order⟩
    simp only [GatewayState.recordReplay, HashTable.lookup_insert_ite, if_pos same]
  · rcases guarded with ⟨seen, found, before⟩ | expired
    · refine Or.inl ⟨seen, ?_, before⟩
      simp only [GatewayState.recordReplay, HashTable.lookup_insert_ite, if_neg same]
      exact found
    · exact Or.inr expired

theorem Guarded.ensureNonceFresh {state : GatewayState} {key : String} {since now : Int}
    (guarded : Guarded state.relayReplayCache key since now) (order : since ≤ now)
    (sender commandName contextId : String) (replayNonce : Option String) :
    Guarded (state.ensureNonceFresh sender commandName contextId replayNonce
      now).2.relayReplayCache key since now := by
  rcases GatewayState.ensureNonceFresh_cases state sender commandName contextId replayNonce now with
    ⟨_, _, same⟩ | ⟨_, same⟩ | ⟨_, nonce, _, _, same⟩
  · rw [same]
    exact guarded
  · rw [same]
    exact guarded
  · rw [same]
    exact (guarded.recordReplay order _).pruneRelayReplayCache

/-- A nonce that passed the check is guarded from then on. -/
theorem guarded_of_ensureNonceFresh {state : GatewayState} {nonce : String}
    (visible : trim nonce ≠ "") (sender commandName contextId : String) (now : Int)
    (fresh : GatewayState.NonceFresh state.relayReplayCache sender commandName contextId
      (some nonce) now) :
    Guarded (state.ensureNonceFresh sender commandName contextId (some nonce)
      now).2.relayReplayCache
      (GatewayState.relayReplayKey sender commandName contextId (trim nonce)) now now := by
  rcases GatewayState.ensureNonceFresh_cases state sender commandName contextId (some nonce) now
    with ⟨_, blank, _⟩ | ⟨seen, _⟩ | ⟨_, given, same, _, recorded⟩
  · exact absurd (blank nonce rfl) visible
  · exact absurd fresh seen
  · cases same
    rw [recorded]
    apply Guarded.pruneRelayReplayCache
    refine Or.inl ⟨{ seenAt := now }, ?_, le_refl now⟩
    exact AList.lookup_insert _

/-! ## Counters that account for the admissions of their second -/

/-- Every key has at most 240 admissions, and if it has any, then its counter
belongs to its second and counts at least these. -/
def RatesCounted (toLowercase : String -> String) (admissions : List Admission)
    (counters : RelayRateTable) : Prop :=
  forall sender commandName contextId time,
    let key := GatewayState.relayRateKey toLowercase sender commandName contextId time
    let accepted := admissions.countP fun admission =>
      decide (admission.rateKey toLowercase = key)
    accepted ≤ relayRateLimitDefault /\
    (accepted ≠ 0 -> Exists fun counter => counters.lookup key = some counter /\
      counter.windowStart = time /\ accepted ≤ counter.count)

/-- The second is the last part of a rate key and can be read off it. -/
theorem relayRateKey_time {toLowercase : String -> String}
    {sender commandName contextId otherSender otherCommandName otherContextId : String}
    {time otherTime : Int}
    (same : GatewayState.relayRateKey toLowercase sender commandName contextId time =
      GatewayState.relayRateKey toLowercase otherSender otherCommandName otherContextId
        otherTime) : time = otherTime :=
  repr_eq_of_delimited_eq same

namespace RatesCounted

variable {toLowercase : String -> String} {admissions : List Admission} {state : GatewayState}

/-- The counter that a check works with accounts for all earlier admissions. -/
theorem le_currentRelayRate
    (counted : RatesCounted toLowercase admissions state.relayRateCounters)
    (sender commandName contextId : String) (time : Int) :
    let key := GatewayState.relayRateKey toLowercase sender commandName contextId time
    (admissions.countP fun admission => decide (admission.rateKey toLowercase = key)) ≤
      (state.currentRelayRate key time).count := by
  intro key
  by_cases zero : (admissions.countP fun admission =>
      decide (admission.rateKey toLowercase = key)) = 0
  · rw [zero]
    exact Nat.zero_le _
  · rcases (counted sender commandName contextId time).2 zero with
      ⟨counter, found, sameTime, bound⟩
    have current : state.currentRelayRate key time = counter := by
      unfold GatewayState.currentRelayRate
      rw [found]
      exact if_neg (not_not.mpr sameTime)
    rw [current]
    exact bound

/-- Writing the counter of a refused call back keeps the account. -/
theorem refused (counted : RatesCounted toLowercase admissions state.relayRateCounters)
    (sender commandName contextId : String) (now : Int) :
    let key := GatewayState.relayRateKey toLowercase sender commandName contextId now
    RatesCounted toLowercase admissions
      (state.relayRateCounters.insert key (state.currentRelayRate key now)) := by
  intro key otherSender otherCommandName otherContextId time
  dsimp only
  refine ⟨(counted otherSender otherCommandName otherContextId time).1, ?_⟩
  intro positive
  rw [HashTable.lookup_insert_ite]
  by_cases same : GatewayState.relayRateKey toLowercase otherSender otherCommandName otherContextId
      time = key
  · have sameTime : time = now := relayRateKey_time same
    rw [if_pos same]
    refine ⟨_, rfl, ?_, ?_⟩
    · rw [sameTime]
      exact GatewayState.currentRelayRate_windowStart state key now
    · rw [same]
      exact counted.le_currentRelayRate sender commandName contextId now
  · rw [if_neg same]
    exact (counted otherSender otherCommandName otherContextId time).2 positive

/-- Counting an admission below the limit keeps the account. -/
theorem admitted (counted : RatesCounted toLowercase admissions state.relayRateCounters)
    (admission : Admission)
    (below : GatewayState.RateBelowLimit state.relayRateCounters (admission.rateKey toLowercase)
      admission.call.now) :
    let key := admission.rateKey toLowercase
    let counter := state.currentRelayRate key admission.call.now
    RatesCounted toLowercase (admissions ++ [admission])
      (state.relayRateCounters.insert key { counter with count := counter.count + 1 }) := by
  intro key counter otherSender otherCommandName otherContextId time
  have limit : counter.count < relayRateLimitDefault :=
    (GatewayState.rateBelowLimit_iff state key admission.call.now).mp below
  have earlier := counted.le_currentRelayRate (admission.sender toLowercase)
    admission.call.commandName admission.decision.contextId admission.call.now
  dsimp only
  rw [List.countP_append, List.countP_singleton, HashTable.lookup_insert_ite]
  by_cases same : GatewayState.relayRateKey toLowercase otherSender otherCommandName otherContextId
      time = key
  · have sameTime : time = admission.call.now := relayRateKey_time same
    have isKey : decide (admission.rateKey toLowercase = key) = true := decide_eq_true rfl
    have bound : (admissions.countP fun other =>
        decide (other.rateKey toLowercase = key)) ≤ counter.count := earlier
    rw [if_pos same, same, if_pos isKey]
    refine ⟨by omega, fun _ => ⟨_, rfl, ?_, by dsimp only; omega⟩⟩
    rw [sameTime]
    exact GatewayState.currentRelayRate_windowStart state key admission.call.now
  · have notKey : Not (decide (admission.rateKey toLowercase =
        GatewayState.relayRateKey toLowercase otherSender otherCommandName otherContextId time) =
          true) := by
      rw [decide_eq_true_eq]
      exact fun equal => same equal.symm
    rw [if_neg same, if_neg notKey, Nat.add_zero]
    exact counted otherSender otherCommandName otherContextId time

end RatesCounted

/-! ## The invariant of runs -/

/-- Two admissions of one nonce are further apart than the replay window. -/
def Separated (toLowercase : String -> String) (earlier later : Admission) : Prop :=
  forall nonce,
    earlier.sender toLowercase = later.sender toLowercase ->
    earlier.call.commandName = later.call.commandName ->
    earlier.decision.contextId = later.decision.contextId ->
    earlier.call.replayNonce.map trim = some nonce ->
    later.call.replayNonce.map trim = some nonce -> nonce ≠ "" ->
    600 < later.call.now - earlier.call.now

/-- What the caches and counters remember of the calls so far. -/
structure RelayAccounted (toLowercase : String -> String) (calls : List RelayCall)
    (run : RelayRun) : Prop where
  times : forall admission, admission ∈ run.admissions ->
    admission.call.now ∈ authorizeTimes calls
  guarded : forall now, (forall time, time ∈ authorizeTimes calls -> time ≤ now) ->
    forall admission, admission ∈ run.admissions ->
    forall nonce, admission.call.replayNonce = some nonce -> trim nonce ≠ "" ->
      Guarded run.state.relayReplayCache (admission.replayKey toLowercase nonce)
        admission.call.now now
  separated : run.admissions.Pairwise (Separated toLowercase)
  counted : RatesCounted toLowercase run.admissions run.state.relayRateCounters

/-- Calls that touch neither table and admit nothing keep the account. -/
theorem RelayAccounted.of_tables_eq {toLowercase : String -> String} {calls : List RelayCall}
    {run : RelayRun} (accounted : RelayAccounted toLowercase calls run) (call : RelayCall)
    {state : GatewayState} (cache : state.relayReplayCache = run.state.relayReplayCache)
    (counters : state.relayRateCounters = run.state.relayRateCounters) :
    RelayAccounted toLowercase (calls ++ [call])
      { state := state, admissions := run.admissions } where
  times := by
    intro admission member
    rw [authorizeTimes_append]
    exact List.mem_append_left _ (accounted.times admission member)
  guarded := by
    intro now latest admission member nonce given visible
    rw [authorizeTimes_append] at latest
    dsimp only
    rw [cache]
    exact accounted.guarded now (fun time before => latest time (List.mem_append_left _ before))
      admission member nonce given visible
  separated := accounted.separated
  counted := by
    dsimp only
    rw [counters]
    exact accounted.counted

section Authorize

variable {toLowercase : String -> String} {calls : List RelayCall} {run : RelayRun}
  {call : AuthorizeCall}

theorem RelayAccounted.times_append (accounted : RelayAccounted toLowercase calls run)
    {admission : Admission} (member : admission ∈ run.admissions) (call : RelayCall) :
    admission.call.now ∈ authorizeTimes (calls ++ [call]) := by
  rw [authorizeTimes_append]
  exact List.mem_append_left _ (accounted.times admission member)

theorem now_mem_authorizeTimes (calls : List RelayCall) (call : AuthorizeCall) :
    call.now ∈ authorizeTimes (calls ++ [.authorize call]) := by
  rw [authorizeTimes_append]
  exact List.mem_append_right _ List.mem_cons_self

/-- Earlier admissions stay guarded through the nonce check of the next call. -/
theorem RelayAccounted.guarded_ensureNonceFresh
    (accounted : RelayAccounted toLowercase calls run)
    (latest : forall time, time ∈ authorizeTimes calls -> time ≤ call.now) {now : Int}
    (reached : call.now ≤ now) (sender commandName contextId : String) {admission : Admission}
    (member : admission ∈ run.admissions) {nonce : String}
    (given : admission.call.replayNonce = some nonce) (visible : trim nonce ≠ "") :
    Guarded (run.state.ensureNonceFresh sender commandName contextId call.replayNonce
      call.now).2.relayReplayCache (admission.replayKey toLowercase nonce) admission.call.now
      now := by
  have before := accounted.guarded call.now latest admission member nonce given visible
  have order := latest _ (accounted.times admission member)
  exact (before.ensureNonceFresh order sender commandName contextId call.replayNonce).later reached

/-- A fresh nonce is separated from its earlier admissions. -/
theorem RelayAccounted.separated_of_fresh (accounted : RelayAccounted toLowercase calls run)
    (latest : forall time, time ∈ authorizeTimes calls -> time ≤ call.now)
    {decision : RelayAuthDecision}
    (fresh : GatewayState.NonceFresh run.state.relayReplayCache
      (normalize toLowercase call.senderEmail) call.commandName decision.contextId
      call.replayNonce call.now) {earlier : Admission} (member : earlier ∈ run.admissions) :
    Separated toLowercase earlier ⟨call, decision⟩ := by
  intro nonce sameSender sameCommand sameContext earlierNonce laterNonce visible
  rcases Option.map_eq_some_iff.mp earlierNonce with ⟨earlierGiven, earlierSame, trimmed⟩
  rcases Option.map_eq_some_iff.mp laterNonce with ⟨laterGiven, laterSame, rfl⟩
  have guarded := accounted.guarded call.now latest earlier member earlierGiven earlierSame
    (by rw [trimmed]; exact visible)
  have sameKey : earlier.replayKey toLowercase earlierGiven =
      GatewayState.relayReplayKey (normalize toLowercase call.senderEmail) call.commandName
        decision.contextId (trim laterGiven) := by
    rw [Admission.replayKey, sameSender, sameCommand, sameContext, trimmed]
    rfl
  rw [sameKey] at guarded
  exact guarded.expired_of_fresh (fresh laterGiven laterSame visible)

/-- A call that is refused for its rate has still recorded its nonce. -/
theorem RelayAccounted.refuseRate (accounted : RelayAccounted toLowercase calls run)
    (latest : forall time, time ∈ authorizeTimes calls -> time ≤ call.now)
    (sender commandName contextId : String) :
    let key := GatewayState.relayRateKey toLowercase sender commandName contextId call.now
    RelayAccounted toLowercase (calls ++ [.authorize call])
      { state :=
          { (run.state.ensureNonceFresh sender commandName contextId call.replayNonce
              call.now).2 with
            relayRateCounters := run.state.relayRateCounters.insert key
              (run.state.currentRelayRate key call.now) }
        admissions := run.admissions } where
  times := fun _ member => accounted.times_append member _
  guarded := fun _ every _ member _ given visible =>
    accounted.guarded_ensureNonceFresh latest (every _ (now_mem_authorizeTimes calls call)) sender
      commandName contextId member given visible
  separated := accounted.separated
  counted := accounted.counted.refused sender commandName contextId call.now

/-- A call that passes both checks is added to the account. -/
theorem RelayAccounted.admit (accounted : RelayAccounted toLowercase calls run)
    (latest : forall time, time ∈ authorizeTimes calls -> time ≤ call.now)
    (decision : RelayAuthDecision)
    (fresh : GatewayState.NonceFresh run.state.relayReplayCache
      (normalize toLowercase call.senderEmail) call.commandName decision.contextId
      call.replayNonce call.now)
    (below : GatewayState.RateBelowLimit run.state.relayRateCounters
      ((⟨call, decision⟩ : Admission).rateKey toLowercase) call.now) :
    let key := (⟨call, decision⟩ : Admission).rateKey toLowercase
    let counter := run.state.currentRelayRate key call.now
    RelayAccounted toLowercase (calls ++ [.authorize call])
      { state :=
          { (run.state.ensureNonceFresh (normalize toLowercase call.senderEmail)
              call.commandName decision.contextId call.replayNonce call.now).2 with
            relayRateCounters := run.state.relayRateCounters.insert key
              { counter with count := counter.count + 1 } }
        admissions := run.admissions ++ [⟨call, decision⟩] } := by
  constructor
  · intro admission member
    rcases List.mem_append.mp member with earlier | new
    · exact accounted.times_append earlier _
    · rw [List.mem_singleton.mp new]
      exact now_mem_authorizeTimes calls call
  · intro now every admission member nonce given visible
    have reached := every _ (now_mem_authorizeTimes calls call)
    rcases List.mem_append.mp member with earlier | new
    · exact accounted.guarded_ensureNonceFresh latest reached _ _ _ earlier given visible
    · have same := List.mem_singleton.mp new
      subst same
      dsimp only at given
      rw [given] at fresh ⊢
      exact (guarded_of_ensureNonceFresh visible _ _ _ _ fresh).later reached
  · rw [List.pairwise_append]
    refine ⟨accounted.separated, List.pairwise_singleton _ _, ?_⟩
    intro earlier member later new
    rw [List.mem_singleton.mp new]
    exact accounted.separated_of_fresh latest fresh member
  · exact accounted.counted.admitted ⟨call, decision⟩ below

/-- An authorize call that is not made before any earlier one keeps the account:
whether its nonce or its rate is refused, or it is admitted. -/
theorem RelayAccounted.authorize (accounted : RelayAccounted toLowercase calls run)
    (latest : forall time, time ∈ authorizeTimes calls -> time ≤ call.now) :
    RelayAccounted toLowercase (calls ++ [.authorize call])
      (run.step toLowercase (.authorize call)) := by
  have refused : forall error after, call.perform toLowercase run.state = (.error error, after) ->
      run.step toLowercase (.authorize call) =
        { state := after, admissions := run.admissions } := by
    intro error after result
    simp only [RelayRun.step, AuthorizeCall.admission, result, List.append_nil]
  have admitted : forall decision after,
      call.perform toLowercase run.state = (.ok decision, after) ->
      run.step toLowercase (.authorize call) =
        { state := after, admissions := run.admissions ++ [⟨call, decision⟩] } := by
    intro decision after result
    simp only [RelayRun.step, AuthorizeCall.admission, result]
  rcases GatewayState.authorizeRelayHotpath_cases toLowercase run.state call.senderEmail
    call.commandName call.authSpec call.operationKey call.targetEmails call.replayNonce
    call.payloadSizeHint call.now with
    ⟨error, unchanged⟩ | ⟨_, entry, context, _, _, _, selected⟩
  · rw [refused error run.state unchanged]
    exact accounted.of_tables_eq (.authorize call) rfl rfl
  · rcases GatewayState.admitRelay_cases toLowercase run.state
      (normalize toLowercase call.senderEmail) call.commandName context call.replayNonce call.now
      with ⟨_, outcome⟩ | ⟨_, _, outcome⟩ | ⟨fresh, below, outcome⟩
    · rw [refused _ _ (selected.trans outcome)]
      exact accounted.of_tables_eq (.authorize call) rfl rfl
    · rw [refused _ _ (selected.trans outcome)]
      exact accounted.refuseRate latest _ _ _
    · rw [admitted _ _ (selected.trans outcome)]
      exact accounted.admit latest ⟨context.contextId, context.policyVersion⟩ fresh below

end Authorize

theorem RelayAccounted.step {toLowercase : String -> String} {calls : List RelayCall}
    {run : RelayRun} (accounted : RelayAccounted toLowercase calls run) (call : RelayCall)
    (ordered : NonDecreasingTimes (calls ++ [call])) :
    RelayAccounted toLowercase (calls ++ [call]) (run.step toLowercase call) := by
  cases call with
  | applySnapshot clock snapshot =>
      rcases GatewayState.applyRelayContextSnapshot_touches toLowercase clock run.state snapshot
        with ⟨contexts, touched⟩
      rw [RelayRun.step, touched]
      exact accounted.of_tables_eq _ rfl rfl
  | authorize call =>
      apply accounted.authorize
      intro time before
      rw [NonDecreasingTimes, authorizeTimes_append, List.pairwise_append] at ordered
      exact ordered.2.2 time before call.now List.mem_cons_self

theorem relayAccounted_run (toLowercase : String -> String) (maxConnectionsPerUser : Option Nat)
    (calls : List RelayCall) (ordered : NonDecreasingTimes calls) :
    RelayAccounted toLowercase calls (relayRun toLowercase maxConnectionsPerUser calls) := by
  refine foldl_history (fun history run => NonDecreasingTimes history ->
    RelayAccounted toLowercase history run) ?_ ?_ calls ordered
  · intro _
    constructor
    · intro admission member
      cases member
    · intro now _ admission member
      cases member
    · exact List.Pairwise.nil
    · intro sender commandName contextId time
      exact ⟨Nat.zero_le _, fun positive => absurd rfl positive⟩
  · intro history run call before orderedNow
    apply RelayAccounted.step _ call orderedNow
    apply before
    rw [NonDecreasingTimes, authorizeTimes_append, List.pairwise_append] at orderedNow
    exact orderedNow.1

/-- In every run with non-decreasing times, admissions of one nonce are more
than 600 seconds apart, and in every second a sender gets at most 240
admissions for one command and context. -/
theorem relay_replay_and_rate_admission (toLowercase : String -> String)
    (maxConnectionsPerUser : Option Nat) (calls : List RelayCall)
    (ordered : NonDecreasingTimes calls) :
    let admissions := (relayRun toLowercase maxConnectionsPerUser calls).admissions
    (admissions.Pairwise fun earlier later => forall nonce,
      earlier.sender toLowercase = later.sender toLowercase ->
      earlier.call.commandName = later.call.commandName ->
      earlier.decision.contextId = later.decision.contextId ->
      earlier.call.replayNonce.map trim = some nonce ->
      later.call.replayNonce.map trim = some nonce -> nonce ≠ "" ->
      600 < later.call.now - earlier.call.now) /\
    forall time sender commandName contextId,
      (admissions.countP fun admission => decide (admission.call.now = time /\
        admission.sender toLowercase = sender /\ admission.call.commandName = commandName /\
        admission.decision.contextId = contextId)) ≤ 240 := by
  intro admissions
  have accounted := relayAccounted_run toLowercase maxConnectionsPerUser calls ordered
  refine ⟨accounted.separated, ?_⟩
  intro time sender commandName contextId
  refine le_trans (List.countP_mono_left ?_) (accounted.counted sender commandName contextId time).1
  intro admission _ matching
  rcases of_decide_eq_true matching with ⟨sameTime, sameSender, sameCommand, sameContext⟩
  apply decide_eq_true
  rw [Admission.rateKey, sameTime, sameSender, sameCommand, sameContext]

/-- One nonce offered three times: the second offer comes too early, the third
after the replay window. -/
theorem relay_replay_and_rate_admission_of_three_offers :
    let context : RelayOperationContext :=
      { contextId := "ctx"
        operationKey := "op"
        operationClass := "file"
        contextType := .fileTransferPeer
        state := .active
        authorizedSubject := "Alice@x"
        audienceScope := { mode := .explicitSubset, peers := ["bob@x"] }
        allowedCommandFamilies := ["offer"]
        policyVersion := 1
        grant := { grantId := "g", policyVersion := 1, issuedAt := 0, expiresAt := 0 }
        openedAt := 0
        updatedAt := 0
        expiresAt := 0 }
    let offer : Int -> RelayCall := fun now => .authorize
      { senderEmail := " alice@x"
        commandName := "file_offer"
        authSpec :=
          { requiresRelayContext := true
            relayContextType := .fileTransferPeer
            audienceScopeMode := .explicitSubset
            guardClass := .contextBoundPeer
            commandFamily := "Offer"
            operationKeyField := "key" }
        operationKey := "op"
        targetEmails := ["Bob@x"]
        replayNonce := some "n1"
        payloadSizeHint := none
        now := now }
    let calls : List RelayCall :=
      [.applySnapshot 0
          { subjectEmail := "alice@x"
            contextType := .fileTransferPeer
            policyVersion := 1
            contexts := [context]
            receivedAt := 0 },
        offer 10, offer 610, offer 611]
    let admissions := (relayRun asciiLowercase none calls).admissions
    (admissions.map fun admission => admission.call.now) = [10, 611] /\
    (admissions.Pairwise fun earlier later => forall nonce,
      earlier.sender asciiLowercase = later.sender asciiLowercase ->
      earlier.call.commandName = later.call.commandName ->
      earlier.decision.contextId = later.decision.contextId ->
      earlier.call.replayNonce.map trim = some nonce ->
      later.call.replayNonce.map trim = some nonce -> nonce ≠ "" ->
      600 < later.call.now - earlier.call.now) /\
    forall time sender commandName contextId,
      (admissions.countP fun admission => decide (admission.call.now = time /\
        admission.sender asciiLowercase = sender /\ admission.call.commandName = commandName /\
        admission.decision.contextId = contextId)) ≤ 240 :=
  ⟨by decide +kernel, relay_replay_and_rate_admission asciiLowercase none _ (by decide)⟩

end State
end Gateway

import Gateway.State.RelayCalls

namespace Gateway
namespace State

open Foundation

/-!
# Calls that share their bookkeeping

The replay cache and the rate counters are keyed by texts in which the sender,
the command and the context are joined with a bar, and the rate keys are
lower-cased besides.  Two calls for different contexts disturb each other exactly
if their joined keys are equal, or if the clock of the second lies behind that of
the first, whose pruning then forgets what the second still needs.
-/

section Collisions

variable (toLowercase : String -> String)

/-- The calls are decided for the same sender, command and context. -/
def AuthorizeCall.SameTriple (earlier later : AuthorizeCall)
    (earlierContext laterContext : RelayOperationContext) : Prop :=
  earlier.sender toLowercase = later.sender toLowercase /\
  earlier.commandName = later.commandName /\
  earlierContext.contextId = laterContext.contextId

/-- Whatever the tables hold, the later call has the same outcome after the
earlier one as without it.  Calls of one triple must have room for both in the
limit. -/
def AuthorizeCall.Independent (earlier later : AuthorizeCall)
    (earlierContext laterContext : RelayOperationContext) (store : RelayContextTable) : Prop :=
  forall state : GatewayState, state.relayContextsBySubject = store ->
    (earlier.SameTriple toLowercase later earlierContext laterContext ->
      (later.currentCounter toLowercase laterContext.contextId state).count + 1 <
        relayRateLimitDefault) ->
    (later.perform toLowercase (earlier.perform toLowercase state).2).1 =
      (later.perform toLowercase state).1

/-- Two visible nonces are checked in the order of their times, and under
different keys unless the first is forgotten. -/
def AuthorizeCall.NoncesApart (earlier later : AuthorizeCall)
    (earlierContext laterContext : RelayOperationContext) : Prop :=
  forall earlierNonce laterNonce, earlier.visibleNonce = some earlierNonce ->
    later.visibleNonce = some laterNonce ->
      earlier.now ≤ later.now /\
      (earlier.replayKey toLowercase earlierContext.contextId earlierNonce =
          later.replayKey toLowercase laterContext.contextId laterNonce ->
        relayReplayTtlSeconds < later.now - earlier.now)

/-- Calls of different triples are counted under different keys. -/
def AuthorizeCall.RatesApart (earlier later : AuthorizeCall)
    (earlierContext laterContext : RelayOperationContext) : Prop :=
  earlier.SameTriple toLowercase later earlierContext laterContext \/
    earlier.rateKey toLowercase earlierContext.contextId ≠
      later.rateKey toLowercase laterContext.contextId

/-! ## What the later call finds -/

variable {toLowercase}

/-- Pruning at an earlier time forgets nothing that matters later. -/
theorem replayFresh_pruneRelayReplayCache_iff (state : GatewayState) (key : String)
    {now later : Int} (order : now ≤ later) :
    GatewayState.ReplayFresh (state.pruneRelayReplayCache now).relayReplayCache key later <->
      GatewayState.ReplayFresh state.relayReplayCache key later := by
  unfold GatewayState.pruneRelayReplayCache
  split
  · exact Iff.rfl
  · unfold GatewayState.ReplayFresh
    dsimp only
    rw [HashTable.lookup_eraseAll_filter]
    constructor
    · intro fresh seen found
      by_contra recent
      have kept : decide (relayReplayTtlSeconds < saturatingSub now seen.seenAt) = false := by
        rw [decide_eq_false_iff_not, GatewayState.relayReplayTtl_lt_saturatingSub]
        omega
      refine recent (fresh seen ?_)
      rw [found, Option.filter_some, kept, Bool.not_false, if_pos rfl]
    · intro fresh seen found
      exact fresh seen (Option.filter_eq_some_iff.mp found).1

/-- A nonce that is recorded later refuses nothing that was not refused before,
if its key differs or its record is too old. -/
theorem replayFresh_recordReplay_iff {state : GatewayState} {recorded key : String}
    {now later : Int} (fresh : GatewayState.ReplayFresh state.relayReplayCache recorded now)
    (order : now ≤ later)
    (apart : recorded = key -> relayReplayTtlSeconds < later - now) :
    GatewayState.ReplayFresh ((state.recordReplay recorded now).pruneRelayReplayCache
        now).relayReplayCache key later <->
      GatewayState.ReplayFresh state.relayReplayCache key later := by
  rw [replayFresh_pruneRelayReplayCache_iff _ _ order]
  unfold GatewayState.ReplayFresh GatewayState.recordReplay
  dsimp only
  rw [HashTable.lookup_insert_ite]
  by_cases same : key = recorded
  · subst same
    have old := apart rfl
    rw [if_pos rfl]
    refine iff_of_true ?_ ?_
    · rintro _ ⟨⟩
      exact old
    · intro seen found
      have expired := fresh seen found
      omega
  · rw [if_neg same]

variable {earlier later : AuthorizeCall} {earlierContext laterContext : RelayOperationContext}

theorem AuthorizeCall.NoncesApart.nonceFresh_iff
    (apart : earlier.NoncesApart toLowercase later earlierContext laterContext)
    (state : GatewayState) :
    later.NonceFresh toLowercase laterContext.contextId
        (earlier.admitUnder toLowercase earlierContext state).2.relayReplayCache <->
      later.NonceFresh toLowercase laterContext.contextId state.relayReplayCache := by
  rcases earlier.admitUnder_replayCache toLowercase earlierContext state with
    ⟨fresh, nonce, given, written⟩ | ⟨_, written⟩
  · rw [written, later.nonceFresh_iff, later.nonceFresh_iff]
    refine forall₂_congr fun laterNonce laterGiven => ?_
    have parts := apart nonce laterNonce given laterGiven
    exact replayFresh_recordReplay_iff
      ((earlier.nonceFresh_iff toLowercase earlierContext.contextId _).mp fresh nonce given)
      parts.1 parts.2
  · rw [written]

/-- A counter under another key is not touched. -/
theorem currentRelayRate_admitUnder_of_ne (state : GatewayState) {key : String}
    (different : earlier.rateKey toLowercase earlierContext.contextId ≠ key) (window : Int) :
    (earlier.admitUnder toLowercase earlierContext state).2.currentRelayRate key window =
      state.currentRelayRate key window := by
  unfold GatewayState.currentRelayRate
  rcases earlier.admitUnder_rateCounters toLowercase earlierContext state with
    ⟨_, written⟩ | ⟨_, _, written⟩ | ⟨_, _, written⟩
  · rw [written]
  · rw [written, AList.lookup_insert_ne (Ne.symm different)]
  · rw [written, AList.lookup_insert_ne (Ne.symm different)]

theorem rateBelowLimit_admitUnder_of_ne (state : GatewayState)
    (different : earlier.rateKey toLowercase earlierContext.contextId ≠
      later.rateKey toLowercase laterContext.contextId) :
    later.RateBelowLimit toLowercase laterContext.contextId
        (earlier.admitUnder toLowercase earlierContext state).2.relayRateCounters <->
      later.RateBelowLimit toLowercase laterContext.contextId state.relayRateCounters := by
  unfold AuthorizeCall.RateBelowLimit
  rw [GatewayState.rateBelowLimit_iff, GatewayState.rateBelowLimit_iff,
    currentRelayRate_admitUnder_of_ne state different]

theorem rateBelowLimit_of_currentCounter {call : AuthorizeCall} {contextId : String}
    {state : GatewayState}
    (below : (call.currentCounter toLowercase contextId state).count < relayRateLimitDefault) :
    call.RateBelowLimit toLowercase contextId state.relayRateCounters :=
  (GatewayState.rateBelowLimit_iff state _ _).mpr below

/-- With room for two, both calls are below the limit. -/
theorem rateBelowLimit_admitUnder_of_room (state : GatewayState)
    (room : (later.currentCounter toLowercase laterContext.contextId state).count + 1 <
      relayRateLimitDefault) :
    later.RateBelowLimit toLowercase laterContext.contextId
        (earlier.admitUnder toLowercase earlierContext state).2.relayRateCounters <->
      later.RateBelowLimit toLowercase laterContext.contextId state.relayRateCounters := by
  by_cases different : earlier.rateKey toLowercase earlierContext.contextId ≠
      later.rateKey toLowercase laterContext.contextId
  · exact rateBelowLimit_admitUnder_of_ne state different
  · refine iff_of_true ?_ (rateBelowLimit_of_currentCounter (by omega))
    have sameKey := not_not.mp different
    have sameNow : earlier.now = later.now := relayRateKey_time sameKey
    have sameCounter : earlier.currentCounter toLowercase earlierContext.contextId state =
        later.currentCounter toLowercase laterContext.contextId state := by
      rw [AuthorizeCall.currentCounter, AuthorizeCall.currentCounter, sameKey, sameNow]
    intro counter found _
    rcases earlier.admitUnder_rateCounters toLowercase earlierContext state with
      ⟨_, written⟩ | ⟨_, _, written⟩ | ⟨_, _, written⟩
    · have below : later.RateBelowLimit toLowercase laterContext.contextId
          state.relayRateCounters :=
        rateBelowLimit_of_currentCounter (by omega)
      rw [written] at found
      exact below counter found ‹_›
    · rw [written, sameKey, AList.lookup_insert, sameCounter] at found
      cases found
      omega
    · rw [written, sameKey, AList.lookup_insert, sameCounter] at found
      cases found
      exact room

/-- Calls that are apart are independent. -/
theorem AuthorizeCall.independent_of_apart {store : RelayContextTable}
    (earlierSelected : earlier.select toLowercase store = .ok earlierContext)
    (laterSelected : later.select toLowercase store = .ok laterContext)
    (nonces : earlier.NoncesApart toLowercase later earlierContext laterContext)
    (rates : earlier.RatesApart toLowercase later earlierContext laterContext) :
    earlier.Independent toLowercase later earlierContext laterContext store := by
  rintro state rfl room
  have contexts := earlier.perform_contexts toLowercase state
  rw [perform_of_ok toLowercase earlierSelected] at contexts ⊢
  rw [perform_of_ok toLowercase (contexts ▸ laterSelected), perform_of_ok toLowercase laterSelected]
  apply later.admitUnder_fst_congr toLowercase laterContext
  · exact nonces.nonceFresh_iff state
  · rcases rates with same | different
    · exact rateBelowLimit_admitUnder_of_room state (room same)
    · exact rateBelowLimit_admitUnder_of_ne state different

/-! ## Tables in which calls that are not apart meet -/

/-- The state with the given store and tables. -/
def tablesState (store : RelayContextTable) (cache : RelayReplayTable)
    (counters : RelayRateTable) : GatewayState :=
  { GatewayState.new none with
    relayContextsBySubject := store
    relayReplayCache := cache
    relayRateCounters := counters }

section Tables

variable (toLowercase)

theorem nonceFresh_empty (call : AuthorizeCall) (contextId : String) :
    call.NonceFresh toLowercase contextId ∅ := by
  rw [call.nonceFresh_iff]
  intro nonce _ seen found
  rw [AList.lookup_empty] at found
  cases found

theorem rateBelowLimit_empty (call : AuthorizeCall) (contextId : String) :
    call.RateBelowLimit toLowercase contextId ∅ := by
  intro counter found
  rw [AList.lookup_empty] at found
  cases found

theorem currentCounter_empty (call : AuthorizeCall) (contextId : String)
    (store : RelayContextTable) (cache : RelayReplayTable) :
    (call.currentCounter toLowercase contextId (tablesState store cache ∅)).count = 0 := by
  unfold AuthorizeCall.currentCounter GatewayState.currentRelayRate tablesState
  dsimp only
  rw [AList.lookup_empty]

theorem AuthorizeCall.admitUnder_ok_iff (call : AuthorizeCall) (context : RelayOperationContext)
    (state : GatewayState) :
    (call.admitUnder toLowercase context state).1 =
        .ok { contextId := context.contextId, policyVersion := context.policyVersion } <->
      call.NonceFresh toLowercase context.contextId state.relayReplayCache /\
        call.RateBelowLimit toLowercase context.contextId state.relayRateCounters := by
  unfold admitUnder
  rw [GatewayState.admitRelay_ok_iff, and_iff_left rfl]
  rfl

theorem AuthorizeCall.admitUnder_replayDetected_iff (call : AuthorizeCall)
    (context : RelayOperationContext) (state : GatewayState) :
    (call.admitUnder toLowercase context state).1 = .error .replayDetected <->
      Not (call.NonceFresh toLowercase context.contextId state.relayReplayCache) := by
  unfold admitUnder NonceFresh
  rcases GatewayState.admitRelay_cases toLowercase state (call.sender toLowercase)
    call.commandName context call.replayNonce call.now with
    ⟨seen, done⟩ | ⟨fresh, _, done⟩ | ⟨fresh, _, done⟩
  · rw [done]
    exact iff_of_true rfl seen
  · rw [done]
    exact iff_of_false nofun (not_not.mpr fresh)
  · rw [done]
    exact iff_of_false nofun (not_not.mpr fresh)

end Tables

/-- A fresh and visible nonce is recorded. -/
theorem AuthorizeCall.admitUnder_replayCache_of_fresh {call : AuthorizeCall}
    {context : RelayOperationContext} {state : GatewayState} {nonce : String}
    (given : call.visibleNonce = some nonce)
    (fresh : call.NonceFresh toLowercase context.contextId state.relayReplayCache) :
    (call.admitUnder toLowercase context state).2.relayReplayCache =
      ((state.recordReplay (call.replayKey toLowercase context.contextId nonce)
        call.now).pruneRelayReplayCache call.now).relayReplayCache := by
  rcases call.admitUnder_replayCache toLowercase context state with
    ⟨_, other, otherGiven, written⟩ | ⟨silent, _⟩
  · rw [given] at otherGiven
    cases otherGiven
    exact written
  · rw [silent fresh] at given
    cases given

section Meeting

variable {store : RelayContextTable}

/-- The outcome of the later call on given tables, after the earlier one. -/
theorem AuthorizeCall.Independent.admitUnder_fst
    (independent : earlier.Independent toLowercase later earlierContext laterContext store)
    (earlierSelected : earlier.select toLowercase store = .ok earlierContext)
    (laterSelected : later.select toLowercase store = .ok laterContext)
    (cache : RelayReplayTable) (counters : RelayRateTable)
    (room : earlier.SameTriple toLowercase later earlierContext laterContext ->
      (later.currentCounter toLowercase laterContext.contextId
        (tablesState store cache counters)).count + 1 < relayRateLimitDefault) :
    (later.admitUnder toLowercase laterContext
        (earlier.admitUnder toLowercase earlierContext (tablesState store cache counters)).2).1 =
      (later.admitUnder toLowercase laterContext (tablesState store cache counters)).1 := by
  have before : later.perform toLowercase (tablesState store cache counters) =
      later.admitUnder toLowercase laterContext (tablesState store cache counters) :=
    perform_of_ok toLowercase laterSelected
  have first : earlier.perform toLowercase (tablesState store cache counters) =
      earlier.admitUnder toLowercase earlierContext (tablesState store cache counters) :=
    perform_of_ok toLowercase earlierSelected
  have contexts := earlier.perform_contexts toLowercase (tablesState store cache counters)
  rw [first] at contexts
  have after : later.perform toLowercase
      (earlier.admitUnder toLowercase earlierContext (tablesState store cache counters)).2 =
        later.admitUnder toLowercase laterContext
          (earlier.admitUnder toLowercase earlierContext (tablesState store cache counters)).2 :=
    perform_of_ok toLowercase (by rw [contexts]; exact laterSelected)
  have same := independent (tablesState store cache counters) rfl room
  rwa [first, after, before] at same

/-- With equal replay keys the first nonce is taken for the second. -/
theorem AuthorizeCall.Independent.old_of_sameKey
    (independent : earlier.Independent toLowercase later earlierContext laterContext store)
    (earlierSelected : earlier.select toLowercase store = .ok earlierContext)
    (laterSelected : later.select toLowercase store = .ok laterContext)
    {earlierNonce laterNonce : String} (earlierGiven : earlier.visibleNonce = some earlierNonce)
    (laterGiven : later.visibleNonce = some laterNonce)
    (sameKey : earlier.replayKey toLowercase earlierContext.contextId earlierNonce =
      later.replayKey toLowercase laterContext.contextId laterNonce) :
    relayReplayTtlSeconds < later.now - earlier.now := by
  have same := independent.admitUnder_fst earlierSelected laterSelected ∅ ∅ fun _ => by
    rw [currentCounter_empty]
    decide
  have admitted := (later.admitUnder_ok_iff toLowercase laterContext (tablesState store ∅ ∅)).mpr
    ⟨nonceFresh_empty toLowercase later _, rateBelowLimit_empty toLowercase later _⟩
  rw [admitted] at same
  have fresh := ((later.admitUnder_ok_iff toLowercase laterContext _).mp same).1
  rw [later.nonceFresh_iff] at fresh
  have freshKey := fresh laterNonce laterGiven
  rw [admitUnder_replayCache_of_fresh earlierGiven (nonceFresh_empty toLowercase earlier _),
    sameKey] at freshKey
  exact freshKey _ (GatewayState.lookup_recorded _ _ _)

/-- Pruning a full cache forgets what is too old at the time of pruning. -/
theorem lookup_recorded_of_full {state : GatewayState} {recorded key : String} {now : Int}
    {seen : RelayReplayEntry} (full : relayReplayCacheMax ≤ state.relayReplayCache.entries.length)
    (unseen : state.relayReplayCache.lookup recorded = none) (different : recorded ≠ key)
    (found : state.relayReplayCache.lookup key = some seen)
    (old : relayReplayTtlSeconds < now - seen.seenAt) :
    ((state.recordReplay recorded now).pruneRelayReplayCache now).relayReplayCache.lookup key =
      none := by
  have stale : decide (relayReplayTtlSeconds < saturatingSub now seen.seenAt) = true :=
    decide_eq_true ((GatewayState.relayReplayTtl_lt_saturatingSub _ _).mpr old)
  have exceeds : Not ((state.relayReplayCache.insert recorded { seenAt := now }).entries.length ≤
      relayReplayCacheMax) := by
    rw [AList.entries_insert_of_notMem (AList.lookup_eq_none.mp unseen), List.length_cons]
    omega
  unfold GatewayState.pruneRelayReplayCache GatewayState.recordReplay
  dsimp only
  rw [if_neg exceeds]
  dsimp only
  rw [HashTable.lookup_eraseAll_filter, AList.lookup_insert_ne (Ne.symm different), found,
    Option.filter_some, stale]
  rfl

/-- A full cache is pruned at the time of the first call. -/
theorem AuthorizeCall.Independent.ordered
    (independent : earlier.Independent toLowercase later earlierContext laterContext store)
    (earlierSelected : earlier.select toLowercase store = .ok earlierContext)
    (laterSelected : later.select toLowercase store = .ok laterContext)
    {earlierNonce laterNonce : String} (earlierGiven : earlier.visibleNonce = some earlierNonce)
    (laterGiven : later.visibleNonce = some laterNonce)
    (different : earlier.replayKey toLowercase earlierContext.contextId earlierNonce ≠
      later.replayKey toLowercase laterContext.contextId laterNonce) :
    earlier.now ≤ later.now := by
  by_contra behind
  -- the nonce of the second call was seen just within its window
  rcases HashTable.exists_large
    ((∅ : RelayReplayTable).insert
      (later.replayKey toLowercase laterContext.contextId laterNonce)
      { seenAt := later.now - 600 })
    {earlier.replayKey toLowercase earlierContext.contextId earlierNonce,
      later.replayKey toLowercase laterContext.contextId laterNonce}
    { seenAt := 0 } relayReplayCacheMax with ⟨cache, full, same⟩
  have laterSeen := same _ (Finset.mem_insert_of_mem (Finset.mem_singleton_self _))
  have earlierUnseen := same _ (Finset.mem_insert_self _ _)
  rw [AList.lookup_insert] at laterSeen
  rw [AList.lookup_insert_ne different, AList.lookup_empty] at earlierUnseen
  have outcome := independent.admitUnder_fst earlierSelected laterSelected cache ∅ fun _ => by
    rw [currentCounter_empty]
    decide
  have earlierFresh : earlier.NonceFresh toLowercase earlierContext.contextId cache := by
    rw [earlier.nonceFresh_iff]
    intro nonce given seen found
    rw [earlierGiven] at given
    cases given
    rw [earlierUnseen] at found
    cases found
  have laterReplayed : Not (later.NonceFresh toLowercase laterContext.contextId cache) := by
    rw [later.nonceFresh_iff]
    intro fresh
    have outside := fresh laterNonce laterGiven _ laterSeen
    dsimp only [relayReplayTtlSeconds] at outside
    omega
  have laterFresh : later.NonceFresh toLowercase laterContext.contextId
      (earlier.admitUnder toLowercase earlierContext
        (tablesState store cache ∅)).2.relayReplayCache := by
    rw [admitUnder_replayCache_of_fresh earlierGiven earlierFresh, later.nonceFresh_iff]
    intro nonce given seen found
    rw [laterGiven] at given
    cases given
    rw [lookup_recorded_of_full full earlierUnseen different laterSeen (by
      dsimp only [relayReplayTtlSeconds]
      omega)] at found
    cases found
  rw [(later.admitUnder_replayDetected_iff toLowercase laterContext
    (tablesState store cache ∅)).mpr laterReplayed] at outcome
  exact (later.admitUnder_replayDetected_iff toLowercase laterContext _).mp outcome laterFresh

/-- With equal rate keys the first call takes the last place of the second. -/
theorem AuthorizeCall.Independent.ratesApart
    (independent : earlier.Independent toLowercase later earlierContext laterContext store)
    (earlierSelected : earlier.select toLowercase store = .ok earlierContext)
    (laterSelected : later.select toLowercase store = .ok laterContext) :
    earlier.RatesApart toLowercase later earlierContext laterContext := by
  by_contra together
  rw [RatesApart, not_or, not_not] at together
  rcases together with ⟨otherTriple, sameKey⟩
  have sameNow : earlier.now = later.now := relayRateKey_time sameKey
  generalize counted : (∅ : RelayRateTable).insert
    (later.rateKey toLowercase laterContext.contextId)
    { windowStart := later.now, count := 239 } = counters
  have counter : later.currentCounter toLowercase laterContext.contextId
      (tablesState store ∅ counters) = { windowStart := later.now, count := 239 } := by
    unfold currentCounter GatewayState.currentRelayRate tablesState
    dsimp only
    rw [← counted, AList.lookup_insert]
    exact if_neg (not_not.mpr rfl)
  have sameCounter : earlier.currentCounter toLowercase earlierContext.contextId
      (tablesState store ∅ counters) = { windowStart := later.now, count := 239 } := by
    rw [← counter, currentCounter, currentCounter, sameKey, sameNow]
  have lastPlace : 239 < relayRateLimitDefault := by decide
  have below : later.RateBelowLimit toLowercase laterContext.contextId
      (tablesState store ∅ counters).relayRateCounters := by
    apply rateBelowLimit_of_currentCounter
    rw [counter]
    exact lastPlace
  have outcome := independent.admitUnder_fst earlierSelected laterSelected ∅ counters
    fun sameTriple => absurd sameTriple otherTriple
  rw [(later.admitUnder_ok_iff toLowercase laterContext (tablesState store ∅ counters)).mpr
    ⟨nonceFresh_empty toLowercase later _, below⟩] at outcome
  have belowAfter := ((later.admitUnder_ok_iff toLowercase laterContext _).mp outcome).2
  rcases earlier.admitUnder_rateCounters toLowercase earlierContext
    (tablesState store ∅ counters) with
    ⟨seen, _⟩ | ⟨_, exhausted, _⟩ | ⟨_, _, written⟩
  · exact seen (nonceFresh_empty toLowercase earlier _)
  · apply exhausted
    apply rateBelowLimit_of_currentCounter
    rw [sameCounter]
    exact lastPlace
  · rw [written, sameKey, sameCounter] at belowAfter
    have limit : 240 < relayRateLimitDefault := belowAfter _ (AList.lookup_insert _) rfl
    exact absurd limit (by decide)

/-- Two calls are independent exactly if they are apart. -/
theorem AuthorizeCall.independent_iff
    (earlierSelected : earlier.select toLowercase store = .ok earlierContext)
    (laterSelected : later.select toLowercase store = .ok laterContext) :
    earlier.Independent toLowercase later earlierContext laterContext store <->
      earlier.NoncesApart toLowercase later earlierContext laterContext /\
        earlier.RatesApart toLowercase later earlierContext laterContext := by
  constructor
  · intro independent
    refine ⟨?_, independent.ratesApart earlierSelected laterSelected⟩
    intro earlierNonce laterNonce earlierGiven laterGiven
    have old := independent.old_of_sameKey earlierSelected laterSelected earlierGiven laterGiven
    refine ⟨?_, old⟩
    by_cases same : earlier.replayKey toLowercase earlierContext.contextId earlierNonce =
        later.replayKey toLowercase laterContext.contextId laterNonce
    · have elapsed := old same
      dsimp only [relayReplayTtlSeconds] at elapsed
      omega
    · exact independent.ordered earlierSelected laterSelected earlierGiven laterGiven same
  · rintro ⟨nonces, rates⟩
    exact independent_of_apart earlierSelected laterSelected nonces rates

end Meeting

/-! ## Many calls -/

/-- Whatever is fresh after a record was fresh before it. -/
theorem replayFresh_of_recordReplay {state : GatewayState} {recorded key : String}
    {now later : Int} (fresh : GatewayState.ReplayFresh state.relayReplayCache recorded now)
    (order : now ≤ later)
    (freshAfter : GatewayState.ReplayFresh ((state.recordReplay recorded
      now).pruneRelayReplayCache now).relayReplayCache key later) :
    GatewayState.ReplayFresh state.relayReplayCache key later := by
  refine (replayFresh_recordReplay_iff fresh order ?_).mp freshAfter
  rintro rfl
  exact freshAfter _ (GatewayState.lookup_recorded state recorded now)

/-- Visible nonces are checked in the order of their times. -/
def AuthorizeCall.NoncesOrdered (earlier later : AuthorizeCall) : Prop :=
  earlier.visibleNonce ≠ none -> later.visibleNonce ≠ none -> earlier.now ≤ later.now

theorem AuthorizeCall.NoncesOrdered.nonceFresh (ordered : earlier.NoncesOrdered later)
    {state : GatewayState}
    (freshAfter : later.NonceFresh toLowercase laterContext.contextId
      (earlier.admitUnder toLowercase earlierContext state).2.relayReplayCache) :
    later.NonceFresh toLowercase laterContext.contextId state.relayReplayCache := by
  rcases earlier.admitUnder_replayCache toLowercase earlierContext state with
    ⟨fresh, nonce, given, written⟩ | ⟨_, written⟩
  · rw [written, later.nonceFresh_iff] at freshAfter
    rw [later.nonceFresh_iff]
    intro laterNonce laterGiven
    refine replayFresh_of_recordReplay
      ((earlier.nonceFresh_iff toLowercase earlierContext.contextId _).mp fresh nonce given)
      (ordered ?_ ?_) (freshAfter laterNonce laterGiven)
    · rw [given]
      exact Option.some_ne_none nonce
    · rw [laterGiven]
      exact Option.some_ne_none laterNonce
  · rwa [written] at freshAfter

theorem AuthorizeCall.admitUnder_rateLimited_iff (call : AuthorizeCall)
    (context : RelayOperationContext) (state : GatewayState) :
    (call.admitUnder toLowercase context state).1 = .error .rateLimited <->
      call.NonceFresh toLowercase context.contextId state.relayReplayCache /\
        Not (call.RateBelowLimit toLowercase context.contextId state.relayRateCounters) := by
  unfold admitUnder NonceFresh RateBelowLimit rateKey
  rcases GatewayState.admitRelay_cases toLowercase state (call.sender toLowercase)
    call.commandName context call.replayNonce call.now with
    ⟨seen, done⟩ | ⟨fresh, full, done⟩ | ⟨_, below, done⟩
  · rw [done]
    exact iff_of_false nofun fun both => seen both.1
  · rw [done]
    exact iff_of_true rfl ⟨fresh, full⟩
  · rw [done]
    exact iff_of_false nofun fun both => both.2 below

variable (toLowercase)

/-- The call is counted apart from the later one, and checked before it. -/
def AuthorizeCall.CountedApart (earlier later : AuthorizeCall)
    (laterContext : RelayOperationContext) (store : RelayContextTable) : Prop :=
  earlier.NoncesOrdered later /\
  forall earlierContext, earlier.select toLowercase store = .ok earlierContext ->
    earlier.rateKey toLowercase earlierContext.contextId ≠
      later.rateKey toLowercase laterContext.contextId

/-- Make all calls, one after the other. -/
def performAll (calls : List AuthorizeCall) (state : GatewayState) : GatewayState :=
  calls.foldl (fun state call => (call.perform toLowercase state).2) state

variable {toLowercase}

/-- One call that is counted apart does not exhaust the rate of another. -/
theorem AuthorizeCall.CountedApart.rateLimited {store : RelayContextTable}
    (apart : earlier.CountedApart toLowercase later laterContext store)
    (laterSelected : later.select toLowercase store = .ok laterContext) {state : GatewayState}
    (stored : state.relayContextsBySubject = store)
    (limited : (later.perform toLowercase (earlier.perform toLowercase state).2).1 =
      .error .rateLimited) :
    (later.perform toLowercase state).1 = .error .rateLimited := by
  subst stored
  rcases earlier.perform_cases toLowercase state with
    ⟨_, _, same⟩ | ⟨earlierContext, earlierSelected, same⟩
  · rwa [same] at limited
  · have contexts := earlier.perform_contexts toLowercase state
    rw [same] at contexts limited
    rw [perform_of_ok toLowercase (contexts ▸ laterSelected), admitUnder_rateLimited_iff,
      rateBelowLimit_admitUnder_of_ne state (apart.2 earlierContext earlierSelected)] at limited
    rw [perform_of_ok toLowercase laterSelected, admitUnder_rateLimited_iff]
    exact ⟨apart.1.nonceFresh limited.1, limited.2⟩

/-- Any number of calls that are counted apart do not exhaust the rate. -/
theorem rateLimited_of_performAll {store : RelayContextTable}
    (laterSelected : later.select toLowercase store = .ok laterContext)
    {calls : List AuthorizeCall}
    (apart : forall earlier, earlier ∈ calls ->
      earlier.CountedApart toLowercase later laterContext store) {state : GatewayState}
    (stored : state.relayContextsBySubject = store)
    (limited : (later.perform toLowercase (performAll toLowercase calls state)).1 =
      .error .rateLimited) :
    (later.perform toLowercase state).1 = .error .rateLimited := by
  induction calls generalizing state with
  | nil => exact limited
  | cons first calls ih =>
      have kept := (first.perform_contexts toLowercase state).trans stored
      have afterFirst := ih
        (fun earlier member => apart earlier (List.mem_cons_of_mem first member)) kept limited
      exact (apart first List.mem_cons_self).rateLimited laterSelected stored afterFirst

/-- When the bookkeeping of one call disturbs another: the outcomes are
independent exactly if the joined keys are apart, and no number of calls that are
counted apart makes another one fail for its rate. -/
theorem admissions_independent_iff (toLowercase : String -> String) (store : RelayContextTable)
    (later : AuthorizeCall) (laterContext : RelayOperationContext)
    (laterSelected : later.select toLowercase store = .ok laterContext) :
    (forall (earlier : AuthorizeCall) earlierContext,
      earlier.select toLowercase store = .ok earlierContext ->
      (earlier.Independent toLowercase later earlierContext laterContext store <->
        earlier.NoncesApart toLowercase later earlierContext laterContext /\
          earlier.RatesApart toLowercase later earlierContext laterContext)) /\
    (forall calls : List AuthorizeCall,
      (forall earlier, earlier ∈ calls ->
        earlier.CountedApart toLowercase later laterContext store) ->
      forall state : GatewayState, state.relayContextsBySubject = store ->
        (later.perform toLowercase (performAll toLowercase calls state)).1 =
          .error .rateLimited ->
        (later.perform toLowercase state).1 = .error .rateLimited) := by
  constructor
  · intro earlier earlierContext earlierSelected
    exact AuthorizeCall.independent_iff earlierSelected laterSelected
  · intro calls apart state stored limited
    exact rateLimited_of_performAll laterSelected apart stored limited

end Collisions

/-- Alice's context with the given id, which is also its operation key. -/
def contextNamed (contextId : String) : RelayOperationContext :=
  { transferContext with contextId := contextId, operationKey := contextId }

def similarStore : RelayContextTable :=
  (GatewayState.run asciiLowercase none [.applyRelayContextSnapshot 0
    { transferSnapshot with
      contexts := ["c", "c|n", "C"].map contextNamed }]).relayContextsBySubject

/-- A chunk for the context with the given id. -/
def chunkFor (contextId nonce : String) : AuthorizeCall :=
  { transferCall "chunk" nonce 10 with operationKey := contextId }

theorem chunkFor_select :
    (chunkFor "c" "n|m").select asciiLowercase similarStore = .ok (contextNamed "c") /\
    (chunkFor "c|n" "m").select asciiLowercase similarStore = .ok (contextNamed "c|n") /\
    (chunkFor "C" "n").select asciiLowercase similarStore = .ok (contextNamed "C") := by
  decide +kernel

theorem chunkFor_visibleNonce :
    (chunkFor "c" "n|m").visibleNonce = some "n|m" /\
    (chunkFor "c|n" "m").visibleNonce = some "m" := by
  decide

/-- A chunk does not disturb one for the upper case context a second later. -/
theorem admissions_independent_iff_of_seconds :
    (chunkFor "c" "n|m").Independent asciiLowercase { chunkFor "C" "n" with now := 11 }
      (contextNamed "c") (contextNamed "C") similarStore := by
  refine ((admissions_independent_iff asciiLowercase similarStore
    { chunkFor "C" "n" with now := 11 } (contextNamed "C") (by decide +kernel)).1 _ _
    chunkFor_select.1).mpr ⟨?_, Or.inr (by decide)⟩
  intro earlierNonce laterNonce earlierGiven laterGiven
  have given : ({ chunkFor "C" "n" with now := 11 } : AuthorizeCall).visibleNonce = some "n" := by
    decide
  rw [chunkFor_visibleNonce.1] at earlierGiven
  rw [given] at laterGiven
  cases earlierGiven
  cases laterGiven
  decide

/-- A nonce with a bar is taken for the nonce of another context, and contexts
whose ids agree up to case share a counter. -/
theorem chunks_of_similar_contexts_interfere :
    (Not ((chunkFor "c" "n|m").SameTriple asciiLowercase (chunkFor "c|n" "m") (contextNamed "c")
        (contextNamed "c|n")) /\
      Not ((chunkFor "c" "n|m").Independent asciiLowercase (chunkFor "c|n" "m") (contextNamed "c")
        (contextNamed "c|n") similarStore)) /\
    (Not ((chunkFor "c" "n|m").SameTriple asciiLowercase (chunkFor "C" "n") (contextNamed "c")
        (contextNamed "C")) /\
      Not ((chunkFor "c" "n|m").Independent asciiLowercase (chunkFor "C" "n") (contextNamed "c")
        (contextNamed "C") similarStore)) := by
  rcases chunkFor_select with ⟨plain, barred, upper⟩
  refine ⟨⟨?_, ?_⟩, ?_, ?_⟩
  · rintro ⟨_, _, sameId⟩
    exact absurd sameId (by decide)
  · intro independent
    have old := independent.old_of_sameKey plain barred chunkFor_visibleNonce.1
      chunkFor_visibleNonce.2 (by decide)
    exact absurd old (by decide)
  · rintro ⟨_, _, sameId⟩
    exact absurd sameId (by decide)
  · intro independent
    rcases independent.ratesApart plain upper with ⟨_, _, sameId⟩ | different
    · exact absurd sameId (by decide)
    · exact different (by decide)

end State
end Gateway

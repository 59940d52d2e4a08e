import Gateway.State.RelayCalls

namespace Gateway
namespace State

open Foundation

/-!
# The bounds of the bookkeeping tables

The route table and the replay cache have a maximal size, and they are pruned
when they exceed it.  Pruning removes only what has expired or lost its
connection, so whether the bound holds afterwards depends on how much is still
current.  The rate counters are keyed by the second as well, so that a counter
is never found again in a later second.  The condition under which an operation
respects the bounds is exact.
-/

def RoutesWithin (state : GatewayState) : Prop :=
  state.requestRoutes.entries.length ≤ requestRouteMax

def ReplaysWithin (state : GatewayState) : Prop :=
  state.relayReplayCache.entries.length ≤ relayReplayCacheMax

/-- No two counters belong to one sender, command and context. -/
def OneCounterEach (toLowercase : String -> String) (state : GatewayState) : Prop :=
  forall sender commandName contextId window other,
    GatewayState.relayRateKey toLowercase sender commandName contextId window ∈
      state.relayRateCounters ->
    GatewayState.relayRateKey toLowercase sender commandName contextId other ∈
      state.relayRateCounters -> window = other

structure WithinCapacity (toLowercase : String -> String) (state : GatewayState) : Prop where
  routes : RoutesWithin state
  replays : ReplaysWithin state
  counters : OneCounterEach toLowercase state

/-- The routes that pruning would keep if the id were bound: those of other ids
that are neither expired nor dangling, and the new one if its connection is
registered. -/
def GatewayState.outstandingRoutes (now : Int) (state : GatewayState)
    (requestId connectionId : String) : Nat :=
  (state.requestRoutes.entries.countP fun entry =>
    !(decide (requestRouteTtlSeconds < saturatingSub now entry.2.updatedAt) ||
      decide (entry.2.connectionId ∉ state.connections)) &&
      decide (entry.1 ≠ trim requestId)) +
    if connectionId ∈ state.connections then 1 else 0

/-- The nonces that pruning would keep if the key were recorded. -/
def GatewayState.recentReplays (now : Int) (state : GatewayState) (key : String) : Nat :=
  (state.relayReplayCache.entries.countP fun entry =>
    !decide (relayReplayTtlSeconds < saturatingSub now entry.2.seenAt) &&
      decide (entry.1 ≠ key)) + 1

section Condition

variable (toLowercase : String -> String)

/-- A call that passes the nonce check finds room for its nonce, and no counter
of its sender, command and context from another second. -/
def AuthorizeCall.StaysWithin (call : AuthorizeCall) (state : GatewayState) : Prop :=
  forall context, call.select toLowercase state.relayContextsBySubject = .ok context ->
    call.NonceFresh toLowercase context.contextId state.relayReplayCache ->
    (forall nonce, call.visibleNonce = some nonce ->
      state.recentReplays call.now (call.replayKey toLowercase context.contextId nonce) ≤
        relayReplayCacheMax) /\
    forall window, GatewayState.relayRateKey toLowercase (call.sender toLowercase)
      call.commandName context.contextId window ∈ state.relayRateCounters -> window = call.now

/-- The operation leaves no table beyond its bound. -/
def StaysWithin (state : GatewayState) : Operation -> Prop
  | .bindRequestRoute now requestId connectionId userId =>
      trim requestId ≠ "" -> connectionId ≠ "" -> userId ≠ "" ->
        state.outstandingRoutes now requestId connectionId ≤ requestRouteMax
  | .authorizeRelayHotpath senderEmail commandName authSpec operationKey targetEmails replayNonce
      payloadSizeHint now =>
      AuthorizeCall.StaysWithin toLowercase
        ⟨senderEmail, commandName, authSpec, operationKey, targetEmails, replayNonce,
          payloadSizeHint, now⟩ state
  | _ => True

end Condition

/-! ## Request routes -/

namespace GatewayState

theorem pruneRequestRoutes_requestRoutes (now : Int) (state : GatewayState) :
    (state.pruneRequestRoutes now).requestRoutes =
      if state.requestRoutes.entries.length ≤ requestRouteMax then state.requestRoutes
      else
        state.requestRoutes.eraseAll ((state.requestRoutes.entries.filter fun entry =>
          decide (requestRouteTtlSeconds < saturatingSub now entry.2.updatedAt) ||
            decide (entry.2.connectionId ∉ state.connections)).map Sigma.fst) := by
  unfold pruneRequestRoutes
  split <;> rfl

/-- A route has not expired when it is bound. -/
theorem not_expired_at_bind (now : Int) : Not (requestRouteTtlSeconds < saturatingSub now now) := by
  rw [lt_saturatingSub_iff (by decide) (by decide), sub_self]
  decide

/-- A bind that names everything inserts its route and prunes. -/
theorem bindRequestRoute_of_visible (now : Int) (state : GatewayState)
    {requestId connectionId userId : String} (visible : trim requestId ≠ "")
    (connection : connectionId ≠ "") (user : userId ≠ "") :
    state.bindRequestRoute now requestId connectionId userId =
      { state with
        requestRoutes := state.requestRoutes.insert (trim requestId)
          { connectionId := connectionId, userId := userId, updatedAt := now }
      }.pruneRequestRoutes now := by
  unfold bindRequestRoute
  rw [if_neg fun unnamed => unnamed.elim visible fun rest => rest.elim connection user]

/-- A bind respects the bound exactly if the outstanding routes do. -/
theorem bindRequestRoute_within_iff (now : Int) (state : GatewayState)
    {requestId connectionId userId : String} (visible : trim requestId ≠ "")
    (connection : connectionId ≠ "") (user : userId ≠ "") :
    RoutesWithin (state.bindRequestRoute now requestId connectionId userId) <->
      state.outstandingRoutes now requestId connectionId ≤ requestRouteMax := by
  unfold RoutesWithin
  rw [bindRequestRoute_of_visible now state visible connection user,
    pruneRequestRoutes_requestRoutes, HashTable.length_prune_le_iff,
    HashTable.countP_entries_insert]
  dsimp only
  have kept : (!decide (connectionId ∉ state.connections)) = true <->
      connectionId ∈ state.connections := by
    rw [Bool.not_eq_true', decide_eq_false_iff_not, not_not]
  rw [decide_eq_false (not_expired_at_bind now), Bool.false_or, if_congr kept rfl rfl]
  rfl

theorem length_eraseRoutes_le (table : RequestRouteTable) (keys : List String) :
    (table.eraseAll keys).entries.length ≤ table.entries.length := by
  rw [HashTable.entries_eraseAll]
  exact List.length_filter_le _ _

theorem length_eraseRoute_le (table : RequestRouteTable) (key : String) :
    (table.erase key).entries.length ≤ table.entries.length :=
  length_eraseRoutes_le table [key]

theorem routesWithin_unregisterConnection {state : GatewayState} (within : RoutesWithin state)
    (connectionId : String) : RoutesWithin (state.unregisterConnection connectionId).2 := by
  unfold unregisterConnection
  split
  · exact within
  · exact le_trans (length_eraseRoutes_le _ _) within

/-- Nothing but a bind adds routes. -/
theorem routesWithin_kept : KeptByChanges RoutesWithin := by
  refine KeptByRemoval.changes ⟨fun _ _ _ within => within, ?_⟩ (fun _ _ _ _ _ within => within)
    (fun _ _ _ within => within)
  exact fun state connectionId within => routesWithin_unregisterConnection within connectionId

theorem routesWithin_apply (toLowercase : String -> String) {state : GatewayState}
    (within : RoutesWithin state) (operation : Operation)
    (noBind : forall now requestId connectionId userId,
      operation ≠ .bindRequestRoute now requestId connectionId userId) :
    RoutesWithin (operation.apply toLowercase state) := by
  cases operation using Operation.plainCases with
  | register order now connectionId userId clientInstanceId subjects connectedAt =>
      exact routesWithin_kept.registerConnection order now connectionId userId clientInstanceId
        subjects connectedAt (routesWithin_kept.evictSameInstance order connectionId userId
          clientInstanceId within)
  | ready order now connectionId userId =>
      exact routesWithin_kept.markSessionReady order now connectionId userId
        (fun _ _ => within) within
  | bind now requestId connectionId userId => exact absurd rfl (noBind _ _ _ _)
  | clear requestId =>
      dsimp only [Operation.apply]
      unfold clearRequestRoute
      split
      · exact within
      · exact le_trans (length_eraseRoute_le _ _) within
  | resolve now requestId subjects =>
      dsimp only [Operation.apply]
      rcases resolveRequestRoute_cases now state requestId subjects with same | erased
      · rw [same]
        exact within
      · rw [erased]
        exact le_trans (length_eraseRoute_le _ _) within
  | plain operation plain => exact routesWithin_kept.apply_of_plain toLowercase plain within

theorem pruneRelayReplayCache_relayReplayCache (now : Int) (state : GatewayState) :
    (state.pruneRelayReplayCache now).relayReplayCache =
      if state.relayReplayCache.entries.length ≤ relayReplayCacheMax then state.relayReplayCache
      else
        state.relayReplayCache.eraseAll ((state.relayReplayCache.entries.filter fun entry =>
          decide (relayReplayTtlSeconds < saturatingSub now entry.2.seenAt)).map Sigma.fst) := by
  unfold pruneRelayReplayCache
  split <;> rfl

/-- Recording a nonce respects the bound exactly if the recent nonces do. -/
theorem recordReplay_within_iff (now : Int) (state : GatewayState) (key : String) :
    ReplaysWithin ((state.recordReplay key now).pruneRelayReplayCache now) <->
      state.recentReplays now key ≤ relayReplayCacheMax := by
  have current : Not (relayReplayTtlSeconds < saturatingSub now now) := by
    rw [relayReplayTtl_lt_saturatingSub, sub_self]
    decide
  unfold ReplaysWithin recordReplay
  rw [pruneRelayReplayCache_relayReplayCache, HashTable.length_prune_le_iff,
    HashTable.countP_entries_insert]
  dsimp only
  rw [decide_eq_false current, Bool.not_false, if_pos rfl]
  rfl

end GatewayState

/-- Keys that agree in one second agree in every second. -/
theorem relayRateKey_change_window {toLowercase : String -> String}
    {sender commandName contextId otherSender otherCommandName otherContextId : String}
    {window otherWindow : Int}
    (same : GatewayState.relayRateKey toLowercase sender commandName contextId window =
      GatewayState.relayRateKey toLowercase otherSender otherCommandName otherContextId
        otherWindow) (asked : Int) :
    GatewayState.relayRateKey toLowercase sender commandName contextId asked =
      GatewayState.relayRateKey toLowercase otherSender otherCommandName otherContextId asked := by
  have sameWindow := relayRateKey_time same
  subst sameWindow
  unfold GatewayState.relayRateKey at same ⊢
  rw [String.append_left_inj] at same
  rw [same]

/-- Writing a counter keeps the counters apart exactly if there is none of its
sender, command and context from another second. -/
theorem oneCounterEach_insert_iff {toLowercase : String -> String} {before after : GatewayState}
    (apart : OneCounterEach toLowercase before) (sender commandName contextId : String)
    (now : Int) (counter : RelayRateCounter)
    (written : after.relayRateCounters = before.relayRateCounters.insert
      (GatewayState.relayRateKey toLowercase sender commandName contextId now) counter) :
    OneCounterEach toLowercase after <->
      forall window, GatewayState.relayRateKey toLowercase sender commandName contextId window ∈
        before.relayRateCounters -> window = now := by
  unfold OneCounterEach
  simp only [written, AList.mem_insert]
  constructor
  · intro apartAfter window stored
    exact apartAfter sender commandName contextId window now (Or.inr stored) (Or.inl rfl)
  · intro nobodyElse otherSender otherCommandName otherContextId window other first second
    rcases first with new | old
    · rcases second with newer | older
      · exact (relayRateKey_time new).trans (relayRateKey_time newer).symm
      · rw [relayRateKey_change_window new other] at older
        rw [relayRateKey_time new, nobodyElse other older]
    · rcases second with newer | older
      · rw [relayRateKey_change_window newer window] at old
        rw [relayRateKey_time newer, nobodyElse window old]
      · exact apart otherSender otherCommandName otherContextId window other old older

section Steps

variable {toLowercase : String -> String} {state : GatewayState}

/-- There is one counter each afterwards exactly if none is left of another
second, where the call gets as far as counting. -/
theorem AuthorizeCall.admitUnder_counters_iff (call : AuthorizeCall)
    (counters : OneCounterEach toLowercase state) (context : RelayOperationContext) :
    OneCounterEach toLowercase (call.admitUnder toLowercase context state).2 <->
      (call.NonceFresh toLowercase context.contextId state.relayReplayCache ->
        forall window, GatewayState.relayRateKey toLowercase (call.sender toLowercase)
          call.commandName context.contextId window ∈ state.relayRateCounters ->
            window = call.now) := by
  rcases call.admitUnder_rateCounters toLowercase context state with
    ⟨seen, written⟩ | ⟨fresh, _, written⟩ | ⟨fresh, _, written⟩
  · refine iff_of_true ?_ (fun fresh => absurd fresh seen)
    unfold OneCounterEach
    rw [written]
    exact counters
  · rw [oneCounterEach_insert_iff counters _ _ _ _ _ written]
    exact ⟨fun apart _ => apart, fun apart => apart fresh⟩
  · rw [oneCounterEach_insert_iff counters _ _ _ _ _ written]
    exact ⟨fun apart _ => apart, fun apart => apart fresh⟩

variable (toLowercase) in
/-- The replay cache stays within its bound exactly if there is room for the
nonce, where the call records one. -/
theorem AuthorizeCall.admitUnder_replays_iff (call : AuthorizeCall) (replays : ReplaysWithin state)
    (context : RelayOperationContext) :
    ReplaysWithin (call.admitUnder toLowercase context state).2 <->
      (call.NonceFresh toLowercase context.contextId state.relayReplayCache ->
        forall nonce, call.visibleNonce = some nonce ->
          state.recentReplays call.now (call.replayKey toLowercase context.contextId nonce) ≤
            relayReplayCacheMax) := by
  rcases call.admitUnder_replayCache toLowercase context state with
    ⟨fresh, nonce, given, written⟩ | ⟨silent, written⟩
  · have recorded := GatewayState.recordReplay_within_iff call.now state
      (call.replayKey toLowercase context.contextId nonce)
    unfold ReplaysWithin at recorded ⊢
    rw [written, recorded]
    constructor
    · intro room _ other otherGiven
      rw [given] at otherGiven
      cases otherGiven
      exact room
    · exact fun every => every fresh nonce given
  · refine iff_of_true ?_ ?_
    · unfold ReplaysWithin
      rw [written]
      exact replays
    · intro fresh nonce given
      rw [silent fresh] at given
      cases given

/-- Calls that reach no bookkeeping stay within the bounds, and the others do so
exactly under the condition. -/
theorem WithinCapacity.perform_iff (within : WithinCapacity toLowercase state)
    (call : AuthorizeCall) :
    WithinCapacity toLowercase (call.perform toLowercase state).2 <->
      call.StaysWithin toLowercase state := by
  have routes : RoutesWithin (call.perform toLowercase state).2 := by
    rcases GatewayState.authorizeRelayHotpath_touches toLowercase state call.senderEmail
      call.commandName call.authSpec call.operationKey call.targetEmails call.replayNonce
      call.payloadSizeHint call.now with ⟨cache, counters, touched⟩
    rw [AuthorizeCall.perform, touched]
    exact within.routes
  rcases call.perform_cases toLowercase state with
    ⟨error, refused, same⟩ | ⟨context, selected, same⟩
  · rw [same]
    refine iff_of_true within ?_
    intro context selected
    rw [refused] at selected
    cases selected
  · rw [same] at routes ⊢
    have condition : call.StaysWithin toLowercase state <->
        (call.NonceFresh toLowercase context.contextId state.relayReplayCache ->
          (forall nonce, call.visibleNonce = some nonce ->
            state.recentReplays call.now (call.replayKey toLowercase context.contextId nonce) ≤
              relayReplayCacheMax) /\
          forall window, GatewayState.relayRateKey toLowercase (call.sender toLowercase)
            call.commandName context.contextId window ∈ state.relayRateCounters ->
              window = call.now) := by
      unfold AuthorizeCall.StaysWithin
      constructor
      · exact fun every => every context selected
      · intro here other otherSelected
        rw [selected] at otherSelected
        cases otherSelected
        exact here
    have counters := call.admitUnder_counters_iff within.counters context
    have replays := call.admitUnder_replays_iff toLowercase within.replays context
    rw [condition]
    constructor
    · intro after fresh
      exact ⟨replays.mp after.replays fresh, counters.mp after.counters fresh⟩
    · intro both
      exact ⟨routes, replays.mpr fun fresh => (both fresh).1,
        counters.mpr fun fresh => (both fresh).2⟩

/-- An operation leaves every table within its bound exactly under the
condition. -/
theorem WithinCapacity.apply_iff (within : WithinCapacity toLowercase state)
    (operation : Operation) :
    WithinCapacity toLowercase (operation.apply toLowercase state) <->
      StaysWithin toLowercase state operation := by
  have relayTables : operation.isRelay = false ->
      RoutesWithin (operation.apply toLowercase state) ->
      WithinCapacity toLowercase (operation.apply toLowercase state) := by
    intro other routes
    have same := Operation.sameRelayTables_apply toLowercase state other
    refine ⟨routes, ?_, ?_⟩
    · unfold ReplaysWithin
      rw [same.cache]
      exact within.replays
    · unfold OneCounterEach
      rw [same.counters]
      exact within.counters
  have routes := GatewayState.routesWithin_apply toLowercase within.routes operation
  cases operation with
  | bindRequestRoute now requestId connectionId userId =>
      by_cases guards : trim requestId ≠ "" /\ connectionId ≠ "" /\ userId ≠ ""
      · have bound := GatewayState.bindRequestRoute_within_iff now state guards.1 guards.2.1
          guards.2.2
        constructor
        · exact fun after _ _ _ => bound.mp after.routes
        · exact fun room => relayTables rfl (bound.mpr (room guards.1 guards.2.1 guards.2.2))
      · refine iff_of_true (relayTables rfl ?_) fun visible connection user =>
          absurd ⟨visible, connection, user⟩ guards
        have refused : trim requestId = "" ∨ connectionId = "" ∨ userId = "" := by
          by_contra passed
          rw [not_or, not_or] at passed
          exact guards passed
        dsimp only [Operation.apply]
        rw [GatewayState.bindRequestRoute, if_pos refused]
        exact within.routes
  | applyRelayContextSnapshot now snapshot =>
      refine iff_of_true ?_ trivial
      rcases GatewayState.applyRelayContextSnapshot_touches toLowercase now state snapshot with
        ⟨contexts, touched⟩
      rw [Operation.apply, touched]
      exact ⟨within.routes, within.replays, within.counters⟩
  | authorizeRelayHotpath senderEmail commandName authSpec operationKey targetEmails replayNonce
      payloadSizeHint now =>
      exact within.perform_iff ⟨senderEmail, commandName, authSpec, operationKey, targetEmails,
        replayNonce, payloadSizeHint, now⟩
  | _ =>
      refine iff_of_true (relayTables rfl (routes ?_)) trivial
      intro _ _ _ _ bind
      cases bind

theorem WithinCapacity.new (toLowercase : String -> String) (maxConnectionsPerUser : Option Nat) :
    WithinCapacity toLowercase (GatewayState.new maxConnectionsPerUser) where
  routes := Nat.zero_le _
  replays := Nat.zero_le _
  counters := fun _ _ _ _ _ stored _ => absurd stored (AList.notMem_empty _)

end Steps

/-- All states of a run are within the bounds exactly if every operation of the
run meets the condition in the state that it finds. -/
theorem capacity_kept_iff (toLowercase : String -> String) (maxConnectionsPerUser : Option Nat)
    (operations : List Operation) :
    (forall earlier later, operations = earlier ++ later ->
      WithinCapacity toLowercase
        (GatewayState.run toLowercase maxConnectionsPerUser earlier)) <->
    Throughout (fun earlier operation => StaysWithin toLowercase
      (GatewayState.run toLowercase maxConnectionsPerUser earlier) operation) operations := by
  constructor
  · intro within index inside
    have before := within (operations.take index) (operations.drop index)
      (List.take_append_drop index operations).symm
    have after := within (operations.take (index + 1)) (operations.drop (index + 1))
      (List.take_append_drop (index + 1) operations).symm
    rw [← List.take_concat_get' operations index inside, GatewayState.run_concat] at after
    exact (before.apply_iff _).mp after
  · rintro careful earlier later rfl
    have carefulNow := careful.append_left
    clear careful
    induction earlier using List.reverseRecOn with
    | nil => exact WithinCapacity.new toLowercase maxConnectionsPerUser
    | append_singleton earlier operation ih =>
        rw [GatewayState.run_concat]
        exact ((ih carefulNow.append_left).apply_iff operation).mpr carefulNow.last

/-- One connection asks for many things within a second. -/
def burstOfRequests (count : Nat) : List Operation :=
  .registerConnection .sorted 0 "c" "u" "" [] 0 ::
    (List.range count).map fun number => .bindRequestRoute 0 number.repr "c" "u"

/-- A route of the connection `c`, bound at time zero. -/
def requestOfBurst : RequestRoute where
  connectionId := "c"
  userId := "u"
  updatedAt := 0

theorem bindRequestRoute_of_burst {state : GatewayState} (registered : "c" ∈ state.connections)
    (current : forall entry, entry ∈ state.requestRoutes.entries -> entry.2 = requestOfBurst)
    (number : Nat) (fresh : number.repr ∉ state.requestRoutes) :
    (state.bindRequestRoute 0 number.repr "c" "u").requestRoutes.entries =
      ⟨number.repr, requestOfBurst⟩ :: state.requestRoutes.entries := by
  have guards : Not (trim number.repr = "" ∨ "c" = "" ∨ "u" = "") := by
    simp [trim_repr]
  have inserted : (state.requestRoutes.insert number.repr requestOfBurst).entries =
      ⟨number.repr, requestOfBurst⟩ :: state.requestRoutes.entries :=
    AList.entries_insert_of_notMem fresh
  have stillCurrent : forall entry,
      entry ∈ (state.requestRoutes.insert number.repr requestOfBurst).entries ->
        entry.2 = requestOfBurst := by
    intro entry member
    rw [inserted] at member
    rcases List.mem_cons.mp member with new | old
    · rw [new]
    · exact current entry old
  rw [GatewayState.bindRequestRoute, if_neg guards, trim_repr,
    GatewayState.pruneRequestRoutes_requestRoutes, HashTable.prune_of_unmarked]
  · exact inserted
  · intro entry member
    rw [stillCurrent entry member, Bool.or_eq_false_iff]
    exact ⟨by decide, decide_eq_false (not_not.mpr registered)⟩

theorem run_burstOfRequests (count : Nat) :
    let state := GatewayState.run asciiLowercase none (burstOfRequests count)
    "c" ∈ state.connections /\
    state.requestRoutes.entries =
      ((List.range count).map fun number => ⟨number.repr, requestOfBurst⟩).reverse := by
  induction count with
  | zero => exact ⟨by decide, rfl⟩
  | succ count ih =>
      have longer : burstOfRequests (count + 1) =
          burstOfRequests count ++ [.bindRequestRoute 0 count.repr "c" "u"] := by
        rw [burstOfRequests, List.range_succ, List.map_append]
        rfl
      rw [longer, GatewayState.run_concat]
      dsimp only [Operation.apply] at ih ⊢
      generalize GatewayState.run asciiLowercase none (burstOfRequests count) = state at ih ⊢
      rcases ih with ⟨registered, entries⟩
      have fresh : count.repr ∉ state.requestRoutes := by
        rw [AList.mem_keys, AList.keys, entries, List.keys, List.map_reverse, List.mem_reverse,
          List.map_map, List.mem_map]
        rintro ⟨number, earlier, same⟩
        rw [Nat.repr_inj.mp same] at earlier
        exact absurd (List.mem_range.mp earlier) (Nat.lt_irrefl count)
      have current : forall entry, entry ∈ state.requestRoutes.entries ->
          entry.2 = requestOfBurst := by
        intro entry member
        rw [entries, List.mem_reverse, List.mem_map] at member
        rcases member with ⟨number, _, rfl⟩
        rfl
      rcases GatewayState.bindRequestRoute_touches 0 state count.repr "c" "u" with
        ⟨routes, touched⟩
      constructor
      · rw [touched]
        exact registered
      · rw [bindRequestRoute_of_burst registered current count fresh, entries, List.range_succ,
          List.map_append, List.reverse_append]
        rfl

/-- Alice sends two chunks, a second apart. -/
def chunksOfTwoSeconds : List Operation :=
  [.applyRelayContextSnapshot 0 transferSnapshot, (transferCall "chunk" "m" 10).operation,
    (transferCall "chunk" "n" 11).operation]

theorem counters_of_chunksOfTwoSeconds :
    ["a@x|chunk|ctx|10", "a@x|chunk|ctx|11"].all (fun key =>
      ((GatewayState.run asciiLowercase none chunksOfTwoSeconds).relayRateCounters.lookup
        key).isSome) = true := by
  decide +kernel

/-- A connection leaves more routes behind than the bound allows within a
second, and a sender two counters in two seconds. -/
theorem tables_exceed_their_bounds :
    Not (RoutesWithin (GatewayState.run asciiLowercase none (burstOfRequests 8193))) /\
    Not (OneCounterEach asciiLowercase
      (GatewayState.run asciiLowercase none chunksOfTwoSeconds)) := by
  constructor
  · rcases run_burstOfRequests 8193 with ⟨_, entries⟩
    rw [RoutesWithin, entries, List.length_reverse, List.length_map, List.length_range]
    decide
  · intro apart
    have both := List.all_eq_true.mp counters_of_chunksOfTwoSeconds
    have first := both "a@x|chunk|ctx|10" (by decide)
    have second := both "a@x|chunk|ctx|11" (by decide)
    rw [AList.lookup_isSome] at first second
    exact absurd (apart "a@x" "chunk" "ctx" 10 11 first second) (by decide)

end State
end Gateway

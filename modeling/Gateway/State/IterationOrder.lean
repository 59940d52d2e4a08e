import Gateway.Foundation.IterationOrder
import Gateway.State.ConnectionCap
import Gateway.State.RelayCalls

namespace Gateway
namespace State

open Foundation

/-!
# Iteration orders and the state of the gateway

Four operations walk through a hashed container: a registration looks for its
predecessors, a session that reports itself ready for the sessions over the cap,
a dispatch for its targets, and the prune task for stale connections.  In which
order they do this leaves no trace in the state.  Only the session to evict may
depend on it, when two sessions of a user were registered in the same second.

The subject index is set aside at first, because it lists the connections once
more and is read by a dispatch alone.
-/

namespace GatewayState

/-- Everything but the subject index. -/
def unindexed (state : GatewayState) : GatewayState :=
  { state with subjects := ∅ }

theorem exists_index {left right : GatewayState} (same : left.unindexed = right.unindexed) :
    Exists fun index => right = { left with subjects := index } := by
  refine ⟨right.subjects, ?_⟩
  cases left
  cases right
  simpa [unindexed, eq_comm] using same

theorem connections_of_unindexed {left right : GatewayState}
    (same : left.unindexed = right.unindexed) : left.connections = right.connections := by
  rcases exists_index same with ⟨index, rfl⟩
  rfl

/-- The results are the same, and the states are so but for the index. -/
structure Agree {Result : Type} (left right : Result × GatewayState) : Prop where
  result : left.1 = right.1
  state : left.2.unindexed = right.2.unindexed

theorem Agree.exists_states {Result : Type} {left right : Result × GatewayState}
    (agree : Agree left right) : Exists fun result => Exists fun leftState =>
      Exists fun rightState => left = (result, leftState) /\ right = (result, rightState) /\
        leftState.unindexed = rightState.unindexed :=
  ⟨left.1, left.2, right.2, rfl, Prod.ext agree.result.symm rfl, agree.state⟩

/-! ## Operations that do not read the index -/

section Frames

variable {left right : GatewayState}

theorem unregisterConnection_agrees (same : left.unindexed = right.unindexed)
    (connectionId : String) :
    Agree (left.unregisterConnection connectionId) (right.unregisterConnection connectionId) := by
  rcases exists_index same with ⟨index, rfl⟩
  unfold unregisterConnection
  dsimp only
  cases left.connections.lookup connectionId <;> exact ⟨rfl, rfl⟩

theorem evictConnection_agrees (same : left.unindexed = right.unindexed) (connectionId : String)
    (close : Option (Nat × String)) :
    Agree (left.evictConnection connectionId close) (right.evictConnection connectionId close) := by
  rcases exists_index same with ⟨index, rfl⟩
  unfold evictConnection
  dsimp only
  split <;> exact unregisterConnection_agrees (by rfl) connectionId

theorem sendToConnection_agrees (same : left.unindexed = right.unindexed)
    (connectionId message : String) :
    Agree (left.sendToConnection connectionId message)
      (right.sendToConnection connectionId message) := by
  rcases exists_index same with ⟨index, rfl⟩
  unfold sendToConnection
  dsimp only
  split
  · exact ⟨rfl, rfl⟩
  · split
    · exact ⟨rfl, (unregisterConnection_agrees (by rfl) connectionId).state⟩
    · split
      · exact ⟨rfl, rfl⟩
      · exact ⟨rfl, (unregisterConnection_agrees (by rfl) connectionId).state⟩

theorem pruneRequestRoutes_agrees (same : left.unindexed = right.unindexed) (now : Int) :
    (left.pruneRequestRoutes now).unindexed = (right.pruneRequestRoutes now).unindexed := by
  rcases exists_index same with ⟨index, rfl⟩
  unfold pruneRequestRoutes
  dsimp only
  split <;> rfl

theorem bindRequestRoute_agrees (same : left.unindexed = right.unindexed) (now : Int)
    (requestId connectionId userId : String) :
    (left.bindRequestRoute now requestId connectionId userId).unindexed =
      (right.bindRequestRoute now requestId connectionId userId).unindexed := by
  rcases exists_index same with ⟨index, rfl⟩
  unfold bindRequestRoute
  split
  · rfl
  · exact pruneRequestRoutes_agrees (by rfl) now

theorem clearRequestRoute_agrees (same : left.unindexed = right.unindexed) (requestId : String) :
    (left.clearRequestRoute requestId).unindexed =
      (right.clearRequestRoute requestId).unindexed := by
  rcases exists_index same with ⟨index, rfl⟩
  unfold clearRequestRoute
  split <;> rfl

theorem resolveRequestRoute_agrees (same : left.unindexed = right.unindexed) (now : Int)
    (requestId : String) (subjects : List String) :
    Agree (left.resolveRequestRoute now requestId subjects)
      (right.resolveRequestRoute now requestId subjects) := by
  rcases exists_index same with ⟨index, rfl⟩
  unfold resolveRequestRoute
  dsimp only
  repeat' split
  all_goals exact ⟨rfl, rfl⟩

theorem requeueForSubjects_agrees (same : left.unindexed = right.unindexed) (now : Int)
    (subjects : List String) (message : String) :
    (left.requeueForSubjects now subjects message).unindexed =
      (right.requeueForSubjects now subjects message).unindexed := by
  rcases exists_index same with ⟨index, rfl⟩
  unfold requeueForSubjects
  split <;> rfl

theorem bufferLatestForSubjects_agrees (same : left.unindexed = right.unindexed) (now : Int)
    (subjects : List String) (message stickyKey : String) :
    (left.bufferLatestForSubjects now subjects message stickyKey).unindexed =
      (right.bufferLatestForSubjects now subjects message stickyKey).unindexed := by
  rcases exists_index same with ⟨index, rfl⟩
  unfold bufferLatestForSubjects
  split <;> rfl

theorem applyRelayContextSnapshot_agrees (same : left.unindexed = right.unindexed)
    (toLowercase : String -> String) (now : Int) (snapshot : RelayContextSnapshot) :
    (left.applyRelayContextSnapshot toLowercase now snapshot).unindexed =
      (right.applyRelayContextSnapshot toLowercase now snapshot).unindexed := by
  rcases exists_index same with ⟨index, rfl⟩
  unfold applyRelayContextSnapshot
  dsimp only
  split
  · rfl
  · split <;> rfl

theorem pruneRelayReplayCache_agrees (same : left.unindexed = right.unindexed) (now : Int) :
    (left.pruneRelayReplayCache now).unindexed = (right.pruneRelayReplayCache now).unindexed := by
  rcases exists_index same with ⟨index, rfl⟩
  unfold pruneRelayReplayCache
  dsimp only
  split <;> rfl

theorem ensureNonceFresh_agrees (same : left.unindexed = right.unindexed)
    (sender commandName contextId : String) (replayNonce : Option String) (now : Int) :
    Agree (left.ensureNonceFresh sender commandName contextId replayNonce now)
      (right.ensureNonceFresh sender commandName contextId replayNonce now) := by
  rcases exists_index same with ⟨index, rfl⟩
  unfold ensureNonceFresh ensureRelayReplayFresh
  dsimp only
  repeat' split
  all_goals first | exact ⟨rfl, rfl⟩ | exact ⟨rfl, pruneRelayReplayCache_agrees (by rfl) now⟩

theorem ensureRelayRateLimit_agrees (same : left.unindexed = right.unindexed)
    (toLowercase : String -> String) (sender commandName contextId : String) (now : Int) :
    Agree (left.ensureRelayRateLimit toLowercase sender commandName contextId now)
      (right.ensureRelayRateLimit toLowercase sender commandName contextId now) := by
  rcases exists_index same with ⟨index, rfl⟩
  have counted : forall key window, currentRelayRate { left with subjects := index } key window =
      left.currentRelayRate key window := fun _ _ => rfl
  unfold ensureRelayRateLimit
  dsimp only
  rw [counted]
  split <;> exact ⟨rfl, rfl⟩

theorem admitRelay_agrees (same : left.unindexed = right.unindexed)
    (toLowercase : String -> String) (sender commandName : String)
    (context : RelayOperationContext) (replayNonce : Option String) (now : Int) :
    Agree (left.admitRelay toLowercase sender commandName context replayNonce now)
      (right.admitRelay toLowercase sender commandName context replayNonce now) := by
  unfold admitRelay
  rcases (ensureNonceFresh_agrees same sender commandName context.contextId replayNonce
    now).exists_states with ⟨checked, leftNext, rightNext, leftDone, rightDone, next⟩
  rw [leftDone, rightDone]
  cases checked with
  | error error => exact ⟨rfl, next⟩
  | ok done =>
      dsimp only
      rcases (ensureRelayRateLimit_agrees next toLowercase sender commandName context.contextId
        now).exists_states with ⟨limited, leftLast, rightLast, leftDone, rightDone, last⟩
      rw [leftDone, rightDone]
      cases limited <;> exact ⟨rfl, last⟩

theorem authorizeRelayHotpath_agrees (same : left.unindexed = right.unindexed)
    (toLowercase : String -> String) (senderEmail commandName : String)
    (authSpec : RelayAuthorizationSpec) (operationKey : String) (targetEmails : List String)
    (replayNonce : Option String) (payloadSizeHint : Option Nat) (now : Int) :
    Agree (left.authorizeRelayHotpath toLowercase senderEmail commandName authSpec operationKey
        targetEmails replayNonce payloadSizeHint now)
      (right.authorizeRelayHotpath toLowercase senderEmail commandName authSpec operationKey
        targetEmails replayNonce payloadSizeHint now) := by
  rcases exists_index same with ⟨index, rfl⟩
  let call : AuthorizeCall := ⟨senderEmail, commandName, authSpec, operationKey, targetEmails,
    replayNonce, payloadSizeHint, now⟩
  have leftCall := call.perform_eq toLowercase left
  have rightCall := call.perform_eq toLowercase { left with subjects := index }
  rw [AuthorizeCall.perform] at leftCall rightCall
  rw [leftCall, rightCall]
  dsimp only
  cases call.select toLowercase left.relayContextsBySubject with
  | error error => exact ⟨rfl, rfl⟩
  | ok context => exact admitRelay_agrees (by rfl) toLowercase _ _ context _ _

theorem markConnectionAlive_agrees (same : left.unindexed = right.unindexed)
    (connectionId : String) (timestamp : Int) :
    (left.markConnectionAlive connectionId timestamp).unindexed =
      (right.markConnectionAlive connectionId timestamp).unindexed := by
  rcases exists_index same with ⟨index, rfl⟩
  rfl

theorem dropReceiver_agrees (same : left.unindexed = right.unindexed) (receiver : Nat) :
    (left.dropReceiver receiver).unindexed = (right.dropReceiver receiver).unindexed := by
  rcases exists_index same with ⟨index, rfl⟩
  rfl

end Frames

section Removals

variable (state : GatewayState)

theorem unregisterConnection_of_registered {connectionId : String} {handle : ConnectionHandle}
    (found : state.connections.lookup connectionId = some handle) :
    (state.unregisterConnection connectionId).2 =
      { state with
        connections := state.connections.erase connectionId
        readyConnections := state.readyConnections.erase connectionId
        subjects := state.subjects.delistAll connectionId handle.info.subjects
        requestRoutes := state.requestRoutes.eraseAll
          ((state.requestRoutes.entries.filter fun entry =>
            decide (entry.2.connectionId = connectionId)).map Sigma.fst) } := by
  unfold unregisterConnection
  rw [found]

theorem unregisterConnection_comm (first second : String) :
    ((state.unregisterConnection first).2.unregisterConnection second).2.unindexed =
      ((state.unregisterConnection second).2.unregisterConnection first).2.unindexed := by
  by_cases same : first = second
  · rw [same]
  · have stays : forall removed other, other ≠ removed ->
        (state.unregisterConnection removed).2.connections.lookup other =
          state.connections.lookup other := by
      intro removed other different
      rw [lookup_unregisterConnection, if_neg different]
    cases firstFound : state.connections.lookup first with
    | none =>
        have absent := (stays second first same).trans firstFound
        rw [unregisterConnection_of_absent firstFound, unregisterConnection_of_absent absent]
    | some firstHandle =>
        cases secondFound : state.connections.lookup second with
        | none =>
            have absent := (stays first second (Ne.symm same)).trans secondFound
            rw [unregisterConnection_of_absent secondFound, unregisterConnection_of_absent absent]
        | some secondHandle =>
            have secondStays := (stays first second (Ne.symm same)).trans secondFound
            have firstStays := (stays second first same).trans firstFound
            rw [unregisterConnection_of_registered _ secondStays,
              unregisterConnection_of_registered _ firstStays,
              unregisterConnection_of_registered _ firstFound,
              unregisterConnection_of_registered _ secondFound]
            unfold unindexed
            dsimp only
            rw [AList.erase_erase first second, AList.erase_erase first second]
            congr 1
            apply AList.ext
            rw [HashTable.entries_eraseAll_filter, HashTable.entries_eraseAll_filter,
              HashTable.entries_eraseAll_filter, HashTable.entries_eraseAll_filter,
              List.filter_comm]

theorem sendOn_comm (channels : List Channel) (first second : Nat) (message : OutboundMessage) :
    (sendOn (sendOn channels first message).2 second message).2 =
      (sendOn (sendOn channels second message).2 first message).2 := by
  apply List.ext_getElem?
  intro index
  rw [getElem?_sendOn, getElem?_sendOn, getElem?_sendOn, getElem?_sendOn]
  split_ifs <;> rfl

/-- The channels after the connection was told why it is evicted. -/
def closing (connectionId : String) (close : Option (Nat × String)) : List Channel :=
  match close, state.connections.lookup connectionId with
  | some (code, reason), some handle =>
      (sendOn state.channels handle.sender (.close code reason)).2
  | _, _ => state.channels

/-- Removals do not look at the channels. -/
theorem unregisterConnection_channels_frame (channels : List Channel) (connectionId : String) :
    ({ state with channels := channels }.unregisterConnection connectionId).2 =
      { (state.unregisterConnection connectionId).2 with channels := channels } := by
  unfold unregisterConnection
  dsimp only
  cases state.connections.lookup connectionId <;> rfl

theorem evictConnection_eq (connectionId : String) (close : Option (Nat × String)) :
    (state.evictConnection connectionId close).2 =
      { (state.unregisterConnection connectionId).2 with
        channels := state.closing connectionId close } := by
  unfold evictConnection closing
  cases close with
  | none => exact unregisterConnection_channels_frame state state.channels connectionId
  | some frame =>
      dsimp only
      cases state.connections.lookup connectionId <;>
        exact unregisterConnection_channels_frame state _ connectionId

theorem evictConnection_comm (close : Option (Nat × String)) (first second : String) :
    ((state.evictConnection first close).2.evictConnection second close).2.unindexed =
      ((state.evictConnection second close).2.evictConnection first close).2.unindexed := by
  by_cases same : first = second
  · rw [same]
  · have twice : forall removed other, other ≠ removed ->
        ((state.evictConnection removed close).2.evictConnection other close).2 =
          { ((state.unregisterConnection removed).2.unregisterConnection other).2 with
            channels := { state with channels := state.closing removed close }.closing other
              close } := by
      intro removed other different
      rw [evictConnection_eq, evictConnection_eq, unregisterConnection_channels_frame]
      unfold closing
      dsimp only
      rw [lookup_unregisterConnection, if_neg different]
    have closed : { state with channels := state.closing first close }.closing second close =
        { state with channels := state.closing second close }.closing first close := by
      unfold closing
      cases close with
      | none => rfl
      | some frame =>
          dsimp only
          cases state.connections.lookup first <;> cases state.connections.lookup second <;>
            first | rfl | exact sendOn_comm _ _ _ _
    rw [twice first second (Ne.symm same), twice second first same, closed]
    exact congrArg (fun rest : GatewayState => ({ rest with
      channels := { state with channels := state.closing second close }.closing first close } :
        GatewayState)) (unregisterConnection_comm state first second)

variable {left right : GatewayState}

/-- The same connections have been removed, and the states are the same but for
the index. -/
structure RemoveSame (left right : List ConnectionInfo × GatewayState) : Prop where
  infos : left.1.Perm right.1
  state : left.2.unindexed = right.2.unindexed

theorem removeEach_agrees {remove : GatewayState -> String -> Option ConnectionInfo × GatewayState}
    (frame : forall left right id, left.unindexed = right.unindexed ->
      Agree (remove left id) (remove right id))
    (elsewhere : forall state first second, second ≠ first ->
      (remove (remove state first).2 second).1 = (remove state second).1)
    (comm : forall state first second,
      (remove (remove state first).2 second).2.unindexed =
        (remove (remove state second).2 first).2.unindexed)
    (same : left.unindexed = right.unindexed) {ids others : List String}
    (perm : ids.Perm others) :
    RemoveSame
      (ids.foldl (fun removed id =>
        (removed.1 ++ (remove removed.2 id).1.toList, (remove removed.2 id).2)) ([], left))
      (others.foldl (fun removed id =>
        (removed.1 ++ (remove removed.2 id).1.toList, (remove removed.2 id).2)) ([], right)) := by
  have loop := @view_foldl_perm (List ConnectionInfo × GatewayState) String
    (Multiset ConnectionInfo × GatewayState)
    (fun removed => ((removed.1 : Multiset ConnectionInfo), removed.2.unindexed))
    (fun removed id => (removed.1 ++ (remove removed.2 id).1.toList, (remove removed.2 id).2))
    ?_ ?_ ids others perm ([], left) ([], right) (Prod.ext rfl same)
  · exact ⟨Multiset.coe_eq_coe.mp (congrArg Prod.fst loop), congrArg Prod.snd loop⟩
  · intro first second id agree
    have removal := frame first.2 second.2 id (congrArg Prod.snd agree)
    refine Prod.ext ?_ removal.state
    dsimp only
    rw [← Multiset.coe_add, ← Multiset.coe_add, removal.result]
    exact congrArg (fun infos => infos + _) (congrArg Prod.fst agree)
  · intro removed first second
    refine Prod.ext ?_ (comm removed.2 first second)
    by_cases same : first = second
    · rw [same]
    · dsimp only
      rw [elsewhere removed.2 first second (Ne.symm same), elsewhere removed.2 second first same]
      simp only [← Multiset.coe_add]
      exact add_right_comm _ _ _

theorem unregisterEach_agrees (same : left.unindexed = right.unindexed) {ids others : List String}
    (perm : ids.Perm others) :
    RemoveSame (left.unregisterEach ids) (right.unregisterEach others) := by
  refine removeEach_agrees (fun _ _ id agree => unregisterConnection_agrees agree id) ?_
    unregisterConnection_comm same perm
  intro state first second different
  rw [unregisterConnection_fst, unregisterConnection_fst, lookup_unregisterConnection,
    if_neg different]

theorem evictEach_agrees (same : left.unindexed = right.unindexed) (close : Option (Nat × String))
    {ids others : List String} (perm : ids.Perm others) :
    RemoveSame (left.evictEach close ids) (right.evictEach close others) := by
  refine @removeEach_agrees left right
    (fun state connectionId => state.evictConnection connectionId close)
    (fun _ _ id agree => evictConnection_agrees agree id close) ?_
    (fun state => evictConnection_comm state close) same ids others perm
  intro state first second different
  rw [evictConnection_fst, evictConnection_fst, infoOf, infoOf, lookup_evictConnection,
    if_neg different]

end Removals

section Walks

variable {left right : GatewayState} (leftOrder rightOrder : HashOrder String)

theorem sameInstanceConnections_perm (same : left.connections = right.connections)
    (connectionId userId clientInstanceId : String) :
    (left.sameInstanceConnections leftOrder connectionId userId clientInstanceId).Perm
      (right.sameInstanceConnections rightOrder connectionId userId clientInstanceId) := by
  unfold sameInstanceConnections
  rw [same]
  exact ((HashTable.perm_iterate leftOrder rightOrder right.connections).filter _).map _

theorem registerConnection_agrees (same : left.unindexed = right.unindexed) (now : Int)
    (connectionId userId clientInstanceId : String) (subjects : List String)
    (connectedAt : Int) :
    let leftDone := left.registerConnection leftOrder now connectionId userId clientInstanceId
      subjects connectedAt
    let rightDone := right.registerConnection rightOrder now connectionId userId clientInstanceId
      subjects connectedAt
    leftDone.1.receiver = rightDone.1.receiver /\
      RemoveSame (leftDone.1.evicted, leftDone.2) (rightDone.1.evicted, rightDone.2) := by
  have evicted : RemoveSame
      (left.evictSameInstance leftOrder connectionId userId clientInstanceId)
      (right.evictSameInstance rightOrder connectionId userId clientInstanceId) := by
    unfold evictSameInstance
    split
    · exact ⟨List.Perm.refl _, same⟩
    · exact evictEach_agrees same _ (sameInstanceConnections_perm leftOrder rightOrder
        (connections_of_unindexed same) connectionId userId clientInstanceId)
  unfold registerConnection
  dsimp only
  rcases exists_index evicted.state with ⟨index, rest⟩
  rw [rest]
  exact ⟨rfl, evicted.infos, rfl⟩

theorem pruneStaleConnections_agrees (same : left.unindexed = right.unindexed)
    (now staleAfterSeconds : Int) :
    RemoveSame (left.pruneStaleConnections leftOrder now staleAfterSeconds)
      (right.pruneStaleConnections rightOrder now staleAfterSeconds) := by
  have connections := connections_of_unindexed same
  unfold pruneStaleConnections
  split
  · exact ⟨List.Perm.refl _, same⟩
  · rw [connections]
    exact unregisterEach_agrees same
      (((HashTable.perm_iterate leftOrder rightOrder right.connections).filter _).map _)

/-- No two ready sessions of the user were registered in the same second. -/
def ReadyTimesDistinct (state : GatewayState) (userId : String) : Prop :=
  forall order : HashOrder String, forall first, first ∈ state.readyConnectionsOf order userId ->
    forall second, second ∈ state.readyConnectionsOf order userId ->
    first.2 = second.2 -> first = second

theorem readyConnectionsOf_agrees (same : left.unindexed = right.unindexed) {userId : String}
    (distinct : left.ReadyTimesDistinct userId) :
    left.readyConnectionsOf leftOrder userId = right.readyConnectionsOf rightOrder userId := by
  have unsorted := (HashTable.perm_iterate leftOrder rightOrder left.readyConnections).filterMap
    fun entry => if entry.2.userId ≠ userId then none
      else (left.connections.lookup entry.1).map fun handle => (entry.1, handle.info.connectedAt)
  have perm : (left.readyConnectionsOf leftOrder userId).Perm
      (left.readyConnectionsOf rightOrder userId) :=
    ((List.perm_insertionSort _ _).trans unsorted).trans (List.perm_insertionSort _ _).symm
  rcases exists_index same with ⟨index, rfl⟩
  exact eq_of_perm_of_sorted perm (sorted_readyConnectionsOf leftOrder left userId)
    (sorted_readyConnectionsOf rightOrder left userId) (distinct leftOrder)

/-- Marking a session as ready evicts the same sessions in any order, unless two
of them are equally old. -/
theorem markSessionReady_agrees (same : left.unindexed = right.unindexed)
    (leftSenders : SendersDistinct left) (rightSenders : SendersDistinct right) (now : Int)
    (connectionId userId : String)
    (distinct : left.maxConnectionsPerUser = none \/
      (left.markReady now connectionId userId).ReadyTimesDistinct userId) :
    (left.markSessionReady leftOrder now connectionId userId).2.unindexed =
      (right.markSessionReady rightOrder now connectionId userId).2.unindexed := by
  have marked : (left.markReady now connectionId userId).unindexed =
      (right.markReady now connectionId userId).unindexed := by
    rcases exists_index same with ⟨index, rfl⟩
    unfold markReady
    split <;> rfl
  have overflowing : (left.markReady now connectionId userId).overflowing leftOrder connectionId
      userId = (right.markReady now connectionId userId).overflowing rightOrder connectionId
      userId := by
    unfold overflowing
    rw [markReady_maxConnectionsPerUser, markReady_maxConnectionsPerUser]
    have caps : left.maxConnectionsPerUser = right.maxConnectionsPerUser := by
      rcases exists_index same with ⟨index, rfl⟩
      rfl
    rcases distinct with uncapped | distinct
    · rw [← caps, uncapped]
    · rw [← caps, readyConnectionsOf_agrees leftOrder rightOrder marked distinct]
  rw [markSessionReady_eq leftSenders, markSessionReady_eq rightSenders, overflowing]
  exact (evictEach_agrees marked _ (List.Perm.refl _)).state

/-! ## The dispatch -/

theorem targetIds_agrees (same : left.unindexed = right.unindexed) (leftFormed : WellFormed left)
    (rightFormed : WellFormed right) (subjects : List String) :
    left.targetIds subjects = right.targetIds subjects := by
  ext id
  rw [mem_targetIds_iff_addressee leftFormed.consistent,
    mem_targetIds_iff_addressee rightFormed.consistent, Addressee, Addressee,
    connections_of_unindexed same]

/-- The send loop reaches the same targets, and finds the same ones gone. -/
theorem sendToTargets_agrees (same : left.unindexed = right.unindexed)
    (leftSenders : SendersDistinct left) (rightSenders : SendersDistinct right) (message : String)
    {ids others : List String} (nodup : ids.Nodup) (perm : ids.Perm others) :
    (left.sendToTargets message ids).enqueued = (right.sendToTargets message others).enqueued /\
      (left.sendToTargets message ids).channels = (right.sendToTargets message others).channels /\
      (left.sendToTargets message ids).staleIds.Perm
        (right.sendToTargets message others).staleIds := by
  have leftSent := sendToTargets_broadcast leftSenders message ids nodup
  have rightSent := sendToTargets_broadcast rightSenders message others (perm.nodup_iff.mp nodup)
  rcases exists_index same with ⟨index, rfl⟩
  have addressed : forall channel, left.addressed ids channel = left.addressed others channel := by
    intro channel
    rw [Bool.eq_iff_iff, addressed_iff, addressed_iff]
    exact exists_congr fun id => and_congr_left fun _ => perm.mem_iff
  refine ⟨?_, ?_, ?_⟩
  · rw [leftSent.enqueued, rightSent.enqueued]
    exact perm.countP_eq _
  · apply List.ext_getElem?
    intro channel
    rw [leftSent.channels, rightSent.channels, addressed]
    rfl
  · rw [leftSent.stale, rightSent.stale]
    exact perm.filter _

theorem deliverToSubjects_agrees (same : left.unindexed = right.unindexed)
    (leftFormed : WellFormed left) (rightFormed : WellFormed right) (now : Int)
    (subjects : List String) (message : String) (bufferIfUndelivered : Bool) :
    Agree (left.deliverToSubjects leftOrder now subjects message bufferIfUndelivered)
      (right.deliverToSubjects rightOrder now subjects message bufferIfUndelivered) := by
  have targets := targetIds_agrees same leftFormed rightFormed subjects
  rcases sendToTargets_agrees same leftFormed.senders rightFormed.senders message
    (leftOrder.nodup (left.targetIds subjects))
    (leftOrder.perm_enumerate rightOrder (left.targetIds subjects)) with
    ⟨enqueued, channels, stale⟩
  rw [targets] at enqueued channels stale
  unfold deliverToSubjects
  dsimp only
  rw [targets, enqueued, channels]
  refine ⟨rfl, ?_⟩
  have cleaned : ({ left with channels := (right.sendToTargets message (rightOrder.enumerate
        (right.targetIds subjects))).channels }.unregisterEach (left.sendToTargets message
        (leftOrder.enumerate (right.targetIds subjects))).staleIds).2.unindexed =
      ({ right with channels := (right.sendToTargets message (rightOrder.enumerate
        (right.targetIds subjects))).channels }.unregisterEach (right.sendToTargets message
        (rightOrder.enumerate (right.targetIds subjects))).staleIds).2.unindexed :=
    unregisterEach_agrees (congrArg (fun rest : GatewayState => { rest with
      channels := (right.sendToTargets message (rightOrder.enumerate
        (right.targetIds subjects))).channels }) same) stale |>.state
  split
  · exact requeueForSubjects_agrees cleaned now subjects message
  · exact cleaned

theorem sendToSubjects_agrees (same : left.unindexed = right.unindexed)
    (leftFormed : WellFormed left) (rightFormed : WellFormed right) (stickyNow now : Int)
    (subjects : List String) (message : String) (bufferIfUndelivered : Bool)
    (stickyKey : Option String) :
    Agree
      (left.sendToSubjects leftOrder stickyNow now subjects message bufferIfUndelivered stickyKey)
      (right.sendToSubjects rightOrder stickyNow now subjects message bufferIfUndelivered
        stickyKey) := by
  unfold sendToSubjects
  split
  · exact ⟨rfl, same⟩
  · cases stickyKey with
    | none =>
        exact deliverToSubjects_agrees leftOrder rightOrder same leftFormed rightFormed now subjects
          message bufferIfUndelivered
    | some key =>
        have buffered : forall state, WellFormed state ->
            WellFormed (state.bufferLatestForSubjects stickyNow subjects message key) := by
          intro state formed
          rcases bufferLatestForSubjects_touches stickyNow state subjects message key with
            ⟨pending, touched⟩
          rw [touched]
          exact WellFormed.kept.changes.tables state pending _ _ _ formed
        exact deliverToSubjects_agrees leftOrder rightOrder
          (bufferLatestForSubjects_agrees same stickyNow subjects message key)
          (buffered left leftFormed) (buffered right rightFormed) now subjects message
          bufferIfUndelivered

end Walks

/-- Every table holds the same under each key, and the channels are equal. -/
structure SameContents (left right : GatewayState) : Prop where
  rest : left.unindexed = right.unindexed
  index : forall subject, left.subjects.lookup subject = right.subjects.lookup subject

/-- The connections determine the index. -/
theorem SameContents.of_wellFormed {left right : GatewayState} (leftFormed : WellFormed left)
    (rightFormed : WellFormed right) (same : left.unindexed = right.unindexed) :
    SameContents left right where
  rest := same
  index := by
    have listed := rightFormed.consistent.index
    rw [← connections_of_unindexed same] at listed
    exact leftFormed.consistent.index.lookup_eq listed

end GatewayState

/-- No user has registered two sessions in the same second. -/
def SecondsDistinct (infos : List ConnectionInfo) : Prop :=
  forall first, first ∈ infos -> forall second, second ∈ infos ->
    first.userId = second.userId -> first.connectedAt = second.connectedAt -> first = second

instance (infos : List ConnectionInfo) : Decidable (SecondsDistinct infos) :=
  inferInstanceAs (Decidable (forall first, first ∈ infos -> forall second, second ∈ infos -> _))

/-- The connections and the marks are those of some sessions, of which no two
are equally old. -/
theorem readyTimesDistinct_of_known {infos : List ConnectionInfo} {state : GatewayState}
    (known : AllKnown (fun info => info ∈ infos) state)
    (marks : MarksKnown (infos.map fun info => (info.connectionId, info.userId)) state)
    (fresh : (infos.map ConnectionInfo.connectionId).Nodup) (distinct : SecondsDistinct infos)
    (userId : String) : state.ReadyTimesDistinct userId := by
  have session : forall order entry, entry ∈ state.readyConnectionsOf order userId ->
      Exists fun info => info ∈ infos /\ info.connectionId = entry.1 /\ info.userId = userId /\
        info.connectedAt = entry.2 := by
    intro order entry member
    rcases (GatewayState.mem_readyConnectionsOf order state userId entry).mp member with
      ⟨mark, handle, marked, owned, found, sameTime⟩
    rcases known entry.1 handle found with ⟨keyed, listed⟩
    rcases List.mem_map.mp (marks entry.1 mark marked) with ⟨info, marking, same⟩
    cases Prod.mk.inj same with
    | intro sameId sameUser =>
        have sameInfo : handle.info.atRegistration = info :=
          List.inj_on_of_nodup_map fresh listed marking (keyed.trans sameId.symm)
        refine ⟨info, marking, sameId, sameUser.trans owned, ?_⟩
        rw [← sameInfo, ← sameTime]
        rfl
  intro order first firstMember second secondMember sameTime
  rcases session order first firstMember with
    ⟨firstInfo, firstListed, firstId, firstUser, firstTime⟩
  rcases session order second secondMember with
    ⟨secondInfo, secondListed, secondId, secondUser, secondTime⟩
  have same := distinct firstInfo firstListed secondInfo secondListed
    (firstUser.trans secondUser.symm) ((firstTime.trans sameTime).trans secondTime.symm)
  exact Prod.ext (firstId.symm.trans ((congrArg ConnectionInfo.connectionId same).trans secondId))
    sameTime

end State
end Gateway

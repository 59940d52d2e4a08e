import Gateway.State.Preservation

namespace Gateway
namespace State

open Foundation

/-!
# Which connections are evicted

A registration evicts the other connections of its client instance, and marking
a session as ready evicts the oldest ready sessions of its user beyond the cap.
Both come down to evicting a list of distinct connections one after the other.
Each of them that is registered is told so, and then it is taken out.
-/

namespace GatewayState

/-- The info of a registered connection. -/
def infoOf (state : GatewayState) (connectionId : String) : Option ConnectionInfo :=
  (state.connections.lookup connectionId).map ConnectionHandle.info

theorem evictConnection_fst (state : GatewayState) (connectionId : String)
    (close : Option (Nat × String)) :
    (state.evictConnection connectionId close).1 = state.infoOf connectionId := by
  unfold evictConnection
  rw [unregisterConnection_fst, infoOf]
  split <;> rfl

theorem lookup_evictConnection (state : GatewayState) (connectionId : String)
    (close : Option (Nat × String)) (other : String) :
    (state.evictConnection connectionId close).2.connections.lookup other =
      if other = connectionId then none else state.connections.lookup other := by
  unfold evictConnection
  rw [lookup_unregisterConnection]
  congr 1
  split <;> rfl

/-- The close message goes to the channel of the connection. -/
theorem getElem?_evictConnection (state : GatewayState) (connectionId : String) (code : Nat)
    (reason : String) (index : Nat) :
    (state.evictConnection connectionId (some (code, reason))).2.channels[index]? =
      state.channels[index]?.map fun channel =>
        if state.addressed [connectionId] index then channel.receive (.close code reason)
        else channel := by
  have addressed : state.addressed [connectionId] index =
      (state.connections.lookup connectionId).any fun handle => decide (handle.sender = index) :=
    Bool.or_false _
  unfold evictConnection
  rw [unregisterConnection_channels, addressed]
  cases state.connections.lookup connectionId with
  | none => exact Option.map_id'.symm
  | some handle =>
      dsimp only [Option.any_some]
      rw [getElem?_sendOn]
      by_cases same : index = handle.sender
      · simp [same]
      · simp [same, Ne.symm same]

/-- Whether the connection is registered, its ready mark and its routes are as
before. -/
structure Untouched (before after : GatewayState) (id : String) : Prop where
  handle : after.connections.lookup id = before.connections.lookup id
  mark : after.readyConnections.lookup id = before.readyConnections.lookup id
  routes : forall key route, route.connectionId = id ->
    (after.requestRoutes.lookup key = some route <-> before.requestRoutes.lookup key = some route)

namespace Untouched

variable {before middle after : GatewayState} {id : String}

theorem refl (state : GatewayState) (id : String) : Untouched state state id :=
  ⟨rfl, rfl, fun _ _ _ => Iff.rfl⟩

theorem trans (first : Untouched before middle id) (second : Untouched middle after id) :
    Untouched before after id :=
  ⟨second.handle.trans first.handle, second.mark.trans first.mark,
    fun key route owner => (second.routes key route owner).trans (first.routes key route owner)⟩

end Untouched

theorem unregisterConnection_untouched (state : GatewayState) {connectionId id : String}
    (different : id ≠ connectionId) :
    Untouched state (state.unregisterConnection connectionId).2 id := by
  refine ⟨?_, ?_, ?_⟩
  · rw [lookup_unregisterConnection, if_neg different]
  · apply Option.ext
    intro mark
    rw [lookup_unregisterConnection_readyConnections]
    exact and_iff_left (Or.inr different)
  · rintro key route rfl
    rw [lookup_unregisterConnection_requestRoutes]
    exact and_iff_left (Or.inr different)

theorem evictConnection_untouched (state : GatewayState) {connectionId id : String}
    (different : id ≠ connectionId) (close : Option (Nat × String)) :
    Untouched state (state.evictConnection connectionId close).2 id := by
  unfold evictConnection
  refine Untouched.trans ?_ (unregisterConnection_untouched _ different)
  split
  · exact ⟨rfl, rfl, fun _ _ _ => Iff.rfl⟩
  · exact .refl state id

theorem evictEach_concat (close : Option (Nat × String)) (state : GatewayState)
    (ids : List String) (id : String) :
    state.evictEach close (ids ++ [id]) =
      ((state.evictEach close ids).1 ++
          ((state.evictEach close ids).2.evictConnection id close).1.toList,
        ((state.evictEach close ids).2.evictConnection id close).2) := by
  rw [evictEach, List.foldl_append]
  rfl

theorem evictEach_untouched (state : GatewayState) (close : Option (Nat × String))
    {ids : List String} {id : String} (spared : id ∉ ids) :
    Untouched state (state.evictEach close ids).2 id := by
  induction ids using List.reverseRecOn with
  | nil => exact .refl state id
  | append_singleton ids last ih =>
      rw [List.mem_append, List.mem_singleton, not_or] at spared
      rw [evictEach_concat]
      exact (ih spared.1).trans (evictConnection_untouched _ spared.2 close)

/-- The result of evicting distinct connections. -/
structure Evictions (state : GatewayState) (code : Nat) (reason : String) (ids : List String)
    (result : List ConnectionInfo × GatewayState) : Prop where
  infos : result.1 = ids.filterMap state.infoOf
  connections : forall other, result.2.connections.lookup other =
    if other ∈ ids then none else state.connections.lookup other
  channels : forall index, result.2.channels[index]? =
    state.channels[index]?.map fun channel =>
      if state.addressed ids index then channel.receive (.close code reason) else channel

theorem lookup_evictEach (state : GatewayState) (close : Option (Nat × String))
    (ids : List String) (other : String) :
    (state.evictEach close ids).2.connections.lookup other =
      if other ∈ ids then none else state.connections.lookup other := by
  induction ids using List.reverseRecOn with
  | nil => rfl
  | append_singleton ids id ih =>
      rw [evictEach_concat]
      dsimp only
      rw [lookup_evictConnection, ih]
      by_cases same : other = id
      · rw [if_pos same, if_pos (List.mem_append_right _ (List.mem_singleton.mpr same))]
      · have listed : other ∈ ids ++ [id] <-> other ∈ ids := by
          rw [List.mem_append, List.mem_singleton, or_iff_left same]
        rw [if_neg same, if_congr listed rfl rfl]

theorem evictEach_evictions {state : GatewayState} (senders : SendersDistinct state) (code : Nat)
    (reason : String) {ids : List String} (nodup : ids.Nodup) :
    Evictions state code reason ids (state.evictEach (some (code, reason)) ids) := by
  induction ids using List.reverseRecOn with
  | nil => exact ⟨rfl, fun _ => rfl, fun _ => Option.map_id'.symm⟩
  | append_singleton ids id ih =>
      have parts := List.nodup_append.mp nodup
      have fresh : id ∉ ids := fun member => parts.2.2 id member id List.mem_cons_self rfl
      have before := ih parts.1
      have registered : (state.evictEach (some (code, reason)) ids).2.connections.lookup id =
          state.connections.lookup id := by
        rw [lookup_evictEach, if_neg fresh]
      rw [evictEach_concat]
      constructor
      · rw [evictConnection_fst, infoOf, registered, ← infoOf, List.filterMap_append, before.infos]
        cases reported : state.infoOf id <;> simp [reported]
      · intro other
        rw [← evictEach_concat]
        exact lookup_evictEach state (some (code, reason)) (ids ++ [id]) other
      · intro index
        dsimp only
        rw [getElem?_evictConnection, before.channels, Option.map_map, addressed_concat]
        have last : (state.evictEach (some (code, reason)) ids).2.addressed [id] index =
            (state.connections.lookup id).any fun handle => decide (handle.sender = index) := by
          rw [addressed, List.any_cons, List.any_nil, Bool.or_false, registered]
        rw [last]
        apply congrArg (fun change => state.channels[index]?.map change)
        funext channel
        cases found : state.connections.lookup id with
        | none => rw [Option.any_none, Bool.or_false]; rfl
        | some handle =>
            rw [Option.any_some]
            by_cases same : handle.sender = index
            · have unaddressed := senders.not_addressed found fresh
              rw [same] at unaddressed
              simp [same, unaddressed]
            · simp [same]

/-- Evicting connections that are all registered reports each of them. -/
theorem Evictions.length_infos {state : GatewayState} {code : Nat} {reason : String}
    {ids : List String} {result : List ConnectionInfo × GatewayState}
    (evictions : Evictions state code reason ids result)
    (registered : forall id, id ∈ ids -> Exists fun handle =>
      state.connections.lookup id = some handle) : result.1.length = ids.length := by
  rw [evictions.infos]
  clear evictions
  induction ids with
  | nil => rfl
  | cons id ids ih =>
      rcases registered id List.mem_cons_self with ⟨handle, found⟩
      have reported : state.infoOf id = some handle.info := by rw [infoOf, found, Option.map_some]
      rw [List.filterMap_cons_some reported, List.length_cons, List.length_cons,
        ih fun other member => registered other (List.mem_cons_of_mem _ member)]

theorem mem_sameInstanceConnections (order : HashOrder String) (state : GatewayState)
    (connectionId userId clientInstanceId id : String) :
    id ∈ state.sameInstanceConnections order connectionId userId clientInstanceId <->
      id ≠ connectionId /\ Exists fun handle => state.connections.lookup id = some handle /\
        handle.info.userId = userId /\ handle.info.clientInstanceId = clientInstanceId := by
  rw [sameInstanceConnections, List.mem_map]
  constructor
  · rintro ⟨⟨other, handle⟩, member, rfl⟩
    rcases List.mem_filter.mp member with ⟨visited, kept⟩
    simp only [Bool.and_eq_true, decide_eq_true_eq] at kept
    exact ⟨kept.2, handle, (HashTable.mem_iterate order _ _ _).mp visited, kept.1⟩
  · rintro ⟨different, handle, found, same⟩
    refine ⟨(id, handle), List.mem_filter.mpr ⟨(HashTable.mem_iterate order _ _ _).mpr found, ?_⟩,
      rfl⟩
    simp [same, different]

theorem nodup_sameInstanceConnections (order : HashOrder String) (state : GatewayState)
    (connectionId userId clientInstanceId : String) :
    (state.sameInstanceConnections order connectionId userId clientInstanceId).Nodup :=
  (HashTable.nodup_iterate order state.connections).sublist (List.filter_sublist.map _)

/-- The connections that a registration evicts. -/
def predecessors (order : HashOrder String) (state : GatewayState)
    (connectionId userId clientInstanceId : String) : List String :=
  if clientInstanceId = "" then []
  else state.sameInstanceConnections order connectionId userId clientInstanceId

theorem evictSameInstance_eq (order : HashOrder String) (state : GatewayState)
    (connectionId userId clientInstanceId : String) :
    state.evictSameInstance order connectionId userId clientInstanceId =
      state.evictEach (some (1000, "reconnect"))
        (state.predecessors order connectionId userId clientInstanceId) := by
  unfold evictSameInstance predecessors
  split <;> rfl

theorem nodup_predecessors (order : HashOrder String) (state : GatewayState)
    (connectionId userId clientInstanceId : String) :
    (state.predecessors order connectionId userId clientInstanceId).Nodup := by
  unfold predecessors
  split
  · exact List.nodup_nil
  · exact nodup_sameInstanceConnections order state connectionId userId clientInstanceId

theorem mem_readyConnectionsOf (order : HashOrder String) (state : GatewayState)
    (userId : String) (entry : String × Int) :
    entry ∈ state.readyConnectionsOf order userId <->
      Exists fun mark => Exists fun handle =>
        state.readyConnections.lookup entry.1 = some mark /\ mark.userId = userId /\
        state.connections.lookup entry.1 = some handle /\
        handle.info.connectedAt = entry.2 := by
  rcases entry with ⟨id, connectedAt⟩
  rw [readyConnectionsOf]
  dsimp only
  rw [List.mem_insertionSort, List.mem_filterMap]
  constructor
  · rintro ⟨⟨other, mark⟩, visited, selected⟩
    dsimp only at selected
    split at selected
    · cases selected
    · next owned =>
      rcases Option.map_eq_some_iff.mp selected with ⟨handle, found, same⟩
      cases same
      exact ⟨mark, handle, (HashTable.mem_iterate order _ _ _).mp visited, not_not.mp owned, found,
        rfl⟩
  · rintro ⟨mark, handle, marked, owned, found, rfl⟩
    refine ⟨(id, mark), (HashTable.mem_iterate order _ _ _).mpr marked, ?_⟩
    dsimp only
    rw [if_neg (not_not.mpr owned), found, Option.map_some]

theorem nodup_readyConnectionsOf (order : HashOrder String) (state : GatewayState)
    (userId : String) : ((state.readyConnectionsOf order userId).map Prod.fst).Nodup := by
  rw [readyConnectionsOf]
  refine ((List.perm_insertionSort _ _).map Prod.fst).nodup_iff.mpr ?_
  refine (HashTable.nodup_iterate order state.readyConnections).sublist
    (HashTable.map_filterMap_sublist ?_ _)
  rintro ⟨id, mark⟩ entry selected
  dsimp only at selected
  split at selected
  · cases selected
  · rcases Option.map_eq_some_iff.mp selected with ⟨handle, _, rfl⟩
    rfl

theorem sorted_readyConnectionsOf (order : HashOrder String) (state : GatewayState)
    (userId : String) :
    (state.readyConnectionsOf order userId).Pairwise fun left right => left.2 ≤ right.2 :=
  List.pairwise_insertionSort _ _

/-! ## The sessions over the cap -/

/-- The first so many of a list of sessions, without the caller. -/
def oldestOthers (connectionId : String) (overflow : Nat) (ready : List (String × Int)) :
    List String :=
  ((ready.map Prod.fst).filter fun id => decide (id ≠ connectionId)).take overflow

theorem oldestOthers_concat (connectionId : String) (overflow : Nat)
    (ready : List (String × Int)) (entry : String × Int) :
    oldestOthers connectionId overflow (ready ++ [entry]) =
      if overflow ≤ (oldestOthers connectionId overflow ready).length ∨ entry.1 = connectionId then
        oldestOthers connectionId overflow ready
      else oldestOthers connectionId overflow ready ++ [entry.1] := by
  unfold oldestOthers
  rw [List.map_append, List.filter_append, List.map_singleton]
  generalize (ready.map Prod.fst).filter (fun id => decide (id ≠ connectionId)) = others
  rw [List.length_take]
  by_cases caller : entry.1 = connectionId
  · rw [if_pos (Or.inr caller), List.filter_singleton, decide_eq_false (not_not.mpr caller)]
    exact congrArg (List.take overflow) (List.append_nil others)
  · rw [List.filter_singleton, decide_eq_true caller]
    by_cases full : overflow ≤ others.length
    · rw [if_pos (Or.inl (by omega)), List.take_append_of_le_length full]
    · rw [if_neg (not_or.mpr ⟨by omega, caller⟩), List.take_of_length_le (by simp; omega),
        List.take_of_length_le (by omega)]
      rfl

theorem mem_oldestOthers {connectionId : String} {overflow : Nat} {ready : List (String × Int)}
    {id : String} (member : id ∈ oldestOthers connectionId overflow ready) :
    id ∈ ready.map Prod.fst /\ id ≠ connectionId := by
  have listed := List.mem_filter.mp (List.mem_of_mem_take member)
  exact ⟨listed.1, of_decide_eq_true listed.2⟩

theorem nodup_oldestOthers {ready : List (String × Int)} (nodup : (ready.map Prod.fst).Nodup)
    (connectionId : String) (overflow : Nat) : (oldestOthers connectionId overflow ready).Nodup :=
  (nodup.filter _).sublist (List.take_sublist _ _)

/-- Of a sorted list the sessions in front are taken. -/
theorem oldestOthers_le {ready : List (String × Int)}
    (sorted : ready.Pairwise fun left right => left.2 ≤ right.2) {connectionId : String}
    {overflow : Nat} {id : String} (taken : id ∈ oldestOthers connectionId overflow ready)
    {other : String × Int} (listed : other ∈ ready) (different : other.1 ≠ connectionId)
    (spared : other.1 ∉ oldestOthers connectionId overflow ready) :
    Exists fun entry => entry ∈ ready /\ entry.1 = id /\ entry.2 ≤ other.2 := by
  rw [oldestOthers, List.filter_map, ← List.map_take] at taken spared
  generalize selected : ready.filter ((fun id => decide (id ≠ connectionId)) ∘ Prod.fst) = others
    at taken spared
  have split : List.Pairwise (fun left right : String × Int => left.2 ≤ right.2)
      (others.take overflow ++ others.drop overflow) := by
    rw [List.take_append_drop, ← selected]
    exact sorted.filter _
  have otherListed : other ∈ others.take overflow ++ others.drop overflow := by
    rw [List.take_append_drop, ← selected]
    exact List.mem_filter.mpr ⟨listed, decide_eq_true different⟩
  rcases List.mem_map.mp taken with ⟨entry, front, rfl⟩
  have entryListed : entry ∈ ready := by
    have member := List.mem_of_mem_take front
    rw [← selected] at member
    exact (List.mem_filter.mp member).1
  rcases List.mem_append.mp otherListed with early | late
  · exact absurd (List.mem_map_of_mem early) spared
  · exact ⟨entry, entryListed, rfl, (List.pairwise_append.mp split).2.2 entry front other late⟩

/-- The loop that counts its evictions evicts the oldest others. -/
theorem evictOverflow_eq {state : GatewayState} (senders : SendersDistinct state)
    (connectionId : String) (overflow : Nat) {ready : List (String × Int)}
    (nodup : (ready.map Prod.fst).Nodup)
    (registered : forall entry, entry ∈ ready -> Exists fun handle =>
      state.connections.lookup entry.1 = some handle) :
    state.evictOverflow connectionId overflow ready =
      state.evictEach (some (4409, "session_replaced"))
        (oldestOthers connectionId overflow ready) := by
  induction ready using List.reverseRecOn with
  | nil =>
      rw [oldestOthers, List.map_nil, List.filter_nil, List.take_nil]
      rfl
  | append_singleton ready entry ih =>
      rw [List.map_append] at nodup
      have earlierNodup := (List.nodup_append.mp nodup).1
      have before := ih earlierNodup fun other member =>
        registered other (List.mem_append_left _ member)
      have evictions := evictEach_evictions senders 4409 "session_replaced"
        (nodup_oldestOthers earlierNodup connectionId overflow)
      have counted := evictions.length_infos fun id member => by
        rcases List.mem_map.mp (mem_oldestOthers member).1 with ⟨other, listed, rfl⟩
        exact registered other (List.mem_append_left _ listed)
      rw [evictOverflow, List.foldl_append, ← evictOverflow, before, List.foldl_cons,
        List.foldl_nil, oldestOthers_concat, counted]
      by_cases full : overflow ≤ (oldestOthers connectionId overflow ready).length
      · rw [if_pos full, if_pos (Or.inl full)]
      · by_cases caller : entry.1 = connectionId
        · rw [if_neg full, if_pos caller, if_pos (Or.inr caller)]
        · rw [if_neg full, if_neg caller, if_neg (not_or.mpr ⟨full, caller⟩), evictEach_concat]

/-- The ready mark by itself. -/
def markReady (now : Int) (state : GatewayState) (connectionId userId : String) : GatewayState :=
  if connectionId = "" ∨ userId = "" then state
  else
    { state with
      readyConnections :=
        state.readyConnections.insert connectionId { userId := userId, readyAt := now } }

theorem markReady_connections (now : Int) (state : GatewayState) (connectionId userId : String) :
    (state.markReady now connectionId userId).connections = state.connections := by
  unfold markReady
  split <;> rfl

theorem markReady_channels (now : Int) (state : GatewayState) (connectionId userId : String) :
    (state.markReady now connectionId userId).channels = state.channels := by
  unfold markReady
  split <;> rfl

theorem SendersDistinct.markReady {state : GatewayState} (senders : SendersDistinct state)
    (now : Int) (connectionId userId : String) :
    SendersDistinct (state.markReady now connectionId userId) := by
  unfold GatewayState.markReady
  split
  · exact senders
  · exact ⟨senders.bound, senders.distinct⟩

/-- The connections that marking a session as ready evicts. -/
def overflowing (order : HashOrder String) (state : GatewayState) (connectionId userId : String) :
    List String :=
  if connectionId = "" ∨ userId = "" then []
  else
    match state.maxConnectionsPerUser with
    | none => []
    | some maxConnectionsPerUser =>
        oldestOthers connectionId
          ((state.readyConnectionsOf order userId).length - maxConnectionsPerUser)
          (state.readyConnectionsOf order userId)

theorem markSessionReady_eq {state : GatewayState} (senders : SendersDistinct state)
    (order : HashOrder String) (now : Int) (connectionId userId : String) :
    state.markSessionReady order now connectionId userId =
      (state.markReady now connectionId userId).evictEach (some (4409, "session_replaced"))
        ((state.markReady now connectionId userId).overflowing order connectionId userId) := by
  unfold markSessionReady markReady overflowing
  split
  · rfl
  · dsimp only
    cases state.maxConnectionsPerUser with
    | none => rfl
    | some maxConnectionsPerUser =>
        dsimp only
        split
        · next below =>
          rw [Nat.sub_eq_zero_of_le below, oldestOthers, List.take_zero]
          rfl
        · refine evictOverflow_eq (by exact ⟨senders.bound, senders.distinct⟩) connectionId _
            (nodup_readyConnectionsOf order _ userId) ?_
          intro entry member
          rcases (mem_readyConnectionsOf order _ userId entry).mp member with
            ⟨mark, handle, _, _, found, _⟩
          exact ⟨handle, found⟩

theorem nodup_overflowing (order : HashOrder String) (state : GatewayState)
    (connectionId userId : String) : (state.overflowing order connectionId userId).Nodup := by
  unfold overflowing
  split
  · exact List.nodup_nil
  · split
    · exact List.nodup_nil
    · exact nodup_oldestOthers (nodup_readyConnectionsOf order state userId) connectionId _

end GatewayState

end State
end Gateway

import Gateway.State.Closing
import Gateway.State.Registrations

namespace Gateway
namespace State

open Foundation

/-!
# The connection cap

A user's session counts against the cap from the moment it is marked as ready
until it is unregistered.  The only operation that adds to the count is the
mark, and it evicts the oldest other sessions until the count is back at the
cap.  Marks that arrive after their connection is gone add nothing, since the
connection table is asked before a session is counted.

The marks carry the user that the caller names.  The gateway names the user of
the connection, and so the mark and the connection agree.
-/

/-- A session is marked as ready only after it has registered, and with its own
user. -/
def MarksOwn (earlier : List Operation) : Operation -> Prop
  | .markSessionReady _ _ connectionId userId => (connectionId, userId) ∈ registeredUsers earlier
  | _ => True

instance (earlier : List Operation) (operation : Operation) :
    Decidable (MarksOwn earlier operation) :=
  match operation with
  | .markSessionReady _ _ connectionId userId =>
      inferInstanceAs (Decidable ((connectionId, userId) ∈ registeredUsers earlier))
  | .registerConnection .. | .unregisterConnection .. | .sendToSubjects .. | .sendToConnection ..
  | .markConnectionAlive .. | .pruneStaleConnections .. | .bindRequestRoute ..
  | .clearRequestRoute .. | .resolveRequestRoute .. | .requeueForSubjects ..
  | .bufferLatestForSubjects .. | .applyRelayContextSnapshot .. | .authorizeRelayHotpath ..
  | .dropReceiver .. => .isTrue trivial

/-- The ready mark of a registered connection names its user. -/
def MarksMatch (state : GatewayState) : Prop :=
  forall id handle mark, state.connections.lookup id = some handle ->
    state.readyConnections.lookup id = some mark -> mark.userId = handle.info.userId

namespace GatewayState

/-- The registered connections of a user that are marked as ready. -/
def liveReady (state : GatewayState) (userId : String) : Finset String :=
  state.connections.keys.toFinset.filter fun id =>
    (state.connections.lookup id).any (fun handle => decide (handle.info.userId = userId)) &&
      (state.readyConnections.lookup id).isSome

theorem mem_liveReady (state : GatewayState) (userId id : String) :
    id ∈ state.liveReady userId <-> Exists fun handle : ConnectionHandle =>
      state.connections.lookup id = some handle /\ handle.info.userId = userId /\
        Exists fun mark => state.readyConnections.lookup id = some mark := by
  rw [liveReady, Finset.mem_filter, List.mem_toFinset, HashTable.mem_keys_iff_lookup]
  cases found : state.connections.lookup id with
  | none => simp
  | some handle => simp [Option.isSome_iff_exists]

/-- Fewer connections and fewer marks. -/
theorem liveReady_subset {state fewer : GatewayState} {userId : String}
    (older : forall id handle, fewer.connections.lookup id = some handle ->
      Exists fun old : ConnectionHandle => state.connections.lookup id = some old /\
        old.info.userId = handle.info.userId)
    (marks : forall id mark, fewer.readyConnections.lookup id = some mark ->
      state.readyConnections.lookup id = some mark) :
    fewer.liveReady userId ⊆ state.liveReady userId := by
  intro id counted
  rcases (mem_liveReady fewer userId id).mp counted with ⟨handle, found, owned, mark, marked⟩
  rcases older id handle found with ⟨old, oldFound, same⟩
  exact (mem_liveReady state userId id).mpr
    ⟨old, oldFound, same.trans owned, mark, marks id mark marked⟩

theorem liveReady_unregisterConnection_subset (state : GatewayState)
    (connectionId userId : String) :
    (state.unregisterConnection connectionId).2.liveReady userId ⊆ state.liveReady userId := by
  apply liveReady_subset
  · intro id handle found
    rw [lookup_unregisterConnection] at found
    split at found
    · cases found
    · exact ⟨handle, found, rfl⟩
  · intro id mark marked
    exact ((lookup_unregisterConnection_readyConnections state connectionId id mark).mp marked).1

theorem liveReady_markConnectionAlive_subset (state : GatewayState) (connectionId : String)
    (timestamp : Int) (userId : String) :
    (state.markConnectionAlive connectionId timestamp).liveReady userId ⊆
      state.liveReady userId := by
  refine liveReady_subset ?_ fun _ _ marked => marked
  intro id handle found
  simp only [markConnectionAlive, HashTable.lookup_modify] at found
  split at found
  · next same =>
    rcases Option.map_eq_some_iff.mp found with ⟨old, oldFound, rfl⟩
    rw [← same] at oldFound
    exact ⟨old, oldFound, rfl⟩
  · exact ⟨handle, found, rfl⟩

/-! ## The ready list against the sessions that count -/

variable {state : GatewayState}

theorem mem_map_readyConnectionsOf (matching : MarksMatch state) (order : HashOrder String)
    (userId id : String) :
    id ∈ (state.readyConnectionsOf order userId).map Prod.fst <-> id ∈ state.liveReady userId := by
  rw [List.mem_map, mem_liveReady]
  constructor
  · rintro ⟨entry, listed, rfl⟩
    rcases (mem_readyConnectionsOf order state userId entry).mp listed with
      ⟨mark, handle, marked, owned, found, _⟩
    exact ⟨handle, found, (matching entry.1 handle mark found marked).symm.trans owned, mark,
      marked⟩
  · rintro ⟨handle, found, owned, mark, marked⟩
    refine ⟨(id, handle.info.connectedAt),
      (mem_readyConnectionsOf order state userId _).mpr ⟨mark, handle, marked, ?_, found, rfl⟩, rfl⟩
    exact (matching id handle mark found marked).trans owned

theorem length_readyConnectionsOf (matching : MarksMatch state) (order : HashOrder String)
    (userId : String) :
    (state.readyConnectionsOf order userId).length = (state.liveReady userId).card := by
  rw [← List.length_map Prod.fst,
    ← List.toFinset_card_of_nodup (nodup_readyConnectionsOf order state userId)]
  congr 1
  ext id
  rw [List.mem_toFinset, mem_map_readyConnectionsOf matching]

theorem mem_overflowing (matching : MarksMatch state) {order : HashOrder String}
    {connectionId userId id : String} (evicted : id ∈ state.overflowing order connectionId userId) :
    id ∈ state.liveReady userId /\ id ≠ connectionId := by
  unfold overflowing at evicted
  split at evicted
  · cases evicted
  · split at evicted
    · cases evicted
    · rcases mem_oldestOthers evicted with ⟨listed, different⟩
      exact ⟨(mem_map_readyConnectionsOf matching order userId id).mp listed, different⟩

/-- The list without the caller is long enough for the evictions. -/
theorem length_oldestOthers {ready : List (String × Int)} (nodup : (ready.map Prod.fst).Nodup)
    (connectionId : String) {overflow : Nat} (fits : overflow < ready.length ∨ overflow = 0) :
    (oldestOthers connectionId overflow ready).length = overflow := by
  have erased : (ready.map Prod.fst).erase connectionId =
      (ready.map Prod.fst).filter fun id => decide (id ≠ connectionId) := by
    rw [nodup.erase_eq_filter]
    apply List.filter_congr
    intro id _
    simp [bne, beq_eq_decide]
  have long := List.le_length_erase (l := ready.map Prod.fst) (a := connectionId)
  rw [erased, List.length_map] at long
  rw [oldestOthers, List.length_take]
  omega

/-- As many sessions are evicted as there are over the cap. -/
theorem length_overflowing (matching : MarksMatch state) {maxConnectionsPerUser : Nat}
    (limit : state.maxConnectionsPerUser = some maxConnectionsPerUser)
    (positive : 1 ≤ maxConnectionsPerUser) (order : HashOrder String) (connectionId userId : String)
    (capped : connectionId = "" ∨ userId = "" ->
      (state.liveReady userId).card ≤ maxConnectionsPerUser) :
    (state.overflowing order connectionId userId).length =
      (state.liveReady userId).card - maxConnectionsPerUser := by
  unfold overflowing
  split
  · next nameless => exact (Nat.sub_eq_zero_of_le (capped nameless)).symm
  · simp only [limit]
    rw [length_oldestOthers (nodup_readyConnectionsOf order state userId),
      length_readyConnectionsOf matching]
    omega

/-- Whoever is evicted has registered no later than the other sessions that
stay. -/
theorem overflowing_oldest (matching : MarksMatch state) {order : HashOrder String}
    {connectionId userId id other : String}
    (evicted : id ∈ state.overflowing order connectionId userId)
    (counted : other ∈ state.liveReady userId)
    (spared : other ∉ state.overflowing order connectionId userId)
    (different : other ≠ connectionId) {handle otherHandle : ConnectionHandle}
    (found : state.connections.lookup id = some handle)
    (otherFound : state.connections.lookup other = some otherHandle) :
    handle.info.connectedAt ≤ otherHandle.info.connectedAt := by
  unfold overflowing at evicted spared
  split at evicted
  · cases evicted
  · split at evicted
    · cases evicted
    · next visible _ _ limit =>
      rw [if_neg visible] at spared
      simp only [limit] at spared
      rcases List.mem_map.mp ((mem_map_readyConnectionsOf matching order userId other).mpr counted)
        with ⟨otherEntry, otherListed, rfl⟩
      rcases oldestOthers_le (sorted_readyConnectionsOf order state userId) evicted otherListed
        different spared with ⟨entry, listed, rfl, older⟩
      rcases (mem_readyConnectionsOf order state userId entry).mp listed with
        ⟨_, stored, _, _, storedFound, time⟩
      rcases (mem_readyConnectionsOf order state userId otherEntry).mp otherListed with
        ⟨_, otherStored, _, _, otherStoredFound, otherTime⟩
      rw [found] at storedFound
      rw [otherFound] at otherStoredFound
      cases storedFound
      cases otherStoredFound
      rw [time, otherTime]
      exact older

theorem markReady_maxConnectionsPerUser (now : Int) (state : GatewayState)
    (connectionId userId : String) :
    (state.markReady now connectionId userId).maxConnectionsPerUser =
      state.maxConnectionsPerUser := by
  unfold markReady
  split <;> rfl

/-- The mark of the caller names its own user. -/
theorem markReady_matches (matching : MarksMatch state) (now : Int) {connectionId userId : String}
    (own : forall handle, state.connections.lookup connectionId = some handle ->
      handle.info.userId = userId) : MarksMatch (state.markReady now connectionId userId) := by
  unfold markReady
  split
  · exact matching
  · intro id handle mark found marked
    simp only [HashTable.lookup_insert_ite] at marked
    split at marked
    · next same =>
      subst same
      rw [← Option.some.inj marked]
      exact (own handle found).symm
    · exact matching id handle mark found marked

theorem markReady_untouched (now : Int) (state : GatewayState) {connectionId id : String}
    (userId : String) (different : id ≠ connectionId) :
    Untouched state (state.markReady now connectionId userId) id := by
  unfold markReady
  split
  · exact .refl state id
  · refine ⟨rfl, ?_, fun _ _ _ => Iff.rfl⟩
    rw [HashTable.lookup_insert_ite, if_neg different]

/-- Nobody else starts to count. -/
theorem liveReady_markReady_of_ne (now : Int) (state : GatewayState)
    {connectionId userId other : String}
    (own : forall handle, state.connections.lookup connectionId = some handle ->
      handle.info.userId = userId) (different : other ≠ userId) :
    (state.markReady now connectionId userId).liveReady other ⊆ state.liveReady other := by
  intro id counted
  rcases (mem_liveReady _ other id).mp counted with ⟨handle, found, owned, mark, marked⟩
  rw [markReady_connections] at found
  have elsewhere : id ≠ connectionId := by
    rintro rfl
    exact different (owned.symm.trans (own handle found))
  rw [(markReady_untouched now state userId elsewhere).mark] at marked
  exact (mem_liveReady state other id).mpr ⟨handle, found, owned, mark, marked⟩

end GatewayState

/-! ## One call -/

open GatewayState in
/-- What a call does that marks a session as ready under the cap.  The state in
the middle has the mark and all connections. -/
structure EnforcesCap (toLowercase : String -> String) (maxConnectionsPerUser : Nat)
    (connectionId userId : String) (before marked : GatewayState)
    (result : List ConnectionInfo × GatewayState) : Prop where
  count : result.1.length = (marked.liveReady userId).card - maxConnectionsPerUser
  distinct : (result.1.map ConnectionInfo.connectionId).Nodup
  counted : forall info, info ∈ result.1 -> info.connectionId ∈ marked.liveReady userId
  caller : forall info, info ∈ result.1 -> info.connectionId ≠ connectionId
  connections : forall id, result.2.connections.lookup id =
    if id ∈ result.1.map ConnectionInfo.connectionId then none else before.connections.lookup id
  oldest : forall info, info ∈ result.1 -> forall id handle, id ∈ result.2.liveReady userId ->
    id ≠ connectionId -> result.2.connections.lookup id = some handle ->
    info.connectedAt ≤ handle.info.connectedAt
  closes : forall info, info ∈ result.1 ->
    Exists fun handle : ConnectionHandle => Exists fun channel : Channel =>
      before.connections.lookup info.connectionId = some handle /\ handle.info = info /\
      before.channels[handle.sender]? = some channel /\
      (channel.receiverAlive = true -> forall later : List Operation,
        (later.foldl (Operation.apply toLowercase) result.2).channels[handle.sender]?.map
          Channel.sent = some (channel.sent ++ [.close 4409 "session_replaced"]))
  others : forall id handle, before.connections.lookup id = some handle ->
    handle.info.userId ≠ userId -> Untouched before result.2 id /\
      result.2.channels[handle.sender]? = before.channels[handle.sender]?

namespace GatewayState

/-- Each evicted connection is reported under its own id. -/
theorem Evictions.map_infos {state : GatewayState} {code : Nat} {reason : String}
    {ids : List String} {result : List ConnectionInfo × GatewayState}
    (evictions : Evictions state code reason ids result)
    (registered : forall id, id ∈ ids -> Exists fun handle : ConnectionHandle =>
      state.connections.lookup id = some handle /\ handle.info.connectionId = id) :
    result.1.map ConnectionInfo.connectionId = ids := by
  rw [evictions.infos]
  clear evictions
  induction ids with
  | nil => rfl
  | cons id ids ih =>
      rcases registered id List.mem_cons_self with ⟨handle, found, keyed⟩
      have reported : state.infoOf id = some handle.info := by rw [infoOf, found, Option.map_some]
      rw [List.filterMap_cons_some reported, List.map_cons, keyed,
        ih fun other member => registered other (List.mem_cons_of_mem _ member)]

theorem markSessionReady_enforcesCap (toLowercase : String -> String) {before : GatewayState}
    (wellFormed : WellFormed before) (matching : MarksMatch before) {maxConnectionsPerUser : Nat}
    (limit : before.maxConnectionsPerUser = some maxConnectionsPerUser)
    (positive : 1 ≤ maxConnectionsPerUser) (order : HashOrder String) (now : Int)
    {connectionId userId : String}
    (own : forall handle, before.connections.lookup connectionId = some handle ->
      handle.info.userId = userId)
    (capped : (before.liveReady userId).card ≤ maxConnectionsPerUser) :
    EnforcesCap toLowercase maxConnectionsPerUser connectionId userId before
      (before.markReady now connectionId userId)
      (before.markSessionReady order now connectionId userId) := by
  have markedMatching := markReady_matches matching now own
  have markedSenders := wellFormed.senders.markReady now connectionId userId
  have connections := markReady_connections now before connectionId userId
  have channels := markReady_channels now before connectionId userId
  have nodup := nodup_overflowing order (before.markReady now connectionId userId) connectionId
    userId
  have evictions := evictEach_evictions markedSenders 4409 "session_replaced" nodup
  have untouched : forall id, id ≠ connectionId ->
      id ∉ (before.markReady now connectionId userId).overflowing order connectionId userId ->
      Untouched before (before.markSessionReady order now connectionId userId).2 id := by
    intro id different spared
    rw [markSessionReady_eq wellFormed.senders]
    exact (markReady_untouched now before userId different).trans
      (evictEach_untouched _ _ spared)
  rw [← markSessionReady_eq wellFormed.senders] at evictions
  have evictedIds := evictions.map_infos fun id member => by
    rcases (mem_liveReady _ _ _).mp (mem_overflowing markedMatching member).1 with
      ⟨handle, found, _⟩
    rw [connections] at found
    exact ⟨handle, connections ▸ found, wellFormed.consistent.ids id handle found⟩
  have nameless : connectionId = "" ∨ userId = "" ->
      ((before.markReady now connectionId userId).liveReady userId).card ≤
        maxConnectionsPerUser := by
    intro blank
    rw [markReady, if_pos blank]
    exact capped
  have evictedMem : forall info,
      info ∈ (before.markSessionReady order now connectionId userId).1 -> info.connectionId ∈
        (before.markReady now connectionId userId).overflowing order connectionId userId := by
    intro info evicted
    rw [← evictedIds]
    exact List.mem_map_of_mem evicted
  constructor
  · rw [← List.length_map ConnectionInfo.connectionId, evictedIds,
      length_overflowing markedMatching ((markReady_maxConnectionsPerUser _ _ _ _).trans limit)
        positive order connectionId userId nameless]
  · rw [evictedIds]
    exact nodup
  · intro info evicted
    exact (mem_overflowing markedMatching (evictedMem info evicted)).1
  · intro info evicted
    exact (mem_overflowing markedMatching (evictedMem info evicted)).2
  · intro id
    rw [evictedIds, evictions.connections, connections]
  · intro info evicted id handle counted different found
    rcases registered_of_mem_infos evictions evicted with ⟨_, member, stored, storedFound, rfl⟩
    have remains := evictions.connections id
    rw [found] at remains
    split at remains
    · cases remains
    · next spared =>
      rcases (mem_liveReady _ userId id).mp counted with ⟨_, found', owned, mark, marked⟩
      rw [found] at found'
      cases found'
      rw [(untouched id different spared).mark,
        ← (markReady_untouched now before userId different).mark] at marked
      exact overflowing_oldest markedMatching member
        ((mem_liveReady _ userId id).mpr ⟨handle, remains.symm, owned, mark, marked⟩) spared
        different storedFound remains.symm
  · intro info evicted
    rcases registered_of_mem_infos evictions evicted with ⟨id, member, handle, found, rfl⟩
    have bound := markedSenders.bound id handle found
    rw [channels] at bound
    have keyed := wellFormed.consistent.ids id handle (connections ▸ found)
    refine ⟨handle, _, ?_, rfl, List.getElem?_eq_getElem bound, ?_⟩
    · rw [keyed, ← connections]
      exact found
    · intro alive later
      have closed := evictions.sealed markedSenders member found
        (by rw [channels]; exact List.getElem?_eq_getElem bound) alive
      exact (closed.foldl toLowercase later).content
  · intro id handle found foreign
    have spared : id ∉ (before.markReady now connectionId userId).overflowing order connectionId
        userId := by
      intro member
      rcases (mem_liveReady _ _ _).mp (mem_overflowing markedMatching member).1 with
        ⟨stored, storedFound, owned, _⟩
      rw [connections, found] at storedFound
      cases storedFound
      exact foreign owned
    have different : id ≠ connectionId := by
      rintro rfl
      exact foreign (own handle found)
    refine ⟨untouched id different spared, ?_⟩
    rw [← connections] at found
    rw [evictions.channels, markedSenders.not_addressed found spared, channels]
    exact Option.map_id'

end GatewayState

/-- Afterwards the user is at or below the cap. -/
theorem EnforcesCap.card_le {toLowercase : String -> String} {maxConnectionsPerUser : Nat}
    {connectionId userId : String} {before marked : GatewayState}
    {result : List ConnectionInfo × GatewayState}
    (enforces : EnforcesCap toLowercase maxConnectionsPerUser connectionId userId before marked
      result)
    (fewer : result.2.liveReady userId ⊆ marked.liveReady userId) :
    (result.2.liveReady userId).card ≤ maxConnectionsPerUser := by
  have evicted : (result.1.map ConnectionInfo.connectionId).toFinset ⊆ marked.liveReady userId := by
    intro id member
    rcases List.mem_map.mp (List.mem_toFinset.mp member) with ⟨info, listed, rfl⟩
    exact enforces.counted info listed
  have rest : result.2.liveReady userId ⊆
      marked.liveReady userId \ (result.1.map ConnectionInfo.connectionId).toFinset := by
    intro id counted
    refine Finset.mem_sdiff.mpr ⟨fewer counted, ?_⟩
    intro member
    rcases (GatewayState.mem_liveReady _ userId id).mp counted with ⟨handle, found, _⟩
    rw [enforces.connections, if_pos (List.mem_toFinset.mp member)] at found
    cases found
  have size := Finset.card_le_card rest
  rw [Finset.card_sdiff_of_subset evicted, List.toFinset_card_of_nodup enforces.distinct,
    List.length_map, enforces.count] at size
  omega

/-! ## Runs -/

/-- Every ready mark is for a connection and its user. -/
def MarksKnown (users : List (String × String)) (state : GatewayState) : Prop :=
  forall id mark, state.readyConnections.lookup id = some mark -> (id, mark.userId) ∈ users

/-- Every user is at or below the cap. -/
def Capped (maxConnectionsPerUser : Nat) (state : GatewayState) : Prop :=
  forall userId, (state.liveReady userId).card ≤ maxConnectionsPerUser

theorem MarksKnown.kept (users : List (String × String)) : KeptByChanges (MarksKnown users) :=
  KeptByRemoval.changes
    ⟨fun _ _ _ known => known, fun state connectionId known id mark marked =>
      known id mark ((GatewayState.lookup_unregisterConnection_readyConnections state connectionId
        id mark).mp marked).1⟩
    (fun _ _ _ _ _ known => known) fun _ _ _ known => known

/-- Removals only lower the counts. -/
theorem liveReady_subset_kept (bound : GatewayState) (userId : String) :
    KeptByRemoval fun state => state.liveReady userId ⊆ bound.liveReady userId where
  channels := fun _ _ _ fewer => fewer
  unregister := fun state connectionId fewer =>
    (GatewayState.liveReady_unregisterConnection_subset state connectionId userId).trans fewer

theorem Capped.kept (maxConnectionsPerUser : Nat) : KeptByChanges (Capped maxConnectionsPerUser) :=
  KeptByRemoval.changes
    ⟨fun _ _ _ capped => capped, fun state connectionId capped userId =>
      (Finset.card_le_card (GatewayState.liveReady_unregisterConnection_subset state connectionId
        userId)).trans (capped userId)⟩
    (fun _ _ _ _ _ capped => capped)
    fun state connectionId timestamp capped userId =>
      (Finset.card_le_card (GatewayState.liveReady_markConnectionAlive_subset state connectionId
        timestamp userId)).trans (capped userId)

/-- A new connection has no mark yet. -/
theorem Capped.insertConnection {maxConnectionsPerUser : Nat} {state : GatewayState}
    (capped : Capped maxConnectionsPerUser state) {info : ConnectionInfo}
    (unmarked : forall mark, state.readyConnections.lookup info.connectionId ≠ some mark) :
    Capped maxConnectionsPerUser (state.insertConnection info) := by
  intro userId
  refine (Finset.card_le_card ?_).trans (capped userId)
  intro id counted
  rcases (GatewayState.mem_liveReady _ userId id).mp counted with
    ⟨handle, found, owned, mark, marked⟩
  simp only [GatewayState.insertConnection, HashTable.lookup_insert_ite] at found
  split at found
  · next same =>
    rw [same] at marked
    exact absurd marked (unmarked mark)
  · exact (GatewayState.mem_liveReady state userId id).mpr ⟨handle, found, owned, mark, marked⟩

theorem limitKept (limit : Option Nat) :
    KeptByOperations fun state => state.maxConnectionsPerUser = limit where
  channels := fun _ _ _ same => same
  unregister := by
    intro state connectionId same
    unfold GatewayState.unregisterConnection
    split
    · exact same
    · exact same
  tables := fun _ _ _ _ _ _ _ same => same
  alive := fun _ _ _ same => same

section Runs

variable (toLowercase : String -> String) (maxConnectionsPerUser : Nat)

theorem marksKnown_run (operations : List Operation) (own : Throughout MarksOwn operations) :
    MarksKnown (registeredUsers operations)
      (GatewayState.run toLowercase (some maxConnectionsPerUser) operations) := by
  refine foldl_history (fun history (state : GatewayState) => Throughout MarksOwn history ->
    MarksKnown (registeredUsers history) state) ?_ ?_ operations own
  · intro _ id mark marked
    simp [GatewayState.new] at marked
  · intro history state operation before ownNow
    have known : MarksKnown (registeredUsers history) (operation.apply toLowercase state) := by
      have knownBefore := before ownNow.append_left
      have kept := MarksKnown.kept (registeredUsers history)
      refine kept.toKeptByCalls.apply toLowercase operation (fun _ => knownBefore)
        (fun receiver _ => kept.drop state receiver knownBefore) ?_ ?_ knownBefore
      · rintro order now connectionId userId rfl
        refine kept.toKeptByDelivery.markSessionReady order now connectionId userId ?_ knownBefore
        intro _ _ id mark marked
        simp only [HashTable.lookup_insert_ite] at marked
        split at marked
        · next same =>
          rw [same, ← Option.some.inj marked]
          exact ownNow.last
        · exact knownBefore id mark marked
      · intro order now connectionId userId clientInstanceId subjects connectedAt _
        exact kept.toKeptByDelivery.evictSameInstance order connectionId userId clientInstanceId
          knownBefore
    intro id mark marked
    rcases mem_registeredUsers.mp (known id mark marked) with ⟨info, listed, same⟩
    refine mem_registeredUsers.mpr ⟨info, ?_, same⟩
    rw [List.filterMap_append]
    exact List.mem_append_left _ listed

theorem marksMatch_run {operations : List Operation} (fresh : FreshIds operations)
    (own : Throughout MarksOwn operations) :
    MarksMatch (GatewayState.run toLowercase (some maxConnectionsPerUser) operations) := by
  intro id handle mark found marked
  exact (userId_of_registeredUsers toLowercase (some maxConnectionsPerUser) fresh
    (marksKnown_run toLowercase maxConnectionsPerUser operations own id mark marked) found).symm

/-- One call after a run in which marks name the users of their connections. -/
theorem enforcesCap_run {operations : List Operation} (fresh : FreshIds operations)
    (own : Throughout MarksOwn operations) (positive : 1 ≤ maxConnectionsPerUser)
    (capped : Capped maxConnectionsPerUser
      (GatewayState.run toLowercase (some maxConnectionsPerUser) operations))
    (order : HashOrder String) (now : Int) {connectionId userId : String}
    (listed : (connectionId, userId) ∈ registeredUsers operations) :
    EnforcesCap toLowercase maxConnectionsPerUser connectionId userId
      (GatewayState.run toLowercase (some maxConnectionsPerUser) operations)
      ((GatewayState.run toLowercase (some maxConnectionsPerUser) operations).markReady now
        connectionId userId)
      ((GatewayState.run toLowercase (some maxConnectionsPerUser) operations).markSessionReady
        order now connectionId userId) := by
  have limit := (limitKept (some maxConnectionsPerUser)).run toLowercase
    (some maxConnectionsPerUser) rfl (fun _ _ _ same => same) operations fresh
  exact GatewayState.markSessionReady_enforcesCap toLowercase
    (WellFormed.run toLowercase (some maxConnectionsPerUser) operations fresh)
    (marksMatch_run toLowercase maxConnectionsPerUser fresh own) limit positive order now
    (fun handle found => userId_of_registeredUsers toLowercase (some maxConnectionsPerUser) fresh
      listed found) (capped userId)

theorem capped_run (operations : List Operation) (fresh : FreshIds operations)
    (own : Throughout MarksOwn operations) (positive : 1 ≤ maxConnectionsPerUser) :
    Capped maxConnectionsPerUser
      (GatewayState.run toLowercase (some maxConnectionsPerUser) operations) := by
  refine GatewayState.run_history (fun history state => Throughout MarksOwn history ->
    Capped maxConnectionsPerUser state) toLowercase (some maxConnectionsPerUser) ?_ ?_ operations
    fresh own
  · intro _ userId
    exact Nat.zero_le _
  · intro history operation freshNow _ before ownNow
    have capped := before ownNow.append_left
    have kept := Capped.kept maxConnectionsPerUser
    refine kept.toKeptByCalls.apply toLowercase operation (fun _ => capped)
      (fun receiver _ => kept.drop _ receiver capped) ?_ ?_ capped
    · rintro order now connectionId userId rfl
      have enforces := enforcesCap_run toLowercase maxConnectionsPerUser freshNow.of_append
        ownNow.append_left positive capped order now ownNow.last
      have senders := (WellFormed.run toLowercase (some maxConnectionsPerUser) history
        freshNow.of_append).senders
      have fewer : forall other,
          ((GatewayState.run toLowercase (some maxConnectionsPerUser) history).markSessionReady
            order now connectionId userId).2.liveReady other ⊆
          ((GatewayState.run toLowercase (some maxConnectionsPerUser) history).markReady now
            connectionId userId).liveReady other := by
        intro other
        rw [GatewayState.markSessionReady_eq senders]
        exact (liveReady_subset_kept _ other).delivery.evictEach _ _ (Finset.Subset.refl _)
      intro other
      by_cases same : other = userId
      · rw [same]
        exact enforces.card_le (fewer userId)
      · refine (Finset.card_le_card ((fewer other).trans ?_)).trans (capped other)
        exact GatewayState.liveReady_markReady_of_ne now _
          (fun handle found => userId_of_registeredUsers toLowercase (some maxConnectionsPerUser)
            freshNow.of_append ownNow.last found) same
    · rintro order now connectionId userId clientInstanceId subjects connectedAt rfl
      apply (kept.toKeptByDelivery.evictSameInstance order connectionId userId clientInstanceId
        capped).insertConnection
      intro mark marked
      have known := (MarksKnown.kept _).toKeptByDelivery.evictSameInstance order connectionId userId
        clientInstanceId (marksKnown_run toLowercase maxConnectionsPerUser history
          ownNow.append_left)
      rcases mem_registeredUsers.mp (known _ mark marked) with ⟨info, listed, sameId, _⟩
      exact freshNow.ne_of_registers rfl listed sameId

end Runs

/-- In every run in which marks name the users of their connections, all users
stay at or below the cap, and each further mark enforces it.  The receivers of
the evicted connections hear about it unless they were dropped before. -/
theorem ready_connections_are_capped (toLowercase : String -> String)
    (maxConnectionsPerUser : Nat) (positive : 1 ≤ maxConnectionsPerUser)
    (operations : List Operation) (fresh : FreshIds operations)
    (own : Throughout MarksOwn operations) :
    Capped maxConnectionsPerUser
        (GatewayState.run toLowercase (some maxConnectionsPerUser) operations) /\
      (forall order now connectionId userId, (connectionId, userId) ∈ registeredUsers operations ->
        EnforcesCap toLowercase maxConnectionsPerUser connectionId userId
          (GatewayState.run toLowercase (some maxConnectionsPerUser) operations)
          ((GatewayState.run toLowercase (some maxConnectionsPerUser) operations).markReady now
            connectionId userId)
          ((GatewayState.run toLowercase (some maxConnectionsPerUser) operations).markSessionReady
            order now connectionId userId)) /\
      Listening (fun receiver => .dropReceiver receiver ∈ operations)
        (GatewayState.run toLowercase (some maxConnectionsPerUser) operations) := by
  have capped := capped_run toLowercase maxConnectionsPerUser operations fresh own positive
  refine ⟨capped, ?_, Listening.run toLowercase (some maxConnectionsPerUser) operations⟩
  intro order now connectionId userId listed
  exact enforcesCap_run toLowercase maxConnectionsPerUser fresh own positive capped order now listed

/-- Two sessions of one user under a cap of one. -/
theorem ready_connections_are_capped_of_two_sessions :
    EnforcesCap asciiLowercase 1 "c2" "u"
      (GatewayState.run asciiLowercase (some 1)
        [.registerConnection .sorted 0 "c1" "u" "tab1" [] 0,
          .registerConnection .sorted 1 "c2" "u" "tab2" [] 1, .markSessionReady .sorted 2 "c1" "u"])
      ((GatewayState.run asciiLowercase (some 1)
        [.registerConnection .sorted 0 "c1" "u" "tab1" [] 0,
          .registerConnection .sorted 1 "c2" "u" "tab2" [] 1,
          .markSessionReady .sorted 2 "c1" "u"]).markReady 3 "c2" "u")
      ((GatewayState.run asciiLowercase (some 1)
        [.registerConnection .sorted 0 "c1" "u" "tab1" [] 0,
          .registerConnection .sorted 1 "c2" "u" "tab2" [] 1,
          .markSessionReady .sorted 2 "c1" "u"]).markSessionReady .sorted 3 "c2" "u") /\
      ((GatewayState.run asciiLowercase (some 1)
        [.registerConnection .sorted 0 "c1" "u" "tab1" [] 0,
          .registerConnection .sorted 1 "c2" "u" "tab2" [] 1,
          .markSessionReady .sorted 2 "c1" "u"]).markSessionReady .sorted 3 "c2" "u").1.map
        ConnectionInfo.connectionId = ["c1"] := by
  refine ⟨?_, by decide +kernel⟩
  exact (ready_connections_are_capped asciiLowercase 1 (by decide) _ (by decide)
    (by decide)).2.1 .sorted 3 "c2" "u" (by decide)

end State
end Gateway

import Gateway.Foundation.Scheduling
import Gateway.State.ConnectionCap

namespace Gateway
namespace Concurrency

open Foundation State

/-!
# Marking sessions as ready in any order

A call of `mark_session_ready` inserts its own ready mark, collects the ready
connections of the user, and evicts the oldest others one by one until as many
are gone as were over the cap in the collected list.  The marks, the list and
each eviction are atomic calls, and nothing holds between them: what a call
evicts was over the cap in its list, but perhaps no longer when it is evicted.
-/

/-- What a call does next. -/
inductive MarkPhase where
  /-- Insert the ready mark. -/
  | mark
  /-- Collect the ready connections of the user, under a cap. -/
  | collect (maxConnectionsPerUser : Nat)
  /-- Evict a connection of the list, with the evicted ones so far and the rest
  of the list. -/
  | evict (overflow : Nat) (evicted : List ConnectionInfo) (staleId : String)
      (remaining : List (String × Int))
  | returned (evicted : List ConnectionInfo)
  deriving DecidableEq

/-- One call of `mark_session_ready` and how far it has come. -/
structure Marking where
  connectionId : String
  userId : String
  order : HashOrder String
  now : Int
  phase : MarkPhase

namespace Marking

/-- A call at its start.  Without a connection or a user it returns at once. -/
def start (order : HashOrder String) (now : Int) (connectionId userId : String) : Marking where
  connectionId := connectionId
  userId := userId
  order := order
  now := now
  phase := if connectionId = "" ∨ userId = "" then .returned [] else .mark

/-- The connections that the call may still evict. -/
def staleIds (marking : Marking) : List String :=
  match marking.phase with
  | .evict _ _ staleId remaining => staleId :: remaining.map Prod.fst
  | _ => []

def returned (marking : Marking) : Bool :=
  match marking.phase with
  | .returned _ => true
  | _ => false

end Marking

/-- The loop over the list up to the next eviction.  It breaks when enough are
evicted and passes over the caller. -/
def nextEviction (connectionId : String) (overflow : Nat) (evicted : List ConnectionInfo) :
    List (String × Int) -> MarkPhase
  | [] => .returned evicted
  | entry :: remaining =>
      if overflow ≤ evicted.length then .returned evicted
      else if entry.1 = connectionId then nextEviction connectionId overflow evicted remaining
      else .evict overflow evicted entry.1 remaining

/-- The atomic calls. -/
inductive MarkCall where
  | insertMark (connectionId : String)
  | collectReady (userId : String)
  | evictConnection (connectionId : String)
  deriving DecidableEq

/-- The next atomic call of a thread, the state after it, and the rest of the
thread. -/
def nextMarkCall (state : GatewayState) (marking : Marking) :
    Option (MarkCall × GatewayState × Marking) :=
  match marking.phase with
  | .mark =>
      some (.insertMark marking.connectionId,
        { state with
          readyConnections :=
            state.readyConnections.insert marking.connectionId
              { userId := marking.userId, readyAt := marking.now } },
        { marking with
          phase :=
            match state.maxConnectionsPerUser with
            | none => .returned []
            | some maxConnectionsPerUser => .collect maxConnectionsPerUser })
  | .collect maxConnectionsPerUser =>
      let ready := state.readyConnectionsOf marking.order marking.userId
      some (.collectReady marking.userId, state,
        { marking with
          phase :=
            if ready.length ≤ maxConnectionsPerUser then .returned []
            else nextEviction marking.connectionId (ready.length - maxConnectionsPerUser) []
              ready })
  | .evict overflow evicted staleId remaining =>
      let result := state.evictConnection staleId (some (4409, "session_replaced"))
      some (.evictConnection staleId, result.2,
        { marking with
          phase := nextEviction marking.connectionId overflow (evicted ++ result.1.toList)
            remaining })
  | .returned _ => none

abbrev MarkSystem := Configuration GatewayState Marking

/-- Some thread takes its next atomic call. -/
def MarksInterleaved : MarkSystem -> Nat × MarkCall -> MarkSystem -> Prop :=
  Turn (Advances nextMarkCall)

/-- The registered connections that are marked as ready for the user. -/
def readyLive (state : GatewayState) (userId : String) : Finset String :=
  ((state.readyConnectionsOf .sorted userId).map Prod.fst).toFinset

/-- The connection is in the connection table. -/
def Registered (state : GatewayState) (connectionId : String) : Prop :=
  Exists fun handle => state.connections.lookup connectionId = some handle

instance (state : GatewayState) (connectionId : String) :
    Decidable (Registered state connectionId) :=
  decidable_of_iff ((state.connections.lookup connectionId).isSome = true) Option.isSome_iff_exists

theorem mem_readyLive (state : GatewayState) (userId id : String) :
    id ∈ readyLive state userId <->
      (Exists fun mark : ReadyConnection => state.readyConnections.lookup id = some mark /\
        mark.userId = userId) /\ Registered state id := by
  rw [readyLive, List.mem_toFinset, List.mem_map]
  constructor
  · rintro ⟨entry, listed, rfl⟩
    rcases (GatewayState.mem_readyConnectionsOf .sorted state userId entry).mp listed with
      ⟨mark, handle, marked, owned, found, _⟩
    exact ⟨⟨mark, marked, owned⟩, handle, found⟩
  · rintro ⟨⟨mark, marked, owned⟩, handle, found⟩
    exact ⟨(id, handle.info.connectedAt),
      (GatewayState.mem_readyConnectionsOf .sorted state userId _).mpr
        ⟨mark, handle, marked, owned, found, rfl⟩, rfl⟩

/-- Where marks name the users of their connections, these are the sessions
that count against the cap. -/
theorem readyLive_eq_liveReady {state : GatewayState} (matching : MarksMatch state)
    (userId : String) : readyLive state userId = state.liveReady userId := by
  ext id
  rw [readyLive, List.mem_toFinset,
    GatewayState.mem_map_readyConnectionsOf matching .sorted userId id]

/-- Every call collects exactly these connections, in some order. -/
theorem mem_collected (state : GatewayState) (order : HashOrder String) (userId id : String) :
    id ∈ (state.readyConnectionsOf order userId).map Prod.fst <-> id ∈ readyLive state userId := by
  rw [readyLive, List.mem_toFinset, List.mem_map, List.mem_map]
  simp only [GatewayState.mem_readyConnectionsOf]

theorem length_collected (state : GatewayState) (order : HashOrder String) (userId : String) :
    (state.readyConnectionsOf order userId).length = (readyLive state userId).card := by
  rw [← List.length_map Prod.fst,
    ← List.toFinset_card_of_nodup (GatewayState.nodup_readyConnectionsOf order state userId)]
  congr 1
  ext id
  rw [List.mem_toFinset, mem_collected]

/-- The sessions that count, and the registered connections whose calls have
not marked them yet. -/
def present (system : MarkSystem) (userId : String) : Finset String :=
  readyLive system.shared userId ∪
    ((system.threads.filter fun marking => decide (marking.phase = .mark)).map
      Marking.connectionId).toFinset.filter fun id =>
        (system.shared.connections.lookup id).isSome

theorem mem_present (system : MarkSystem) (userId id : String) :
    id ∈ present system userId <-> id ∈ readyLive system.shared userId \/
      (Registered system.shared id /\ Exists fun marking : Marking =>
        marking ∈ system.threads /\ marking.phase = .mark /\ marking.connectionId = id) := by
  rw [present, Finset.mem_union, Finset.mem_filter, List.mem_toFinset, List.mem_map,
    Option.isSome_iff_exists]
  simp only [List.mem_filter, decide_eq_true_eq, and_assoc, Registered]
  rw [and_comm (b := Exists fun handle => _)]

/-- The condition of a step: an eviction that finds its connection finds more
sessions than the cap allows. -/
def EvictsOverCap (userId : String) (before : MarkSystem) (label : Nat × MarkCall) : Prop :=
  match label.2 with
  | .evictConnection connectionId => Registered before.shared connectionId ->
      forall maxConnectionsPerUser,
        before.shared.maxConnectionsPerUser = some maxConnectionsPerUser ->
        maxConnectionsPerUser < (present before userId).card
  | _ => True

instance (userId : String) (before : MarkSystem) (label : Nat × MarkCall) :
    Decidable (EvictsOverCap userId before label) :=
  match label with
  | (_, .evictConnection connectionId) =>
      inferInstanceAs (Decidable (Registered before.shared connectionId ->
        forall maxConnectionsPerUser, maxConnectionsPerUser ∈ before.shared.maxConnectionsPerUser ->
          maxConnectionsPerUser < (present before userId).card))
  | (_, .insertMark _) => .isTrue trivial
  | (_, .collectReady _) => .isTrue trivial

/-- The steps that meet the condition. -/
def MarksCareful (userId : String) (before : MarkSystem) (label : Nat × MarkCall)
    (after : MarkSystem) : Prop :=
  MarksInterleaved before label after /\ EvictsOverCap userId before label

/-- Before the calls: none of them has begun, they are for registered
connections of the user, and unless somebody is going to look, the user is not
over the cap. -/
structure AboutToMark (userId : String) (maxConnectionsPerUser : Nat) (system : MarkSystem) :
    Prop where
  limit : system.shared.maxConnectionsPerUser = some maxConnectionsPerUser
  start : forall marking, marking ∈ system.threads -> Exists fun order => Exists fun now =>
    Exists fun connectionId => marking = Marking.start order now connectionId userId
  live : forall marking, marking ∈ system.threads ->
    Registered system.shared marking.connectionId
  looks : (readyLive system.shared userId).card ≤ maxConnectionsPerUser \/
    Exists fun marking : Marking => marking ∈ system.threads /\ marking.phase = .mark

/-- The calls of all threads have returned. -/
def AllMarked (system : MarkSystem) : Prop :=
  forall marking, marking ∈ system.threads -> marking.returned = true

instance (system : MarkSystem) : Decidable (AllMarked system) :=
  inferInstanceAs (Decidable (forall marking, marking ∈ system.threads -> _))

/-- A call that has collected its list and still covers the overflow: every
session that counts is its own or to be evicted yet. -/
def Covers (userId : String) (maxConnectionsPerUser : Nat) (state : GatewayState)
    (marking : Marking) : Prop :=
  Exists fun overflow => Exists fun evicted => Exists fun staleId => Exists fun remaining =>
    marking.phase = .evict overflow evicted staleId remaining /\
    (readyLive state userId).card + evicted.length ≤ maxConnectionsPerUser + overflow /\
    forall id, id ∈ readyLive state userId -> id = marking.connectionId \/ id ∈ marking.staleIds

/-- The sessions present are neither too few nor new, and unless they are at or
below the cap, some call is still going to evict. -/
structure CapHeld (userId : String) (maxConnectionsPerUser total : Nat) (system : MarkSystem) :
    Prop where
  limit : system.shared.maxConnectionsPerUser = some maxConnectionsPerUser
  users : forall marking, marking ∈ system.threads -> marking.userId = userId
  caps : forall marking, marking ∈ system.threads -> forall cap, marking.phase = .collect cap ->
    cap = maxConnectionsPerUser
  enough : min maxConnectionsPerUser total ≤ (present system userId).card
  within : (present system userId).card ≤ total
  listed : forall marking, marking ∈ system.threads -> forall id, id ∈ marking.staleIds ->
    Registered system.shared id -> id ∈ readyLive system.shared userId
  bounded : (readyLive system.shared userId).card ≤ maxConnectionsPerUser \/
    Exists fun marking : Marking => marking ∈ system.threads /\
      (marking.phase = .mark \/ (Exists fun cap => marking.phase = .collect cap) \/
        Covers userId maxConnectionsPerUser system.shared marking)

theorem AboutToMark.capHeld {userId : String} {maxConnectionsPerUser : Nat} {system : MarkSystem}
    (about : AboutToMark userId maxConnectionsPerUser system) :
    CapHeld userId maxConnectionsPerUser (present system userId).card system where
  limit := about.limit
  users := by
    intro marking member
    rcases about.start marking member with ⟨order, now, connectionId, rfl⟩
    rfl
  caps := by
    intro marking member cap collecting
    rcases about.start marking member with ⟨order, now, connectionId, rfl⟩
    unfold Marking.start at collecting
    dsimp only at collecting
    split at collecting <;> cases collecting
  enough := Nat.min_le_right _ _
  within := le_refl _
  listed := by
    intro marking member id stale
    rcases about.start marking member with ⟨order, now, connectionId, rfl⟩
    unfold Marking.staleIds Marking.start at stale
    dsimp only at stale
    split at stale
    · next evicting =>
      split at evicting <;> cases evicting
    · cases stale
  bounded := by
    rcases about.looks with below | ⟨marking, member, marks⟩
    · exact Or.inl below
    · exact Or.inr ⟨marking, member, Or.inl marks⟩

/-- When every call has returned, as many sessions are left as the cap allows. -/
theorem CapHeld.card_eq {userId : String} {maxConnectionsPerUser total : Nat} {system : MarkSystem}
    (held : CapHeld userId maxConnectionsPerUser total system) (returned : AllMarked system) :
    (readyLive system.shared userId).card = min maxConnectionsPerUser total := by
  have noneLeft : present system userId = readyLive system.shared userId := by
    ext id
    rw [mem_present, or_iff_left]
    rintro ⟨_, marking, member, marks, _⟩
    have done := returned marking member
    rw [Marking.returned, marks] at done
    cases done
  have below : (readyLive system.shared userId).card ≤ maxConnectionsPerUser := by
    rcases held.bounded with below | ⟨marking, member, working⟩
    · exact below
    · have done := returned marking member
      unfold Marking.returned at done
      rcases working with marks | ⟨cap, collects⟩ | ⟨_, _, _, _, evicts, _⟩
      · rw [marks] at done
        cases done
      · rw [collects] at done
        cases done
      · rw [evicts] at done
        cases done
  have enough := held.enough
  have within := held.within
  rw [noneLeft] at enough within
  omega

theorem nextEviction_cases (connectionId : String) (overflow : Nat) (evicted : List ConnectionInfo)
    (remaining : List (String × Int)) :
    (nextEviction connectionId overflow evicted remaining = .returned evicted /\
      (overflow ≤ evicted.length \/
        forall id, id ∈ remaining.map Prod.fst -> id = connectionId)) \/
    Exists fun staleId => Exists fun rest =>
      nextEviction connectionId overflow evicted remaining =
        .evict overflow evicted staleId rest /\
      (forall id, id ∈ remaining.map Prod.fst ->
        id = connectionId \/ id ∈ staleId :: rest.map Prod.fst) /\
      forall id, id ∈ staleId :: rest.map Prod.fst -> id ∈ remaining.map Prod.fst := by
  induction remaining with
  | nil => exact Or.inl ⟨rfl, Or.inr fun _ member => nomatch member⟩
  | cons entry remaining ih =>
      unfold nextEviction
      by_cases enough : overflow ≤ evicted.length
      · rw [if_pos enough]
        exact Or.inl ⟨rfl, Or.inl enough⟩
      · rw [if_neg enough]
        by_cases own : entry.1 = connectionId
        · rw [if_pos own]
          rcases ih with ⟨done, rest⟩ | ⟨staleId, rest, next, covered, kept⟩
          · refine Or.inl ⟨done, Or.inr ?_⟩
            intro id member
            rcases List.mem_cons.mp member with same | later
            · exact same.trans own
            · exact (rest.resolve_left enough) id later
          · refine Or.inr ⟨staleId, rest, next, ?_, fun id member =>
              List.mem_cons_of_mem _ (kept id member)⟩
            intro id member
            rcases List.mem_cons.mp member with same | later
            · exact Or.inl (same.trans own)
            · exact covered id later
        · rw [if_neg own]
          exact Or.inr ⟨entry.1, remaining, rfl, fun _ member => Or.inr member,
            fun _ member => member⟩

/-- The loop leads to no mark and keeps to the list. -/
theorem staleIds_of_nextEviction {marking : Marking} {overflow : Nat}
    {evicted : List ConnectionInfo} {remaining : List (String × Int)}
    (next : marking.phase = nextEviction marking.connectionId overflow evicted remaining) :
    marking.phase ≠ .mark /\ (forall cap, marking.phase ≠ .collect cap) /\
      forall id, id ∈ marking.staleIds -> id ∈ remaining.map Prod.fst := by
  rcases nextEviction_cases marking.connectionId overflow evicted remaining with
    ⟨done, _⟩ | ⟨staleId, rest, evicts, _, kept⟩
  · rw [done] at next
    refine ⟨by rw [next]; exact MarkPhase.noConfusion, fun cap => by
      rw [next]; exact MarkPhase.noConfusion, ?_⟩
    intro id stale
    rw [Marking.staleIds, next] at stale
    cases stale
  · rw [evicts] at next
    refine ⟨by rw [next]; exact MarkPhase.noConfusion, fun cap => by
      rw [next]; exact MarkPhase.noConfusion, ?_⟩
    intro id stale
    rw [Marking.staleIds, next] at stale
    exact kept id stale

/-- A call that has the overflow covered goes on to evict, unless it is done
and the user is at or below the cap. -/
theorem covers_of_nextEviction {userId : String} {maxConnectionsPerUser : Nat}
    (positive : 1 ≤ maxConnectionsPerUser) {state : GatewayState} {marking : Marking}
    {overflow : Nat} {evicted : List ConnectionInfo} {remaining : List (String × Int)}
    (next : marking.phase = nextEviction marking.connectionId overflow evicted remaining)
    (missing : (readyLive state userId).card + evicted.length ≤ maxConnectionsPerUser + overflow)
    (rest : forall id, id ∈ readyLive state userId ->
      id = marking.connectionId \/ id ∈ remaining.map Prod.fst) :
    (readyLive state userId).card ≤ maxConnectionsPerUser \/
      Covers userId maxConnectionsPerUser state marking := by
  rcases nextEviction_cases marking.connectionId overflow evicted remaining with
    ⟨_, enough | exhausted⟩ | ⟨staleId, later, evicts, covered, _⟩
  · exact Or.inl (by omega)
  · have single : readyLive state userId ⊆ {marking.connectionId} := by
      intro id counted
      rcases rest id counted with own | listed
      · exact Finset.mem_singleton.mpr own
      · exact Finset.mem_singleton.mpr (exhausted id listed)
    have size := Finset.card_le_card single
    rw [Finset.card_singleton] at size
    exact Or.inl (size.trans positive)
  · rw [evicts] at next
    refine Or.inr ⟨overflow, evicted, staleId, later, next, missing, ?_⟩
    intro id counted
    rw [Marking.staleIds, next]
    rcases rest id counted with own | listed
    · exact Or.inl own
    · exact covered id listed

theorem mem_readyLive_insertMark (state : GatewayState) (connectionId userId : String) (now : Int)
    (id : String) :
    id ∈ readyLive
        { state with
          readyConnections :=
            state.readyConnections.insert connectionId { userId := userId, readyAt := now } }
        userId <->
      id ∈ readyLive state userId \/ (Registered state id /\ id = connectionId) := by
  rw [mem_readyLive, mem_readyLive]
  simp only [Registered, HashTable.lookup_insert_ite]
  by_cases same : id = connectionId
  · simp [same]
  · simp [same]

theorem registered_evictConnection (state : GatewayState) (staleId : String)
    (close : Option (Nat × String)) (id : String) :
    Registered (state.evictConnection staleId close).2 id <->
      Registered state id /\ id ≠ staleId := by
  unfold Registered
  rw [GatewayState.lookup_evictConnection]
  by_cases same : id = staleId
  · simp [same]
  · simp [same]

/-- An eviction takes exactly the evicted connection away. -/
theorem readyLive_evictConnection (state : GatewayState) (staleId : String)
    (close : Option (Nat × String)) (userId : String) :
    readyLive (state.evictConnection staleId close).2 userId =
      (readyLive state userId).erase staleId := by
  ext id
  rw [Finset.mem_erase, mem_readyLive, mem_readyLive, registered_evictConnection]
  by_cases same : id = staleId
  · simp [same]
  · rw [(GatewayState.evictConnection_untouched state same close).mark]
    constructor
    · rintro ⟨marked, registered, _⟩
      exact ⟨same, marked, registered⟩
    · rintro ⟨_, marked, registered⟩
      exact ⟨marked, registered, same⟩

/-- An eviction reports a connection exactly if it takes one away that counts. -/
theorem card_readyLive_evictConnection {state : GatewayState} {staleId userId : String}
    (close : Option (Nat × String))
    (counts : Registered state staleId -> staleId ∈ readyLive state userId) :
    (readyLive (state.evictConnection staleId close).2 userId).card +
        (state.evictConnection staleId close).1.toList.length =
      (readyLive state userId).card := by
  rw [readyLive_evictConnection, GatewayState.evictConnection_fst, GatewayState.infoOf]
  cases found : state.connections.lookup staleId with
  | none =>
      have absent : staleId ∉ readyLive state userId := by
        intro counted
        rcases ((mem_readyLive state userId staleId).mp counted).2 with ⟨handle, there⟩
        rw [found] at there
        cases there
      rw [Finset.erase_eq_of_notMem absent]
      rfl
  | some handle => exact Finset.card_erase_add_one (counts ⟨handle, found⟩)

namespace CapHeld

variable {userId : String} {maxConnectionsPerUser total index : Nat}
  {before after : GatewayState} {threads : List Marking} {thread next : Marking}

/-- The threads that are still to mark, after a turn of another one. -/
theorem mem_present_set (picked : threads[index]? = some thread) (marked : thread.phase ≠ .mark)
    (stays : next.phase ≠ .mark) (id : String) :
    id ∈ present ⟨after, threads.set index next⟩ userId <-> id ∈ readyLive after userId \/
      (Registered after id /\ Exists fun marking : Marking =>
        marking ∈ threads /\ marking.phase = .mark /\ marking.connectionId = id) := by
  have sameMarks : (Exists fun marking : Marking => marking ∈ threads.set index next /\
        marking.phase = .mark /\ marking.connectionId = id) <->
      Exists fun marking : Marking =>
        marking ∈ threads /\ marking.phase = .mark /\ marking.connectionId = id := by
    constructor
    · rintro ⟨marking, member, marks, same⟩
      rcases List.mem_iff_getElem?.mp member with ⟨place, found⟩
      rcases getElem?_set_cases found with ⟨_, rfl⟩ | ⟨_, there⟩
      · exact absurd marks stays
      · exact ⟨marking, List.mem_of_getElem? there, marks, same⟩
    · rintro ⟨marking, member, marks, same⟩
      refine ⟨marking, mem_set_of_ne picked member ?_, marks, same⟩
      rintro rfl
      exact marked marks
  rw [mem_present]
  dsimp only
  rw [sameMarks]

theorem insertMark (held : CapHeld userId maxConnectionsPerUser total ⟨before, threads⟩)
    (picked : threads[index]? = some thread) (marks : thread.phase = .mark) :
    CapHeld userId maxConnectionsPerUser total
      ⟨{ before with
          readyConnections :=
            before.readyConnections.insert thread.connectionId
              { userId := thread.userId, readyAt := thread.now } },
        threads.set index { thread with phase := .collect maxConnectionsPerUser }⟩ := by
  have member := List.mem_of_getElem? picked
  have placed := List.mem_set (List.getElem?_eq_some_iff.mp picked).1
    ({ thread with phase := .collect maxConnectionsPerUser } : Marking)
  have owned : thread.userId = userId := held.users thread member
  have samePresent : present
      ⟨{ before with
          readyConnections :=
            before.readyConnections.insert thread.connectionId
              { userId := thread.userId, readyAt := thread.now } },
        threads.set index { thread with phase := .collect maxConnectionsPerUser }⟩ userId =
      present ⟨before, threads⟩ userId := by
    ext id
    rw [mem_present, mem_present]
    dsimp only
    rw [owned, mem_readyLive_insertMark]
    constructor
    · rintro ((counted | ⟨registered, rfl⟩) | ⟨registered, marking, there, still, same⟩)
      · exact Or.inl counted
      · exact Or.inr ⟨registered, thread, member, marks, rfl⟩
      · rcases List.mem_iff_getElem?.mp there with ⟨place, found⟩
        rcases getElem?_set_cases found with ⟨_, rfl⟩ | ⟨_, stays⟩
        · cases still
        · exact Or.inr ⟨registered, marking, List.mem_of_getElem? stays, still, same⟩
    · rintro (counted | ⟨registered, marking, there, still, same⟩)
      · exact Or.inl (Or.inl counted)
      · by_cases moved : marking = thread
        · rw [moved] at same
          exact Or.inl (Or.inr ⟨registered, same.symm⟩)
        · exact Or.inr ⟨registered, marking, mem_set_of_ne picked there moved, still, same⟩
  have fromOld : forall marking,
      marking ∈ threads.set index { thread with phase := .collect maxConnectionsPerUser } ->
      marking = { thread with phase := .collect maxConnectionsPerUser } \/ marking ∈ threads := by
    intro marking there
    rcases List.mem_or_eq_of_mem_set there with old | new
    · exact Or.inr old
    · exact Or.inl new
  constructor
  · exact held.limit
  · intro marking there
    rcases fromOld marking there with rfl | old
    · exact owned
    · exact held.users marking old
  · intro marking there cap collects
    rcases fromOld marking there with rfl | old
    · cases collects
      rfl
    · exact held.caps marking old cap collects
  · rw [samePresent]
    exact held.enough
  · rw [samePresent]
    exact held.within
  · intro marking there id stale registered
    rcases fromOld marking there with rfl | old
    · cases stale
    · dsimp only
      rw [owned, mem_readyLive_insertMark]
      exact Or.inl (held.listed marking old id stale registered)
  · exact Or.inr ⟨_, placed, Or.inr (Or.inl ⟨_, rfl⟩)⟩

/-- A step after which the thread goes on with its list.  Nothing starts to
count, and what stays registered continues to count. -/
theorem advance (held : CapHeld userId maxConnectionsPerUser total ⟨before, threads⟩)
    (picked : threads[index]? = some thread) (marked : thread.phase ≠ .mark)
    (sameUser : next.userId = thread.userId)
    (sameLimit : after.maxConnectionsPerUser = before.maxConnectionsPerUser)
    (stays : next.phase ≠ .mark) (looked : forall cap, next.phase ≠ .collect cap)
    (kept : forall id, Registered after id -> Registered before id /\
      (id ∈ readyLive before userId -> id ∈ readyLive after userId))
    (fewer : readyLive after userId ⊆ readyLive before userId)
    (enough : min maxConnectionsPerUser total ≤
      (present ⟨after, threads.set index next⟩ userId).card)
    (stale : forall id, id ∈ next.staleIds -> Registered after id -> id ∈ readyLive after userId)
    (bounded : (Exists fun cap => thread.phase = .collect cap) \/
        Covers userId maxConnectionsPerUser before thread ->
      (readyLive after userId).card ≤ maxConnectionsPerUser \/
        Covers userId maxConnectionsPerUser after next) :
    CapHeld userId maxConnectionsPerUser total ⟨after, threads.set index next⟩ := by
  have placed := List.mem_set (List.getElem?_eq_some_iff.mp picked).1 next
  have size := Finset.card_le_card fewer
  constructor
  · exact sameLimit.trans held.limit
  · intro marking there
    rcases List.mem_or_eq_of_mem_set there with old | rfl
    · exact held.users marking old
    · exact sameUser.trans (held.users thread (List.mem_of_getElem? picked))
  · intro marking there cap collects
    rcases List.mem_or_eq_of_mem_set there with old | rfl
    · exact held.caps marking old cap collects
    · exact absurd collects (looked cap)
  · exact enough
  · refine (Finset.card_le_card ?_).trans held.within
    intro id there
    rw [mem_present]
    rcases (mem_present_set picked marked stays id).mp there with counted | ⟨registered, still⟩
    · exact Or.inl (fewer counted)
    · exact Or.inr ⟨(kept id registered).1, still⟩
  · intro marking there id awaited registered
    rcases List.mem_or_eq_of_mem_set there with old | rfl
    · rcases kept id registered with ⟨before, counts⟩
      exact counts (held.listed marking old id awaited before)
    · exact stale id awaited registered
  · rcases held.bounded with below | ⟨marking, there, working⟩
    · exact Or.inl (size.trans below)
    · by_cases moved : marking = thread
      · rw [moved] at working
        rcases bounded (working.resolve_left marked) with below | covers
        · exact Or.inl below
        · exact Or.inr ⟨next, placed, Or.inr (Or.inr covers)⟩
      · refine Or.inr ⟨marking, mem_set_of_ne picked there moved, ?_⟩
        rcases working with marks | collects | ⟨overflow, evicted, staleId, rest, evicts, card, cover⟩
        · exact Or.inl marks
        · exact Or.inr (Or.inl collects)
        · refine Or.inr (Or.inr ⟨overflow, evicted, staleId, rest, evicts, ?_, ?_⟩)
          · exact (Nat.add_le_add_right size _).trans card
          · intro id counted
            exact cover id (fewer counted)

theorem collectReady (held : CapHeld userId maxConnectionsPerUser total ⟨before, threads⟩)
    (positive : 1 ≤ maxConnectionsPerUser) (picked : threads[index]? = some thread)
    (collects : thread.phase = .collect maxConnectionsPerUser) :
    let ready := before.readyConnectionsOf thread.order thread.userId
    CapHeld userId maxConnectionsPerUser total
      ⟨before, threads.set index
        { thread with
          phase :=
            if ready.length ≤ maxConnectionsPerUser then .returned []
            else nextEviction thread.connectionId (ready.length - maxConnectionsPerUser) []
              ready }⟩ := by
  intro ready
  have marked : thread.phase ≠ .mark := by
    rw [collects]
    exact MarkPhase.noConfusion
  have owned := held.users thread (List.mem_of_getElem? picked)
  have length : ready.length = (readyLive before userId).card := by
    rw [← owned]
    exact length_collected before thread.order thread.userId
  have collected : forall id, id ∈ ready.map Prod.fst <-> id ∈ readyLive before userId := by
    intro id
    rw [← owned]
    exact mem_collected before thread.order thread.userId id
  have samePresent : forall next : Marking, next.phase ≠ .mark ->
      (present ⟨before, threads.set index next⟩ userId) = present ⟨before, threads⟩ userId := by
    intro next stays
    ext id
    rw [mem_present_set picked marked stays, mem_present]
  split
  · next below =>
    refine held.advance picked marked rfl rfl MarkPhase.noConfusion (fun _ => MarkPhase.noConfusion)
      (fun _ registered => ⟨registered, fun counted => counted⟩) (Finset.Subset.refl _) ?_ nofun ?_
    · rw [samePresent _ MarkPhase.noConfusion]
      exact held.enough
    · intro _
      rw [length] at below
      exact Or.inl below
  · next above =>
    have followed : ({ thread with
          phase := nextEviction thread.connectionId (ready.length - maxConnectionsPerUser) []
            ready } : Marking).phase =
        nextEviction thread.connectionId (ready.length - maxConnectionsPerUser) [] ready := rfl
    rcases staleIds_of_nextEviction followed with ⟨stays, looked, fromList⟩
    refine held.advance picked marked rfl rfl stays looked
      (fun _ registered => ⟨registered, fun counted => counted⟩) (Finset.Subset.refl _) ?_ ?_ ?_
    · rw [samePresent _ stays]
      exact held.enough
    · intro id stale _
      exact (collected id).mp (fromList id stale)
    · intro _
      refine covers_of_nextEviction positive rfl ?_ ?_
      · rw [List.length_nil]
        omega
      · intro id counted
        exact Or.inr ((collected id).mpr counted)

/-- An eviction that takes place finds more sessions than the cap allows, and
brings the overflow of its call and the number of sessions down by one. -/
theorem evictConnection (held : CapHeld userId maxConnectionsPerUser total ⟨before, threads⟩)
    (positive : 1 ≤ maxConnectionsPerUser) (picked : threads[index]? = some thread)
    {overflow : Nat} {evicted : List ConnectionInfo} {staleId : String}
    {remaining : List (String × Int)}
    (evicts : thread.phase = .evict overflow evicted staleId remaining)
    (exceeds : Registered before staleId ->
      maxConnectionsPerUser < (present ⟨before, threads⟩ userId).card) :
    let result := before.evictConnection staleId (some (4409, "session_replaced"))
    CapHeld userId maxConnectionsPerUser total
      ⟨result.2, threads.set index
        { thread with
          phase := nextEviction thread.connectionId overflow (evicted ++ result.1.toList)
            remaining }⟩ := by
  intro result
  have marked : thread.phase ≠ .mark := by
    rw [evicts]
    exact MarkPhase.noConfusion
  have awaited : thread.staleIds = staleId :: remaining.map Prod.fst := by
    rw [Marking.staleIds, evicts]
  have listed := held.listed thread (List.mem_of_getElem? picked)
  rw [awaited] at listed
  have counted : readyLive result.2 userId = (readyLive before userId).erase staleId :=
    readyLive_evictConnection before staleId _ userId
  have registered : forall id, Registered result.2 id <-> Registered before id /\ id ≠ staleId :=
    registered_evictConnection before staleId _
  have followed : ({ thread with
        phase := nextEviction thread.connectionId overflow (evicted ++ result.1.toList)
          remaining } : Marking).phase =
      nextEviction thread.connectionId overflow (evicted ++ result.1.toList) remaining := rfl
  rcases staleIds_of_nextEviction followed with ⟨stays, looked, fromList⟩
  have left : present ⟨result.2, threads.set index
        { thread with
          phase := nextEviction thread.connectionId overflow (evicted ++ result.1.toList)
            remaining }⟩ userId =
      (present ⟨before, threads⟩ userId).erase staleId := by
    ext id
    rw [mem_present_set picked marked stays, Finset.mem_erase, mem_present, counted, registered,
      Finset.mem_erase]
    dsimp only
    tauto
  refine held.advance picked marked rfl ?_ stays looked ?_ ?_ ?_ ?_ ?_
  · exact (limitKept before.maxConnectionsPerUser).toKeptByRemoval.delivery.evict _ _ _ rfl
  · intro id stillThere
    rcases (registered id).mp stillThere with ⟨there, different⟩
    refine ⟨there, fun counts => ?_⟩
    rw [counted]
    exact Finset.mem_erase.mpr ⟨different, counts⟩
  · rw [counted]
    exact Finset.erase_subset _ _
  · rw [left]
    by_cases there : Registered before staleId
    · have size := Finset.pred_card_le_card_erase (s := present ⟨before, threads⟩ userId)
        (a := staleId)
      have above := exceeds there
      omega
    · have absent : staleId ∉ present ⟨before, threads⟩ userId := by
        rw [mem_present]
        rintro (counts | ⟨registeredNow, _⟩)
        · exact there ((mem_readyLive before userId staleId).mp counts).2
        · exact there registeredNow
      rw [Finset.erase_eq_of_notMem absent]
      exact held.enough
  · intro id stale stillThere
    rcases (registered id).mp stillThere with ⟨there, different⟩
    rw [counted]
    exact Finset.mem_erase.mpr
      ⟨different, listed id (List.mem_cons_of_mem _ (fromList id stale)) there⟩
  · intro working
    rcases working with ⟨cap, collects⟩ | ⟨_, _, _, _, samePhase, missing, rest⟩
    · rw [evicts] at collects
      cases collects
    · rw [evicts] at samePhase
      cases samePhase
      refine covers_of_nextEviction positive followed ?_ ?_
      · have size : (readyLive result.2 userId).card + result.1.toList.length =
            (readyLive before userId).card :=
          card_readyLive_evictConnection _ (listed staleId List.mem_cons_self)
        rw [List.length_append]
        omega
      · intro id counts
        rw [counted, Finset.mem_erase] at counts
        rcases rest id counts.2 with own | later
        · exact Or.inl own
        · rw [awaited] at later
          exact Or.inr ((List.mem_cons.mp later).resolve_left counts.1)

/-- A careful step keeps the invariant, whichever thread takes it. -/
theorem step (positive : 1 ≤ maxConnectionsPerUser) {before after : MarkSystem}
    {label : Nat × MarkCall} (held : CapHeld userId maxConnectionsPerUser total before)
    (careful : MarksCareful userId before label after) :
    CapHeld userId maxConnectionsPerUser total after := by
  rcases careful with ⟨turn, condition⟩
  cases turn with
  | @take before after threads index thread next event picked advances =>
      unfold Advances nextMarkCall at advances
      cases phase : thread.phase with
      | mark =>
          have limit : before.maxConnectionsPerUser = some maxConnectionsPerUser := held.limit
          simp only [phase] at advances
          split at advances
          · next unlimited =>
            rw [limit] at unlimited
            cases unlimited
          · next cap limited =>
            rw [limit] at limited
            cases limited
            cases advances
            exact held.insertMark picked phase
      | collect cap =>
          have same := held.caps thread (List.mem_of_getElem? picked) cap phase
          subst same
          simp only [phase] at advances
          cases advances
          exact held.collectReady positive picked phase
      | evict overflow evicted staleId remaining =>
          simp only [phase] at advances
          cases advances
          exact held.evictConnection positive picked phase fun there =>
            condition there maxConnectionsPerUser held.limit
      | returned evicted =>
          simp only [phase] at advances
          cases advances

end CapHeld

/-- In every interleaving whose evictions find the user over the cap, as many
sessions are left in the end as the cap allows: all of them, or as many as the
cap. -/
theorem cap_met_of_careful {userId : String} {maxConnectionsPerUser : Nat}
    (positive : 1 ≤ maxConnectionsPerUser) {start final : MarkSystem}
    {labels : List (Nat × MarkCall)} (about : AboutToMark userId maxConnectionsPerUser start)
    (execution : Execution (MarksCareful userId) start labels final)
    (returned : AllMarked final) :
    (readyLive final.shared userId).card =
      min maxConnectionsPerUser (present start userId).card := by
  have held := execution.invariant
    (CapHeld userId maxConnectionsPerUser (present start userId).card) about.capHeld
    (fun _ _ _ before taken => before.step positive taken)
  exact held.card_eq returned

/-- Two sessions of a user that become ready at once, under a cap of one. -/
def bothReady : MarkSystem where
  shared := GatewayState.run asciiLowercase (some 1)
    [.registerConnection .sorted 0 "c1" "u" "tab1" [] 0,
      .registerConnection .sorted 1 "c2" "u" "tab2" [] 1]
  threads := [Marking.start .sorted 2 "c1" "u", Marking.start .sorted 3 "c2" "u"]

theorem bothReady_about : AboutToMark "u" 1 bothReady where
  limit := rfl
  start := by
    intro marking member
    rcases List.mem_cons.mp member with rfl | last
    · exact ⟨_, _, _, rfl⟩
    · exact ⟨_, _, _, List.mem_singleton.mp last⟩
  live := by
    intro marking member
    rcases List.mem_cons.mp member with rfl | last
    · exact of_decide_eq_true rfl
    · rw [List.mem_singleton.mp last]
      exact of_decide_eq_true rfl
  looks := Or.inr ⟨_, List.mem_cons_self, rfl⟩

/-- Both mark, and the second one collects after the first one has evicted. -/
theorem cap_met_when_both_ready :
    Exists fun labels => Exists fun final : MarkSystem =>
      Execution (MarksCareful "u") bothReady labels final /\ AllMarked final /\
      (readyLive final.shared "u").card = min 1 (present bothReady "u").card /\
      (present bothReady "u").card = 2 := by
  have finished : (takeTurns nextMarkCall (fun before label => decide (EvictsOverCap "u" before label))
      bothReady [0, 1, 0, 0, 1]).map (fun run => decide (AllMarked run.2)) = some true := by
    decide +kernel
  rcases Option.map_eq_some_iff.mp finished with ⟨⟨labels, final⟩, taken, returned⟩
  have careful : Execution (MarksCareful "u") bothReady labels final :=
    (takeTurns_execution taken).mono fun _ _ _ both => ⟨both.1, of_decide_eq_true both.2⟩
  exact ⟨labels, final, careful, of_decide_eq_true returned,
    cap_met_of_careful (le_refl 1) bothReady_about careful (of_decide_eq_true returned),
    by decide +kernel⟩

/-- Both collect before one of them evicts, and each of them evicts the
other. -/
theorem everybody_evicted_when_both_ready :
    AboutToMark "u" 1 bothReady /\ (present bothReady "u").card = 2 /\
    Exists fun labels => Exists fun final : MarkSystem =>
      Execution MarksInterleaved bothReady labels final /\ AllMarked final /\
      readyLive final.shared "u" = ∅ := by
  have finished : (takeTurns nextMarkCall (fun _ _ => true) bothReady [0, 1, 0, 1, 0, 1]).map
      (fun run => decide (AllMarked run.2 /\ readyLive run.2.shared "u" = ∅)) = some true := by
    decide +kernel
  rcases Option.map_eq_some_iff.mp finished with ⟨⟨labels, final⟩, taken, outcome⟩
  have execution : Execution MarksInterleaved bothReady labels final :=
    (takeTurns_execution taken).mono fun _ _ _ both => both.1
  exact ⟨bothReady_about, by decide +kernel, labels, final, execution, of_decide_eq_true outcome⟩

theorem nextEviction_of_enough (connectionId : String) {overflow : Nat}
    {evicted : List ConnectionInfo} (enough : overflow ≤ evicted.length)
    (remaining : List (String × Int)) :
    nextEviction connectionId overflow evicted remaining = .returned evicted := by
  cases remaining with
  | nil => rfl
  | cons entry remaining => rw [nextEviction, if_pos enough]

theorem evictions_alone (marking : Marking) (overflow : Nat) (remaining : List (String × Int))
    (evicted : List ConnectionInfo) (state : GatewayState) :
    let result := remaining.foldl (fun evicted entry =>
      if overflow ≤ evicted.1.length then evicted
      else if entry.1 = marking.connectionId then evicted
      else
        let result := evicted.2.evictConnection entry.1 (some (4409, "session_replaced"))
        (evicted.1 ++ result.1.toList, result.2)) (evicted, state)
    RunsAlone nextMarkCall state
      { marking with phase := nextEviction marking.connectionId overflow evicted remaining }
      result.2 { marking with phase := .returned result.1 } := by
  induction remaining generalizing evicted state with
  | nil => exact RunsAlone.refl _ _
  | cons entry remaining ih =>
      rw [List.foldl_cons]
      by_cases enough : overflow ≤ evicted.length
      · have same := (nextEviction_of_enough marking.connectionId enough (entry :: remaining)).trans
          (nextEviction_of_enough marking.connectionId enough remaining).symm
        rw [same, if_pos enough]
        exact ih evicted state
      · rw [nextEviction, if_neg enough, if_neg enough]
        by_cases own : entry.1 = marking.connectionId
        · rw [if_pos own, if_pos own]
          exact ih evicted state
        · rw [if_neg own, if_neg own]
          exact RunsAlone.call rfl (ih _ _)

/-- What the operation does once the mark is set. -/
theorem collect_alone (marking : Marking) (state : GatewayState) (maxConnectionsPerUser : Nat) :
    let ready := state.readyConnectionsOf marking.order marking.userId
    let result := if ready.length ≤ maxConnectionsPerUser then ([], state)
      else state.evictOverflow marking.connectionId (ready.length - maxConnectionsPerUser) ready
    RunsAlone nextMarkCall state { marking with phase := .collect maxConnectionsPerUser }
      result.2 { marking with phase := .returned result.1 } := by
  intro ready result
  have collects : nextMarkCall state { marking with phase := .collect maxConnectionsPerUser } =
      some (.collectReady marking.userId, state,
        { marking with
          phase :=
            if ready.length ≤ maxConnectionsPerUser then .returned []
            else nextEviction marking.connectionId (ready.length - maxConnectionsPerUser) []
              ready }) := rfl
  refine RunsAlone.call collects ?_
  dsimp only [result]
  split
  · exact RunsAlone.refl _ _
  · exact evictions_alone marking _ ready [] state

/-- Alone, the atomic calls do what the operation does. -/
theorem mark_alone (order : HashOrder String) (now : Int) (state : GatewayState)
    (connectionId userId : String) :
    RunsAlone nextMarkCall state (Marking.start order now connectionId userId)
      (state.markSessionReady order now connectionId userId).2
      { Marking.start order now connectionId userId with
        phase := .returned (state.markSessionReady order now connectionId userId).1 } := by
  unfold Marking.start GatewayState.markSessionReady
  split
  · exact RunsAlone.refl _ _
  · let marking : Marking :=
      { connectionId := connectionId, userId := userId, order := order, now := now, phase := .mark }
    have inserts : nextMarkCall state marking =
        some (.insertMark connectionId,
          { state with
            readyConnections :=
              state.readyConnections.insert connectionId { userId := userId, readyAt := now } },
          { marking with
            phase :=
              match state.maxConnectionsPerUser with
              | none => .returned []
              | some maxConnectionsPerUser => .collect maxConnectionsPerUser }) := rfl
    refine RunsAlone.call inserts ?_
    dsimp only
    cases state.maxConnectionsPerUser with
    | none => exact RunsAlone.refl _ _
    | some maxConnectionsPerUser => exact collect_alone marking _ maxConnectionsPerUser

end Concurrency
end Gateway

import Gateway.Foundation.Scheduling
import Gateway.State.SubjectIndex

namespace Gateway
namespace Concurrency

open Foundation State

/-!
# Registrations and unregistrations in any order

Every table is a concurrent map whose single calls are atomic, and nothing
holds between two calls.  A registration inserts its connection and then adds
it to one subject after the other.  An unregistration removes its connection,
and then for each subject removes it from the set and looks whether the set is
empty, in one atomic call; if so, it removes the whole entry in another call.
Between these two calls the entry may get a new member.
-/

/-- The two tables that both operations share. -/
structure SubscriptionTables where
  connections : HashTable String ConnectionHandle
  subjects : InvertedIndex String String

/-- The two tables of a gateway state. -/
def tablesOf (state : GatewayState) : SubscriptionTables where
  connections := state.connections
  subjects := state.subjects

/-- What a thread does next. -/
inductive Thread where
  /-- Insert the connection. -/
  | register (handle : ConnectionHandle)
  /-- Add the connection to the remaining subjects. -/
  | subscribe (connectionId : String) (remaining : List String)
  /-- Remove the connection. -/
  | unregister (connectionId : String)
  /-- Remove the connection from the sets of the remaining subjects. -/
  | withdraw (connectionId : String) (remaining : List String)
  /-- Remove the entry of a subject whose set was found empty. -/
  | discard (connectionId subject : String) (remaining : List String)
  deriving DecidableEq

namespace Thread

def connectionId : Thread -> String
  | register handle => handle.info.connectionId
  | subscribe connectionId _ => connectionId
  | unregister connectionId => connectionId
  | withdraw connectionId _ => connectionId
  | discard connectionId _ _ => connectionId

/-- The call of the thread has returned. -/
def returned : Thread -> Bool
  | subscribe _ [] => true
  | withdraw _ [] => true
  | _ => false

/-- The connection was removed from the connection table by this thread, and
some of its subjects may still list it. -/
def leaving : Thread -> Bool
  | withdraw _ _ => true
  | discard _ _ _ => true
  | _ => false

end Thread

/-- The atomic map calls. -/
inductive MapCall where
  | insertConnection (connectionId : String)
  | insertMember (subject : String)
  | removeConnection (connectionId : String)
  | removeMember (subject : String)
  | removeSubject (subject : String)
  deriving DecidableEq

/-- The next atomic call of a thread, the tables after it, and the rest of the
thread.  A thread that has returned has no next call. -/
def nextCall (tables : SubscriptionTables) :
    Thread -> Option (MapCall × SubscriptionTables × Thread)
  | .register handle =>
      some (.insertConnection handle.info.connectionId,
        { tables with
          connections := tables.connections.insert handle.info.connectionId handle },
        .subscribe handle.info.connectionId handle.info.subjects)
  | .subscribe _ [] => none
  | .subscribe connectionId (subject :: remaining) =>
      some (.insertMember subject,
        { tables with subjects := tables.subjects.enlist connectionId subject },
        .subscribe connectionId remaining)
  | .unregister connectionId =>
      some (.removeConnection connectionId,
        { tables with connections := tables.connections.erase connectionId },
        .withdraw connectionId
          (((tables.connections.lookup connectionId).map fun handle =>
            handle.info.subjects).getD []))
  | .withdraw _ [] => none
  | .withdraw connectionId (subject :: remaining) =>
      let subjects := tables.subjects.withdraw connectionId subject
      some (.removeMember subject, { tables with subjects := subjects },
        if subjects.lookup subject = some ∅ then .discard connectionId subject remaining
        else .withdraw connectionId remaining)
  | .discard connectionId subject remaining =>
      some (.removeSubject subject,
        { tables with subjects := tables.subjects.erase subject },
        .withdraw connectionId remaining)

/-- One thread advances by its next atomic call. -/
def Advance (before : SubscriptionTables) (thread : Thread) (call : MapCall)
    (after : SubscriptionTables) (next : Thread) : Prop :=
  nextCall before thread = some (call, after, next)

abbrev System := Configuration SubscriptionTables Thread

/-- Some thread takes its next atomic call. -/
def Interleaved : System -> Nat × MapCall -> System -> Prop :=
  Turn Advance

/-- The condition of a step: a removal of a whole subject entry still finds the
entry without members. -/
def RemovesOnlyEmpty (before : System) (label : Nat × MapCall) : Prop :=
  match label.2 with
  | .removeSubject subject => before.shared.subjects.members subject = ∅
  | _ => True

instance (before : System) (label : Nat × MapCall) : Decidable (RemovesOnlyEmpty before label) :=
  match label with
  | (_, .removeSubject subject) =>
      inferInstanceAs (Decidable (before.shared.subjects.members subject = ∅))
  | (_, .insertConnection _) => .isTrue trivial
  | (_, .insertMember _) => .isTrue trivial
  | (_, .removeConnection _) => .isTrue trivial
  | (_, .removeMember _) => .isTrue trivial

/-- The steps that meet the condition. -/
def Careful (before : System) (label : Nat × MapCall) (after : System) : Prop :=
  Interleaved before label after /\ RemovesOnlyEmpty before label

/-- The calls of all threads have returned. -/
def AllReturned (system : System) : Prop :=
  forall thread, thread ∈ system.threads -> thread.returned = true

instance (system : System) : Decidable (AllReturned system) :=
  inferInstanceAs (Decidable (forall thread, thread ∈ system.threads -> _))

/-- Every live connection is listed under every subject of its list. -/
def AllSubscribed (tables : SubscriptionTables) : Prop :=
  forall connectionId handle, tables.connections.lookup connectionId = some handle ->
    forall subject, subject ∈ handle.info.subjects ->
      connectionId ∈ tables.subjects.members subject

/-- Before the calls: every live connection is listed, the threads work on
distinct ids, and none of them has made a call yet. -/
structure Ready (system : System) : Prop where
  subscribed : AllSubscribed system.shared
  distinct : (system.threads.map Thread.connectionId).Nodup
  start : forall thread, thread ∈ system.threads ->
    (Exists fun handle => thread = .register handle) \/
      Exists fun connectionId => thread = .unregister connectionId

/-! ## The invariant -/

/-- A live connection is listed under each of its subjects, or its registration
is still about to list it there. -/
structure Covered (system : System) : Prop where
  distinct : (system.threads.map Thread.connectionId).Nodup
  listed : forall connectionId handle,
    system.shared.connections.lookup connectionId = some handle ->
    forall subject, subject ∈ handle.info.subjects ->
      connectionId ∈ system.shared.subjects.members subject \/
        Exists fun remaining => .subscribe connectionId remaining ∈ system.threads /\
          subject ∈ remaining
  gone : forall thread, thread ∈ system.threads -> thread.leaving = true ->
    system.shared.connections.lookup thread.connectionId = none

theorem Ready.covered {system : System} (ready : Ready system) : Covered system where
  distinct := ready.distinct
  listed := fun connectionId handle found subject member =>
    Or.inl (ready.subscribed connectionId handle found subject member)
  gone := by
    intro thread member leaving
    rcases ready.start thread member with ⟨handle, rfl⟩ | ⟨connectionId, rfl⟩
    · cases leaving
    · cases leaving

/-- When every call has returned, nothing is still about to be listed. -/
theorem Covered.allSubscribed {system : System} (covered : Covered system)
    (returned : AllReturned system) : AllSubscribed system.shared := by
  intro connectionId handle found subject member
  rcases covered.listed connectionId handle found subject member with
    present | ⟨remaining, running, awaited⟩
  · exact present
  · cases remaining with
    | nil => cases awaited
    | cons head tail => cases returned _ running

namespace Covered

variable {tables : SubscriptionTables} {threads : List Thread} {index : Nat} {thread : Thread}

/-- Threads with the same id are the same thread. -/
theorem thread_eq (covered : Covered ⟨tables, threads⟩) {left right : Thread}
    (leftMember : left ∈ threads) (rightMember : right ∈ threads)
    (same : left.connectionId = right.connectionId) : left = right :=
  List.inj_on_of_nodup_map covered.distinct leftMember rightMember same

/-- The ids of the threads do not change when a thread advances. -/
theorem distinct_set (covered : Covered ⟨tables, threads⟩)
    (picked : threads[index]? = some thread) {next : Thread}
    (sameId : next.connectionId = thread.connectionId) :
    ((threads.set index next).map Thread.connectionId).Nodup := by
  rw [map_set_of_eq picked sameId]
  exact covered.distinct

theorem ne_of_elsewhere (covered : Covered ⟨tables, threads⟩)
    (picked : threads[index]? = some thread) {position : Nat} (elsewhere : position ≠ index)
    {other : Thread} (found : threads[position]? = some other) : other ≠ thread := by
  rintro rfl
  have mapped : forall {place : Nat}, threads[place]? = some other ->
      (threads.map Thread.connectionId)[place]? = some other.connectionId := by
    intro place there
    rw [List.getElem?_map, there, Option.map_some]
  have bound := (List.getElem?_eq_some_iff.mp (mapped found)).1
  exact elsewhere ((List.getElem?_inj bound covered.distinct).mp
    ((mapped found).trans (mapped picked).symm))

/-- The invariant after a step, from what the step does to the two tables.
`keepsListed` says which listings of other threads survive, `nowListed` covers
the subjects that the thread itself no longer awaits. -/
theorem advance (covered : Covered ⟨tables, threads⟩)
    (picked : threads[index]? = some thread) {after : SubscriptionTables} {next : Thread}
    (sameId : next.connectionId = thread.connectionId)
    (listed : forall connectionId handle, after.connections.lookup connectionId = some handle ->
      forall subject, subject ∈ handle.info.subjects ->
        connectionId ∈ after.subjects.members subject \/
          (Exists fun remaining => next = .subscribe connectionId remaining /\
            subject ∈ remaining) \/
          Exists fun remaining => .subscribe connectionId remaining ∈ threads /\
            .subscribe connectionId remaining ≠ thread /\ subject ∈ remaining)
    (goneNext : next.leaving = true -> after.connections.lookup thread.connectionId = none)
    (goneOthers : forall other, other ∈ threads -> other ≠ thread -> other.leaving = true ->
      tables.connections.lookup other.connectionId = none ->
      after.connections.lookup other.connectionId = none) :
    Covered ⟨after, threads.set index next⟩ where
  distinct := covered.distinct_set picked sameId
  listed := by
    intro connectionId handle found subject member
    rcases listed connectionId handle found subject member with
      present | ⟨remaining, rfl, awaited⟩ | ⟨remaining, running, notPicked, awaited⟩
    · exact Or.inl present
    · exact Or.inr ⟨remaining,
        List.mem_set (List.getElem?_eq_some_iff.mp picked).1 _, awaited⟩
    · exact Or.inr ⟨remaining, mem_set_of_ne picked running notPicked, awaited⟩
  gone := by
    intro other member leaving
    rcases List.mem_iff_getElem?.mp member with ⟨position, found⟩
    rcases getElem?_set_cases found with ⟨_, rfl⟩ | ⟨elsewhere, stillThere⟩
    · rw [sameId]
      exact goneNext leaving
    · have old := List.mem_of_getElem? stillThere
      exact goneOthers other old (covered.ne_of_elsewhere picked elsewhere stillThere) leaving
        (covered.gone other old leaving)

theorem insertConnection {handle : ConnectionHandle} (covered : Covered ⟨tables, threads⟩)
    (picked : threads[index]? = some (.register handle)) :
    Covered
      ⟨{ tables with connections := tables.connections.insert handle.info.connectionId handle },
        threads.set index (.subscribe handle.info.connectionId handle.info.subjects)⟩ := by
  refine covered.advance picked rfl ?_ nofun ?_
  · intro connectionId stored found subject member
    dsimp only at found
    rw [HashTable.lookup_insert_ite] at found
    split at found
    · next same =>
      rw [← Option.some.inj found] at member
      exact Or.inr (Or.inl ⟨handle.info.subjects, same ▸ rfl, member⟩)
    · rcases covered.listed connectionId stored found subject member with
        present | ⟨remaining, running, awaited⟩
      · exact Or.inl present
      · exact Or.inr (Or.inr ⟨remaining, running, Thread.noConfusion, awaited⟩)
  · intro other member different _ absent
    have notInserted : other.connectionId ≠ handle.info.connectionId := fun same =>
      different (covered.thread_eq member (List.mem_of_getElem? picked) same)
    dsimp only
    rw [HashTable.lookup_insert_ite, if_neg notInserted]
    exact absent

theorem insertMember {connectionId subject : String} {remaining : List String}
    (covered : Covered ⟨tables, threads⟩)
    (picked : threads[index]? = some (.subscribe connectionId (subject :: remaining))) :
    Covered ⟨{ tables with subjects := tables.subjects.enlist connectionId subject },
      threads.set index (.subscribe connectionId remaining)⟩ := by
  refine covered.advance picked rfl ?_ nofun (fun _ _ _ _ absent => absent)
  intro other stored found asked member
  rcases covered.listed other stored found asked member with
    present | ⟨awaiting, running, awaited⟩
  · refine Or.inl ?_
    rw [InvertedIndex.mem_members_enlist]
    exact Or.inl present
  · by_cases isPicked : Thread.subscribe other awaiting =
        .subscribe connectionId (subject :: remaining)
    · cases isPicked
      rcases List.mem_cons.mp awaited with now | later
      · refine Or.inl ?_
        rw [InvertedIndex.mem_members_enlist]
        exact Or.inr ⟨rfl, now⟩
      · exact Or.inr (Or.inl ⟨remaining, rfl, later⟩)
    · exact Or.inr (Or.inr ⟨awaiting, running, isPicked, awaited⟩)

theorem removeConnection {connectionId : String} (covered : Covered ⟨tables, threads⟩)
    (picked : threads[index]? = some (.unregister connectionId)) (subjects : List String) :
    Covered ⟨{ tables with connections := tables.connections.erase connectionId },
      threads.set index (.withdraw connectionId subjects)⟩ := by
  refine covered.advance picked rfl ?_ (fun _ => AList.lookup_erase _ _) ?_
  · intro other stored found subject member
    dsimp only at found
    rw [HashTable.lookup_erase_ite] at found
    split at found
    · cases found
    · rcases covered.listed other stored found subject member with
        present | ⟨remaining, running, awaited⟩
      · exact Or.inl present
      · exact Or.inr (Or.inr ⟨remaining, running, Thread.noConfusion, awaited⟩)
  · intro other member different _ absent
    dsimp only
    rw [HashTable.lookup_erase_ite, absent]
    split <;> rfl

/-- The connection of a leaving thread is gone already, so nobody else loses a
listing. -/
theorem removeMember {connectionId subject : String} {remaining : List String} {next : Thread}
    (covered : Covered ⟨tables, threads⟩)
    (picked : threads[index]? = some (.withdraw connectionId (subject :: remaining)))
    (sameId : next.connectionId = connectionId) :
    Covered ⟨{ tables with subjects := tables.subjects.withdraw connectionId subject },
      threads.set index next⟩ := by
  have absent : tables.connections.lookup connectionId = none :=
    covered.gone _ (List.mem_of_getElem? picked) rfl
  refine covered.advance picked sameId ?_ (fun _ => absent) (fun _ _ _ _ gone => gone)
  intro other stored found asked member
  have notLeaving : other ≠ connectionId := by
    rintro rfl
    dsimp only at found
    rw [absent] at found
    cases found
  rcases covered.listed other stored found asked member with
    present | ⟨awaiting, running, awaited⟩
  · refine Or.inl ?_
    rw [InvertedIndex.mem_members_withdraw]
    exact ⟨present, fun both => notLeaving both.1⟩
  · exact Or.inr (Or.inr ⟨awaiting, running, Thread.noConfusion, awaited⟩)

/-- Removing an entry without members removes no listing. -/
theorem removeSubject {connectionId subject : String} {remaining : List String}
    (covered : Covered ⟨tables, threads⟩)
    (picked : threads[index]? = some (.discard connectionId subject remaining))
    (nobody : tables.subjects.members subject = ∅) :
    Covered ⟨{ tables with subjects := tables.subjects.erase subject },
      threads.set index (.withdraw connectionId remaining)⟩ := by
  have absent := covered.gone _ (List.mem_of_getElem? picked) rfl
  refine covered.advance picked rfl ?_ (fun _ => absent) (fun _ _ _ _ gone => gone)
  intro other stored found asked member
  rcases covered.listed other stored found asked member with
    present | ⟨awaiting, running, awaited⟩
  · refine Or.inl ?_
    dsimp only
    rw [InvertedIndex.members_discard]
    split
    · next same =>
      rw [same, nobody] at present
      exact absurd present (Finset.notMem_empty other)
    · exact present
  · exact Or.inr (Or.inr ⟨awaiting, running, Thread.noConfusion, awaited⟩)

/-- A careful step keeps the invariant, whichever thread takes it. -/
theorem step {before after : System} {label : Nat × MapCall} (covered : Covered before)
    (careful : Careful before label after) : Covered after := by
  rcases careful with ⟨turn, onlyEmpty⟩
  cases turn with
  | @take tables after threads index thread next call picked advances =>
      cases thread with
      | register handle =>
          cases advances
          exact covered.insertConnection picked
      | subscribe connectionId remaining =>
          cases remaining with
          | nil => cases advances
          | cons subject remaining =>
              cases advances
              exact covered.insertMember picked
      | unregister connectionId =>
          cases advances
          exact covered.removeConnection picked _
      | withdraw connectionId remaining =>
          cases remaining with
          | nil => cases advances
          | cons subject remaining =>
              cases advances
              refine covered.removeMember picked ?_
              split <;> rfl
      | discard connectionId subject remaining =>
          cases advances
          exact covered.removeSubject picked onlyEmpty

end Covered

/-- In every interleaving whose removals of whole entries find them empty, all
live connections are listed under all their subjects once the calls have
returned. -/
theorem no_subscription_lost_of_careful {start final : System} {labels : List (Nat × MapCall)}
    (ready : Ready start) (execution : Execution Careful start labels final)
    (returned : AllReturned final) : AllSubscribed final.shared := by
  have covered := execution.invariant Covered ready.covered
    (fun _ _ _ before taken => before.step taken)
  exact covered.allSubscribed returned

/-- A connection that is being removed and one that registers for the same
subject, at a moment when only the first is listed. -/
def reconnecting : System where
  shared := tablesOf (GatewayState.run asciiLowercase none
    [.registerConnection .sorted 0 "old" "u" "" ["s"] 0])
  threads :=
    [.unregister "old",
      .register { info := ⟨"new", "u", "", ["s"], 1, 1⟩, sender := 1 }]

theorem reconnecting_ready : Ready reconnecting where
  subscribed := by
    intro connectionId handle found subject member
    have onlyConnection : reconnecting.shared.connections = AList.insert "old"
        { info := ⟨"old", "u", "", ["s"], 0, 0⟩, sender := 0 } ∅ := rfl
    rw [onlyConnection, HashTable.lookup_insert_ite] at found
    split at found
    · next same =>
      rw [← Option.some.inj found] at member
      rw [same, List.mem_singleton.mp member]
      decide
    · cases found
  distinct := by decide
  start := by
    intro thread member
    rcases List.mem_cons.mp member with rfl | last
    · exact Or.inr ⟨"old", rfl⟩
    · exact Or.inl ⟨_, List.mem_singleton.mp last⟩

/-- The new connection subscribes before the old one looks whether the entry
is empty. -/
theorem no_subscription_lost_when_reconnecting :
    let final : System :=
      { shared :=
          { connections := AList.insert "new" { info := ⟨"new", "u", "", ["s"], 1, 1⟩, sender := 1 } ∅
            subjects := AList.insert "s" {"new"} ∅ }
        threads := [.withdraw "old" [], .subscribe "new" []] }
    Execution Careful reconnecting
        [(0, .removeConnection "old"), (1, .insertConnection "new"), (1, .insertMember "s"),
          (0, .removeMember "s")] final /\
      AllSubscribed final.shared := by
  intro final
  have taken : takeTurns nextCall (fun before label => decide (RemovesOnlyEmpty before label))
      reconnecting [0, 1, 1, 0] = some
        ([(0, .removeConnection "old"), (1, .insertConnection "new"), (1, .insertMember "s"),
          (0, .removeMember "s")], final) := rfl
  have careful : Execution Careful reconnecting _ final :=
    (takeTurns_execution taken).mono fun _ _ _ both => ⟨both.1, of_decide_eq_true both.2⟩
  exact ⟨careful, no_subscription_lost_of_careful reconnecting_ready careful (by decide)⟩

/-- The old connection finds the entry empty, the new one subscribes, and then
the old one removes the entry. -/
theorem subscription_lost_when_reconnecting :
    let final : System :=
      { shared :=
          { connections := AList.insert "new" { info := ⟨"new", "u", "", ["s"], 1, 1⟩, sender := 1 } ∅
            subjects := ∅ }
        threads := [.withdraw "old" [], .subscribe "new" []] }
    Ready reconnecting /\
      Execution Interleaved reconnecting
        [(0, .removeConnection "old"), (0, .removeMember "s"), (1, .insertConnection "new"),
          (1, .insertMember "s"), (0, .removeSubject "s")] final /\
      AllReturned final /\ Not (AllSubscribed final.shared) := by
  intro final
  have taken : takeTurns nextCall (fun _ _ => true) reconnecting [0, 0, 1, 1, 0] = some
      ([(0, .removeConnection "old"), (0, .removeMember "s"), (1, .insertConnection "new"),
        (1, .insertMember "s"), (0, .removeSubject "s")], final) := rfl
  refine ⟨reconnecting_ready, (takeTurns_execution taken).mono fun _ _ _ both => both.1,
    by decide, ?_⟩
  intro subscribed
  have listed := subscribed "new" _ (AList.lookup_insert _) "s" List.mem_cons_self
  exact Finset.notMem_empty "new" listed

/-! ## A thread that runs alone -/

theorem subscribe_alone (connectionId : String) (remaining : List String)
    (tables : SubscriptionTables) :
    Exists fun labels => Execution Interleaved
      { shared := tables, threads := [.subscribe connectionId remaining] } labels
      { shared := { tables with subjects := tables.subjects.enlistAll connectionId remaining }
        threads := [.subscribe connectionId []] } := by
  induction remaining generalizing tables with
  | nil => exact ⟨[], .refl⟩
  | cons subject remaining ih =>
      rcases ih { tables with subjects := tables.subjects.enlist connectionId subject } with
        ⟨labels, rest⟩
      have first : Interleaved
          { shared := tables, threads := [.subscribe connectionId (subject :: remaining)] }
          (0, .insertMember subject)
          { shared := { tables with subjects := tables.subjects.enlist connectionId subject }
            threads := [.subscribe connectionId remaining] } := Turn.take rfl rfl
      exact ⟨_, (Execution.single first).trans rest⟩

/-- Alone, the calls of a registration do what the operation does to the two
tables. -/
theorem register_alone (state : GatewayState) (info : ConnectionInfo) :
    Exists fun labels => Execution Interleaved
      { shared := tablesOf state
        threads := [.register { info := info, sender := state.channels.length }] } labels
      { shared := tablesOf (state.insertConnection info)
        threads := [.subscribe info.connectionId []] } := by
  rcases subscribe_alone info.connectionId info.subjects
    { connections := state.connections.insert info.connectionId
        { info := info, sender := state.channels.length }
      subjects := state.subjects } with ⟨labels, rest⟩
  have first : Interleaved
      { shared := tablesOf state
        threads := [.register { info := info, sender := state.channels.length }] }
      (0, .insertConnection info.connectionId)
      { shared :=
          { connections := state.connections.insert info.connectionId
              { info := info, sender := state.channels.length }
            subjects := state.subjects }
        threads := [.subscribe info.connectionId info.subjects] } := Turn.take rfl rfl
  exact ⟨_, (Execution.single first).trans rest⟩

theorem withdraw_alone (connectionId : String) (remaining : List String)
    (tables : SubscriptionTables) :
    Exists fun labels => Execution Interleaved
      { shared := tables, threads := [.withdraw connectionId remaining] } labels
      { shared := { tables with subjects := tables.subjects.delistAll connectionId remaining }
        threads := [.withdraw connectionId []] } := by
  induction remaining generalizing tables with
  | nil => exact ⟨[], .refl⟩
  | cons subject remaining ih =>
      have withdraws : Interleaved
          { shared := tables, threads := [.withdraw connectionId (subject :: remaining)] }
          (0, .removeMember subject)
          { shared := { tables with subjects := tables.subjects.withdraw connectionId subject }
            threads :=
              [if (tables.subjects.withdraw connectionId subject).lookup subject = some ∅ then
                .discard connectionId subject remaining
              else .withdraw connectionId remaining] } := Turn.take rfl rfl
      rcases ih { tables with subjects := tables.subjects.delist connectionId subject } with
        ⟨labels, rest⟩
      by_cases empty : (tables.subjects.withdraw connectionId subject).lookup subject = some ∅
      · have discards : Interleaved
            { shared := { tables with subjects := tables.subjects.withdraw connectionId subject }
              threads := [.discard connectionId subject remaining] }
            (0, .removeSubject subject)
            { shared := { tables with subjects := tables.subjects.delist connectionId subject }
              threads := [.withdraw connectionId remaining] } := by
          rw [InvertedIndex.delist_eq_ite, if_pos empty]
          exact Turn.take rfl rfl
        rw [if_pos empty] at withdraws
        exact ⟨_, (Execution.single withdraws).trans ((Execution.single discards).trans rest)⟩
      · have delisted : tables.subjects.withdraw connectionId subject =
            tables.subjects.delist connectionId subject := by
          rw [InvertedIndex.delist_eq_ite, if_neg empty]
        rw [if_neg empty, delisted] at withdraws
        exact ⟨_, (Execution.single withdraws).trans rest⟩

/-- Alone, the calls of an unregistration do what the operation does to the two
tables. -/
theorem unregister_alone (state : GatewayState) (connectionId : String) :
    Exists fun labels => Execution Interleaved
      { shared := tablesOf state, threads := [.unregister connectionId] } labels
      { shared := tablesOf (state.unregisterConnection connectionId).2
        threads := [.withdraw connectionId []] } := by
  have removes : Interleaved
      { shared := tablesOf state, threads := [.unregister connectionId] }
      (0, .removeConnection connectionId)
      { shared :=
          { connections := state.connections.erase connectionId, subjects := state.subjects }
        threads :=
          [.withdraw connectionId (((state.connections.lookup connectionId).map fun handle =>
            handle.info.subjects).getD [])] } := Turn.take rfl rfl
  rcases withdraw_alone connectionId (((state.connections.lookup connectionId).map fun handle =>
    handle.info.subjects).getD [])
    { connections := state.connections.erase connectionId, subjects := state.subjects } with
    ⟨labels, rest⟩
  have result : tablesOf (state.unregisterConnection connectionId).2 =
      { connections := state.connections.erase connectionId
        subjects := state.subjects.delistAll connectionId
          (((state.connections.lookup connectionId).map fun handle =>
            handle.info.subjects).getD []) } := by
    rw [tablesOf, GatewayState.unregisterConnection_connections]
    congr 1
    unfold GatewayState.unregisterConnection
    cases state.connections.lookup connectionId <;> rfl
  rw [result]
  exact ⟨_, (Execution.single removes).trans rest⟩

end Concurrency
end Gateway

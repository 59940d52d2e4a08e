import Gateway.State.Eviction
import Gateway.State.Fanout

namespace Gateway
namespace State

open Foundation

/-!
# Listing connections

A listing scans all connections and compares each with the filters.  A dispatch
looks its targets up in the subject index instead.  In a consistent state both
find the same connections, and after a dispatch a listing of its subjects shows
exactly who has received it.
-/

namespace GatewayState

def listConnections (order : HashOrder String) (state : GatewayState)
    (subject userId : Option String) : List ConnectionInfo :=
  ((state.connections.iterate order).filter fun entry =>
    subject.all (fun expected => decide (expected ∈ entry.2.info.subjects)) &&
      userId.all (fun expected => decide (entry.2.info.userId = expected))).map
    fun entry => entry.2.info

theorem mem_listConnections (order : HashOrder String) (state : GatewayState)
    (subject userId : Option String) (info : ConnectionInfo) :
    info ∈ state.listConnections order subject userId <->
      (Exists fun id => state.infoOf id = some info) /\
      (forall expected, subject = some expected -> expected ∈ info.subjects) /\
      (forall expected, userId = some expected -> info.userId = expected) := by
  have all_iff : forall (filter : Option String) (test : String -> Prop)
      [DecidablePred test], (filter.all fun expected => decide (test expected)) = true <->
        forall expected, filter = some expected -> test expected := by
    intro filter test decides
    cases filter with
    | none => simp
    | some expected => simp
  rw [listConnections, List.mem_map]
  constructor
  · rintro ⟨⟨id, handle⟩, member, rfl⟩
    rcases List.mem_filter.mp member with ⟨visited, kept⟩
    rw [Bool.and_eq_true, all_iff, all_iff] at kept
    have found := (HashTable.mem_iterate order _ _ _).mp visited
    exact ⟨⟨id, by rw [infoOf, found, Option.map_some]⟩, kept.1, kept.2⟩
  · rintro ⟨⟨id, registered⟩, subscribed, owned⟩
    rcases Option.map_eq_some_iff.mp registered with ⟨handle, found, rfl⟩
    refine ⟨(id, handle), List.mem_filter.mpr
      ⟨(HashTable.mem_iterate order _ _ _).mpr found, ?_⟩, rfl⟩
    rw [Bool.and_eq_true, all_iff, all_iff]
    exact ⟨subscribed, owned⟩

/-- The ids of the connections that are listed for some of the subjects. -/
def listedFor (order : HashOrder String) (state : GatewayState) (subjects : List String) :
    Finset String :=
  subjects.toFinset.biUnion fun subject =>
    ((state.listConnections order (some subject) none).map ConnectionInfo.connectionId).toFinset

theorem mem_listedFor {state : GatewayState} (consistent : IndexConsistent state)
    (order : HashOrder String) (subjects : List String) (id : String) :
    id ∈ state.listedFor order subjects <-> state.Addressee subjects id := by
  simp only [listedFor, Finset.mem_biUnion, List.mem_toFinset, List.mem_map, mem_listConnections]
  constructor
  · rintro ⟨subject, member, info, ⟨⟨other, registered⟩, subscribed, _⟩, rfl⟩
    rcases Option.map_eq_some_iff.mp registered with ⟨handle, found, rfl⟩
    rw [consistent.ids other handle found]
    exact ⟨handle, found, subject, member, subscribed subject rfl⟩
  · rintro ⟨handle, found, subject, member, subscribed⟩
    refine ⟨subject, member, handle.info, ⟨⟨id, by rw [infoOf, found, Option.map_some]⟩, ?_, ?_⟩,
      consistent.ids id handle found⟩
    · intro expected same
      rw [← Option.some.inj same]
      exact subscribed
    · intro expected same
      cases same

/-- The scan finds the targets that the subject index gives. -/
theorem listedFor_eq_targetIds {state : GatewayState} (consistent : IndexConsistent state)
    (order : HashOrder String) (subjects : List String) :
    state.listedFor order subjects = state.targetIds subjects := by
  ext id
  rw [mem_listedFor consistent, mem_targetIds_iff_addressee consistent]

end GatewayState

end State
end Gateway

import Gateway.Foundation.ExpiringQueue
import Gateway.Foundation.FirstOccurrences
import Gateway.State.Records

namespace Gateway
namespace State

open Foundation

/-!
# Pending messages

Messages that reached nobody wait in a queue per subject until a connection
registers for the subject.  Queues are bounded in age and in length.  Replay
merges the queues of the registering connection subject by subject and drops
texts it has already taken.
-/

/-- Drop expired messages from the front, stopping at the first fresh one, and
then as many more as exceed the length bound. -/
def prunePendingQueue (queue : List PendingMessage) (now : Int) : List PendingMessage :=
  let fresh := queue.dropWhile fun front =>
    decide (pendingTtlSeconds < saturatingSub now front.enqueuedAt)
  fresh.drop (fresh.length - pendingMaxPerSubject)

/-- The common step of the two ways to buffer: find or create the queue of the
subject, retain some of it, push the item at the back, and prune. -/
def enqueuePending (item : PendingMessage) (retain : PendingMessage -> Bool)
    (pending : PendingTable) (subject : String) : PendingTable :=
  pending.insert subject
    (prunePendingQueue (((pending.lookup subject).getD []).filter retain ++ [item])
      item.enqueuedAt)

/-- Take the queue of one subject out of the table and append its texts to the
snapshot.  The set of texts seen so far is exactly the set of texts in the
snapshot, so it is not kept apart. -/
def takePending (now : Int) (taken : List String × PendingTable) (subject : String) :
    List String × PendingTable :=
  match taken.2.lookup subject with
  | none => taken
  | some queue =>
      (collect taken.1 ((prunePendingQueue queue now).map PendingMessage.text),
        taken.2.erase subject)

namespace GatewayState

def takePendingForSubjects (now : Int) (state : GatewayState) (subjects : List String) :
    List String × GatewayState :=
  let taken := subjects.foldl (takePending now) ([], state.pendingBySubject)
  (taken.1, { state with pendingBySubject := taken.2 })

def requeueForSubjects (now : Int) (state : GatewayState) (subjects : List String)
    (message : String) : GatewayState :=
  if subjects = [] ∨ message = "" then state
  else
    let item : PendingMessage := { text := message, enqueuedAt := now, stickyKey := none }
    { state with
      pendingBySubject :=
        subjects.foldl (enqueuePending item fun _ => true) state.pendingBySubject }

def bufferLatestForSubjects (now : Int) (state : GatewayState) (subjects : List String)
    (message stickyKey : String) : GatewayState :=
  if subjects = [] ∨ message = "" ∨ stickyKey = "" then state
  else
    let item : PendingMessage :=
      { text := message, enqueuedAt := now, stickyKey := some stickyKey }
    { state with
      pendingBySubject :=
        subjects.foldl
          (enqueuePending item fun old => decide (old.stickyKey ≠ some stickyKey))
          state.pendingBySubject }

end GatewayState

/-- The bounds of a pending queue. -/
def pendingPolicy : QueuePolicy PendingMessage String where
  time := PendingMessage.enqueuedAt
  key := PendingMessage.stickyKey
  timeToLive := pendingTtlSeconds
  capacity := pendingMaxPerSubject
  timeToLive_nonneg := by decide
  capacity_pos := by decide

theorem prunePendingQueue_eq_prune (queue : List PendingMessage) (now : Int) :
    prunePendingQueue queue now = pendingPolicy.prune now queue := by
  have expired : (fun front : PendingMessage =>
      decide (pendingTtlSeconds < saturatingSub now front.enqueuedAt)) =
        pendingPolicy.expired now := by
    funext front
    exact decide_eq_decide.mpr (lt_saturatingSub_iff (by decide) (by decide) _ _)
  rw [prunePendingQueue, expired]
  rfl

@[simp] theorem prunePendingQueue_nil (now : Int) : prunePendingQueue [] now = [] := by
  rw [prunePendingQueue, List.dropWhile_nil, List.drop_nil]

theorem prunePendingQueue_sublist (queue : List PendingMessage) (now : Int) :
    (prunePendingQueue queue now).Sublist queue := by
  rw [prunePendingQueue_eq_prune]
  exact (pendingPolicy.prune_suffix now queue).sublist

/-- A fresh item at the back of a queue survives pruning. -/
theorem prunePendingQueue_concat (queue : List PendingMessage) (item : PendingMessage) :
    Exists fun earlier =>
      prunePendingQueue (queue ++ [item]) item.enqueuedAt = earlier ++ [item] := by
  rcases pendingPolicy.prune_concat queue item with ⟨kept, pruned, _⟩
  exact ⟨kept, (prunePendingQueue_eq_prune _ _).trans pruned⟩

/-- Nothing is pruned from a queue that is recent and short. -/
theorem prunePendingQueue_of_recent {queue : List PendingMessage} {now : Int}
    (recent : forall item, item ∈ queue -> now - item.enqueuedAt ≤ pendingTtlSeconds)
    (short : queue.length ≤ pendingMaxPerSubject) : prunePendingQueue queue now = queue := by
  rw [prunePendingQueue_eq_prune]
  refine pendingPolicy.prune_eq_self (fun item member => ?_) short
  rw [QueuePolicy.expired, decide_eq_false_iff_not]
  exact not_lt.mpr (recent item member)

end State
end Gateway

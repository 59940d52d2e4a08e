import Gateway.Concurrency.Removal

namespace Gateway
namespace Concurrency

open Foundation State

/-!
# Registrations and dispatches, call by call

A registration evicts the stale predecessors, inserts its connection, adds it
to the index subject by subject, takes the pending queues of its subjects out
of their table, and replays the texts to its own channel.  A dispatch reads the
index, looks each target up and sends to it, unregisters the targets that are
gone, and pushes a message that reached nobody to the pending queues.  Every
single call on a map or a channel is atomic, and nothing holds between them.
-/

/-- What a registration does next. -/
inductive RegisterPhase where
  | scan
  /-- Look the predecessor up, in order to tell it why it is closed. -/
  | notify (evicted : List ConnectionInfo) (staleId : String) (remaining : List String)
  | close (evicted : List ConnectionInfo) (staleId : String) (sender : Nat)
      (remaining : List String)
  | remove (evicted : List ConnectionInfo) (removal : Removal) (remaining : List String)
  | insert (evicted : List ConnectionInfo)
  | subscribe (evicted : List ConnectionInfo) (receiver : Nat) (subject : String)
      (remaining : List String)
  | drain (evicted : List ConnectionInfo) (receiver : Nat) (taken : List String)
      (subject : String) (remaining : List String)
  | replay (evicted : List ConnectionInfo) (receiver : Nat) (text : String)
      (remaining : List String)
  | returned (registration : Registration)

/-- One call of `register_connection` and how far it has come. -/
structure Registering where
  order : HashOrder String
  now : Int
  connectionId : String
  userId : String
  clientInstanceId : String
  subjects : List String
  connectedAt : Int
  phase : RegisterPhase

namespace Registering

def start (order : HashOrder String) (now : Int)
    (connectionId userId clientInstanceId : String) (subjects : List String)
    (connectedAt : Int) : Registering where
  order := order
  now := now
  connectionId := connectionId
  userId := userId
  clientInstanceId := clientInstanceId
  subjects := subjects
  connectedAt := connectedAt
  phase := if clientInstanceId = "" then .insert [] else .scan

def info (call : Registering) : ConnectionInfo where
  connectionId := call.connectionId
  userId := call.userId
  clientInstanceId := call.clientInstanceId
  subjects := call.subjects
  connectedAt := call.connectedAt
  lastSeenAt := call.connectedAt

/-- The loop over the predecessors up to the next call. -/
def overPredecessors (evicted : List ConnectionInfo) : List String -> RegisterPhase
  | [] => .insert evicted
  | staleId :: remaining => .notify evicted staleId remaining

/-- The loop over the texts up to the next call. -/
def overTexts (call : Registering) (evicted : List ConnectionInfo) (receiver : Nat) :
    List String -> RegisterPhase
  | [] => .returned { info := call.info, receiver := receiver, evicted := evicted }
  | text :: remaining => .replay evicted receiver text remaining

/-- The loop over the queues up to the next call. -/
def overQueues (call : Registering) (evicted : List ConnectionInfo) (receiver : Nat)
    (taken : List String) : List String -> RegisterPhase
  | [] => call.overTexts evicted receiver taken
  | subject :: remaining => .drain evicted receiver taken subject remaining

/-- The loop over the subjects up to the next call. -/
def overSubjects (call : Registering) (evicted : List ConnectionInfo) (receiver : Nat) :
    List String -> RegisterPhase
  | [] => call.overQueues evicted receiver [] call.subjects
  | subject :: remaining => .subscribe evicted receiver subject remaining

end Registering

/-- The counters of a dispatch and the targets that turned out to be gone. -/
structure SendTally where
  attempted : Nat
  enqueued : Nat
  staleIds : List String
  deriving DecidableEq

/-- What a dispatch does next. -/
inductive SendPhase where
  | read (targets : Finset String) (subject : String) (remaining : List String)
  | find (tally : SendTally) (id : String) (remaining : List String)
  | push (tally : SendTally) (id : String) (sender : Nat) (remaining : List String)
  | clean (tally : SendTally) (removal : Removal) (remaining : List String)
  | requeue (tally : SendTally) (subject : String) (remaining : List String)
  | returned (result : DispatchResult)
  deriving DecidableEq

/-- One call of `send_to_subjects` without a sticky key, and how far it has
come. -/
structure Sending where
  order : HashOrder String
  now : Int
  subjects : List String
  message : String
  bufferIfUndelivered : Bool
  phase : SendPhase

namespace Sending

/-- The loop over the pending queues up to the next call. -/
def overRequeues (tally : SendTally) : List String -> SendPhase
  | [] =>
      .returned { attemptedCount := tally.attempted, enqueuedCount := tally.enqueued }
  | subject :: remaining => .requeue tally subject remaining

/-- The loop over the targets that are gone up to the next call. -/
def overStale (call : Sending) (tally : SendTally) : List String -> SendPhase
  | [] =>
      if tally.enqueued = 0 ∧ call.bufferIfUndelivered = true then
        overRequeues tally call.subjects
      else .returned { attemptedCount := tally.attempted, enqueuedCount := tally.enqueued }
  | staleId :: remaining => .clean tally (Removal.start staleId) remaining

/-- The loop over the targets up to the next call. -/
def overTargets (call : Sending) (tally : SendTally) : List String -> SendPhase
  | [] => call.overStale tally tally.staleIds
  | id :: remaining => .find tally id remaining

/-- The loop over the subjects up to the next call. -/
def overReads (call : Sending) (targets : Finset String) : List String -> SendPhase
  | [] =>
      call.overTargets { attempted := targets.card, enqueued := 0, staleIds := [] }
        (call.order.enumerate targets)
  | subject :: remaining => .read targets subject remaining

def start (order : HashOrder String) (now : Int) (subjects : List String) (message : String)
    (bufferIfUndelivered : Bool) : Sending :=
  let call : Sending :=
    { order := order
      now := now
      subjects := subjects
      message := message
      bufferIfUndelivered := bufferIfUndelivered
      phase := .returned { attemptedCount := 0, enqueuedCount := 0 } }
  if subjects = [] ∨ message = "" then call
  else { call with phase := call.overReads ∅ subjects }

end Sending

/-! ## Atomic calls -/

inductive RaceThread where
  | registering (call : Registering)
  | sending (call : Sending)

inductive RaceCall where
  | scanConnections
  | findConnection (connectionId : String)
  | sendOn (sender : Nat)
  | removal (call : RemovalCall)
  | insertConnection (connectionId : String)
  | insertMember (subject : String)
  | takeQueue (subject : String) (now : Int)
  | readMembers (subject : String)
  | pushPending (subject : String)
  deriving DecidableEq

/-- The next atomic call of a registration, the state after it, and what it
does then. -/
def nextRegisterCall (state : GatewayState) (call : Registering) :
    Option (RaceCall × GatewayState × RegisterPhase) :=
  match call.phase with
  | .scan =>
      some (.scanConnections, state,
        Registering.overPredecessors []
          (state.sameInstanceConnections call.order call.connectionId call.userId
            call.clientInstanceId))
  | .notify evicted staleId remaining =>
      some (.findConnection staleId, state,
        match state.connections.lookup staleId with
        | none => .remove evicted (Removal.start staleId) remaining
        | some handle => .close evicted staleId handle.sender remaining)
  | .close evicted staleId sender remaining =>
      some (.sendOn sender,
        { state with
          channels := (sendOn state.channels sender (.close 1000 "reconnect")).2 },
        .remove evicted (Removal.start staleId) remaining)
  | .remove evicted removal remaining =>
      let step := nextRemoval state removal
      some (.removal step.1, step.2.1,
        step.2.2.resume (fun rest => .remove evicted rest remaining)
          fun removed => Registering.overPredecessors (evicted ++ removed.toList) remaining)
  | .insert evicted =>
      let receiver := state.channels.length
      some (.insertConnection call.connectionId,
        { state with
          channels := state.channels ++ [{ sent := [], receiverAlive := true }]
          connections :=
            state.connections.insert call.connectionId { info := call.info, sender := receiver } },
        call.overSubjects evicted receiver call.subjects)
  | .subscribe evicted receiver subject remaining =>
      some (.insertMember subject,
        { state with subjects := state.subjects.enlist call.connectionId subject },
        call.overSubjects evicted receiver remaining)
  | .drain evicted receiver taken subject remaining =>
      let taken := takePending call.now (taken, state.pendingBySubject) subject
      some (.takeQueue subject call.now, { state with pendingBySubject := taken.2 },
        call.overQueues evicted receiver taken.1 remaining)
  | .replay evicted receiver text remaining =>
      some (.sendOn receiver,
        { state with channels := (sendOn state.channels receiver (.text text)).2 },
        call.overTexts evicted receiver remaining)
  | .returned _ => none

/-- The next atomic call of a dispatch, the state after it, and what it does
then. -/
def nextSendCall (state : GatewayState) (call : Sending) :
    Option (RaceCall × GatewayState × SendPhase) :=
  match call.phase with
  | .read targets subject remaining =>
      some (.readMembers subject, state,
        call.overReads (targets ∪ state.subjects.members subject) remaining)
  | .find tally id remaining =>
      some (.findConnection id, state,
        match state.connections.lookup id with
        | none => call.overTargets { tally with staleIds := tally.staleIds ++ [id] } remaining
        | some handle => .push tally id handle.sender remaining)
  | .push tally id sender remaining =>
      let sent := sendOn state.channels sender (.text call.message)
      some (.sendOn sender, { state with channels := sent.2 },
        if sent.1 then call.overTargets { tally with enqueued := tally.enqueued + 1 } remaining
        else call.overTargets { tally with staleIds := tally.staleIds ++ [id] } remaining)
  | .clean tally removal remaining =>
      let step := nextRemoval state removal
      some (.removal step.1, step.2.1,
        step.2.2.resume (fun rest => .clean tally rest remaining)
          fun _ => call.overStale tally remaining)
  | .requeue tally subject remaining =>
      let item : PendingMessage :=
        { text := call.message, enqueuedAt := call.now, stickyKey := none }
      some (.pushPending subject,
        { state with
          pendingBySubject := enqueuePending item (fun _ => true) state.pendingBySubject subject },
        Sending.overRequeues tally remaining)
  | .returned _ => none

/-- The next atomic call of either. -/
def nextRaceCall (state : GatewayState) :
    RaceThread -> Option (RaceCall × GatewayState × RaceThread)
  | .registering call =>
      (nextRegisterCall state call).map fun step =>
        (step.1, step.2.1, .registering { call with phase := step.2.2 })
  | .sending call =>
      (nextSendCall state call).map fun step =>
        (step.1, step.2.1, .sending { call with phase := step.2.2 })

section RegisterAlone

variable (call : Registering)

theorem texts_alone (evicted : List ConnectionInfo) (receiver : Nat) (texts : List String)
    (state : GatewayState) :
    RunsAlone nextRaceCall state
      (.registering { call with phase := call.overTexts evicted receiver texts })
      (state.sendTexts receiver texts)
      (.registering { call with
        phase := .returned { info := call.info, receiver := receiver, evicted := evicted } }) := by
  induction texts generalizing state with
  | nil => exact RunsAlone.refl _ _
  | cons text texts ih => exact RunsAlone.call rfl (ih _)

theorem queues_alone (evicted : List ConnectionInfo) (receiver : Nat) (subjects : List String)
    (taken : List String) (state : GatewayState) :
    let drained := subjects.foldl (takePending call.now) (taken, state.pendingBySubject)
    RunsAlone nextRaceCall state
      (.registering { call with phase := call.overQueues evicted receiver taken subjects })
      ({ state with pendingBySubject := drained.2 }.sendTexts receiver drained.1)
      (.registering { call with
        phase := .returned { info := call.info, receiver := receiver, evicted := evicted } }) := by
  induction subjects generalizing taken state with
  | nil => exact texts_alone call evicted receiver taken state
  | cons subject subjects ih => exact RunsAlone.call rfl (ih _ _)

theorem subjects_alone (evicted : List ConnectionInfo) (receiver : Nat) (subjects : List String)
    (state : GatewayState) :
    RunsAlone nextRaceCall state
      (.registering { call with phase := call.overSubjects evicted receiver subjects })
      { state with subjects := state.subjects.enlistAll call.connectionId subjects }
      (.registering { call with phase := call.overQueues evicted receiver [] call.subjects }) := by
  induction subjects generalizing state with
  | nil => exact RunsAlone.refl _ _
  | cons subject subjects ih => exact RunsAlone.call rfl (ih _)

/-- A removal inside a registration. -/
theorem remove_alone (evicted : List ConnectionInfo) (staleId : String) (remaining : List String)
    (state : GatewayState) :
    RunsAlone nextRaceCall state
      (.registering { call with phase := .remove evicted (Removal.start staleId) remaining })
      (state.unregisterConnection staleId).2
      (.registering { call with
        phase := Registering.overPredecessors
          (evicted ++ (state.unregisterConnection staleId).1.toList) remaining }) := by
  refine RunsTo.inside RaceCall.removal
    (fun rest => RaceThread.registering { call with phase := .remove evicted rest remaining })
    (fun removed => RaceThread.registering { call with
      phase := Registering.overPredecessors (evicted ++ removed.toList) remaining })
    ?_ (removal_uninterrupted state staleId)
  intro shared removal
  simp only [nextRaceCall, nextRegisterCall, Option.map_some]
  cases (nextRemoval shared removal).2.2 <;> rfl

/-- One eviction of a predecessor. -/
theorem evict_alone (evicted : List ConnectionInfo) (staleId : String) (remaining : List String)
    (state : GatewayState) :
    let result := state.evictConnection staleId (some (1000, "reconnect"))
    RunsAlone nextRaceCall state
      (.registering { call with phase := .notify evicted staleId remaining }) result.2
      (.registering { call with
        phase := Registering.overPredecessors (evicted ++ result.1.toList) remaining }) := by
  have notifies : nextRaceCall state
      (.registering { call with phase := .notify evicted staleId remaining }) =
        some (.findConnection staleId, state,
          .registering { call with
            phase :=
              match state.connections.lookup staleId with
              | none => .remove evicted (Removal.start staleId) remaining
              | some handle => .close evicted staleId handle.sender remaining }) := rfl
  unfold GatewayState.evictConnection
  refine RunsAlone.call notifies ?_
  cases state.connections.lookup staleId with
  | none => exact remove_alone call evicted staleId remaining state
  | some handle => exact RunsAlone.call rfl (remove_alone call evicted staleId remaining _)

theorem predecessors_alone (remaining : List String) (evicted : List ConnectionInfo)
    (state : GatewayState) :
    let result := remaining.foldl (fun evicted connectionId =>
      let result := evicted.2.evictConnection connectionId (some (1000, "reconnect"))
      (evicted.1 ++ result.1.toList, result.2)) (evicted, state)
    RunsAlone nextRaceCall state
      (.registering { call with phase := Registering.overPredecessors evicted remaining }) result.2
      (.registering { call with phase := .insert result.1 }) := by
  induction remaining generalizing evicted state with
  | nil => exact RunsAlone.refl _ _
  | cons staleId remaining ih => exact (evict_alone call evicted staleId remaining state).trans (ih _ _)

theorem insert_alone (evicted : List ConnectionInfo) (state : GatewayState) :
    let inserted := state.insertConnection call.info
    let taken := inserted.takePendingForSubjects call.now call.subjects
    RunsAlone nextRaceCall state (.registering { call with phase := .insert evicted })
      (taken.2.sendTexts state.channels.length taken.1)
      (.registering { call with
        phase := .returned
          { info := call.info, receiver := state.channels.length, evicted := evicted } }) := by
  intro inserted taken
  have subscribed := subjects_alone call evicted state.channels.length call.subjects
    { state with
      channels := state.channels ++ [{ sent := [], receiverAlive := true }]
      connections := state.connections.insert call.connectionId
        { info := call.info, sender := state.channels.length } }
  have drained := queues_alone call evicted state.channels.length call.subjects [] inserted
  exact RunsAlone.call rfl (subscribed.trans drained)

end RegisterAlone

/-- Alone, the atomic calls of a registration do what the operation does. -/
theorem registering_alone (order : HashOrder String) (now : Int) (state : GatewayState)
    (connectionId userId clientInstanceId : String) (subjects : List String)
    (connectedAt : Int) :
    let result := state.registerConnection order now connectionId userId clientInstanceId subjects
      connectedAt
    RunsAlone nextRaceCall state
      (.registering (Registering.start order now connectionId userId clientInstanceId subjects
        connectedAt)) result.2
      (.registering
        { Registering.start order now connectionId userId clientInstanceId subjects connectedAt with
          phase := .returned result.1 }) := by
  let call := Registering.start order now connectionId userId clientInstanceId subjects connectedAt
  have evicts : RunsAlone nextRaceCall state (.registering call)
      (state.evictSameInstance order connectionId userId clientInstanceId).2
      (.registering { call with
        phase :=
          .insert (state.evictSameInstance order connectionId userId clientInstanceId).1 }) := by
    dsimp only [call]
    unfold GatewayState.evictSameInstance Registering.start
    split
    · exact RunsAlone.refl _ _
    · exact RunsAlone.call rfl (predecessors_alone _ _ [] state)
  exact evicts.trans (insert_alone call _ _)

section SendAlone

variable (call : Sending)

theorem reads_alone (subjects : List String) (targets : Finset String) (state : GatewayState) :
    let read := subjects.foldl (fun targets subject => targets ∪ state.subjects.members subject)
      targets
    RunsAlone nextRaceCall state
      (.sending { call with phase := call.overReads targets subjects }) state
      (.sending { call with
        phase := call.overTargets { attempted := read.card, enqueued := 0, staleIds := [] }
          (call.order.enumerate read) }) := by
  induction subjects generalizing targets with
  | nil => exact RunsAlone.refl _ _
  | cons subject subjects ih => exact RunsAlone.call rfl (ih _)

/-- One target of a dispatch. -/
theorem target_alone (tally : SendTally) (id : String) (remaining : List String)
    (state : GatewayState) :
    let outcome := GatewayState.sendToTarget state.connections call.message
      { enqueued := tally.enqueued, staleIds := tally.staleIds, channels := state.channels } id
    RunsAlone nextRaceCall state (.sending { call with phase := .find tally id remaining })
      { state with channels := outcome.channels }
      (.sending { call with
        phase := call.overTargets
          { attempted := tally.attempted
            enqueued := outcome.enqueued
            staleIds := outcome.staleIds } remaining }) := by
  have finds : nextRaceCall state (.sending { call with phase := .find tally id remaining }) =
      some (.findConnection id, state,
        .sending { call with
          phase :=
            match state.connections.lookup id with
            | none => call.overTargets { tally with staleIds := tally.staleIds ++ [id] } remaining
            | some handle => .push tally id handle.sender remaining }) := rfl
  unfold GatewayState.sendToTarget
  refine RunsAlone.call finds ?_
  cases state.connections.lookup id with
  | none => exact RunsAlone.refl _ _
  | some handle =>
      have pushes : nextRaceCall state
          (.sending { call with phase := .push tally id handle.sender remaining }) =
            some (.sendOn handle.sender,
              { state with
                channels := (sendOn state.channels handle.sender (.text call.message)).2 },
              .sending { call with
                phase :=
                  if (sendOn state.channels handle.sender (.text call.message)).1 then
                    call.overTargets { tally with enqueued := tally.enqueued + 1 } remaining
                  else
                    call.overTargets { tally with staleIds := tally.staleIds ++ [id] }
                      remaining }) := rfl
      dsimp only
      rcases sent : sendOn state.channels handle.sender (.text call.message) with
        ⟨success, channels⟩
      rw [sent] at pushes
      refine RunsAlone.call pushes ?_
      cases success with
      | true => exact RunsAlone.refl _ _
      | false => exact RunsAlone.refl _ _

theorem targets_alone (ids : List String) (tally : SendTally) (state : GatewayState) :
    let outcome := ids.foldl (GatewayState.sendToTarget state.connections call.message)
      { enqueued := tally.enqueued, staleIds := tally.staleIds, channels := state.channels }
    RunsAlone nextRaceCall state (.sending { call with phase := call.overTargets tally ids })
      { state with channels := outcome.channels }
      (.sending { call with
        phase := call.overStale
          { attempted := tally.attempted
            enqueued := outcome.enqueued
            staleIds := outcome.staleIds } outcome.staleIds }) := by
  induction ids generalizing tally state with
  | nil => exact RunsAlone.refl _ _
  | cons id ids ih => exact (target_alone call tally id ids state).trans (ih _ _)

theorem stale_alone (tally : SendTally) (ids : List String) (infos : List ConnectionInfo)
    (state : GatewayState) :
    let removed := ids.foldl (fun removed connectionId =>
      let result := removed.2.unregisterConnection connectionId
      (removed.1 ++ result.1.toList, result.2)) (infos, state)
    RunsAlone nextRaceCall state (.sending { call with phase := call.overStale tally ids })
      removed.2 (.sending { call with phase := call.overStale tally [] }) := by
  induction ids generalizing infos state with
  | nil => exact RunsAlone.refl _ _
  | cons staleId ids ih =>
      have removes : RunsAlone nextRaceCall state
          (.sending { call with phase := .clean tally (Removal.start staleId) ids })
          (state.unregisterConnection staleId).2
          (.sending { call with phase := call.overStale tally ids }) := by
        refine RunsTo.inside RaceCall.removal
          (fun rest => RaceThread.sending { call with phase := .clean tally rest ids })
          (fun _ => RaceThread.sending { call with phase := call.overStale tally ids })
          ?_ (removal_uninterrupted state staleId)
        intro shared removal
        simp only [nextRaceCall, nextSendCall, Option.map_some]
        cases (nextRemoval shared removal).2.2 <;> rfl
      exact removes.trans (ih _ _)

theorem requeues_alone (tally : SendTally) (subjects : List String) (state : GatewayState) :
    let item : PendingMessage :=
      { text := call.message, enqueuedAt := call.now, stickyKey := none }
    RunsAlone nextRaceCall state
      (.sending { call with phase := Sending.overRequeues tally subjects })
      { state with
        pendingBySubject :=
          subjects.foldl (enqueuePending item fun _ => true) state.pendingBySubject }
      (.sending { call with
        phase := .returned
          { attemptedCount := tally.attempted, enqueuedCount := tally.enqueued } }) := by
  induction subjects generalizing state with
  | nil => exact RunsAlone.refl _ _
  | cons subject subjects ih => exact RunsAlone.call rfl (ih _)

end SendAlone

/-- Alone, the atomic calls of a dispatch do what the operation does. -/
theorem sending_alone (order : HashOrder String) (stickyNow now : Int) (state : GatewayState)
    (subjects : List String) (message : String) (bufferIfUndelivered : Bool) :
    let result := state.sendToSubjects order stickyNow now subjects message bufferIfUndelivered none
    RunsAlone nextRaceCall state
      (.sending (Sending.start order now subjects message bufferIfUndelivered)) result.2
      (.sending { Sending.start order now subjects message bufferIfUndelivered with
        phase := .returned result.1 }) := by
  unfold GatewayState.sendToSubjects Sending.start
  by_cases nothing : subjects = [] ∨ message = ""
  · simp only [if_pos nothing]
    exact RunsAlone.refl _ _
  · simp only [if_neg nothing]
    let call : Sending :=
      { order := order
        now := now
        subjects := subjects
        message := message
        bufferIfUndelivered := bufferIfUndelivered
        phase := .returned { attemptedCount := 0, enqueuedCount := 0 } }
    let outcome := state.sendToTargets message (order.enumerate (state.targetIds subjects))
    let tally : SendTally :=
      { attempted := (state.targetIds subjects).card
        enqueued := outcome.enqueued
        staleIds := outcome.staleIds }
    have sent : RunsAlone nextRaceCall state
        (.sending { call with phase := call.overReads ∅ subjects })
        { state with channels := outcome.channels }
        (.sending { call with phase := call.overStale tally outcome.staleIds }) :=
      (reads_alone call subjects ∅ state).trans (targets_alone call _ _ state)
    have cleaned := sent.trans (stale_alone call tally outcome.staleIds [] _)
    unfold GatewayState.deliverToSubjects
    dsimp only
    split
    · next undelivered =>
      have phase : call.overStale tally [] = Sending.overRequeues tally subjects :=
        if_pos undelivered
      rw [phase] at cleaned
      unfold GatewayState.requeueForSubjects
      rw [if_neg nothing]
      exact cleaned.trans (requeues_alone call tally subjects _)
    · next delivered =>
      have phase : call.overStale tally [] =
          .returned { attemptedCount := tally.attempted, enqueuedCount := tally.enqueued } :=
        if_neg delivered
      rw [phase] at cleaned
      exact cleaned

end Concurrency
end Gateway

import Gateway.Concurrency.Reconnect
import Gateway.State.Replay

namespace Gateway
namespace Concurrency

open Foundation State

/-!
# A push that races with a reconnect

One thread registers a connection for some subjects, another one sends a
message to one of them and asks for it to be buffered if it reaches nobody.
The message is in exactly one place at all times: with the sender, in the
pending queue, with the registration that has taken the queue, or on the new
channel.  It gets stuck when the sender finds nobody in the index and pushes
the message after the registration has taken the queue.
-/

namespace Registering

/-- The channel of the new connection, once it is inserted. -/
def receiver (call : Registering) : Option Nat :=
  match call.phase with
  | .subscribe _ receiver _ _ => some receiver
  | .drain _ receiver _ _ _ => some receiver
  | .replay _ receiver _ _ => some receiver
  | .returned registration => some registration.receiver
  | _ => none

/-- The texts that were taken from the queues and not sent yet. -/
def holding (call : Registering) : List String :=
  match call.phase with
  | .drain _ _ taken _ _ => taken
  | .replay _ _ text remaining => text :: remaining
  | _ => []

/-- The subjects whose queues the registration has still to take. -/
def awaiting (call : Registering) : List String :=
  match call.phase with
  | .drain _ _ _ subject remaining => subject :: remaining
  | .replay _ _ _ _ => []
  | .returned _ => []
  | _ => call.subjects

/-- Before the insertion nothing is taken, and all queues are still to be
taken. -/
theorem before_insertion {call : Registering} (outside : call.receiver = none) :
    call.holding = [] /\ call.awaiting = call.subjects := by
  unfold receiver at outside
  unfold holding awaiting
  cases current : call.phase with
  | scan => exact ⟨rfl, rfl⟩
  | notify evicted staleId remaining => exact ⟨rfl, rfl⟩
  | close evicted staleId sender remaining => exact ⟨rfl, rfl⟩
  | remove evicted removal remaining => exact ⟨rfl, rfl⟩
  | insert evicted => exact ⟨rfl, rfl⟩
  | subscribe evicted receiver subject remaining =>
      rw [current] at outside
      cases outside
  | drain evicted receiver taken subject remaining =>
      rw [current] at outside
      cases outside
  | replay evicted receiver text remaining =>
      rw [current] at outside
      cases outside
  | returned registration =>
      rw [current] at outside
      cases outside

variable (call : Registering) (evicted : List ConnectionInfo) (channel : Nat)

theorem at_overTexts (texts : List String) :
    let next := { call with phase := call.overTexts evicted channel texts }
    next.receiver = some channel /\ next.holding = texts /\ next.awaiting = [] := by
  cases texts with
  | nil => exact ⟨rfl, rfl, rfl⟩
  | cons text texts => exact ⟨rfl, rfl, rfl⟩

theorem at_overQueues (taken subjects : List String) :
    let next := { call with phase := call.overQueues evicted channel taken subjects }
    next.receiver = some channel /\ next.holding = taken /\ next.awaiting = subjects := by
  cases subjects with
  | nil => exact at_overTexts call evicted channel taken
  | cons subject subjects => exact ⟨rfl, rfl, rfl⟩

theorem at_overSubjects (subjects : List String) :
    let next := { call with phase := call.overSubjects evicted channel subjects }
    next.receiver = some channel /\ next.holding = [] /\ next.awaiting = call.subjects := by
  cases subjects with
  | nil => exact at_overQueues call evicted channel [] call.subjects
  | cons subject subjects => exact ⟨rfl, rfl, rfl⟩

theorem at_overPredecessors (remaining : List String) :
    ({ call with phase := overPredecessors evicted remaining } : Registering).receiver = none := by
  cases remaining with
  | nil => rfl
  | cons staleId remaining => rfl

end Registering

namespace RaceThread

def returned : RaceThread -> Bool
  | .registering { phase := .returned _, .. } => true
  | .sending { phase := .returned _, .. } => true
  | _ => false

def awaiting : RaceThread -> List String
  | .registering call => call.awaiting
  | .sending _ => []

theorem registering_returned {call : Registering} (done : (registering call).returned = true) :
    Exists fun registration => call.phase = .returned registration := by
  rcases call with ⟨_, _, _, _, _, _, _, phase⟩
  cases phase <;> first | exact ⟨_, rfl⟩ | cases done

theorem sending_returned {call : Sending} (done : (sending call).returned = true) :
    Exists fun result => call.phase = .returned result := by
  rcases call with ⟨_, _, _, _, _, phase⟩
  cases phase <;> first | exact ⟨_, rfl⟩ | cases done

end RaceThread

/-- The arguments of the two calls and the state before them.  Nobody is
subscribed to the subject of the push, and no copy of the message is pending. -/
structure PushRace where
  state : GatewayState
  registerOrder : HashOrder String
  registerNow : Int
  connectionId : String
  userId : String
  clientInstanceId : String
  subjects : List String
  connectedAt : Int
  sendOrder : HashOrder String
  sendNow : Int
  subject : String
  message : String
  asked : subject ∈ subjects
  nobody : state.subjects.members subject = ∅
  unsent : forall asked, message ∉ (pendingOf state.pendingBySubject asked).map PendingMessage.text

abbrev RaceSystem := Configuration GatewayState RaceThread

namespace PushRace

/-- Neither call has begun. -/
def system (race : PushRace) : RaceSystem where
  shared := race.state
  threads :=
    [.registering (Registering.start race.registerOrder race.registerNow race.connectionId
        race.userId race.clientInstanceId race.subjects race.connectedAt),
      .sending (Sending.start race.sendOrder race.sendNow [race.subject] race.message true)]

end PushRace

/-- Some thread takes its next atomic call. -/
def RaceInterleaved : RaceSystem -> Nat × RaceCall -> RaceSystem -> Prop :=
  Turn (Advances nextRaceCall)

/-- Some registration has still to take the queue of the subject. -/
def Awaited (system : RaceSystem) (subject : String) : Prop :=
  Exists fun thread => thread ∈ system.threads /\ subject ∈ thread.awaiting

instance (system : RaceSystem) (subject : String) : Decidable (Awaited system subject) :=
  inferInstanceAs (Decidable (Exists fun thread => thread ∈ system.threads /\ _))

/-- The condition of a step: the message is pushed only to a queue that the
registration has still to take, and it is not expired when the queue is
taken. -/
def MeetsRegistration (message : String) (before : RaceSystem) (label : Nat × RaceCall) : Prop :=
  match label.2 with
  | .pushPending subject => Awaited before subject
  | .takeQueue subject now =>
      message ∈ (pendingOf before.shared.pendingBySubject subject).map PendingMessage.text ->
        message ∈ (prunePendingQueue (pendingOf before.shared.pendingBySubject subject) now).map
          PendingMessage.text
  | _ => True

instance (message : String) (before : RaceSystem) (label : Nat × RaceCall) :
    Decidable (MeetsRegistration message before label) :=
  match label with
  | (_, .pushPending subject) => inferInstanceAs (Decidable (Awaited before subject))
  | (_, .takeQueue subject now) =>
      inferInstanceAs (Decidable
        (message ∈ (pendingOf before.shared.pendingBySubject subject).map PendingMessage.text ->
          message ∈ (prunePendingQueue (pendingOf before.shared.pendingBySubject subject) now).map
            PendingMessage.text))
  | (_, .scanConnections) | (_, .findConnection _) | (_, .sendOn _) | (_, .removal _)
  | (_, .insertConnection _) | (_, .insertMember _) | (_, .readMembers _) => .isTrue trivial

/-- The steps that meet the condition. -/
def RaceCareful (message : String) (before : RaceSystem) (label : Nat × RaceCall)
    (after : RaceSystem) : Prop :=
  RaceInterleaved before label after /\ MeetsRegistration message before label

/-- Both calls have returned. -/
def AllRaced (system : RaceSystem) : Prop :=
  forall thread, thread ∈ system.threads -> thread.returned = true

instance (system : RaceSystem) : Decidable (AllRaced system) :=
  inferInstanceAs (Decidable (forall thread, thread ∈ system.threads -> _))

/-! ## The invariant -/

/-- How often the message is on the channel. -/
def copies (channels : List Channel) (receiver : Option Nat) (message : String) : Nat :=
  match receiver.bind fun index => channels[index]? with
  | none => 0
  | some channel => channel.sent.count (.text message)

/-- How often the message is in the pending queue of the subject. -/
def queued (state : GatewayState) (subject message : String) : Nat :=
  ((pendingOf state.pendingBySubject subject).map PendingMessage.text).count message

/-- The dispatch still has to deliver or to push the message. -/
def Sending.held (call : Sending) : Nat :=
  match call.phase with
  | .returned _ => 0
  | _ => 1

theorem Sending.held_returned (call : Sending) (result : DispatchResult) :
    ({ call with phase := .returned result } : Sending).held = 0 := rfl

/-- The dispatch finds nobody or only the new connection, and never removes
anybody. -/
def SendFits (race : PushRace) (receiver : Option Nat) : SendPhase -> Prop
  | .read targets subject remaining =>
      targets = ∅ /\ subject = race.subject /\ remaining = []
  | .find tally id remaining =>
      tally.staleIds = [] /\ id = race.connectionId /\ remaining = [] /\ receiver.isSome = true
  | .push tally _ sender remaining =>
      tally.staleIds = [] /\ receiver = some sender /\ remaining = []
  | .clean _ _ _ => False
  | .requeue _ subject remaining => subject = race.subject /\ remaining = []
  | .returned _ => True

/-- A dispatch that fits before the insertion fits after it. -/
theorem SendFits.of_none {race : PushRace} {phase : SendPhase} (fits : SendFits race none phase)
    (receiver : Option Nat) : SendFits race receiver phase := by
  cases phase with
  | find tally id remaining => cases fits.2.2.2
  | push tally id sender remaining => cases fits.2.1
  | read targets subject remaining => exact fits
  | clean tally removal remaining => exact fits
  | requeue tally subject remaining => exact fits
  | returned result => exact fits

/-- The message is in exactly one place, and once the registration has taken
the queue of the subject, the queue is not that place. -/
structure Tracked (race : PushRace) (state : GatewayState) (registering : Registering)
    (sending : Sending) : Prop where
  connectionId : registering.connectionId = race.connectionId
  subjects : registering.subjects = race.subjects
  target : sending.subjects = [race.subject]
  message : sending.message = race.message
  buffers : sending.bufferIfUndelivered = true
  listed : forall id, id ∈ state.subjects.members race.subject ->
    id = race.connectionId /\ registering.receiver.isSome = true
  inserted : forall receiver, registering.receiver = some receiver ->
    (Exists fun handle : ConnectionHandle =>
      state.connections.lookup race.connectionId = some handle /\ handle.sender = receiver) /\
    Exists fun channel : Channel =>
      state.channels[receiver]? = some channel /\ channel.receiverAlive = true
  fits : SendFits race registering.receiver sending.phase
  elsewhere : forall asked, asked ≠ race.subject -> queued state asked race.message = 0
  conserved : sending.held + queued state race.subject race.message +
    registering.holding.count race.message +
    copies state.channels registering.receiver race.message = 1
  passed : race.subject ∉ registering.awaiting -> queued state race.subject race.message = 0
  distinct : registering.holding.Nodup

/-- The two calls of the race, in a state that meets the invariant. -/
def Racing (race : PushRace) (system : RaceSystem) : Prop :=
  Exists fun registering => Exists fun sending =>
    system.threads = [.registering registering, .sending sending] /\
    Tracked race system.shared registering sending

theorem PushRace.racing (race : PushRace) (visible : race.message ≠ "") :
    Racing race race.system := by
  have begun : Sending.start race.sendOrder race.sendNow [race.subject] race.message true =
      { Sending.start race.sendOrder race.sendNow [race.subject] race.message true with
        phase := .read ∅ race.subject [] } := by
    have nonempty : Not ([race.subject] = [] ∨ race.message = "") := by
      rw [not_or]
      exact ⟨List.cons_ne_nil _ _, visible⟩
    simp only [Sending.start, if_neg nonempty]
    rfl
  have nothing : forall asked, queued race.state asked race.message = 0 := fun asked =>
    List.count_eq_zero.mpr (race.unsent asked)
  have outside : (Registering.start race.registerOrder race.registerNow race.connectionId
      race.userId race.clientInstanceId race.subjects race.connectedAt).receiver = none := by
    unfold Registering.start Registering.receiver
    by_cases anonymous : race.clientInstanceId = ""
    · simp only [if_pos anonymous]
    · simp only [if_neg anonymous]
  have idle := (Registering.before_insertion outside).1
  refine ⟨_, _, rfl, ?_⟩
  rw [begun]
  constructor
  · rfl
  · rfl
  · unfold Sending.start
    split <;> rfl
  · unfold Sending.start
    split <;> rfl
  · unfold Sending.start
    split <;> rfl
  · intro id listed
    dsimp only [PushRace.system] at listed
    rw [race.nobody] at listed
    exact absurd listed (Finset.notMem_empty id)
  · intro receiver inserted
    rw [outside] at inserted
    cases inserted
  · exact ⟨rfl, rfl, rfl⟩
  · intro asked _
    exact nothing asked
  · rw [outside, idle]
    dsimp only [PushRace.system]
    rw [nothing]
    rfl
  · intro _
    exact nothing race.subject
  · rw [idle]
    exact List.nodup_nil

namespace Tracked

variable {race : PushRace} {state after : GatewayState} {registering : Registering}
  {sending : Sending}

theorem queued_congr (pending : after.pendingBySubject = state.pendingBySubject)
    (subject message : String) : queued after subject message = queued state subject message := by
  unfold queued
  rw [pending]

theorem pendingOf_takePending_self (now : Int) (taken : List String × PendingTable)
    (subject : String) : pendingOf (takePending now taken subject).2 subject = [] := by
  unfold takePending pendingOf
  split
  · next absent => rw [absent, Option.getD_none]
  · rw [AList.lookup_erase, Option.getD_none]

/-- Before the insertion nobody is listed under the subject, and evictions
change neither this nor the pending queues. -/
theorem evicting (tracked : Tracked race state registering sending)
    (outside : registering.receiver = none)
    (pending : after.pendingBySubject = state.pendingBySubject)
    (members : forall subject, after.subjects.members subject ⊆ state.subjects.members subject)
    {phase : RegisterPhase}
    (next : ({ registering with phase := phase } : Registering).receiver = none) :
    Tracked race after { registering with phase := phase } sending := by
  rcases Registering.before_insertion outside with ⟨idle, waits⟩
  rcases Registering.before_insertion next with ⟨idleNext, waitsNext⟩
  have sameQueue := queued_congr pending
  refine { tracked with
    listed := ?_
    inserted := ?_
    fits := ?_
    elsewhere := ?_
    conserved := ?_
    passed := ?_
    distinct := ?_ }
  · intro id listed
    have inserted := (tracked.listed id (members race.subject listed)).2
    rw [outside] at inserted
    cases inserted
  · intro receiver inserted
    rw [next] at inserted
    cases inserted
  · rw [next, ← outside]
    exact tracked.fits
  · intro asked different
    rw [sameQueue]
    exact tracked.elsewhere asked different
  · have conserved := tracked.conserved
    rw [outside, idle] at conserved
    rw [next, idleNext, sameQueue]
    exact conserved
  · intro absent
    rw [sameQueue]
    apply tracked.passed
    rw [waits]
    rw [waitsNext] at absent
    exact absent
  · rw [idleNext]
    exact List.nodup_nil

theorem insert (tracked : Tracked race state registering sending) {evicted : List ConnectionInfo}
    (inserts : registering.phase = .insert evicted) :
    Tracked race
      { state with
        channels := state.channels ++ [{ sent := [], receiverAlive := true }]
        connections :=
          state.connections.insert registering.connectionId
            { info := registering.info, sender := state.channels.length } }
      { registering with
        phase := registering.overSubjects evicted state.channels.length registering.subjects }
      sending := by
  have outside : registering.receiver = none := by
    rw [Registering.receiver, inserts]
  rcases Registering.before_insertion outside with ⟨idle, waits⟩
  have next := Registering.at_overSubjects registering evicted state.channels.length
    registering.subjects
  refine { tracked with
    listed := ?_
    inserted := ?_
    fits := ?_
    elsewhere := ?_
    conserved := ?_
    passed := ?_
    distinct := ?_ }
  · intro id listed
    have inserted := (tracked.listed id listed).2
    rw [outside] at inserted
    cases inserted
  · intro receiver inserted
    rw [next.1] at inserted
    cases inserted
    rw [← tracked.connectionId]
    refine ⟨⟨_, AList.lookup_insert _, rfl⟩, _, List.getElem?_concat_length, rfl⟩
  · have fits := tracked.fits
    rw [outside] at fits
    rw [next.1]
    exact fits.of_none _
  · exact tracked.elsewhere
  · have conserved := tracked.conserved
    rw [outside, idle] at conserved
    have empty : copies (state.channels ++ [{ sent := [], receiverAlive := true }])
        (some state.channels.length) race.message = 0 := by
      rw [copies, Option.bind_some, List.getElem?_concat_length]
      rfl
    rw [next.1, next.2.1, empty]
    exact conserved
  · intro absent
    rw [next.2.2, ← waits] at absent
    exact tracked.passed absent
  · rw [next.2.1]
    exact List.nodup_nil

theorem subscribe (tracked : Tracked race state registering sending)
    {evicted : List ConnectionInfo} {receiver : Nat} {subject : String} {remaining : List String}
    (subscribes : registering.phase = .subscribe evicted receiver subject remaining) :
    Tracked race
      { state with subjects := state.subjects.enlist registering.connectionId subject }
      { registering with phase := registering.overSubjects evicted receiver remaining } sending := by
  have inside : registering.receiver = some receiver := by
    rw [Registering.receiver, subscribes]
  have idle : registering.holding = [] := by
    rw [Registering.holding, subscribes]
  have waits : registering.awaiting = registering.subjects := by
    rw [Registering.awaiting, subscribes]
  have next := Registering.at_overSubjects registering evicted receiver remaining
  refine { tracked with
    listed := ?_
    inserted := ?_
    fits := ?_
    conserved := ?_
    passed := ?_
    distinct := ?_ }
  · intro id listed
    rw [next.1]
    rcases (InvertedIndex.mem_members_enlist _ _ _ _ _).mp listed with before | ⟨same, _⟩
    · exact ⟨(tracked.listed id before).1, rfl⟩
    · exact ⟨same.trans tracked.connectionId, rfl⟩
  · intro channel inserted
    rw [next.1, ← inside] at inserted
    exact tracked.inserted channel inserted
  · rw [next.1, ← inside]
    exact tracked.fits
  · rw [next.1, next.2.1, ← inside, ← idle]
    exact tracked.conserved
  · intro absent
    rw [next.2.2, ← waits] at absent
    exact tracked.passed absent
  · rw [next.2.1]
    exact List.nodup_nil

/-- A text that waits in a queue moves over when the queue is taken, if it is not
pruned and was not taken before. -/
theorem count_takePending {now : Int} {taken : List String} {subject text : String}
    (distinct : taken.Nodup) (once : taken.count text + queued state subject text ≤ 1)
    (lasts : text ∈ (pendingOf state.pendingBySubject subject).map PendingMessage.text ->
      text ∈ (prunePendingQueue (pendingOf state.pendingBySubject subject) now).map
        PendingMessage.text) :
    (takePending now (taken, state.pendingBySubject) subject).1.count text =
      taken.count text + queued state subject text := by
  have both := collect_nodup distinct
    ((prunePendingQueue (pendingOf state.pendingBySubject subject) now).map PendingMessage.text)
  rw [takePending_fst, both.count, distinct.count]
  simp only [mem_collect]
  by_cases pending : text ∈ (pendingOf state.pendingBySubject subject).map PendingMessage.text
  · have waits : 0 < queued state subject text := List.count_pos_iff.mpr pending
    have single : queued state subject text = 1 /\ taken.count text = 0 := by omega
    rw [if_pos (Or.inr (lasts pending)), if_neg (List.count_eq_zero.mp single.2), single.1]
  · have nothing : queued state subject text = 0 := List.count_eq_zero.mpr pending
    have pruned : text ∉ (prunePendingQueue (pendingOf state.pendingBySubject subject) now).map
        PendingMessage.text := fun member =>
      pending (((prunePendingQueue_sublist _ _).map _).subset member)
    rw [nothing, Nat.add_zero]
    exact if_congr (or_iff_left pruned) rfl rfl

/-- The registration takes a queue.  The queue of the subject gives the message
over if it has it, and the other queues do not have it. -/
theorem drain (tracked : Tracked race state registering sending) {evicted : List ConnectionInfo}
    {receiver : Nat} {taken : List String} {subject : String} {remaining : List String}
    (drains : registering.phase = .drain evicted receiver taken subject remaining)
    (lasts : race.message ∈ (pendingOf state.pendingBySubject subject).map PendingMessage.text ->
      race.message ∈ (prunePendingQueue (pendingOf state.pendingBySubject subject)
        registering.now).map PendingMessage.text) :
    let drained := takePending registering.now (taken, state.pendingBySubject) subject
    Tracked race { state with pendingBySubject := drained.2 }
      { registering with phase := registering.overQueues evicted receiver drained.1 remaining }
      sending := by
  intro drained
  have inside : registering.receiver = some receiver := by
    rw [Registering.receiver, drains]
  have held : registering.holding = taken := by
    rw [Registering.holding, drains]
  have waits : registering.awaiting = subject :: remaining := by
    rw [Registering.awaiting, drains]
  have next := Registering.at_overQueues registering evicted receiver drained.1 remaining
  have distinct : taken.Nodup := by
    rw [← held]
    exact tracked.distinct
  have distinctNow : drained.1.Nodup := by
    rw [takePending_fst]
    exact collect_nodup distinct _
  have emptied : queued { state with pendingBySubject := drained.2 } subject race.message = 0 := by
    unfold queued
    rw [pendingOf_takePending_self]
    rfl
  have untouched : forall asked, asked ≠ subject ->
      queued { state with pendingBySubject := drained.2 } asked race.message =
        queued state asked race.message := by
    intro asked different
    unfold queued
    rw [pendingOf_takePending_of_ne _ _ different]
  have conserved := tracked.conserved
  rw [held] at conserved
  have once : taken.count race.message + queued state subject race.message ≤ 1 := by
    by_cases here : subject = race.subject
    · rw [here]
      omega
    · rw [tracked.elsewhere subject here]
      exact List.nodup_iff_count_le_one.mp distinct race.message
  have moved : drained.1.count race.message =
      taken.count race.message + queued state subject race.message :=
    count_takePending distinct once lasts
  refine { tracked with
    listed := ?_
    inserted := ?_
    fits := ?_
    elsewhere := ?_
    conserved := ?_
    passed := ?_
    distinct := ?_ }
  · intro id listed
    rw [next.1]
    exact ⟨(tracked.listed id listed).1, rfl⟩
  · intro channel inserted
    rw [next.1, ← inside] at inserted
    exact tracked.inserted channel inserted
  · rw [next.1, ← inside]
    exact tracked.fits
  · intro asked different
    by_cases same : asked = subject
    · rw [same]
      exact emptied
    · rw [untouched asked same]
      exact tracked.elsewhere asked different
  · rw [next.1, next.2.1, ← inside, moved]
    by_cases here : race.subject = subject
    · rw [here] at conserved ⊢
      dsimp only
      rw [emptied]
      omega
    · have elsewhere := tracked.elsewhere subject (Ne.symm here)
      dsimp only
      rw [untouched _ here]
      omega
  · intro absent
    rw [next.2.2] at absent
    by_cases here : race.subject = subject
    · rw [here]
      exact emptied
    · rw [untouched _ here]
      refine tracked.passed ?_
      rw [waits, List.mem_cons, not_or]
      exact ⟨here, absent⟩
  · rw [next.2.1]
    exact distinctNow

/-- A send to the new channel adds what is sent. -/
theorem copies_sendOn {channels : List Channel} {receiver : Nat} {channel : Channel}
    (found : channels[receiver]? = some channel) (alive : channel.receiverAlive = true)
    (text message : String) :
    copies (sendOn channels receiver (.text text)).2 (some receiver) message =
      copies channels (some receiver) message + [text].count message := by
  simp only [copies, Option.bind_some]
  rw [getElem?_sendOn, if_pos rfl, found, Option.map_some, Channel.receive, if_pos alive]
  dsimp only
  rw [List.count_append]
  simp only [List.count_singleton, beq_iff_eq, OutboundMessage.text.injEq]

theorem alive_sendOn {channels : List Channel} {receiver : Nat}
    (listening : Exists fun channel : Channel =>
      channels[receiver]? = some channel /\ channel.receiverAlive = true)
    (message : OutboundMessage) : Exists fun channel : Channel =>
      (sendOn channels receiver message).2[receiver]? = some channel /\
        channel.receiverAlive = true := by
  rcases listening with ⟨channel, found, alive⟩
  refine ⟨channel.receive message, ?_, ?_⟩
  · rw [getElem?_sendOn, if_pos rfl, found, Option.map_some]
  · rw [Channel.receive_receiverAlive]
    exact alive

theorem replay (tracked : Tracked race state registering sending) {evicted : List ConnectionInfo}
    {receiver : Nat} {text : String} {remaining : List String}
    (replays : registering.phase = .replay evicted receiver text remaining) :
    Tracked race { state with channels := (sendOn state.channels receiver (.text text)).2 }
      { registering with phase := registering.overTexts evicted receiver remaining } sending := by
  have inside : registering.receiver = some receiver := by
    rw [Registering.receiver, replays]
  have held : registering.holding = text :: remaining := by
    rw [Registering.holding, replays]
  have waits : registering.awaiting = [] := by
    rw [Registering.awaiting, replays]
  have next := Registering.at_overTexts registering evicted receiver remaining
  rcases tracked.inserted receiver inside with ⟨registered, channel, found, alive⟩
  refine { tracked with
    listed := ?_
    inserted := ?_
    fits := ?_
    conserved := ?_
    passed := ?_
    distinct := ?_ }
  · intro id listed
    rw [next.1]
    exact ⟨(tracked.listed id listed).1, rfl⟩
  · intro other inserted
    rw [next.1] at inserted
    cases inserted
    exact ⟨registered, alive_sendOn ⟨channel, found, alive⟩ _⟩
  · rw [next.1, ← inside]
    exact tracked.fits
  · have conserved := tracked.conserved
    rw [inside, held, ← List.singleton_append, List.count_append] at conserved
    have sameQueue : queued
        { state with channels := (sendOn state.channels receiver (.text text)).2 } race.subject
        race.message = queued state race.subject race.message := rfl
    rw [next.1, next.2.1, sameQueue, copies_sendOn found alive]
    omega
  · intro _
    apply tracked.passed
    rw [waits]
    exact List.not_mem_nil
  · have distinct := tracked.distinct
    rw [held] at distinct
    rw [next.2.1]
    exact (List.nodup_cons.mp distinct).2

/-- Any call of the registration. -/
theorem register (tracked : Tracked race state registering sending) {event : RaceCall}
    {phase : RegisterPhase}
    (advances : nextRegisterCall state registering = some (event, after, phase))
    (lasts : forall subject now, event = .takeQueue subject now ->
      race.message ∈ (pendingOf state.pendingBySubject subject).map PendingMessage.text ->
      race.message ∈ (prunePendingQueue (pendingOf state.pendingBySubject subject) now).map
        PendingMessage.text) :
    Tracked race after { registering with phase := phase } sending := by
  have untouched : forall subject, state.subjects.members subject ⊆ state.subjects.members subject :=
    fun _ => Finset.Subset.refl _
  unfold nextRegisterCall at advances
  cases current : registering.phase with
  | scan =>
      have outside : registering.receiver = none := by
        rw [Registering.receiver, current]
      simp only [current] at advances
      cases advances
      exact tracked.evicting outside (by exact rfl) untouched
        (Registering.at_overPredecessors registering [] _)
  | notify evicted staleId remaining =>
      have outside : registering.receiver = none := by
        rw [Registering.receiver, current]
      simp only [current] at advances
      cases advances
      refine tracked.evicting outside (by exact rfl) untouched ?_
      cases state.connections.lookup staleId with
      | none => rfl
      | some handle => rfl
  | close evicted staleId sender remaining =>
      have outside : registering.receiver = none := by
        rw [Registering.receiver, current]
      simp only [current] at advances
      cases advances
      refine tracked.evicting outside ?_ ?_ ?_
      · rfl
      · exact untouched
      · rfl
  | remove evicted removal remaining =>
      have outside : registering.receiver = none := by
        rw [Registering.receiver, current]
      simp only [current] at advances
      cases advances
      have removes := nextRemoval_removes state removal
      refine tracked.evicting outside removes.pending removes.members ?_
      cases (nextRemoval state removal).2.2 with
      | finished removed => exact Registering.at_overPredecessors registering _ remaining
      | more rest => rfl
  | insert evicted =>
      simp only [current] at advances
      cases advances
      exact tracked.insert current
  | subscribe evicted receiver subject remaining =>
      simp only [current] at advances
      cases advances
      exact tracked.subscribe current
  | drain evicted receiver taken subject remaining =>
      simp only [current] at advances
      cases advances
      exact tracked.drain current (lasts subject registering.now rfl)
  | replay evicted receiver text remaining =>
      simp only [current] at advances
      cases advances
      exact tracked.replay current
  | returned registration =>
      simp only [current] at advances
      cases advances

/-- A call of the dispatch that only reads, and still has the message
afterwards. -/
theorem looking (tracked : Tracked race state registering sending) (holds : sending.held = 1)
    {phase : SendPhase} (fits : SendFits race registering.receiver phase)
    (stillHolds : ({ sending with phase := phase } : Sending).held = 1) :
    Tracked race state registering { sending with phase := phase } := by
  refine { tracked with
    fits := fits
    conserved := ?_ }
  have conserved := tracked.conserved
  rw [holds] at conserved
  rw [stillHolds]
  exact conserved

/-- Nobody is listed, or only the new connection. -/
theorem read (tracked : Tracked race state registering sending)
    (reads : sending.phase = .read ∅ race.subject []) :
    Tracked race state registering
      { sending with
        phase := sending.overReads (∅ ∪ state.subjects.members race.subject) [] } := by
  have holds : sending.held = 1 := by
    rw [Sending.held, reads]
  rw [Finset.empty_union]
  by_cases nobody : state.subjects.members race.subject = ∅
  · have pushes : sending.overReads (state.subjects.members race.subject) [] =
        .requeue { attempted := 0, enqueued := 0, staleIds := [] } race.subject [] := by
      rw [nobody]
      unfold Sending.overReads
      rw [sending.order.enumerate_empty]
      unfold Sending.overTargets Sending.overStale
      dsimp only
      rw [if_pos ⟨rfl, tracked.buffers⟩, tracked.target]
      rfl
    rw [pushes]
    exact tracked.looking holds ⟨rfl, rfl⟩ rfl
  · rcases Finset.nonempty_iff_ne_empty.mpr nobody with ⟨id, listed⟩
    have inserted := (tracked.listed id listed).2
    have only : state.subjects.members race.subject = {race.connectionId} := by
      apply Finset.eq_singleton_iff_unique_mem.mpr
      refine ⟨?_, fun other member => (tracked.listed other member).1⟩
      rw [← (tracked.listed id listed).1]
      exact listed
    have finds : sending.overReads (state.subjects.members race.subject) [] =
        .find { attempted := 1, enqueued := 0, staleIds := [] } race.connectionId [] := by
      rw [only]
      unfold Sending.overReads
      rw [sending.order.enumerate_singleton, Finset.card_singleton]
      rfl
    rw [finds]
    exact tracked.looking holds ⟨rfl, rfl, rfl, inserted⟩ rfl

/-- The send finds the receiver of the new connection alive. -/
theorem push (tracked : Tracked race state registering sending) {tally : SendTally} {id : String}
    {receiver : Nat} (pushes : sending.phase = .push tally id receiver [])
    (fresh : tally.staleIds = []) (inside : registering.receiver = some receiver) :
    let sent := sendOn state.channels receiver (.text sending.message)
    Tracked race { state with channels := sent.2 } registering
      { sending with
        phase :=
          if sent.1 then sending.overTargets { tally with enqueued := tally.enqueued + 1 } []
          else sending.overTargets { tally with staleIds := tally.staleIds ++ [id] } [] } := by
  intro sent
  rcases tracked.inserted receiver inside with ⟨registered, channel, found, alive⟩
  have holds : sending.held = 1 := by
    rw [Sending.held, pushes]
  have success : sent.1 = true := by
    dsimp only [sent]
    rw [sendOn_fst, found, Option.any_some]
    exact alive
  have done : sending.overTargets { tally with enqueued := tally.enqueued + 1 } [] =
      .returned { attemptedCount := tally.attempted, enqueuedCount := tally.enqueued + 1 } := by
    unfold Sending.overTargets Sending.overStale
    dsimp only
    rw [fresh]
    dsimp only
    rw [if_neg (fun both => Nat.succ_ne_zero _ both.1)]
  rw [if_pos success, done]
  refine { tracked with
    inserted := ?_
    fits := trivial
    conserved := ?_ }
  · intro other same
    rw [inside] at same
    cases same
    exact ⟨registered, alive_sendOn ⟨channel, found, alive⟩ _⟩
  · have conserved := tracked.conserved
    have sameQueue : queued { state with channels := sent.2 } race.subject race.message =
        queued state race.subject race.message := rfl
    have delivered := copies_sendOn found alive sending.message race.message
    have once : [sending.message].count race.message = 1 := by
      rw [tracked.message, List.count_singleton_self]
    rw [holds, inside] at conserved
    rw [inside, sameQueue, delivered, once, Sending.held_returned]
    omega

/-- The message is pushed to a queue that the registration has still to
take. -/
theorem requeue (tracked : Tracked race state registering sending) {tally : SendTally}
    (requeues : sending.phase = .requeue tally race.subject [])
    (awaited : race.subject ∈ registering.awaiting) :
    let item : PendingMessage :=
      { text := sending.message, enqueuedAt := sending.now, stickyKey := none }
    Tracked race
      { state with
        pendingBySubject := enqueuePending item (fun _ => true) state.pendingBySubject race.subject }
      registering { sending with phase := Sending.overRequeues tally [] } := by
  intro item
  have holds : sending.held = 1 := by
    rw [Sending.held, requeues]
  have conserved := tracked.conserved
  rw [holds] at conserved
  have pushed : forall asked, pendingOf
      (enqueuePending item (fun _ => true) state.pendingBySubject race.subject) asked =
        if asked = race.subject then
          prunePendingQueue (pendingOf state.pendingBySubject race.subject ++ [item]) sending.now
        else pendingOf state.pendingBySubject asked :=
    pendingOf_enqueuePending item state.pendingBySubject race.subject
  refine { tracked with
    fits := trivial
    elsewhere := ?_
    conserved := ?_
    passed := fun absent => absurd awaited absent }
  · intro asked different
    have before := tracked.elsewhere asked different
    unfold queued at before ⊢
    rw [pushed, if_neg different]
    exact before
  · have once : queued
        { state with
          pendingBySubject :=
            enqueuePending item (fun _ => true) state.pendingBySubject race.subject }
        race.subject race.message = 1 := by
      have nothing : queued state race.subject race.message = 0 := by omega
      unfold queued at nothing ⊢
      rw [pushed, if_pos rfl]
      rcases prunePendingQueue_concat (pendingOf state.pendingBySubject race.subject) item with
        ⟨earlier, kept⟩
      have pruned : prunePendingQueue (pendingOf state.pendingBySubject race.subject ++ [item])
          sending.now = earlier ++ [item] := kept
      have shorter := (prunePendingQueue_sublist (pendingOf state.pendingBySubject race.subject ++
        [item]) sending.now).map PendingMessage.text
      have bound := shorter.count_le race.message
      have text : item.text = race.message := tracked.message
      have single : [item.text].count race.message = 1 := by
        rw [text, List.count_singleton_self]
      rw [pruned, List.map_append, List.map_append, List.count_append, List.count_append,
        List.map_singleton, single] at bound
      rw [pruned, List.map_append, List.count_append, List.map_singleton, single]
      omega
    rw [once]
    dsimp only [Sending.overRequeues]
    rw [Sending.held_returned]
    omega

/-- Any call of the dispatch. -/
theorem send (tracked : Tracked race state registering sending) {event : RaceCall}
    {phase : SendPhase} (advances : nextSendCall state sending = some (event, after, phase))
    (awaited : forall subject, event = .pushPending subject -> subject ∈ registering.awaiting) :
    Tracked race after registering { sending with phase := phase } := by
  have fits := tracked.fits
  unfold nextSendCall at advances
  cases current : sending.phase with
  | read targets subject remaining =>
      rw [current] at fits
      rcases fits with ⟨rfl, rfl, rfl⟩
      simp only [current] at advances
      cases advances
      exact tracked.read current
  | find tally id remaining =>
      rw [current] at fits
      rcases fits with ⟨fresh, rfl, rfl, inside⟩
      rcases Option.isSome_iff_exists.mp inside with ⟨receiver, inserted⟩
      rcases (tracked.inserted receiver inserted).1 with ⟨handle, found, rfl⟩
      have holds : sending.held = 1 := by
        rw [Sending.held, current]
      simp only [current, found] at advances
      cases advances
      exact tracked.looking holds ⟨fresh, inserted, rfl⟩ rfl
  | push tally id sender remaining =>
      rw [current] at fits
      rcases fits with ⟨fresh, inside, rfl⟩
      simp only [current] at advances
      cases advances
      exact tracked.push current fresh inside
  | clean tally removal remaining =>
      rw [current] at fits
      cases fits
  | requeue tally subject remaining =>
      rw [current] at fits
      rcases fits with ⟨rfl, rfl⟩
      simp only [current] at advances
      cases advances
      exact tracked.requeue current (awaited race.subject rfl)
  | returned result =>
      simp only [current] at advances
      cases advances

end Tracked

/-- A careful step keeps the invariant, whichever thread takes it. -/
theorem Racing.step {race : PushRace} {before after : RaceSystem} {label : Nat × RaceCall}
    (racing : Racing race before) (careful : RaceCareful race.message before label after) :
    Racing race after := by
  rcases racing with ⟨registering, sending, threads, tracked⟩
  rcases careful with ⟨turn, condition⟩
  cases turn with
  | @take state next threads index thread rest event picked advances =>
      dsimp only at threads tracked
      subst threads
      unfold Advances nextRaceCall at advances
      match index with
      | 0 =>
          cases picked
          rcases Option.map_eq_some_iff.mp advances with ⟨⟨_, _, phase⟩, step, same⟩
          cases same
          refine ⟨_, _, rfl, tracked.register step ?_⟩
          rintro subject now rfl
          exact condition
      | 1 =>
          cases picked
          rcases Option.map_eq_some_iff.mp advances with ⟨⟨_, _, phase⟩, step, same⟩
          cases same
          refine ⟨_, _, rfl, tracked.send step ?_⟩
          rintro subject rfl
          rcases condition with ⟨thread, member, awaits⟩
          rcases List.mem_cons.mp member with rfl | last
          · exact awaits
          · rw [List.mem_singleton.mp last] at awaits
            cases awaits
      | index + 2 => cases picked

/-! ## Runs -/

/-- In every interleaving in which the message is pushed only to a queue that
the registration has still to take, and is not expired then, it is on the new
channel exactly once when both calls have returned, and not pending. -/
theorem push_reaches_reconnect_of_careful (race : PushRace) (visible : race.message ≠ "")
    {final : RaceSystem} {labels : List (Nat × RaceCall)}
    (execution : Execution (RaceCareful race.message) race.system labels final)
    (returned : AllRaced final) :
    Exists fun handle : ConnectionHandle => Exists fun channel : Channel =>
      (Exists fun call => .registering call ∈ final.threads /\
        call.receiver = some handle.sender) /\
      final.shared.connections.lookup race.connectionId = some handle /\
      final.shared.channels[handle.sender]? = some channel /\
      channel.sent.count (.text race.message) = 1 /\
      race.message ∉ (pendingOf final.shared.pendingBySubject race.subject).map
        PendingMessage.text := by
  have racing := execution.invariant (Racing race) (race.racing visible)
    (fun _ _ _ before taken => before.step taken)
  rcases racing with ⟨registering, sending, threads, tracked⟩
  have running : .registering registering ∈ final.threads := by
    rw [threads]
    exact List.mem_cons_self
  have registered := returned (.registering registering) running
  have sent := returned (.sending sending)
    (by rw [threads]; exact List.mem_cons_of_mem _ List.mem_cons_self)
  rcases RaceThread.registering_returned registered with ⟨registration, registeredPhase⟩
  rcases RaceThread.sending_returned sent with ⟨result, sentPhase⟩
  have inside : registering.receiver = some registration.receiver := by
    rw [Registering.receiver, registeredPhase]
  have idle : registering.holding = [] := by
    rw [Registering.holding, registeredPhase]
  have waits : registering.awaiting = [] := by
    rw [Registering.awaiting, registeredPhase]
  have gone : sending.held = 0 := by
    rw [Sending.held, sentPhase]
  have nothing : queued final.shared race.subject race.message = 0 := by
    apply tracked.passed
    rw [waits]
    exact List.not_mem_nil
  rcases tracked.inserted registration.receiver inside with
    ⟨⟨handle, found, sender⟩, channel, channelFound, _⟩
  have conserved := tracked.conserved
  rw [gone, nothing, idle, inside, copies, Option.bind_some, channelFound] at conserved
  dsimp only at conserved
  rw [List.count_nil, Nat.zero_add] at conserved
  rw [← sender] at inside channelFound
  exact ⟨handle, channel, ⟨registering, running, inside⟩, found, channelFound, conserved,
    List.count_eq_zero.mp nothing⟩

/-- A first connection and a push to its only subject. -/
def firstPush : PushRace where
  state := GatewayState.new none
  registerOrder := .sorted
  registerNow := 10
  connectionId := "c"
  userId := "u"
  clientInstanceId := ""
  subjects := ["s"]
  connectedAt := 10
  sendOrder := .sorted
  sendNow := 10
  subject := "s"
  message := "m"
  asked := by decide
  nobody := rfl
  unsent := fun _ => List.not_mem_nil

/-- The dispatch finds nobody, and pushes the message before the registration
takes the queue. -/
theorem push_reaches_reconnect_of_early_push :
    Exists fun labels => Exists fun final : RaceSystem =>
      Execution (RaceCareful "m") firstPush.system labels final /\ AllRaced final /\
      Exists fun handle : ConnectionHandle => Exists fun channel : Channel =>
        (Exists fun call => .registering call ∈ final.threads /\
          call.receiver = some handle.sender) /\
        final.shared.connections.lookup "c" = some handle /\
        final.shared.channels[handle.sender]? = some channel /\
        channel.sent.count (.text "m") = 1 /\
        "m" ∉ (pendingOf final.shared.pendingBySubject "s").map PendingMessage.text := by
  have finished : (takeTurns nextRaceCall
      (fun before label => decide (MeetsRegistration "m" before label)) firstPush.system
      [0, 1, 0, 1, 0, 0]).map (fun run => decide (AllRaced run.2)) = some true := by
    decide +kernel
  rcases Option.map_eq_some_iff.mp finished with ⟨⟨labels, final⟩, taken, returned⟩
  have careful : Execution (RaceCareful "m") firstPush.system labels final :=
    (takeTurns_execution taken).mono fun _ _ _ both => ⟨both.1, of_decide_eq_true both.2⟩
  exact ⟨labels, final, careful, of_decide_eq_true returned,
    push_reaches_reconnect_of_careful firstPush (by decide) careful (of_decide_eq_true returned)⟩

/-- The dispatch finds nobody, the registration takes the empty queue, and then
the message is pushed: it stays in the queue although the connection is
live. -/
theorem push_stranded_of_late_push :
    Exists fun labels => Exists fun final : RaceSystem =>
      Execution RaceInterleaved firstPush.system labels final /\ AllRaced final /\
      (final.shared.connections.lookup "c").map ConnectionHandle.sender = some 0 /\
      final.shared.subjects.members "s" = {"c"} /\
      final.shared.channels.map Channel.sent = [[]] /\
      (pendingOf final.shared.pendingBySubject "s").map PendingMessage.text = ["m"] := by
  have finished : (takeTurns nextRaceCall (fun _ _ => true) firstPush.system
      [1, 0, 0, 0, 1]).map (fun run => decide (AllRaced run.2 /\
        (run.2.shared.connections.lookup "c").map ConnectionHandle.sender = some 0 /\
        run.2.shared.subjects.members "s" = {"c"} /\
        run.2.shared.channels.map Channel.sent = [[]] /\
        (pendingOf run.2.shared.pendingBySubject "s").map PendingMessage.text = ["m"])) =
          some true := by
    decide +kernel
  rcases Option.map_eq_some_iff.mp finished with ⟨⟨labels, final⟩, taken, outcome⟩
  have execution : Execution RaceInterleaved firstPush.system labels final :=
    (takeTurns_execution taken).mono fun _ _ _ both => both.1
  exact ⟨labels, final, execution, of_decide_eq_true outcome⟩

end Concurrency
end Gateway

import Gateway.Foundation.Execution
import Gateway.State.Connections

namespace Gateway
namespace State

open Foundation

/-!
# What the senders put on the channels

Sending appends to one channel, and only while its receiver is alive.  The send
loop of a dispatch therefore adds the message to exactly the live channels of
the targets, counts them, and reports the other targets as stale.  It adds the
message once to each, because the targets are distinct and no two connections
share a channel.
-/

/-- The channel after a message was offered to it. -/
def Channel.receive (message : OutboundMessage) (channel : Channel) : Channel :=
  if channel.receiverAlive then { channel with sent := channel.sent ++ [message] } else channel

theorem Channel.receive_receiverAlive (message : OutboundMessage) (channel : Channel) :
    (channel.receive message).receiverAlive = channel.receiverAlive := by
  unfold receive
  split <;> rfl

theorem Channel.receive_of_alive {channel : Channel} (alive : channel.receiverAlive = true)
    (message : OutboundMessage) :
    channel.receive message = { channel with sent := channel.sent ++ [message] } := by
  rw [receive, if_pos alive]

/-- A channel changes exactly if somebody receives. -/
theorem Channel.receive_ne_iff (message : OutboundMessage) (channel : Channel) :
    channel.receive message ≠ channel <-> channel.receiverAlive = true := by
  unfold receive
  split
  · next alive =>
    refine iff_of_true ?_ alive
    intro same
    have lengths := congrArg (fun changed : Channel => changed.sent.length) same
    simp at lengths
  · next dead => exact iff_of_false (fun changed => changed rfl) dead

theorem sendOn_fst (channels : List Channel) (sender : Nat) (message : OutboundMessage) :
    (sendOn channels sender message).1 = channels[sender]?.any Channel.receiverAlive := by
  unfold sendOn
  cases channels[sender]? with
  | none => rfl
  | some channel =>
      dsimp only [Option.any]
      split
      · next alive => exact alive.symm
      · next dead => exact (Bool.eq_false_of_not_eq_true dead).symm

theorem getElem?_sendOn (channels : List Channel) (sender : Nat) (message : OutboundMessage)
    (index : Nat) :
    (sendOn channels sender message).2[index]? =
      if index = sender then channels[index]?.map (Channel.receive message)
      else channels[index]? := by
  unfold sendOn
  cases found : channels[sender]? with
  | none =>
      dsimp only
      split
      · next same => rw [same, found, Option.map_none]
      · rfl
  | some channel =>
      have inside : sender < channels.length := (List.getElem?_eq_some_iff.mp found).1
      by_cases alive : channel.receiverAlive = true
      · dsimp only
        rw [if_pos alive, List.getElem?_set]
        by_cases same : index = sender
        · rw [if_pos same, if_pos same.symm, if_pos inside, same, found, Option.map_some,
            Channel.receive_of_alive alive]
        · rw [if_neg same, if_neg (Ne.symm same)]
      · dsimp only
        rw [if_neg alive]
        by_cases same : index = sender
        · rw [if_pos same, same, found, Option.map_some, Channel.receive, if_neg alive]
        · rw [if_neg same]

theorem length_sendOn (channels : List Channel) (sender : Nat) (message : OutboundMessage) :
    (sendOn channels sender message).2.length = channels.length := by
  unfold sendOn
  split
  · split
    · exact List.length_set
    · rfl
  · rfl

/-- The channel after texts were offered to it one after the other. -/
def Channel.receiveTexts (texts : List String) (channel : Channel) : Channel :=
  texts.foldl (fun channel text => channel.receive (.text text)) channel

theorem Channel.receiveTexts_of_alive {channel : Channel} (alive : channel.receiverAlive = true)
    (texts : List String) :
    channel.receiveTexts texts =
      { channel with sent := channel.sent ++ texts.map OutboundMessage.text } := by
  induction texts generalizing channel with
  | nil => simp [receiveTexts]
  | cons text texts ih =>
      have stillAlive : (channel.receive (.text text)).receiverAlive = true := by
        rw [receive_receiverAlive, alive]
      rw [receiveTexts, List.foldl_cons, ← receiveTexts, ih stillAlive, receive_of_alive alive]
      simp

namespace GatewayState

theorem getElem?_sendTexts (state : GatewayState) (sender : Nat) (texts : List String)
    (index : Nat) :
    (state.sendTexts sender texts).channels[index]? =
      if index = sender then state.channels[index]?.map (Channel.receiveTexts texts)
      else state.channels[index]? := by
  unfold sendTexts
  dsimp only
  generalize state.channels = channels
  induction texts generalizing channels with
  | nil =>
      split
      · exact Option.map_id'.symm
      · rfl
  | cons text texts ih =>
      rw [List.foldl_cons, ih, getElem?_sendOn]
      split
      · rw [Option.map_map]
        rfl
      · rfl

/-! ## The send loop -/

/-- The connection is registered and its receiver is alive. -/
def reaches (state : GatewayState) (id : String) : Bool :=
  (state.connections.lookup id).any fun handle =>
    state.channels[handle.sender]?.any Channel.receiverAlive

/-- The channel belongs to one of the connections. -/
def addressed (state : GatewayState) (ids : List String) (sender : Nat) : Bool :=
  ids.any fun id => (state.connections.lookup id).any fun handle => decide (handle.sender = sender)

theorem addressed_iff (state : GatewayState) (ids : List String) (sender : Nat) :
    state.addressed ids sender = true <-> Exists fun id => id ∈ ids /\
      Exists fun handle => state.connections.lookup id = some handle /\
        handle.sender = sender := by
  simp [addressed, Option.any_eq_true]

/-- No two connections share a channel, and every connection has one. -/
structure SendersDistinct (state : GatewayState) : Prop where
  bound : forall id handle, state.connections.lookup id = some handle ->
    handle.sender < state.channels.length
  distinct : forall left right leftHandle rightHandle,
    state.connections.lookup left = some leftHandle ->
    state.connections.lookup right = some rightHandle ->
    leftHandle.sender = rightHandle.sender -> left = right

/-- The result of the send loop over distinct targets. -/
structure Broadcast (state : GatewayState) (message : String) (ids : List String)
    (outcome : SendOutcome) : Prop where
  enqueued : outcome.enqueued = ids.countP state.reaches
  stale : outcome.staleIds = ids.filter fun id => !state.reaches id
  channels : forall index, outcome.channels[index]? =
    state.channels[index]?.map fun channel =>
      if state.addressed ids index then channel.receive (.text message) else channel

theorem addressed_concat (state : GatewayState) (ids : List String) (id : String) (sender : Nat) :
    state.addressed (ids ++ [id]) sender =
      (state.addressed ids sender || (state.connections.lookup id).any fun handle =>
        decide (handle.sender = sender)) := by
  rw [addressed, addressed, List.any_append, List.any_cons, List.any_nil, Bool.or_false]

/-- The channel of a connection belongs to no other. -/
theorem SendersDistinct.not_addressed {state : GatewayState} (senders : SendersDistinct state)
    {ids : List String} {id : String} {handle : ConnectionHandle}
    (found : state.connections.lookup id = some handle) (fresh : id ∉ ids) :
    state.addressed ids handle.sender = false := by
  rw [← Bool.not_eq_true, addressed_iff]
  rintro ⟨other, member, otherHandle, otherFound, sameSender⟩
  have same := senders.distinct other id otherHandle handle otherFound found sameSender
  exact fresh (same ▸ member)

theorem sendToTarget_broadcast {state : GatewayState} (senders : SendersDistinct state)
    {message : String} {ids : List String} {outcome : SendOutcome}
    (before : Broadcast state message ids outcome) {id : String} (fresh : id ∉ ids) :
    Broadcast state message (ids ++ [id])
      (sendToTarget state.connections message outcome id) := by
  unfold sendToTarget
  cases found : state.connections.lookup id with
  | none =>
      have unreachable : state.reaches id = false := by
        rw [reaches, found, Option.any_none]
      constructor
      · rw [List.countP_append, List.countP_singleton, unreachable]
        exact before.enqueued
      · simp [List.filter_append, unreachable, before.stale]
      · intro index
        rw [addressed_concat, found, Option.any_none, Bool.or_false]
        exact before.channels index
  | some handle =>
      have untouched : outcome.channels[handle.sender]? = state.channels[handle.sender]? := by
        rw [before.channels, senders.not_addressed found fresh]
        exact Option.map_id'
      have reached : (sendOn outcome.channels handle.sender (.text message)).1 =
          state.reaches id := by
        rw [sendOn_fst, untouched, reaches, found, Option.any_some]
      have channels : forall index,
          (sendOn outcome.channels handle.sender (.text message)).2[index]? =
            state.channels[index]?.map fun channel =>
              if state.addressed (ids ++ [id]) index then channel.receive (.text message)
              else channel := by
        intro index
        rw [getElem?_sendOn, addressed_concat, found, Option.any_some]
        by_cases same : index = handle.sender
        · rw [if_pos same, same, untouched, decide_eq_true rfl, Bool.or_true]
          rfl
        · rw [if_neg same, decide_eq_false (Ne.symm same), Bool.or_false]
          exact before.channels index
      dsimp only
      rcases sent : sendOn outcome.channels handle.sender (.text message) with ⟨success, after⟩
      rw [sent] at reached channels
      dsimp only at reached channels
      cases success with
      | true =>
          constructor
          · rw [List.countP_append, List.countP_singleton, ← reached, if_pos rfl, before.enqueued]
          · simp [List.filter_append, ← reached, before.stale]
          · exact channels
      | false =>
          constructor
          · rw [List.countP_append, List.countP_singleton, ← reached, before.enqueued]
            rfl
          · simp [List.filter_append, ← reached, before.stale]
          · exact channels

/-- The send loop over distinct targets puts the message on exactly their live
channels. -/
theorem sendToTargets_broadcast {state : GatewayState} (senders : SendersDistinct state)
    (message : String) (ids : List String) (nodup : ids.Nodup) :
    Broadcast state message ids (state.sendToTargets message ids) := by
  refine foldl_history (fun history outcome => history.Nodup ->
    Broadcast state message history outcome) ?_ ?_ ids nodup
  · intro _
    exact ⟨rfl, rfl, fun index => Option.map_id'.symm⟩
  · intro history outcome id before nodupNow
    have parts := List.nodup_append.mp nodupNow
    have fresh : id ∉ history := fun member =>
      parts.2.2 id member id List.mem_cons_self rfl
    exact sendToTarget_broadcast senders (before parts.1) fresh

end GatewayState

end State
end Gateway

import Gateway.State.Delivery

namespace Gateway
namespace State

open Foundation

/-!
# A dispatch in full

The send loop, the cleanup of closed connections and the reported count are put
together here.  A dispatch offers its message to exactly the channels of the
addressed connections, removes exactly those of them that are closed, and
reports how many channels it extended.

The description only looks at connections and channels.  It therefore also
covers a dispatch that was preceded by the removal of a closed addressee.
-/

namespace GatewayState

/-- The channels that have changed. -/
def extended (before after : GatewayState) : Finset Nat :=
  (Finset.range before.channels.length).filter fun index =>
    after.channels[index]? ≠ before.channels[index]?

theorem mem_extended (before after : GatewayState) (index : Nat) :
    index ∈ extended before after <-> index < before.channels.length /\
      after.channels[index]? ≠ before.channels[index]? := by
  rw [extended, Finset.mem_filter, Finset.mem_range]

/-- The dispatch of a message to the addressees of some subjects. -/
structure FansOut (before after : GatewayState) (subjects : List String) (message : String)
    (enqueued : Nat) : Prop where
  offered : forall id handle, before.connections.lookup id = some handle ->
    before.Addressee subjects id -> after.channels[handle.sender]? =
      before.channels[handle.sender]?.map (Channel.receive (.text message))
  quiet : forall index, (forall id handle, before.connections.lookup id = some handle ->
    before.Addressee subjects id -> handle.sender ≠ index) ->
    after.channels[index]? = before.channels[index]?
  gone : forall id, before.Addressee subjects id -> before.reaches id = false ->
    after.connections.lookup id = none
  stays : forall id, (before.Addressee subjects id -> before.reaches id = true) ->
    after.connections.lookup id = before.connections.lookup id
  counted : enqueued = (extended before after).card

/-- The channel of a registered connection. -/
def senderOf (state : GatewayState) (id : String) : Nat :=
  ((state.connections.lookup id).map ConnectionHandle.sender).getD 0

theorem reaches_iff (state : GatewayState) (id : String) :
    state.reaches id = true <-> Exists fun handle : ConnectionHandle =>
      Exists fun channel : Channel => state.connections.lookup id = some handle /\
        state.channels[handle.sender]? = some channel /\ channel.receiverAlive = true := by
  rw [reaches, Option.any_eq_true]
  simp only [Option.any_eq_true]
  constructor
  · rintro ⟨handle, found, channel, stored, alive⟩
    exact ⟨handle, channel, found, stored, alive⟩
  · rintro ⟨handle, channel, found, stored, alive⟩
    exact ⟨handle, found, channel, stored, alive⟩

/-- The loop extends the channels of the targets that are reached. -/
theorem Broadcast.mem_extended {state after : GatewayState} {message : String} {ids : List String}
    {outcome : SendOutcome} (broadcast : Broadcast state message ids outcome)
    (channels : after.channels = outcome.channels) (index : Nat) :
    index ∈ extended state after <-> index ∈ (ids.filter state.reaches).map state.senderOf := by
  rw [GatewayState.mem_extended, channels, broadcast.channels, List.mem_map]
  constructor
  · rintro ⟨inside, changed⟩
    rw [List.getElem?_eq_getElem inside, Option.map_some, Ne, Option.some_inj] at changed
    split at changed
    · next addressed =>
      rcases (addressed_iff state ids index).mp addressed with ⟨id, member, handle, found, rfl⟩
      have alive := (Channel.receive_ne_iff _ _).mp changed
      refine ⟨id, List.mem_filter.mpr ⟨member, ?_⟩, ?_⟩
      · exact (reaches_iff state id).mpr
          ⟨handle, _, found, List.getElem?_eq_getElem inside, alive⟩
      · rw [senderOf, found, Option.map_some, Option.getD_some]
    · exact absurd rfl changed
  · rintro ⟨id, member, rfl⟩
    rcases List.mem_filter.mp member with ⟨listed, reached⟩
    rcases (reaches_iff state id).mp reached with ⟨handle, channel, found, stored, alive⟩
    have sender : state.senderOf id = handle.sender := by
      rw [senderOf, found, Option.map_some, Option.getD_some]
    have addressed : state.addressed ids handle.sender = true :=
      (addressed_iff state ids handle.sender).mpr ⟨id, listed, handle, found, rfl⟩
    rw [sender, stored, Option.map_some, if_pos addressed, Ne, Option.some_inj]
    exact ⟨(List.getElem?_eq_some_iff.mp stored).1, (Channel.receive_ne_iff _ _).mpr alive⟩

theorem Broadcast.card_extended {state after : GatewayState} (senders : SendersDistinct state)
    {message : String} {ids : List String} (nodup : ids.Nodup) {outcome : SendOutcome}
    (broadcast : Broadcast state message ids outcome)
    (channels : after.channels = outcome.channels) :
    outcome.enqueued = (extended state after).card := by
  have distinct : ((ids.filter state.reaches).map state.senderOf).Nodup := by
    refine (nodup.filter _).map_on ?_
    intro left leftMember right rightMember same
    rcases (reaches_iff state left).mp (List.mem_filter.mp leftMember).2 with
      ⟨leftHandle, _, leftFound, _⟩
    rcases (reaches_iff state right).mp (List.mem_filter.mp rightMember).2 with
      ⟨rightHandle, _, rightFound, _⟩
    rw [senderOf, senderOf, leftFound, rightFound] at same
    exact senders.distinct left right leftHandle rightHandle leftFound rightFound same
  have listed : extended state after = ((ids.filter state.reaches).map state.senderOf).toFinset := by
    ext index
    rw [List.mem_toFinset]
    exact broadcast.mem_extended channels index
  rw [broadcast.enqueued, listed, List.toFinset_card_of_nodup distinct, List.length_map,
    List.countP_eq_length_filter]

/-! ## A dispatch fans out -/

theorem sendToSubjects_fansOut {state : GatewayState} (wellFormed : WellFormed state)
    (order : HashOrder String) (stickyNow now : Int) {subjects : List String} {message : String}
    (nonempty : subjects ≠ []) (visible : message ≠ "") (bufferIfUndelivered : Bool) :
    FansOut state
      (state.sendToSubjects order stickyNow now subjects message bufferIfUndelivered none).2 subjects
      message (state.sendToSubjects order stickyNow now subjects message bufferIfUndelivered
        none).1.enqueuedCount := by
  have broadcast := wellFormed.broadcast order subjects message
  have stale : forall id, id ∈ (state.sendToTargets message
      (order.enumerate (state.targetIds subjects))).staleIds <->
      state.Addressee subjects id /\ state.reaches id = false := by
    intro id
    rw [broadcast.stale, List.mem_filter, wellFormed.mem_enumerate_targetIds order,
      Bool.not_eq_true']
  constructor
  · intro id handle found addressee
    exact wellFormed.dispatch_receives order stickyNow now nonempty visible bufferIfUndelivered
      found addressee
  · intro index unaddressed
    have notAddressed : state.addressed (order.enumerate (state.targetIds subjects)) index =
        false := by
      rw [← Bool.not_eq_true, addressed_iff]
      rintro ⟨id, member, handle, found, same⟩
      exact unaddressed id handle found ((wellFormed.mem_enumerate_targetIds order id).mp member)
        same
    rw [sendToSubjects_eq order stickyNow now state nonempty visible, deliverToSubjects_channels,
      broadcast.channels, notAddressed]
    exact Option.map_id'
  · intro id addressee closed
    rw [sendToSubjects_eq order stickyNow now state nonempty visible,
      deliverToSubjects_connections, lookup_unregisterEach, if_pos ((stale id).mpr ⟨addressee, closed⟩)]
  · intro id live
    have kept : id ∉ (state.sendToTargets message
        (order.enumerate (state.targetIds subjects))).staleIds := by
      intro member
      rcases (stale id).mp member with ⟨addressee, closed⟩
      rw [live addressee] at closed
      cases closed
    rw [sendToSubjects_eq order stickyNow now state nonempty visible,
      deliverToSubjects_connections, lookup_unregisterEach, if_neg kept]
  · rw [sendToSubjects_eq order stickyNow now state nonempty visible]
    exact broadcast.card_extended wellFormed.senders (order.nodup _)
      (deliverToSubjects_channels order now state bufferIfUndelivered)

/-- A message that was received shows on the channel. -/
theorem changed_of_received {before after : GatewayState} {id message : String}
    (received : Received before after id message) : Exists fun handle : ConnectionHandle =>
      before.connections.lookup id = some handle /\
        after.channels[handle.sender]? ≠ before.channels[handle.sender]? := by
  rcases received with ⟨handle, channel, found, stored, grown⟩
  refine ⟨handle, found, ?_⟩
  rw [grown, stored, Ne, Option.some_inj]
  intro same
  have lengths := congrArg (fun channel : Channel => channel.sent.length) same
  simp at lengths

namespace FansOut

variable {before middle after : GatewayState} {subjects : List String} {message : String}
  {enqueued : Nat}

/-- Request routes play no part in it. -/
theorem of_routes {routes : RequestRouteTable}
    (fansOut : FansOut { before with requestRoutes := routes } after subjects message enqueued) :
    FansOut before after subjects message enqueued :=
  ⟨fansOut.offered, fansOut.quiet, fansOut.gone, fansOut.stays, fansOut.counted⟩

/-- A closed addressee may be removed ahead of the dispatch. -/
theorem of_removed (senders : SendersDistinct before) {removed : String}
    (addressee : before.Addressee subjects removed) (closed : before.reaches removed = false)
    (connections : forall id, middle.connections.lookup id =
      if id = removed then none else before.connections.lookup id)
    (channels : middle.channels = before.channels)
    (fansOut : FansOut middle after subjects message enqueued) :
    FansOut before after subjects message enqueued := by
  have addressed : forall id, id ≠ removed ->
      (middle.Addressee subjects id <-> before.Addressee subjects id) := by
    intro id different
    rw [Addressee, Addressee, connections, if_neg different]
  have notRemoved : forall id, middle.Addressee subjects id -> id ≠ removed := by
    rintro id ⟨handle, found, _⟩ rfl
    rw [connections, if_pos rfl] at found
    cases found
  have reaches : forall id, id ≠ removed -> middle.reaches id = before.reaches id := by
    intro id different
    rw [GatewayState.reaches, GatewayState.reaches, connections, if_neg different, channels]
  have older : forall id handle, middle.connections.lookup id = some handle ->
      before.connections.lookup id = some handle := by
    intro id handle found
    rw [connections] at found
    split at found
    · cases found
    · exact found
  constructor
  · intro id handle found wanted
    by_cases same : id = removed
    · subst same
      have unchanged := fansOut.quiet handle.sender (by
        intro other otherHandle otherFound otherWanted sameSender
        exact notRemoved other otherWanted (senders.distinct other id otherHandle handle
          (older other otherHandle otherFound) found sameSender))
      rw [unchanged, channels]
      cases stored : before.channels[handle.sender]? with
      | none => rfl
      | some channel =>
          have dead : channel.receiverAlive = false := by
            rw [← Bool.not_eq_true]
            intro alive
            rw [(reaches_iff before id).mpr ⟨handle, channel, found, stored, alive⟩] at closed
            cases closed
          rw [Option.map_some, Channel.receive, dead, if_neg Bool.false_ne_true]
    · rw [← channels]
      have kept := connections id
      rw [if_neg same, found] at kept
      exact fansOut.offered id handle kept ((addressed id same).mpr wanted)
  · intro index unaddressed
    rw [← channels]
    apply fansOut.quiet
    intro id handle found wanted
    exact unaddressed id handle (older id handle found)
      ((addressed id (notRemoved id wanted)).mp wanted)
  · intro id wanted dead
    by_cases same : id = removed
    · subst same
      rw [fansOut.stays id fun wantedThen => absurd rfl (notRemoved id wantedThen), connections,
        if_pos rfl]
    · exact fansOut.gone id ((addressed id same).mpr wanted) ((reaches id same).trans dead)
  · intro id live
    by_cases same : id = removed
    · subst same
      rw [live addressee] at closed
      cases closed
    · rw [fansOut.stays id fun wanted => (reaches id same).trans
        (live ((addressed id same).mp wanted)), connections, if_neg same]
  · rw [fansOut.counted, extended, extended, channels]

/-- A channel that has changed belongs to an addressee who is reached. -/
theorem reached_of_changed (fansOut : FansOut before after subjects message enqueued)
    {index : Nat} (changed : after.channels[index]? ≠ before.channels[index]?) :
    Exists fun id => Exists fun handle : ConnectionHandle =>
      before.connections.lookup id = some handle /\ handle.sender = index /\
        before.Addressee subjects id /\ before.reaches id = true := by
  have addressed : Exists fun id => Exists fun handle : ConnectionHandle =>
      before.connections.lookup id = some handle /\ handle.sender = index /\
        before.Addressee subjects id := by
    by_contra nobody
    exact changed (fansOut.quiet index fun id handle found addressee same =>
      nobody ⟨id, handle, found, same, addressee⟩)
  rcases addressed with ⟨id, handle, found, rfl, addressee⟩
  refine ⟨id, handle, found, rfl, addressee, ?_⟩
  have offered := fansOut.offered id handle found addressee
  cases stored : before.channels[handle.sender]? with
  | none =>
      rw [stored] at offered changed
      exact absurd offered changed
  | some channel =>
      rw [offered, stored, Option.map_some, Ne, Option.some_inj] at changed
      exact (reaches_iff before id).mpr
        ⟨handle, channel, found, stored, (Channel.receive_ne_iff _ channel).mp changed⟩

/-- The receivers of a dispatch. -/
theorem received_iff (senders : SendersDistinct before)
    (fansOut : FansOut before after subjects message enqueued) (id : String) :
    Received before after id message <->
      before.Addressee subjects id /\ before.reaches id = true := by
  constructor
  · intro received
    rcases changed_of_received received with ⟨handle, found, changed⟩
    rcases fansOut.reached_of_changed changed with ⟨other, otherHandle, otherFound, same, reached⟩
    rw [senders.distinct other id otherHandle handle otherFound found same] at reached
    exact reached
  · rintro ⟨addressee, reached⟩
    rcases (reaches_iff before id).mp reached with ⟨handle, channel, found, stored, alive⟩
    refine ⟨handle, channel, found, stored, ?_⟩
    rw [fansOut.offered id handle found addressee, stored, Option.map_some,
      Channel.receive_of_alive alive]

end FansOut

theorem sendToConnection_of_reaches {state : GatewayState} {id message : String}
    {handle : ConnectionHandle} (named : id ≠ "") (visible : message ≠ "")
    (found : state.connections.lookup id = some handle) (reached : state.reaches id = true) :
    state.sendToConnection id message =
      (true, { state with
        channels := (sendOn state.channels handle.sender (.text message)).2 }) := by
  have succeeds : (sendOn state.channels handle.sender (.text message)).1 = true := by
    rw [sendOn_fst, ← reached, reaches, found, Option.any_some]
  rw [sendToConnection, if_neg (not_or.mpr ⟨named, visible⟩)]
  simp only [found]
  rcases sent : sendOn state.channels handle.sender (.text message) with ⟨success, channels⟩
  rw [sent] at succeeds
  cases succeeds
  rfl

theorem sendToConnection_of_closed {state : GatewayState} {id message : String}
    {handle : ConnectionHandle} (named : id ≠ "") (visible : message ≠ "")
    (found : state.connections.lookup id = some handle) (closed : state.reaches id = false) :
    state.sendToConnection id message = (false, (state.unregisterConnection id).2) := by
  have fails : sendOn state.channels handle.sender (.text message) = (false, state.channels) := by
    have dead : state.channels[handle.sender]?.any Channel.receiverAlive = false := by
      rw [← closed, reaches, found, Option.any_some]
    unfold sendOn
    split
    · next channel stored =>
      rw [stored, Option.any_some] at dead
      rw [if_neg (by rw [dead]; exact Bool.false_ne_true)]
    · rfl
  rw [sendToConnection, if_neg (not_or.mpr ⟨named, visible⟩)]
  simp only [found, fails]

end GatewayState

end State
end Gateway

import Gateway.State.Provenance

namespace Gateway
namespace State

open Foundation

/-!
# How often a text arrives

A dispatch puts its text at most once on any channel, a replay has no text
twice, and what is replayed was sent before.  So no channel ever holds a text more
often than it was sent, however many subjects, queues, fallbacks and reconnects
are involved, as long as nobody puts a text back that was not sent.
-/

namespace Operation

def sends (text : String) : Operation -> Bool
  | .sendToSubjects _ _ _ _ message _ _ => message = text
  | .sendToConnection _ message => message = text
  | _ => false

/-- The text that an operation puts into queues without sending it. -/
def putsBack : Operation -> Option String
  | .requeueForSubjects _ _ message => some message
  | .bufferLatestForSubjects _ _ message _ => some message
  | _ => none

end Operation

/-- What is put back was sent before. -/
def PutsBackSent (earlier : List Operation) (operation : Operation) : Prop :=
  forall text, text ∈ operation.putsBack -> 0 < earlier.countP (Operation.sends text)

instance (earlier : List Operation) (operation : Operation) :
    Decidable (PutsBackSent earlier operation) :=
  inferInstanceAs (Decidable (forall text, text ∈ operation.putsBack -> _))

/-- A text that got into a queue was there before, or it was sent or put
back. -/
theorem sends_or_putsBack_of_addressed {operation : Operation} {subject text : String}
    (addressed : operation.AddressesSubject subject text) :
    operation.sends text = true \/ text ∈ operation.putsBack := by
  cases operation with
  | sendToSubjects => exact Or.inl (decide_eq_true addressed.2)
  | requeueForSubjects => exact Or.inr (congrArg some addressed.2)
  | bufferLatestForSubjects => exact Or.inr (congrArg some addressed.2)
  | _ => exact addressed.elim

/-- A channel gains at most one text of a dispatch. -/
theorem textsOn_sendToSubjects_cases {state : GatewayState} (wellFormed : WellFormed state)
    (order : HashOrder String) (stickyNow now : Int) (subjects : List String) (message : String)
    (bufferIfUndelivered : Bool) (stickyKey : Option String) (index : Nat) :
    let after := (state.sendToSubjects order stickyNow now subjects message bufferIfUndelivered
      stickyKey).2
    after.textsOn index = state.textsOn index \/
      after.textsOn index = state.textsOn index ++ [message] := by
  intro after
  unfold after GatewayState.sendToSubjects
  split
  · exact Or.inl rfl
  · rcases GatewayState.bufferSticky_touches stickyNow state subjects message stickyKey with
      ⟨pending, touched⟩
    have buffered : WellFormed { state with pendingBySubject := pending } :=
      WellFormed.kept.tables _ _ _ _ _ _ _ wellFormed
    rw [touched, GatewayState.textsOn, GatewayState.textsOn,
      GatewayState.deliverToSubjects_channels, (buffered.broadcast order subjects message).channels]
    cases stored : state.channels[index]? with
    | none => exact Or.inl rfl
    | some channel =>
        simp only [Option.map_some, Option.getD_some]
        split
        · unfold Channel.receive
          split
          · exact Or.inr (by simp [Channel.texts, List.filterMap_append])
          · exact Or.inl rfl
        · exact Or.inl rfl

/-- What an operation that registers nobody puts on a channel. -/
theorem textsOn_apply_cases {toLowercase : String -> String} {state : GatewayState}
    (wellFormed : WellFormed state) {operation : Operation} (registers : operation.registered = none)
    (index : Nat) :
    (operation.apply toLowercase state).textsOn index = state.textsOn index \/
      Exists fun message => operation.sends message = true /\
        (operation.apply toLowercase state).textsOn index = state.textsOn index ++ [message] := by
  by_cases silent : operation.isSilent = true
  · exact Or.inl ((Operation.silent_apply toLowercase state silent).texts index)
  · cases operation with
    | registerConnection => cases registers
    | sendToSubjects order stickyNow now subjects message bufferIfUndelivered stickyKey =>
        exact (textsOn_sendToSubjects_cases wellFormed order stickyNow now subjects message
          bufferIfUndelivered stickyKey index).imp_right fun grown =>
            ⟨message, decide_eq_true rfl, grown⟩
    | sendToConnection connectionId message =>
        rcases GatewayState.sendToConnection_texts state connectionId message index with
          same | ⟨_, _, _, grown⟩
        · exact Or.inl same
        · exact Or.inr ⟨message, decide_eq_true rfl, grown⟩
    | requeueForSubjects now subjects message =>
        rcases GatewayState.requeueForSubjects_touches now state subjects message with
          ⟨pending, touched⟩
        rw [Operation.apply, touched]
        exact Or.inl rfl
    | bufferLatestForSubjects now subjects message stickyKey =>
        rcases GatewayState.bufferLatestForSubjects_touches now state subjects message
          stickyKey with ⟨pending, touched⟩
        rw [Operation.apply, touched]
        exact Or.inl rfl
    | _ => exact absurd rfl silent

/-- A replay has no text twice. -/
theorem nodup_replayed (now : Int) (pending : PendingTable) (subjects : List String) :
    (subjects.foldl (takePending now) ([], pending)).1.Nodup := by
  refine foldl_invariant (fun taken : List String × PendingTable => taken.1.Nodup)
    List.nodup_nil ?_ subjects
  intro taken subject nodup
  rw [takePending_fst]
  exact collect_nodup nodup _

/-- The channel of a new connection starts with the replay, and the others stay
as they are. -/
theorem textsOn_registerConnection (order : HashOrder String) (now : Int) (state : GatewayState)
    (connectionId userId clientInstanceId : String) (subjects : List String) (connectedAt : Int)
    (index : Nat) :
    let registration := state.registerConnection order now connectionId userId clientInstanceId
      subjects connectedAt
    registration.2.textsOn index =
      if index = registration.1.receiver then
        (subjects.foldl (takePending now) ([], state.pendingBySubject)).1
      else state.textsOn index := by
  intro registration
  split
  · next same =>
    rw [same, GatewayState.textsOn, GatewayState.registerConnection_channel]
    simp [Channel.texts, List.filterMap_map]
  · next elsewhere =>
    rw [← (GatewayState.evictSameInstance_silent order state connectionId userId
      clientInstanceId).texts, GatewayState.textsOn, GatewayState.textsOn]
    refine congrArg (fun channel : Option Channel => (channel.map Channel.texts).getD []) ?_
    refine (GatewayState.getElem?_sendTexts _ _ _ _).trans ((if_neg elsewhere).trans ?_)
    rcases Nat.lt_or_gt_of_ne elsewhere with inside | outside
    · exact List.getElem?_append_left inside
    · have beyond := List.getElem?_eq_none (Nat.le_of_lt outside)
      refine (List.getElem?_eq_none ?_).trans beyond.symm
      rw [GatewayState.takePendingForSubjects]
      exact (List.length_append).symm ▸ outside

/-! ## Runs -/

/-- No text is on a channel more often than it was sent, and none waits that was
not sent. -/
structure AtMostAsSent (text : String) (operations : List Operation) (state : GatewayState) :
    Prop where
  waiting : forall subject item, item ∈ pendingOf state.pendingBySubject subject ->
    item.text = text -> 0 < operations.countP (Operation.sends text)
  arrived : forall index,
    (state.textsOn index).count text ≤ operations.countP (Operation.sends text)

theorem countP_concat (text : String) (operations : List Operation) (operation : Operation) :
    (operations ++ [operation]).countP (Operation.sends text) =
      operations.countP (Operation.sends text) + if operation.sends text = true then 1 else 0 := by
  rw [List.countP_append, List.countP_singleton]

theorem AtMostAsSent.apply {text : String} {operations : List Operation} {state : GatewayState}
    (before : AtMostAsSent text operations state) (wellFormed : WellFormed state)
    (toLowercase : String -> String) {operation : Operation}
    (restrained : PutsBackSent operations operation) :
    AtMostAsSent text (operations ++ [operation]) (operation.apply toLowercase state) := by
  have grows := countP_concat text operations operation
  constructor
  · intro subject item member same
    rcases pending_of_apply member with older | addressed
    · have sent := before.waiting subject item older same
      omega
    · rw [same] at addressed
      rcases sends_or_putsBack_of_addressed addressed with sends | back
      · rw [sends, if_pos rfl] at grows
        omega
      · have sent := restrained text back
        omega
  · intro index
    by_cases registers : operation.registered = none
    · rcases textsOn_apply_cases wellFormed registers index with same | ⟨message, sends, grown⟩
      · have arrived := before.arrived index
        rw [same]
        omega
      · have arrived := before.arrived index
        rw [grown, List.count_append, List.count_singleton]
        by_cases same : message = text
        · rw [← same, sends, if_pos rfl] at grows
          subst same
          simp only [beq_self_eq_true, if_true]
          omega
        · rw [if_neg (by simpa using same)]
          omega
    · cases operation with
      | registerConnection order now connectionId userId clientInstanceId subjects connectedAt =>
          rw [Operation.apply, textsOn_registerConnection]
          split
          · have once := List.nodup_iff_count_le_one.mp
              (nodup_replayed now state.pendingBySubject subjects) text
            rcases Nat.eq_zero_or_pos ((subjects.foldl (takePending now)
              ([], state.pendingBySubject)).1.count text) with none | some
            · omega
            · rcases (takePending_sources now state.pendingBySubject subjects).1 text
                (List.count_pos_iff.mp some) with ⟨subject, _, item, waits, same⟩
              have sent := before.waiting subject item waits same
              omega
          · have arrived := before.arrived index
            omega
      | _ => exact absurd rfl registers

/-- In every run in which nothing is put back that was not sent, no channel holds
a text more often than it was sent. -/
theorem texts_arrive_as_often_as_sent (toLowercase : String -> String)
    (maxConnectionsPerUser : Option Nat) (operations : List Operation)
    (fresh : FreshIds operations) (restrained : Throughout PutsBackSent operations)
    (index : Nat) (text : String) :
    ((GatewayState.run toLowercase maxConnectionsPerUser operations).textsOn index).count text ≤
      operations.countP (Operation.sends text) := by
  have invariant := GatewayState.run_history
    (fun history state => Throughout PutsBackSent history -> AtMostAsSent text history state)
    toLowercase maxConnectionsPerUser ?_ ?_ operations fresh restrained
  · exact invariant.arrived index
  · exact fun _ => ⟨fun _ _ member => absurd member List.not_mem_nil, fun _ => Nat.zero_le _⟩
  · intro history operation freshNow _ before restrainedNow
    exact (before restrainedNow.append_left).apply
      (WellFormed.run toLowercase maxConnectionsPerUser history freshNow.of_append) toLowercase
      restrainedNow.last

/-- A text that waits in two queues, is replayed, put back by a session that could
not write it, and replayed again on the channel of the next session. -/
theorem texts_arrive_as_often_as_sent_of_requeue :
    let operations : List Operation :=
      [.sendToSubjects .sorted 0 0 ["user:A", "user:a"] "m" true none,
        .registerConnection .sorted 1 "c1" "A" "" ["user:A", "user:a"] 1, .dropReceiver 0,
        .requeueForSubjects 2 ["user:A", "user:a"] "m", .unregisterConnection "c1",
        .registerConnection .sorted 3 "c2" "A" "" ["user:A", "user:a"] 3]
    let state := GatewayState.run asciiLowercase none operations
    ((state.textsOn 1).count "m" ≤ operations.countP (Operation.sends "m")) /\
      state.textsOn 1 = ["m"] := by
  intro operations state
  exact ⟨texts_arrive_as_often_as_sent asciiLowercase none operations (by decide) (by decide) 1 "m",
    by decide +kernel⟩

end State
end Gateway

import Gateway.Broker.Outbox
import Gateway.Foundation.JsonCompact
import Gateway.State.Replay
import Gateway.State.Silence

namespace Gateway
namespace Broker

open Foundation State Ingress

/-!
# Snapshots that are taken for messages

A payload of the snapshot type is recognised only if it is complete.  Any other
payload of this type is wrapped in an event and dispatched as an ordinary
message, and a dispatch always leaves something behind: on a channel if it
reaches somebody, and otherwise in the pending queues.
-/

def snapshotType : String := "gateway_relay_context_snapshot"

section Recognition

variable (toLowercase : String -> String)

/-- The fields without which a payload of the snapshot type is no snapshot. -/
structure CompleteSnapshot (payload : Json) : Prop where
  operationClass :
    normalize toLowercase ((payload.strField "operation_class").getD "") = "relay_hotpath"
  subject : (payload.trimmedField "subject").isSome = true
  contextType :
    normalize toLowercase ((payload.strField "context_type").getD "") = "file_transfer_peer"
  policyVersion : (parseU64 (payload.get "policy_version")).isSome = true

instance (payload : Json) : Decidable (CompleteSnapshot toLowercase payload) :=
  decidable_of_iff
    (normalize toLowercase ((payload.strField "operation_class").getD "") = "relay_hotpath" /\
      (payload.trimmedField "subject").isSome = true /\
      normalize toLowercase ((payload.strField "context_type").getD "") = "file_transfer_peer" /\
      (parseU64 (payload.get "policy_version")).isSome = true)
    ⟨fun ⟨first, second, third, fourth⟩ => ⟨first, second, third, fourth⟩,
      fun ⟨first, second, third, fourth⟩ => ⟨first, second, third, fourth⟩⟩

theorem parseContextType_isSome_iff (value : String) :
    (parseContextType toLowercase value).isSome = true <->
      normalize toLowercase value = "file_transfer_peer" := by
  unfold parseContextType
  split
  · next same => exact iff_of_true rfl same
  · next different => exact iff_of_false Bool.false_ne_true different

/-- The parser returns a snapshot exactly for the complete ones. -/
theorem parseRelayContextSnapshot_isSome_iff (now : Int) (payload : Json) :
    (parseRelayContextSnapshot toLowercase now payload).isSome = true <->
      (payload.strField "type").getD "" = snapshotType /\
        CompleteSnapshot toLowercase payload := by
  have parts : CompleteSnapshot toLowercase payload <->
      normalize toLowercase ((payload.strField "operation_class").getD "") = "relay_hotpath" /\
        (payload.trimmedField "subject").isSome = true /\
        (parseContextType toLowercase ((payload.strField "context_type").getD "")).isSome = true /\
        (parseU64 (payload.get "policy_version")).isSome = true := by
    rw [parseContextType_isSome_iff]
    exact ⟨fun ⟨first, second, third, fourth⟩ => ⟨first, second, third, fourth⟩,
      fun ⟨first, second, third, fourth⟩ => ⟨first, second, third, fourth⟩⟩
  rw [parts, snapshotType]
  unfold parseRelayContextSnapshot
  by_cases announced : (payload.strField "type").getD "" = "gateway_relay_context_snapshot"
  · by_cases hotpath :
        normalize toLowercase ((payload.strField "operation_class").getD "") = "relay_hotpath"
    · cases payload.trimmedField "subject" with
      | none => simp [guard, announced, hotpath]
      | some subject =>
          cases parseContextType toLowercase ((payload.strField "context_type").getD "") with
          | none => simp [guard, announced, hotpath]
          | some contextType =>
              cases parseU64 (payload.get "policy_version") with
              | none => simp [guard, announced, hotpath]
              | some version => simp [guard, announced, hotpath]
    · simp [guard, announced, hotpath]
  · simp [guard, announced]

end Recognition

/-- Neither a channel nor a pending queue holds more than before. -/
structure GainsNothing (before after : GatewayState) : Prop where
  channels : after.channels.map Channel.sent = before.channels.map Channel.sent
  pending : forall subject, (pendingOf after.pendingBySubject subject).Sublist
    (pendingOf before.pendingBySubject subject)

/-- The number of messages that were put on channels. -/
def messagesSent (channels : List Channel) : Nat :=
  (channels.map fun channel => channel.sent.length).sum

theorem messagesSent_sendOn (channels : List Channel) (sender : Nat)
    (message : OutboundMessage) :
    messagesSent (sendOn channels sender message).2 =
      messagesSent channels + (sendOn channels sender message).1.toNat := by
  unfold sendOn
  cases found : channels[sender]? with
  | none => rfl
  | some channel =>
      dsimp only
      by_cases alive : channel.receiverAlive = true
      · rw [if_pos alive]
        rcases List.getElem?_eq_some_iff.mp found with ⟨inside, rfl⟩
        have before : messagesSent channels = messagesSent (channels.set sender channels[sender]) := by
          rw [List.set_getElem_self]
        rw [before]
        simp only [messagesSent, List.map_set, List.sum_set, List.length_map, if_pos inside,
          List.length_append, List.length_singleton, Bool.toNat_true]
        omega
      · rw [if_neg alive]
        rfl

/-- Every counted send has put one message on a channel. -/
theorem messagesSent_sendToTargets (state : GatewayState) (message : String)
    (ids : List String) :
    messagesSent (state.sendToTargets message ids).channels =
      messagesSent state.channels + (state.sendToTargets message ids).enqueued := by
  refine foldl_invariant (fun outcome : GatewayState.SendOutcome =>
    messagesSent outcome.channels = messagesSent state.channels + outcome.enqueued) rfl ?_ ids
  intro outcome id before
  unfold GatewayState.sendToTarget
  cases state.connections.lookup id with
  | none => exact before
  | some handle =>
      have sent := messagesSent_sendOn outcome.channels handle.sender (.text message)
      dsimp only
      cases offered : sendOn outcome.channels handle.sender (.text message) with
      | mk success channels =>
          rw [offered] at sent
          cases success with
          | true =>
              dsimp only at sent ⊢
              rw [sent, before]
              rfl
          | false =>
              dsimp only at sent ⊢
              rw [sent, before]
              rfl

theorem GainsNothing.refl (state : GatewayState) : GainsNothing state state :=
  ⟨rfl, fun _ => List.Sublist.refl _⟩

theorem GainsNothing.messagesSent {before after : GatewayState}
    (nothing : GainsNothing before after) :
    messagesSent after.channels = messagesSent before.channels := by
  have lengths := congrArg (List.map List.length) nothing.channels
  rw [List.map_map, List.map_map] at lengths
  exact congrArg List.sum lengths

/-- Some subject has a queue that is not full. -/
def HasRoom (pending : PendingTable) (subjects : List String) : Prop :=
  Exists fun subject => subject ∈ subjects /\
    (pendingOf pending subject).length < pendingMaxPerSubject

/-- Buffering for subjects one of which has room adds to the queue of this one. -/
theorem count_enqueueAll (item : PendingMessage) (pending : PendingTable) {subject : String}
    (room : (pendingOf pending subject).length < pendingMaxPerSubject)
    {subjects : List String} (member : subject ∈ subjects) :
    (pendingOf pending subject).count item <
      (pendingOf (subjects.foldl (enqueuePending item fun _ => true) pending) subject).count
        item := by
  have grown : subject ∈ subjects ->
      (pendingOf (subjects.foldl (enqueuePending item fun _ => true) pending) subject).length ≤
        pendingMaxPerSubject /\
      (pendingOf pending subject).count item <
        (pendingOf (subjects.foldl (enqueuePending item fun _ => true) pending) subject).count
          item := by
    refine (foldl_history (fun history (table : PendingTable) =>
      (subject ∉ history -> pendingOf table subject = pendingOf pending subject) /\
      (subject ∈ history -> (pendingOf table subject).length ≤ pendingMaxPerSubject /\
        (pendingOf pending subject).count item < (pendingOf table subject).count item))
      ⟨fun _ => rfl, fun absent => absurd absent List.not_mem_nil⟩ ?_ subjects).2
    rintro history table other ⟨untouched, added⟩
    rw [pendingOf_enqueuePending, List.mem_append, List.mem_singleton]
    by_cases same : subject = other
    · rw [if_pos same, ← same]
      refine ⟨fun absent => absurd (Or.inr rfl) absent, fun _ => ?_⟩
      rw [prunePendingQueue_eq_prune]
      refine ⟨pendingPolicy.length_prune_le _ _, ?_⟩
      have more : (pendingOf table subject).count item + 1 ≤
          (pendingPolicy.prune item.enqueuedAt (pendingOf table subject ++ [item])).count item +
            ((pendingOf table subject).length + 1 - pendingMaxPerSubject) :=
        pendingPolicy.count_prune_concat (pendingOf table subject) item
      by_cases before : subject ∈ history
      · have counted := added before
        omega
      · rw [untouched before] at more ⊢
        omega
    · rw [if_neg same, or_iff_left same]
      exact ⟨untouched, added⟩
  exact (grown member).2

/-! ## Dispatches -/

theorem messagesSent_sendToConnection (state : GatewayState) (connectionId message : String) :
    messagesSent (state.sendToConnection connectionId message).2.channels =
      messagesSent state.channels + (state.sendToConnection connectionId message).1.toNat := by
  unfold GatewayState.sendToConnection
  split
  · rfl
  · cases state.connections.lookup connectionId with
    | none => exact congrArg _ (GatewayState.unregisterConnection_channels state connectionId)
    | some handle =>
        have sent := messagesSent_sendOn state.channels handle.sender (.text message)
        dsimp only
        cases offered : sendOn state.channels handle.sender (.text message) with
        | mk success channels =>
            rw [offered] at sent
            cases success with
            | true => exact sent
            | false =>
                dsimp only
                rw [GatewayState.unregisterConnection_channels]
                exact sent

section Dispatches

variable {before : GatewayState} {subjects : List String} {text : String}

/-- A dispatch to subjects with room leaves the message somewhere. -/
theorem sendToSubjects_gains (order : HashOrder String) (stickyNow now : Int)
    (nonempty : subjects ≠ []) (visible : text ≠ "")
    (room : HasRoom before.pendingBySubject subjects) {middle : GatewayState}
    (channels : messagesSent middle.channels = messagesSent before.channels)
    (pending : middle.pendingBySubject = before.pendingBySubject) :
    Not (GainsNothing before
      (middle.sendToSubjects order stickyNow now subjects text true none).2) := by
  intro nothing
  have sent := nothing.messagesSent
  rw [GatewayState.sendToSubjects_eq order stickyNow now middle nonempty visible] at nothing sent
  rw [GatewayState.deliverToSubjects_channels, messagesSent_sendToTargets, channels] at sent
  have unsent : (middle.sendToTargets text
      (order.enumerate (middle.targetIds subjects))).enqueued = 0 := by omega
  rcases room with ⟨subject, member, short⟩
  have waits := nothing.pending subject
  rw [GatewayState.deliverToSubjects_pending order now middle nonempty visible, if_pos unsent,
    pending] at waits
  exact absurd (waits.count_le _) (not_le.mpr (count_enqueueAll _ _ short member))

/-- Apart from the routes, a send along a route does nothing or what the send to
one connection does. -/
theorem sendAlongRoute_cases (reading : OutboxReading) (before : GatewayState)
    (requestId : String) (subjects : List String) (text : String) :
    ((sendAlongRoute reading before requestId subjects text).1 = false /\
      Exists fun routes => (sendAlongRoute reading before requestId subjects text).2.2 =
        { before with requestRoutes := routes }) \/
    Exists fun connectionId => Exists fun resolved => Exists fun routes =>
      let sending := GatewayState.sendToConnection { before with requestRoutes := resolved }
        connectionId text
      (sendAlongRoute reading before requestId subjects text).1 = sending.1 /\
        (sendAlongRoute reading before requestId subjects text).2.2 =
          { sending.2 with requestRoutes := routes } := by
  rcases GatewayState.resolveRequestRoute_touches reading.routeNow before requestId subjects with
    ⟨resolvedRoutes, touched⟩
  unfold sendAlongRoute
  cases resolution : before.resolveRequestRoute reading.routeNow requestId subjects with
  | mk target resolved =>
      rw [resolution] at touched
      dsimp only at touched
      subst touched
      cases target with
      | none => exact Or.inl ⟨rfl, resolvedRoutes, rfl⟩
      | some connectionId =>
          refine Or.inr ⟨connectionId, resolvedRoutes, ?_⟩
          dsimp only
          cases GatewayState.sendToConnection { before with requestRoutes := resolvedRoutes }
              connectionId text with
          | mk success sent =>
              cases success with
              | true => exact ⟨sent.requestRoutes, rfl, rfl⟩
              | false =>
                  rcases GatewayState.clearRequestRoute_touches sent requestId with
                    ⟨cleared, clearedTouched⟩
                  exact ⟨cleared, rfl, clearedTouched⟩

/-- A send along a route leaves the message on its channel, or nothing. -/
theorem sendAlongRoute_counts (reading : OutboxReading) (requestId : String) :
    messagesSent (sendAlongRoute reading before requestId subjects text).2.2.channels =
        messagesSent before.channels +
          (sendAlongRoute reading before requestId subjects text).1.toNat /\
      (sendAlongRoute reading before requestId subjects text).2.2.pendingBySubject =
        before.pendingBySubject := by
  rcases sendAlongRoute_cases reading before requestId subjects text with
    ⟨failed, routes, same⟩ | ⟨connectionId, resolved, routes, success, same⟩
  · rw [failed, same]
    exact ⟨rfl, rfl⟩
  · rw [success, same]
    exact ⟨messagesSent_sendToConnection _ connectionId text,
      GatewayState.sendToConnection_pending _ connectionId text⟩

/-- Whatever way an event takes, it leaves its text somewhere. -/
theorem dispatchEvent_gains (reading : OutboxReading) (requestId : Option String)
    (nonempty : subjects ≠ []) (visible : text ≠ "")
    (room : HasRoom before.pendingBySubject subjects) :
    Not (GainsNothing before (dispatchEvent reading before requestId subjects text).2) := by
  unfold dispatchEvent
  cases requestId with
  | none => exact sendToSubjects_gains _ _ _ nonempty visible room rfl rfl
  | some requestId =>
      have counts := @sendAlongRoute_counts before subjects text reading requestId
      dsimp only
      cases sending : sendAlongRoute reading before requestId subjects text with
      | mk success rest =>
          rw [sending] at counts
          cases success with
          | true =>
              intro nothing
              have same := nothing.messagesSent
              have more := counts.1
              dsimp only at same more
              rw [same, Bool.toNat_true] at more
              omega
          | false => exact sendToSubjects_gains _ _ _ nonempty visible room counts.1 counts.2

/-- A send of an empty text along a route changes at most the routes. -/
theorem sendAlongRoute_empty (reading : OutboxReading) (before : GatewayState)
    (requestId : String) (subjects : List String) :
    (sendAlongRoute reading before requestId subjects "").1 = false /\
      Exists fun routes => (sendAlongRoute reading before requestId subjects "").2.2 =
        { before with requestRoutes := routes } := by
  rcases sendAlongRoute_cases reading before requestId subjects "" with
    nothing | ⟨connectionId, resolved, routes, success, same⟩
  · exact nothing
  · have refused : GatewayState.sendToConnection { before with requestRoutes := resolved }
        connectionId "" = (false, { before with requestRoutes := resolved }) := by
      rw [GatewayState.sendToConnection, if_pos (Or.inr rfl)]
    rw [refused] at success same
    exact ⟨success, routes, same⟩

/-- An event without a text goes nowhere. -/
theorem dispatchEvent_empty (reading : OutboxReading) (before : GatewayState)
    (requestId : Option String) (subjects : List String) :
    GainsNothing before (dispatchEvent reading before requestId subjects "").2 := by
  have unsent : forall state : GatewayState,
      (state.sendToSubjects reading.order reading.stickyNow reading.bufferNow subjects "" true
        none).2 = state := by
    intro state
    rw [GatewayState.sendToSubjects, if_pos (Or.inr rfl)]
  cases requestId with
  | none =>
      rw [dispatchEvent, unsent]
      exact .refl before
  | some requestId =>
      rcases sendAlongRoute_empty reading before requestId subjects with
        ⟨failed, routes, touched⟩
      unfold dispatchEvent
      dsimp only
      cases sending : sendAlongRoute reading before requestId subjects "" with
      | mk success rest =>
          rw [sending] at failed touched
          dsimp only at failed touched
          subst failed
          dsimp only
          rw [unsent, touched]
          exact ⟨rfl, fun _ => List.Sublist.refl _⟩

end Dispatches

section Snapshots

variable (toLowercase : String -> String) (json : JsonText)

/-- An entry of the snapshot type that ends in one of the exits before the
dispatch: it names no subject, it is a complete snapshot, or it has no text. -/
def StaysInside (decoded : Json) : Prop :=
  decoded.stringsField "subjects" = [] \/
    CompleteSnapshot toLowercase ((decoded.get "payload").getD .null) \/
    (json.render (eventEnvelope ((decoded.get "payload").getD .null))).getD "" = ""

instance (decoded : Json) : Decidable (StaysInside toLowercase json decoded) :=
  inferInstanceAs (Decidable (_ \/ _ \/ _))

variable {toLowercase json}

theorem gainsNothing_of_staysInside {entry : ParsedEntry} {decoded : Json}
    (decodes : decodeEntry json entry.2 = some decoded)
    (announced : ((decoded.get "payload").getD .null).strField "type" = some snapshotType)
    (inside : StaysInside toLowercase json decoded) (reading : OutboxReading)
    (before : GatewayState) :
    GainsNothing before (processEntry toLowercase json reading before entry).2 := by
  unfold processEntry
  rw [decodes]
  dsimp only
  by_cases unaddressed : decoded.stringsField "subjects" = []
  · rw [if_pos unaddressed]
    exact .refl before
  · rw [if_neg unaddressed]
    have recognised := parseRelayContextSnapshot_isSome_iff toLowercase reading.snapshotNow
      ((decoded.get "payload").getD .null)
    rw [announced, Option.getD_some, eq_self_iff_true, true_and] at recognised
    cases parsed : parseRelayContextSnapshot toLowercase reading.snapshotNow
        ((decoded.get "payload").getD .null) with
    | some snapshot =>
        rcases GatewayState.applyRelayContextSnapshot_touches toLowercase reading.applyNow before
          snapshot with ⟨contexts, touched⟩
        dsimp only
        rw [touched]
        exact ⟨rfl, fun _ => List.Sublist.refl _⟩
    | none =>
        have incomplete :
            ¬ CompleteSnapshot toLowercase ((decoded.get "payload").getD .null) := by
          rw [← recognised, parsed]
          exact Bool.false_ne_true
        have textless := (inside.resolve_left unaddressed).resolve_left incomplete
        dsimp only
        cases rendered : json.render (eventEnvelope ((decoded.get "payload").getD .null)) with
        | none => exact .refl before
        | some text =>
            rw [rendered, Option.getD_some] at textless
            rw [textless]
            exact dispatchEvent_empty reading before _ _

/-- Every other snapshot is dispatched, and its text arrives somewhere. -/
theorem not_gainsNothing_of_leaks {entry : ParsedEntry} {decoded : Json}
    (decodes : decodeEntry json entry.2 = some decoded)
    (announced : ((decoded.get "payload").getD .null).strField "type" = some snapshotType)
    (leaks : ¬ StaysInside toLowercase json decoded) (reading : OutboxReading)
    {before : GatewayState}
    (room : HasRoom before.pendingBySubject (decoded.stringsField "subjects")) :
    ¬ GainsNothing before (processEntry toLowercase json reading before entry).2 := by
  have addressed : decoded.stringsField "subjects" ≠ [] := fun same => leaks (Or.inl same)
  have incomplete : ¬ CompleteSnapshot toLowercase ((decoded.get "payload").getD .null) :=
    fun complete => leaks (Or.inr (Or.inl complete))
  have recognised := parseRelayContextSnapshot_isSome_iff toLowercase reading.snapshotNow
    ((decoded.get "payload").getD .null)
  rw [announced, Option.getD_some, eq_self_iff_true, true_and] at recognised
  have parsed : parseRelayContextSnapshot toLowercase reading.snapshotNow
      ((decoded.get "payload").getD .null) = none := by
    rw [← Option.not_isSome_iff_eq_none, recognised]
    exact incomplete
  unfold processEntry
  rw [decodes]
  dsimp only
  rw [if_neg addressed, parsed]
  dsimp only
  cases rendered : json.render (eventEnvelope ((decoded.get "payload").getD .null)) with
  | none => exact absurd (Or.inr (Or.inr (by rw [rendered]; rfl))) leaks
  | some text =>
      have visible : text ≠ "" :=
        fun same => leaks (Or.inr (Or.inr (by rw [rendered]; exact same)))
      exact dispatchEvent_gains reading _ addressed visible room

/-- An entry of the snapshot type leaves the channels and the pending queues of
every state as they were exactly if it stays inside.  For one state this holds
as soon as some subject has room for one more message. -/
theorem snapshot_reaches_nobody_iff {entry : ParsedEntry} {decoded : Json}
    (decodes : decodeEntry json entry.2 = some decoded)
    (announced : ((decoded.get "payload").getD .null).strField "type" = some snapshotType) :
    ((forall (reading : OutboxReading) (before : GatewayState),
        GainsNothing before (processEntry toLowercase json reading before entry).2) <->
      StaysInside toLowercase json decoded) /\
    forall (reading : OutboxReading) (before : GatewayState),
      HasRoom before.pendingBySubject (decoded.stringsField "subjects") ->
        (GainsNothing before (processEntry toLowercase json reading before entry).2 <->
          StaysInside toLowercase json decoded) := by
  have inside : StaysInside toLowercase json decoded -> forall reading before,
      GainsNothing before (processEntry toLowercase json reading before entry).2 :=
    gainsNothing_of_staysInside decodes announced
  have pointwise : forall (reading : OutboxReading) (before : GatewayState),
      HasRoom before.pendingBySubject (decoded.stringsField "subjects") ->
        (GainsNothing before (processEntry toLowercase json reading before entry).2 <->
          StaysInside toLowercase json decoded) := by
    intro reading before room
    refine ⟨fun nothing => ?_, fun stays => inside stays reading before⟩
    by_contra leaks
    exact not_gainsNothing_of_leaks decodes announced leaks reading room nothing
  refine ⟨⟨fun nothing => ?_, inside⟩, pointwise⟩
  by_cases unaddressed : decoded.stringsField "subjects" = []
  · exact Or.inl unaddressed
  · rcases List.exists_mem_of_ne_nil _ unaddressed with ⟨subject, member⟩
    have reading : OutboxReading := ⟨.sorted, 0, 0, 0, 0, 0⟩
    have room : HasRoom (GatewayState.new none).pendingBySubject
        (decoded.stringsField "subjects") :=
      ⟨subject, member, (by decide : 0 < pendingMaxPerSubject)⟩
    exact (pointwise reading _ room).mp (nothing reading _)

end Snapshots

/-- A snapshot for the subject `user:alice` with a given policy version. -/
def snapshotOfVersion (version : Json) : Json :=
  Json.ofFields [("subjects", .array [.string "user:alice"]),
    ("payload", Json.ofFields [("type", .string snapshotType),
      ("operation_class", .string "relay_hotpath"), ("subject", .string "alice"),
      ("context_type", .string "file_transfer_peer"), ("policy_version", version)])]

def snapshotPayloadText (version : String) : String :=
  "\x7b\"context_type\":\"file_transfer_peer\",\"operation_class\":\"relay_hotpath\"," ++
    "\"policy_version\":" ++ version ++ ",\"subject\":\"alice\"," ++
    "\"type\":\"gateway_relay_context_snapshot\"\x7d"

def snapshotText (version : String) : String :=
  "\x7b\"payload\":" ++ snapshotPayloadText version ++
    ",\"subjects\":[\"user:alice\"]\x7d"

/-- The JSON functions on the texts of a snapshot. -/
def snapshotJson (version : Json) (versionText : String) : JsonText :=
  .ofTexts [(snapshotText versionText, snapshotOfVersion version)]

theorem snapshotJson_parse (version : Json) (versionText : String) :
    (snapshotJson version versionText).parse (snapshotText versionText) =
      some (snapshotOfVersion version) :=
  JsonText.ofTexts_parse_head _ _ _

/-- A snapshot whose policy version is a string. -/
def skewedSnapshot : Json := snapshotOfVersion (.string "7")

def skewedJson : JsonText := snapshotJson (.string "7") "\"7\""

def skewedEntry : ParsedEntry := ("1-0", AList.insert "data" (snapshotText "\"7\"") ∅)

theorem skewedEntry_decodes : decodeEntry skewedJson skewedEntry.2 = some skewedSnapshot := by
  have stored : skewedEntry.2.lookup "data" = some (snapshotText "\"7\"") :=
    AList.lookup_insert _
  rw [decodeEntry, stored, Option.getD_some]
  exact snapshotJson_parse _ _

def aliceConnected : GatewayState :=
  GatewayState.run asciiLowercase none
    [.registerConnection .sorted 0 "c1" "alice" "" ["user:alice"] 0]

/-- The skewed snapshot stays inside no state that has room for it. -/
theorem snapshot_reaches_nobody_iff_of_skewed :
    HasRoom aliceConnected.pendingBySubject (skewedSnapshot.stringsField "subjects") /\
      Not (GainsNothing aliceConnected (processEntry asciiLowercase skewedJson
        ⟨.sorted, 1, 1, 1, 1, 1⟩ aliceConnected skewedEntry).2) := by
  have room : HasRoom aliceConnected.pendingBySubject
      (skewedSnapshot.stringsField "subjects") :=
    ⟨"user:alice", by decide +kernel, by decide +kernel⟩
  have decodes : decodeEntry skewedJson skewedEntry.2 = some skewedSnapshot := skewedEntry_decodes
  have announced : ((skewedSnapshot.get "payload").getD .null).strField "type" =
      some snapshotType := by decide +kernel
  have leaks : Not (StaysInside asciiLowercase skewedJson skewedSnapshot) := by decide +kernel
  exact ⟨room, mt ((snapshot_reaches_nobody_iff decodes announced).2 _ _ room).mp leaks⟩

/-- The skewed snapshot is put on the channel of the connected user. -/
theorem skewed_snapshot_reaches_alice :
    ((skewedSnapshot.get "payload").getD .null).strField "type" = some snapshotType /\
      decodeEntry skewedJson skewedEntry.2 = some skewedSnapshot /\
      Not (GainsNothing aliceConnected (processEntry asciiLowercase skewedJson
        ⟨.sorted, 1, 1, 1, 1, 1⟩ aliceConnected skewedEntry).2) := by
  refine ⟨by decide +kernel, skewedEntry_decodes, fun nothing => ?_⟩
  have more : messagesSent (processEntry asciiLowercase skewedJson
      ⟨.sorted, 1, 1, 1, 1, 1⟩ aliceConnected skewedEntry).2.channels ≠
        messagesSent aliceConnected.channels := by decide +kernel
  exact more nothing.messagesSent

end Broker
end Gateway

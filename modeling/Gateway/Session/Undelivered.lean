import Gateway.Foundation.JsonCompact
import Gateway.State.Replay

namespace Gateway
namespace Session

open Foundation State

/-!
# What a broken socket leaves behind

A session loop takes the messages off its channel and writes them to the
client, one after the other.  The first text that cannot be written ends the
loop.  The receiver is then dropped together with all that is queued behind the
text, and the connection is unregistered.  Only the WebTransport loop puts a
push back into the pending queues, and only the one whose write has failed.
-/

inductive OutboundDeliveryMode where
  | requestResponse
  | push
  deriving DecidableEq, Repr

structure OutboundEventMeta where
  mode : OutboundDeliveryMode
  requestId : Option String
  eventType : Option String
  deriving DecidableEq, Repr

def classifyOutboundEvent (json : JsonText) (rawText : String) : OutboundEventMeta :=
  match json.parse rawText with
  | none => { mode := .push, requestId := none, eventType := none }
  | some parsed =>
      match parsed.get "payload" with
      | none => { mode := .push, requestId := none, eventType := none }
      | some payload =>
          let requestId := payload.trimmedField "request_id"
          { mode := if requestId.isSome then .requestResponse else .push
            requestId := requestId
            eventType := payload.trimmedField "type" }

def IsPush (json : JsonText) (text : String) : Prop :=
  (classifyOutboundEvent json text).mode = .push

instance (json : JsonText) (text : String) : Decidable (IsPush json text) :=
  inferInstanceAs (Decidable ((classifyOutboundEvent json text).mode = .push))

/-- The pushes among the messages of a channel. -/
def pushTexts (json : JsonText) : List OutboundMessage -> List String
  | [] => []
  | .text text :: rest =>
      if IsPush json text then text :: pushTexts json rest else pushTexts json rest
  | .close _ _ :: rest => pushTexts json rest

inductive LoopEnding where
  | exhausted
  | closed
  | writeFailed
  deriving DecidableEq, Repr

/-- What the client was sent, why the loop stopped, and the gateway then. -/
structure LoopOutcome where
  written : List OutboundMessage
  ending : LoopEnding
  gateway : GatewayState

/-- The outbound side of a session loop on the content of its channel.  The
number says how many writes succeed before the first one fails. -/
def outboundLoop (onClose : Nat -> OutboundMessage -> List OutboundMessage)
    (onFailure : GatewayState -> String -> GatewayState) (gateway : GatewayState) :
    Nat -> List OutboundMessage -> LoopOutcome
  | _, [] => { written := [], ending := .exhausted, gateway := gateway }
  | 0, .text text :: _ =>
      { written := [], ending := .writeFailed, gateway := onFailure gateway text }
  | writable + 1, .text text :: rest =>
      let later := outboundLoop onClose onFailure gateway writable rest
      { later with written := .text text :: later.written }
  | writable, .close code reason :: _ =>
      { written := onClose writable (.close code reason)
        ending := .closed
        gateway := gateway }

/-- The WebSocket loop announces a close to the client, whatever comes of it,
and does nothing about a text that it could not write. -/
def handleSocketLoop : GatewayState -> Nat -> List OutboundMessage -> LoopOutcome :=
  outboundLoop (fun writable frame => if writable = 0 then [] else [frame])
    (fun gateway _ => gateway)

/-- The WebTransport loop puts back a push that it could not write. -/
def handleIncomingSessionLoop (json : JsonText) (now : Int) (info : ConnectionInfo) :
    GatewayState -> Nat -> List OutboundMessage -> LoopOutcome :=
  outboundLoop (fun _ _ => [])
    (fun gateway text =>
      if IsPush json text then gateway.requeueForSubjects now info.subjects text else gateway)

inductive Transport where
  | websocket
  | webtransport
  deriving DecidableEq, Repr

/-- The loop of a transport, with the time at which a write fails. -/
def Transport.loop (json : JsonText) (now : Int) (info : ConnectionInfo) :
    Transport -> GatewayState -> Nat -> List OutboundMessage -> LoopOutcome
  | .websocket => handleSocketLoop
  | .webtransport => handleIncomingSessionLoop json now info

/-- The gateway after the loop has returned: the receiver is gone and the
connection is unregistered. -/
def endSession (receiver : Nat) (info : ConnectionInfo) (gateway : GatewayState) :
    GatewayState :=
  ((gateway.dropReceiver receiver).unregisterConnection info.connectionId).2

section Failure

variable (onClose : Nat -> OutboundMessage -> List OutboundMessage)
  (onFailure : GatewayState -> String -> GatewayState) (gateway : GatewayState)

/-- The channel held some texts that could be written, then the text that could
not, and then what nobody looked at. -/
structure FailsAt (writable : Nat) (content : List OutboundMessage) (before : List String)
    (text : String) (behind : List OutboundMessage) : Prop where
  content_eq : content = before.map OutboundMessage.text ++ .text text :: behind
  length_eq : before.length = writable

theorem outboundLoop_of_failsAt {writable : Nat} {content behind : List OutboundMessage}
    {before : List String} {text : String} (fails : FailsAt writable content before text behind) :
    outboundLoop onClose onFailure gateway writable content =
      { written := before.map OutboundMessage.text
        ending := .writeFailed
        gateway := onFailure gateway text } := by
  rcases fails with ⟨rfl, rfl⟩
  induction before with
  | nil => rfl
  | cons first before ih =>
      rw [List.map_cons, List.cons_append, List.length_cons, outboundLoop, ih]

/-- There is no other way to end in a failed write. -/
theorem exists_failsAt {writable : Nat} {content : List OutboundMessage}
    (failed : (outboundLoop onClose onFailure gateway writable content).ending =
      .writeFailed) :
    Exists fun before => Exists fun text => Exists fun behind =>
      FailsAt writable content before text behind := by
  induction content generalizing writable with
  | nil => cases writable <;> cases failed
  | cons message rest ih =>
      cases message with
      | close code reason => cases writable <;> cases failed
      | text text =>
          cases writable with
          | zero => exact ⟨[], text, rest, rfl, rfl⟩
          | succ writable =>
              rcases ih failed with ⟨before, last, behind, same, length⟩
              refine ⟨text :: before, last, behind, ?_, ?_⟩
              · rw [same, List.map_cons, List.cons_append]
              · rw [List.length_cons, length]

end Failure

/-- If the session ends in a failed write, then the pushes of its channel that
were not written, as many of the last ones as a queue can hold, wait in order
for each of its subjects. -/
def UnwrittenKept (json : JsonText) (transport : Transport) (now : Int) (receiver : Nat)
    (info : ConnectionInfo) (gateway : GatewayState) (writable : Nat)
    (content : List OutboundMessage) : Prop :=
  let outcome := transport.loop json now info gateway writable content
  outcome.ending = .writeFailed ->
    forall subject, subject ∈ info.subjects ->
      ((pushTexts json (content.drop outcome.written.length)).rtake pendingMaxPerSubject).Sublist
        ((pendingOf (endSession receiver info outcome.gateway).pendingBySubject subject).map
          PendingMessage.text)

/-- No push is queued behind the text that cannot be written.  This text is no
push either, unless it can be put back: it is not empty, and the session runs
over WebTransport. -/
def OnlyLosesResponses (json : JsonText) (transport : Transport) (writable : Nat)
    (content : List OutboundMessage) : Prop :=
  forall before text behind, FailsAt writable content before text behind ->
    pushTexts json behind = [] /\
      (IsPush json text -> transport = .webtransport /\ text ≠ "")

/-- What a transport does with the gateway about a text that it could not
write. -/
def Transport.onFailure (json : JsonText) (now : Int) (info : ConnectionInfo)
    (gateway : GatewayState) (text : String) : Transport -> GatewayState
  | .websocket => gateway
  | .webtransport =>
      if IsPush json text then gateway.requeueForSubjects now info.subjects text else gateway

theorem Transport.loop_of_failsAt (json : JsonText) (transport : Transport) (now : Int)
    (info : ConnectionInfo) (gateway : GatewayState) {writable : Nat}
    {content behind : List OutboundMessage} {before : List String} {text : String}
    (fails : FailsAt writable content before text behind) :
    transport.loop json now info gateway writable content =
      { written := before.map OutboundMessage.text
        ending := .writeFailed
        gateway := transport.onFailure json now info gateway text } := by
  cases transport with
  | websocket => exact outboundLoop_of_failsAt _ _ gateway fails
  | webtransport => exact outboundLoop_of_failsAt _ _ gateway fails

theorem Transport.exists_failsAt {json : JsonText} {transport : Transport} {now : Int}
    {info : ConnectionInfo} {gateway : GatewayState} {writable : Nat}
    {content : List OutboundMessage}
    (failed : (transport.loop json now info gateway writable content).ending = .writeFailed) :
    Exists fun before => Exists fun text => Exists fun behind =>
      FailsAt writable content before text behind := by
  cases transport with
  | websocket => exact Session.exists_failsAt _ _ gateway failed
  | webtransport => exact Session.exists_failsAt _ _ gateway failed

theorem endSession_pending (receiver : Nat) (info : ConnectionInfo) (gateway : GatewayState) :
    (endSession receiver info gateway).pendingBySubject = gateway.pendingBySubject :=
  GatewayState.unregisterConnection_pending (gateway.dropReceiver receiver) info.connectionId

/-- What was not written begins with the text whose write has failed. -/
theorem FailsAt.unwritten {writable : Nat} {content behind : List OutboundMessage}
    {before : List String} {text : String} (fails : FailsAt writable content before text behind) :
    content.drop (before.map OutboundMessage.text).length = .text text :: behind := by
  rw [fails.content_eq, List.drop_left]

/-- The guarantee, with the loop worked out. -/
theorem unwrittenKept_iff_of_failsAt (json : JsonText) (transport : Transport) (now : Int)
    (receiver : Nat) (info : ConnectionInfo) (gateway : GatewayState) {writable : Nat}
    {content behind : List OutboundMessage} {before : List String} {text : String}
    (fails : FailsAt writable content before text behind) :
    UnwrittenKept json transport now receiver info gateway writable content <->
      forall subject, subject ∈ info.subjects ->
        ((pushTexts json (.text text :: behind)).rtake pendingMaxPerSubject).Sublist
          ((pendingOf (transport.onFailure json now info gateway text).pendingBySubject
            subject).map PendingMessage.text) := by
  unfold UnwrittenKept
  dsimp only
  rw [transport.loop_of_failsAt json now info gateway fails]
  dsimp only
  rw [fails.unwritten, endSession_pending]
  exact imp_iff_right rfl

/-- A push that is put back is found in the queue of every subject. -/
theorem requeued_sublist (now : Int) (gateway : GatewayState) {subjects : List String}
    {text subject : String} (visible : text ≠ "") (member : subject ∈ subjects) :
    [text].Sublist ((pendingOf (gateway.requeueForSubjects now subjects
      text).pendingBySubject subject).map PendingMessage.text) := by
  rw [GatewayState.requeueForSubjects_eq now gateway (List.ne_nil_of_mem member) visible]
  rcases lookup_requeued_newest now gateway.pendingBySubject subjects text member with
    ⟨queue, found, newest⟩
  rw [pendingOf, found, Option.getD_some, List.singleton_sublist]
  exact List.mem_map.mpr ⟨_, List.mem_of_getLast? newest, rfl⟩

theorem OnlyLosesResponses.unwrittenKept {json : JsonText} {transport : Transport}
    {writable : Nat} {content : List OutboundMessage}
    (responses : OnlyLosesResponses json transport writable content) (now : Int) (receiver : Nat)
    (info : ConnectionInfo) (gateway : GatewayState) :
    UnwrittenKept json transport now receiver info gateway writable content := by
  intro failed
  rcases Transport.exists_failsAt failed with ⟨before, text, behind, fails⟩
  refine (unwrittenKept_iff_of_failsAt json transport now receiver info gateway fails).mpr ?_
    failed
  intro subject member
  rcases responses before text behind fails with ⟨noneBehind, restored⟩
  by_cases push : IsPush json text
  · rcases restored push with ⟨rfl, visible⟩
    have short : [text].rtake pendingMaxPerSubject = [text] := by
      simp [List.rtake, pendingMaxPerSubject]
    rw [pushTexts, if_pos push, noneBehind, short, Transport.onFailure, if_pos push]
    exact requeued_sublist now gateway visible member
  · rw [pushTexts, if_neg push, noneBehind]
    exact List.nil_sublist _

/-- At most one copy of the failing push is put back for a subject that
nothing waits for. -/
theorem onFailure_pending_of_idle (json : JsonText) (transport : Transport) (now : Int)
    {info : ConnectionInfo} {gateway : GatewayState} {subject : String}
    (idle : pendingOf gateway.pendingBySubject subject = [])
    (once : info.subjects.count subject = 1) (text : String) :
    (pendingOf (transport.onFailure json now info gateway text).pendingBySubject subject).map
        PendingMessage.text =
      if IsPush json text /\ transport = .webtransport /\ text ≠ "" then [text] else [] := by
  cases transport with
  | websocket =>
      rw [Transport.onFailure, idle, if_neg (by rintro ⟨_, websocket, _⟩; cases websocket)]
      rfl
  | webtransport =>
      rw [Transport.onFailure]
      by_cases push : IsPush json text
      · by_cases visible : text = ""
        · rw [if_pos push, if_neg fun all => all.2.2 visible, GatewayState.requeueForSubjects,
            if_pos (Or.inr visible), idle]
          rfl
        · have member : subject ∈ info.subjects := List.count_pos_iff.mp (by omega)
          rw [if_pos push, if_pos ⟨push, rfl, visible⟩,
            GatewayState.requeueForSubjects_eq now gateway (List.ne_nil_of_mem member) visible]
          dsimp only
          rw [pendingOf_requeued, idle, once]
          · rfl
          · rw [idle]
            exact fun item listed => absurd listed List.not_mem_nil
          · rw [idle, once]
            decide
      · rw [if_neg push, if_neg fun all => push all.1, idle]
        rfl

theorem min_length_le_of_rtake_sublist {texts waiting : List String} {bound : Nat}
    (kept : (texts.rtake bound).Sublist waiting) : min bound texts.length ≤ waiting.length := by
  have length := kept.length_le
  rw [List.rtake, List.length_drop] at length
  omega

/-- Where nothing waits for one of the subjects, the guarantee needs that only
responses are lost. -/
theorem unwrittenKept_iff_of_idle (json : JsonText) (transport : Transport) (now : Int)
    (receiver : Nat) (info : ConnectionInfo) {gateway : GatewayState} {subject : String}
    (idle : pendingOf gateway.pendingBySubject subject = [])
    (once : info.subjects.count subject = 1) (writable : Nat) (content : List OutboundMessage) :
    UnwrittenKept json transport now receiver info gateway writable content <->
      OnlyLosesResponses json transport writable content := by
  constructor
  · intro kept before text behind fails
    have member : subject ∈ info.subjects := List.count_pos_iff.mp (by omega)
    have found := (unwrittenKept_iff_of_failsAt json transport now receiver info gateway
      fails).mp kept subject member
    rw [onFailure_pending_of_idle json transport now idle once] at found
    have bound := min_length_le_of_rtake_sublist found
    by_cases push : IsPush json text
    · rw [pushTexts, if_pos push, List.length_cons, pendingMaxPerSubject] at bound
      split at bound
      · next restored =>
        rw [List.length_singleton] at bound
        exact ⟨List.length_eq_zero_iff.mp (by omega), fun _ => restored.2⟩
      · rw [List.length_nil] at bound
        omega
    · rw [pushTexts, if_neg push, if_neg fun all => push all.1, List.length_nil,
        pendingMaxPerSubject] at bound
      exact ⟨List.length_eq_zero_iff.mp (by omega), fun pushes => absurd pushes push⟩
  · intro responses
    exact responses.unwrittenKept now receiver info gateway

/-- A loop keeps the pushes of its channel from every gateway state exactly if
only responses are lost with it. -/
theorem broken_socket_keeps_pushes_iff (json : JsonText) (transport : Transport)
    (writable : Nat) (content : List OutboundMessage) :
    (forall (now : Int) (receiver : Nat) (info : ConnectionInfo) (gateway : GatewayState),
      UnwrittenKept json transport now receiver info gateway writable content) <->
      OnlyLosesResponses json transport writable content := by
  constructor
  · intro kept
    let info : ConnectionInfo :=
      { connectionId := "c1", userId := "alice", clientInstanceId := ""
        subjects := ["user:alice"], connectedAt := 0, lastSeenAt := 0 }
    have idle : pendingOf (GatewayState.new none).pendingBySubject "user:alice" = [] := rfl
    exact (unwrittenKept_iff_of_idle json transport 0 0 info idle rfl writable
      content).mp (kept 0 0 info (GatewayState.new none))
  · intro responses now receiver info gateway
    exact responses.unwrittenKept now receiver info gateway

def firstPush : String := "\x7b\"payload\":\"first\",\"type\":\"event\"\x7d"

def secondPush : String := "\x7b\"payload\":\"second\",\"type\":\"event\"\x7d"

/-- How the two texts parse. -/
def pushedJson : JsonText :=
  .ofTexts [(firstPush, Json.ofFields [("type", .string "event"), ("payload", .string "first")]),
    (secondPush, Json.ofFields [("type", .string "event"), ("payload", .string "second")])]

/-- A session is sent two pushes, and the first one cannot be written. -/
theorem broken_socket_loses_pushes :
    let gateway := GatewayState.run asciiLowercase none
      [.registerConnection .sorted 0 "c1" "alice" "" ["user:alice"] 0,
        .sendToSubjects .sorted 1 1 ["user:alice"] firstPush true none,
        .sendToSubjects .sorted 1 1 ["user:alice"] secondPush true none]
    let info : ConnectionInfo :=
      { connectionId := "c1", userId := "alice", clientInstanceId := ""
        subjects := ["user:alice"], connectedAt := 0, lastSeenAt := 0 }
    let content : List OutboundMessage := [.text firstPush, .text secondPush]
    gateway.channels[0]? = some { sent := content, receiverAlive := true } /\
      Not (UnwrittenKept pushedJson .websocket 1 0 info gateway 0 content) /\
      Not (UnwrittenKept pushedJson .webtransport 1 0 info gateway 0 content) := by
  intro gateway info content
  have idle : pendingOf gateway.pendingBySubject "user:alice" = [] := by decide +kernel
  have fails : FailsAt 0 content [] firstPush [.text secondPush] := ⟨rfl, rfl⟩
  have lost : forall transport, Not (UnwrittenKept pushedJson transport 1 0 info gateway 0
      content) := by
    intro transport kept
    have responses := (unwrittenKept_iff_of_idle pushedJson transport 1 0 info idle
      rfl 0 content).mp kept
    exact absurd (responses [] firstPush _ fails).1 (by decide +kernel)
  exact ⟨by decide +kernel, lost .websocket, lost .webtransport⟩

end Session
end Gateway

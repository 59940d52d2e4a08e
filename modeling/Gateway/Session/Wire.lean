import Gateway.Ingress.MessageOperations
import Gateway.Preauth.Authentication
import Gateway.Session.Undelivered

namespace Gateway
namespace Session

open Foundation State Ingress Preauth

/-!
# The session loops on the wire

A session authenticates its client, registers, greets the client, and then
waits for two things at once: a message on its channel, which it writes to the
client, and something that the client sends, which it handles.  While it
handles a message it writes nothing.  The operations of the other sessions, of the
outbox, of the HTTP API and of the prune task come between any two of its steps.
-/

/-- What is written to a client.  A WebTransport session opens a stream for each
text and writes nothing else. -/
inductive ClientFrame where
  | text (text : String)
  | close (code : Nat) (reason : String)
  | pong (payload : ByteArray)

def ClientFrame.isPong : ClientFrame -> Bool
  | .pong _ => true
  | _ => false

/-- The text of a payload that is written before the session serves its
channel.  A WebTransport session writes a string as it is. -/
def Transport.greetingText (json : JsonText) (payload : Json) : Transport -> Option String
  | .websocket => json.render payload
  | .webtransport =>
      match payload with
      | .string text => some text
      | other => json.render other

/-- What a session makes of something that arrives. -/
inductive Incoming where
  | message (raw : String)
  | ping (payload : ByteArray)
  | ignored
  | ended

def Transport.Arrival : Transport -> Type
  | .websocket => WsFrame
  | .webtransport => UniStream

def socketIncoming : WsFrame -> Incoming
  | .text text => .message text
  | .binary bytes => .message (fromUtf8Lossy bytes)
  | .ping payload => .ping payload
  | .pong _ => .ignored
  | .close => .ended
  | .error => .ended

def streamIncoming : UniStream -> Incoming
  | .read bytes =>
      if bytes.size = 0 then .ignored else .message ((String.fromUTF8? bytes).getD "")
  | .error => .ended

def Transport.incoming : (transport : Transport) -> transport.Arrival -> Incoming
  | .websocket => socketIncoming
  | .webtransport => streamIncoming

/-- What a client offers to authenticate itself. -/
inductive Approach where
  | socket (query : WsAuthQuery) (frames : List WsFrame)
  | connection (path : String) (streams : List UniStream)

def Approach.transport : Approach -> Transport
  | .socket .. => .websocket
  | .connection .. => .webtransport

def Approach.authenticate (registry : CommandRegistry) (config : AuthConfig) (json : JsonText)
    (oracles : Nat -> AuthOracle) : Approach -> RetryRun Json AuthContext
  | .socket query frames => authenticateSocket registry config json oracles query frames
  | .connection path streams => authenticateConnection registry config json oracles path streams

/-- The attempts that a client makes, how its surroundings answer at each of them,
and how the attempts end. -/
structure Attempts where
  approach : Approach
  oracles : Nat -> AuthOracle
  run : RetryRun Json AuthContext

/-- The attempts run as the code runs them, over this transport. -/
structure Attempts.Made (registry : CommandRegistry) (config : AuthConfig) (json : JsonText)
    (transport : Transport) (attempts : Attempts) : Prop where
  carried : attempts.approach.transport = transport
  ran : attempts.run = attempts.approach.authenticate registry config json attempts.oracles

/-- Texts that report failed attempts.  It does not matter if one cannot be
sent. -/
def Answers (json : JsonText) (transport : Transport) (failures : List Json)
    (answers : List String) : Prop :=
  (answers.map some).Sublist (failures.map fun failure => transport.greetingText json failure)

def authOk (userId : String) : Json :=
  Json.ofFields [("type", .string "auth_ok"), ("user_id", .string userId)]

/-- What is written after the registration and before the channel is served. -/
def greetings (context : AuthContext) : List Json :=
  context.bootstrapSuccessPayload.toList ++ [authOk context.userId]

/-! ## Sessions -/

/-- What a session holds after its registration: the attempts and the context of
its authentication, its info, the receiver of its channel, and how many messages it
has taken from there. -/
structure Attachment where
  attempts : Attempts
  context : AuthContext
  info : ConnectionInfo
  receiver : Nat
  taken : Nat

def Attachment.next (attachment : Attachment) : Attachment :=
  { attachment with taken := attachment.taken + 1 }

/-- Why a session stops. -/
inductive Ending where
  | greetingFailed
  | writeFailed
  | closed
  | exhausted
  | clientEnded
  deriving DecidableEq, Repr

inductive WirePhase where
  | arriving
  | refused (attempts : Attempts)
  | greeting (attachment : Attachment) (remaining : List Json)
  | serving (attachment : Attachment)
  | handling (attachment : Attachment) (raw : String) (reading : ClientReading)
  | stopping (attachment : Attachment) (ending : Ending)
  | released (attachment : Attachment) (ending : Ending)
  | returned (attachment : Attachment) (ending : Ending)

structure WireSession where
  connectionId : String
  transport : Transport
  phase : WirePhase
  written : List ClientFrame

structure WireWorld where
  gateway : GatewayState
  sessions : List WireSession

/-- No session has begun. -/
def WireWorld.initial (maxConnectionsPerUser : Option Nat)
    (clients : List (String × Transport)) : WireWorld where
  gateway := GatewayState.new maxConnectionsPerUser
  sessions := clients.map fun client => ⟨client.1, client.2, .arriving, []⟩

/-- What other tasks than the sessions do to the gateway. -/
def IsOutside (operation : Operation) : Prop :=
  operation.isTraffic = true \/
    Exists fun order => Exists fun now => Exists fun staleAfterSeconds =>
      operation = .pruneStaleConnections order now staleAfterSeconds

namespace WireWorld

/-- The messages that were sent to a session. -/
def content (world : WireWorld) (receiver : Nat) : List OutboundMessage :=
  (world.gateway.channels[receiver]?.map Channel.sent).getD []

/-- All senders of a channel are gone. -/
def SendersGone (world : WireWorld) (receiver : Nat) : Prop :=
  forall id handle, world.gateway.connections.lookup id = some handle -> handle.sender ≠ receiver

/-- A session moves, writes, and performs an operation on the gateway or none. -/
def advance (toLowercase : String -> String) (world : WireWorld) (index : Nat)
    (session : WireSession) (operation : Option Operation) (phase : WirePhase)
    (written : List ClientFrame) : WireWorld where
  gateway := operation.elim world.gateway (Operation.apply toLowercase world.gateway)
  sessions := world.sessions.set index
    { session with phase := phase, written := session.written ++ written }

end WireWorld

/-- The operation that requeues a push whose write has failed. -/
def Transport.requeue (json : JsonText) (now : Int) (info : ConnectionInfo) (text : String) :
    Transport -> Option Operation
  | .websocket => none
  | .webtransport =>
      if IsPush json text then some (.requeueForSubjects now info.subjects text) else none

section Steps

variable (registry : CommandRegistry) (config : AuthConfig) (toLowercase : String -> String)
  (json : JsonText)

/-- The steps of a session, each with the operation that it performs and what it
writes. -/
inductive SessionMove (world : WireWorld) (session : WireSession) :
    WirePhase -> Option Operation -> WirePhase -> List ClientFrame -> Prop where
  | register {attempts : Attempts}
      (made : attempts.Made registry config json session.transport) {context : AuthContext}
      (accepted : attempts.run.outcome = .succeeded context) {answers : List String}
      (answered : Answers json session.transport attempts.run.failures answers)
      (order : HashOrder String) (now connectedAt : Int) {registration : Registration}
      (registers : (world.gateway.registerConnection order now session.connectionId context.userId
        context.clientInstanceId (connectionSubjects toLowercase context.userId)
        connectedAt).1 = registration) :
      SessionMove world session .arriving
        (some (.registerConnection order now session.connectionId context.userId
          context.clientInstanceId (connectionSubjects toLowercase context.userId) connectedAt))
        (.greeting ⟨attempts, context, registration.info, registration.receiver, 0⟩
          (greetings context))
        (answers.map .text)
  | refuse {attempts : Attempts}
      (made : attempts.Made registry config json session.transport)
      (broken : attempts.run.outcome = .broken) {answers : List String}
      (answered : Answers json session.transport attempts.run.failures answers) :
      SessionMove world session .arriving
        (some (.unregisterConnection session.connectionId)) (.refused attempts)
        (answers.map .text)
  | greet {attachment : Attachment} {payload : Json} {remaining : List Json} {text : String}
      (renders : session.transport.greetingText json payload = some text) :
      SessionMove world session (.greeting attachment (payload :: remaining)) none
        (.greeting attachment remaining) [.text text]
  | greetingFail {attachment : Attachment} {payload : Json} {remaining : List Json} :
      SessionMove world session (.greeting attachment (payload :: remaining)) none
        (.stopping attachment .greetingFailed) []
  | serve {attachment : Attachment} :
      SessionMove world session (.greeting attachment []) none (.serving attachment) []
  | write {attachment : Attachment} {text : String}
      (head : (world.content attachment.receiver)[attachment.taken]? = some (.text text)) :
      SessionMove world session (.serving attachment) none (.serving attachment.next) [.text text]
  | writeFail {attachment : Attachment} {text : String}
      (head : (world.content attachment.receiver)[attachment.taken]? = some (.text text))
      (now : Int) :
      SessionMove world session (.serving attachment)
        (session.transport.requeue json now attachment.info text)
        (.stopping attachment .writeFailed) []
  | close {attachment : Attachment} {code : Nat} {reason : String}
      (head : (world.content attachment.receiver)[attachment.taken]? = some (.close code reason))
      {announced : List ClientFrame}
      (announces : announced = [] \/
        (session.transport = .websocket /\ announced = [.close code reason])) :
      SessionMove world session (.serving attachment) none (.stopping attachment.next .closed)
        announced
  | exhaust {attachment : Attachment}
      (drained : (world.content attachment.receiver).length = attachment.taken)
      (gone : world.SendersGone attachment.receiver) :
      SessionMove world session (.serving attachment) none (.stopping attachment .exhausted) []
  | read {attachment : Attachment} (arrival : session.transport.Arrival) {raw : String}
      (arrives : session.transport.incoming arrival = .message raw) (reading : ClientReading) :
      SessionMove world session (.serving attachment) none (.handling attachment raw reading) []
  | ping {attachment : Attachment} (arrival : session.transport.Arrival) {payload : ByteArray}
      (arrives : session.transport.incoming arrival = .ping payload) {answer : List ClientFrame}
      (answers : answer = [] \/ answer = [.pong payload]) :
      SessionMove world session (.serving attachment) none (.serving attachment) answer
  | ignore {attachment : Attachment} (arrival : session.transport.Arrival)
      (arrives : session.transport.incoming arrival = .ignored) :
      SessionMove world session (.serving attachment) none (.serving attachment) []
  | hangUp {attachment : Attachment} (arrival : session.transport.Arrival)
      (arrives : session.transport.incoming arrival = .ended) :
      SessionMove world session (.serving attachment) none (.stopping attachment .clientEnded) []
  | perform {attachment : Attachment} {raw : String} {reading : ClientReading}
      {operation : Operation}
      (allowed : MessageOperation registry json reading session.connectionId attachment.info raw
        operation) :
      SessionMove world session (.handling attachment raw reading) (some operation)
        (.handling attachment raw reading) []
  | handled {attachment : Attachment} {raw : String} {reading : ClientReading} :
      SessionMove world session (.handling attachment raw reading) none (.serving attachment) []
  | release {attachment : Attachment} {ending : Ending} :
      SessionMove world session (.stopping attachment ending)
        (some (.dropReceiver attachment.receiver)) (.released attachment ending) []
  | unregister {attachment : Attachment} {ending : Ending} :
      SessionMove world session (.released attachment ending)
        (some (.unregisterConnection session.connectionId)) (.returned attachment ending) []

/-- A step of one session, or an operation of another task.  The label is
the operation, if there is one. -/
inductive WireStep : WireWorld -> Option Operation -> WireWorld -> Prop where
  | session {world : WireWorld} {index : Nat} {session : WireSession}
      (there : world.sessions[index]? = some session) {operation : Option Operation}
      {phase : WirePhase} {written : List ClientFrame}
      (moves : SessionMove registry config toLowercase json world session session.phase operation
        phase written) :
      WireStep world operation
        (world.advance toLowercase index session operation phase written)
  | outside {world : WireWorld} {operation : Operation} (outside : IsOutside operation) :
      WireStep world (some operation)
        { world with gateway := operation.apply toLowercase world.gateway }

/-- Handling a message without a pause is a sequence of such steps. -/
theorem handleClientMessage_steps {world : WireWorld} {index : Nat} {session : WireSession}
    (there : world.sessions[index]? = some session) {attachment : Attachment} {raw : String}
    {reading : ClientReading} (handling : session.phase = .handling attachment raw reading)
    (hasRedis : Bool) :
    Exists fun labels => Execution (WireStep registry config toLowercase json) world labels
      { world with
        gateway := (handleClientMessage registry toLowercase json reading hasRedis world.gateway
          session.connectionId attachment.info raw).state } := by
  rcases handleClientMessage_performs registry toLowercase json reading session.connectionId
    attachment.info raw world.gateway hasRedis with ⟨operations, performs⟩
  refine ⟨operations.map some,
    performs.map (fun gateway => { world with gateway := gateway }) some ?_⟩
  rintro before operation after ⟨allowed, rfl⟩
  have moves : SessionMove registry config toLowercase json { world with gateway := before } session
      session.phase (some operation) session.phase [] := by
    rw [handling]
    exact .perform allowed
  have same : WireWorld.advance toLowercase { world with gateway := before } index session
      (some operation) session.phase [] =
        { world with gateway := operation.apply toLowercase before } := by
    have still : world.sessions.set index session = world.sessions := by
      rcases List.getElem?_eq_some_iff.mp there with ⟨bound, found⟩
      rw [← found, List.set_getElem_self bound]
    rw [WireWorld.advance, List.append_nil]
    exact congrArg (WireWorld.mk _) still
  have found : { world with gateway := before }.sessions[index]? = some session := there
  exact same ▸ WireStep.session found moves

end Steps

end Session
end Gateway

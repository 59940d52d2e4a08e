import Gateway.Session.Wire
import Gateway.State.ChannelLog

namespace Gateway
namespace Session

open Foundation State Ingress Preauth

/-!
# What a client reads

A client reads the answers to its failed attempts, then the greetings, and then
the texts of its channel, in order and without a gap, up to some point.  If it was
the gateway that ended the session, then it has read all of them.  With the log of
a connection this says which operations the client has heard of.
-/

/-- The channel begins with these messages. -/
def Carries (index : Nat) (content : List OutboundMessage) (state : GatewayState) : Prop :=
  Exists fun channel => state.channels[index]? = some channel /\ content <+: channel.sent

namespace Carries

variable {index : Nat} {content : List OutboundMessage} {state : GatewayState}

theorem sendOn (carries : Carries index content state) (sender : Nat)
    (message : OutboundMessage) :
    Carries index content
      { state with channels := (State.sendOn state.channels sender message).2 } := by
  rcases carries with ⟨channel, stored, begins⟩
  unfold Carries
  rw [getElem?_sendOn, stored]
  split
  · refine ⟨channel.receive message, rfl, ?_⟩
    unfold Channel.receive
    split
    · exact begins.trans (List.prefix_append _ _)
    · exact begins
  · exact ⟨channel, rfl, begins⟩

theorem unregisterConnection (carries : Carries index content state) (connectionId : String) :
    Carries index content (state.unregisterConnection connectionId).2 := by
  unfold Carries
  rw [GatewayState.unregisterConnection_channels]
  exact carries

theorem dropReceiver (carries : Carries index content state) (receiver : Nat) :
    Carries index content (state.dropReceiver receiver) := by
  rcases carries with ⟨channel, stored, begins⟩
  unfold Carries
  simp only [GatewayState.dropReceiver, List.getElem?_modify, stored]
  split
  · exact ⟨_, rfl, begins⟩
  · exact ⟨channel, rfl, begins⟩

theorem kept (index : Nat) (content : List OutboundMessage) :
    KeptByChanges (Carries index content) where
  text := fun _ _ handle text _ carries => carries.sendOn handle.sender (.text text)
  unregister := fun _ connectionId carries => carries.unregisterConnection connectionId
  evict := by
    intro state connectionId close carries
    unfold GatewayState.evictConnection
    apply unregisterConnection
    split
    · exact carries.sendOn _ _
    · exact carries
  tables := fun _ _ _ _ _ carries => carries
  alive := fun _ _ _ carries => carries
  drop := fun _ receiver carries => carries.dropReceiver receiver

theorem insertConnection (carries : Carries index content state) (info : ConnectionInfo) :
    Carries index content (state.insertConnection info) := by
  rcases carries with ⟨channel, stored, begins⟩
  refine ⟨channel, ?_, begins⟩
  simp only [GatewayState.insertConnection]
  rw [List.getElem?_append_left (List.getElem?_eq_some_iff.mp stored).1, stored]

theorem apply (carries : Carries index content state) (toLowercase : String -> String)
    (operation : Operation) : Carries index content (operation.apply toLowercase state) :=
  (kept index content).toKeptByCalls.apply_of_insert (fun _ _ carries => carries)
    (fun _ _ carries => carries) (fun _ info carries => carries.insertConnection info) toLowercase
    (fun receiver _ => carries.dropReceiver receiver) carries

end Carries

/-- At most one close frame and nothing else. -/
def IsParting (closes : List OutboundMessage) : Prop :=
  closes = [] \/ Exists fun code => Exists fun reason => closes = [.close code reason]

theorem isParting_parting (operation : Operation) : IsParting operation.parting := by
  cases operation with
  | registerConnection => exact Or.inr ⟨_, _, rfl⟩
  | markSessionReady => exact Or.inr ⟨_, _, rfl⟩
  | _ => exact Or.inl rfl

/-- Some texts from the front of a channel leave the other texts and the close
frame. -/
theorem texts_behind {texts log : List String} {behind closes : List OutboundMessage}
    (parting : IsParting closes)
    (same : texts.map OutboundMessage.text ++ behind = log.map .text ++ closes) :
    Exists fun rest => log = texts ++ rest /\ behind = rest.map .text ++ closes := by
  induction texts generalizing log with
  | nil => exact ⟨log, rfl, same⟩
  | cons text texts ih =>
      cases log with
      | nil =>
          rcases parting with rfl | ⟨code, reason, rfl⟩
          · cases same
          · cases same
      | cons first log =>
          rw [List.map_cons, List.map_cons, List.cons_append, List.cons_append] at same
          injection same with head tail
          injection head with head
          rcases ih tail with ⟨rest, rfl, behind⟩
          exact ⟨rest, by rw [head, List.cons_append], behind⟩

theorem IsParting.eq_nil {closes behind : List OutboundMessage} {code : Nat} {reason : String}
    {rest : List String} (parting : IsParting closes)
    (same : .close code reason :: behind = rest.map .text ++ closes) :
    rest = [] /\ behind = [] := by
  cases rest with
  | cons text rest => cases same
  | nil =>
      rcases parting with rfl | ⟨otherCode, otherReason, rfl⟩
      · cases same
      · injection same with _ none
        exact ⟨rfl, none⟩

/-! ## Progress of a session -/

/-- What was written but for pongs. -/
def WireSession.data (session : WireSession) : List ClientFrame :=
  session.written.filter fun frame => !frame.isPong

def WirePhase.attachment : WirePhase -> Option Attachment
  | .arriving => none
  | .refused _ => none
  | .greeting attachment _ => some attachment
  | .serving attachment => some attachment
  | .handling attachment _ _ => some attachment
  | .stopping attachment _ => some attachment
  | .released attachment _ => some attachment
  | .returned attachment _ => some attachment

def WirePhase.ending : WirePhase -> Option Ending
  | .stopping _ ending => some ending
  | .released _ ending => some ending
  | .returned _ ending => some ending
  | _ => none

/-- The greetings as they are written. -/
def greetingTexts (json : JsonText) (session : WireSession) (attachment : Attachment) :
    List (Option String) :=
  (greetings attachment.context).map fun payload => session.transport.greetingText json payload

/-- The session has written these texts of its channel, after all of its
greetings. -/
def Wrote (json : JsonText) (session : WireSession) (attachment : Attachment)
    (texts : List String) (closing : List ClientFrame) : Prop :=
  Exists fun answers => Exists fun greeted =>
    session.data = (answers ++ greeted ++ texts).map .text ++ closing /\
      greeted.map some = greetingTexts json session attachment /\
      Answers json session.transport attachment.attempts.run.failures answers

/-- It has not written all of its greetings, and nothing of its channel. -/
def Greeted (json : JsonText) (session : WireSession) (attachment : Attachment)
    (remaining : List (Option String)) : Prop :=
  Exists fun answers : List String => Exists fun greeted : List String =>
    session.data = (answers ++ greeted).map .text /\
      greeted.map some ++ remaining = greetingTexts json session attachment /\
      Answers json session.transport attachment.attempts.run.failures answers

/-- It has taken some texts from its channel and has written them. -/
def Running (json : JsonText) (gateway : GatewayState) (session : WireSession)
    (attachment : Attachment) : Prop :=
  Exists fun texts => Wrote json session attachment texts [] /\
    texts.length = attachment.taken /\ Carries attachment.receiver (texts.map .text) gateway

/-- How far a session has come when it stops. -/
def Stopped (json : JsonText) (gateway : GatewayState) (session : WireSession)
    (attachment : Attachment) : Ending -> Prop
  | .greetingFailed => attachment.taken = 0 /\
      Exists fun remaining => Greeted json session attachment remaining
  | .writeFailed => Running json gateway session attachment
  | .clientEnded => Running json gateway session attachment
  | .exhausted => Exists fun texts => Wrote json session attachment texts [] /\
      texts.length = attachment.taken /\ Settled attachment.receiver (texts.map .text) gateway
  | .closed => Exists fun texts => Exists fun code => Exists fun reason =>
      Exists fun announced : List ClientFrame =>
        (announced = [] \/
          (session.transport = .websocket /\ announced = [.close code reason])) /\
        Wrote json session attachment texts announced /\
        texts.length + 1 = attachment.taken /\
        Settled attachment.receiver (texts.map .text ++ [.close code reason]) gateway

def Progress (json : JsonText) (gateway : GatewayState) (session : WireSession) :
    WirePhase -> Prop
  | .arriving => session.written = []
  | .refused attempts => Exists fun answers : List String =>
      session.data = answers.map .text /\
        Answers json session.transport attempts.run.failures answers
  | .greeting attachment remaining =>
      attachment.taken = 0 /\ Carries attachment.receiver [] gateway /\
        Greeted json session attachment
          (remaining.map fun payload => session.transport.greetingText json payload)
  | .serving attachment => Running json gateway session attachment
  | .handling attachment _ _ => Running json gateway session attachment
  | .stopping attachment ending => Stopped json gateway session attachment ending
  | .released attachment ending => Stopped json gateway session attachment ending
  | .returned attachment ending => Stopped json gateway session attachment ending

section Operations

variable {json : JsonText} {gateway : GatewayState} {session : WireSession}
  {attachment : Attachment}

theorem Running.apply (running : Running json gateway session attachment)
    (toLowercase : String -> String) (operation : Operation) :
    Running json (operation.apply toLowercase gateway) session attachment := by
  rcases running with ⟨texts, wrote, length, carries⟩
  exact ⟨texts, wrote, length, carries.apply toLowercase operation⟩

theorem Stopped.apply {ending : Ending} (stopped : Stopped json gateway session attachment ending)
    (toLowercase : String -> String) (operation : Operation) :
    Stopped json (operation.apply toLowercase gateway) session attachment ending := by
  cases ending with
  | greetingFailed => exact stopped
  | writeFailed => exact Running.apply stopped toLowercase operation
  | clientEnded => exact Running.apply stopped toLowercase operation
  | exhausted =>
      rcases stopped with ⟨texts, wrote, length, settled⟩
      exact ⟨texts, wrote, length, settled.apply toLowercase operation⟩
  | closed =>
      rcases stopped with ⟨texts, code, reason, announced, announces, wrote, length, settled⟩
      exact ⟨texts, code, reason, announced, announces, wrote, length,
        settled.apply toLowercase operation⟩

/-- Whatever happens to the gateway, a session has come as far as it has. -/
theorem Progress.apply {phase : WirePhase} (progress : Progress json gateway session phase)
    (toLowercase : String -> String) (operation : Operation) :
    Progress json (operation.apply toLowercase gateway) session phase := by
  cases phase with
  | arriving => exact progress
  | refused => exact progress
  | greeting attachment remaining =>
      exact ⟨progress.1, progress.2.1.apply toLowercase operation, progress.2.2⟩
  | serving attachment => exact Running.apply progress toLowercase operation
  | handling attachment raw reading => exact Running.apply progress toLowercase operation
  | stopping attachment ending => exact Stopped.apply progress toLowercase operation
  | released attachment ending => exact Stopped.apply progress toLowercase operation
  | returned attachment ending => exact Stopped.apply progress toLowercase operation

end Operations

section Origins

variable (toLowercase : String -> String) (maxConnectionsPerUser : Option Nat)

/-- The texts that a registration finds waiting. -/
def replayedBy (state : GatewayState) : Operation -> List String
  | .registerConnection _ now _ _ _ subjects _ =>
      (subjects.foldl (takePending now) ([], state.pendingBySubject)).1
  | _ => []

/-- The registration of the session among the operations, and how its
connection has fared since. -/
def Origin (operations : List Operation) (connectionId : String) (attachment : Attachment) :
    Prop :=
  Exists fun earlier => Exists fun operation => Exists fun later =>
    operations = earlier ++ operation :: later /\
      operation.registered = some attachment.info /\
      attachment.info.connectionId = connectionId /\
      Standing toLowercase
        (GatewayState.run toLowercase maxConnectionsPerUser (earlier ++ [operation])) connectionId
        attachment.receiver attachment.info.subjects
        (replayedBy (GatewayState.run toLowercase maxConnectionsPerUser earlier) operation) later
        (GatewayState.run toLowercase maxConnectionsPerUser operations)

theorem foldl_run (earlier later : List Operation) (operation : Operation) :
    later.foldl (Operation.apply toLowercase)
        (GatewayState.run toLowercase maxConnectionsPerUser (earlier ++ [operation])) =
      GatewayState.run toLowercase maxConnectionsPerUser (earlier ++ operation :: later) := by
  simp only [GatewayState.run, List.foldl_append, List.foldl_cons, List.foldl_nil]

variable {toLowercase maxConnectionsPerUser}

theorem Origin.concat {operations : List Operation} {connectionId : String}
    {attachment : Attachment} {operation : Operation}
    (fresh : FreshIds (operations ++ [operation]))
    (origin : Origin toLowercase maxConnectionsPerUser operations connectionId attachment) :
    Origin toLowercase maxConnectionsPerUser (operations ++ [operation]) connectionId
      attachment := by
  rcases origin with ⟨earlier, registration, later, rfl, registers, named, standing⟩
  refine ⟨earlier, registration, later ++ [operation], ?_, registers, named, ?_⟩
  · rw [List.append_assoc, List.cons_append]
  · have split : earlier ++ registration :: later ++ [operation] =
        earlier ++ registration :: (later ++ [operation]) := by
      rw [List.append_assoc, List.cons_append]
    rw [split, ← foldl_run toLowercase maxConnectionsPerUser earlier (later ++ [operation])]
    rw [← foldl_run toLowercase maxConnectionsPerUser earlier later] at standing
    refine standing.concat ?_ ?_
    · intro same
      apply fresh.not_mem_of_registers same
      refine List.mem_filterMap.mpr ⟨registration, List.mem_append_right _ List.mem_cons_self, ?_⟩
      rw [Operation.registeredId, registers, Option.map_some, named]
    · intro newId same
      rw [foldl_run]
      exact lookup_run_of_unregistered toLowercase maxConnectionsPerUser _ fresh.of_append newId
        (fresh.not_mem_of_registers same)

/-- There are some texts on the channel and then at most a close frame. -/
theorem Origin.content {operations : List Operation} {connectionId : String}
    {attachment : Attachment}
    (origin : Origin toLowercase maxConnectionsPerUser operations connectionId attachment) :
    Exists fun log : List String => Exists fun closes => IsParting closes /\
      (GatewayState.run toLowercase maxConnectionsPerUser operations).channels[
        attachment.receiver]?.map Channel.sent = some (log.map .text ++ closes) := by
  rcases origin with ⟨earlier, registration, later, rfl, _, _, standing⟩
  rcases standing with ⟨served, rest, _, _, ⟨_, live⟩ | ⟨operation, behind, _, _, settled⟩⟩
  · have sent := congrArg (Option.map Channel.sent) live.channel
    exact ⟨_, [], Or.inl rfl, sent.trans (congrArg some (List.append_nil _).symm)⟩
  · exact ⟨_, operation.parting, isParting_parting operation, settled.sent⟩

/-- A channel with a close frame is settled, and so is one without senders. -/
theorem Origin.settled {operations : List Operation} {connectionId : String}
    {attachment : Attachment}
    (origin : Origin toLowercase maxConnectionsPerUser operations connectionId attachment)
    {channel : Channel}
    (stored : (GatewayState.run toLowercase maxConnectionsPerUser operations).channels[
      attachment.receiver]? = some channel)
    (ended : (Exists fun message => message ∈ channel.sent /\ message.isClose = true) \/
      forall id handle, (GatewayState.run toLowercase maxConnectionsPerUser
        operations).connections.lookup id = some handle -> handle.sender ≠ attachment.receiver) :
    Settled attachment.receiver channel.sent
      (GatewayState.run toLowercase maxConnectionsPerUser operations) := by
  rcases origin with ⟨earlier, registration, later, rfl, _, _, standing⟩
  rcases standing with ⟨served, rest, _, _, ⟨_, live⟩ | ⟨operation, behind, _, _, settled⟩⟩
  · rcases ended with ⟨message, member, closes⟩ | gone
    · rw [live.channel] at stored
      cases stored
      rcases List.mem_map.mp member with ⟨text, _, rfl⟩
      cases closes
    · rcases live.registered with ⟨handle, found, sender, _⟩
      exact absurd sender (gone _ handle found)
  · have same := settled.sent
    rw [stored, Option.map_some] at same
    rw [Option.some.inj same]
    exact settled

end Origins

/-! ## Moves of a session -/

/-- The session after a move. -/
def WireSession.moved (session : WireSession) (phase : WirePhase) (written : List ClientFrame) :
    WireSession :=
  { session with phase := phase, written := session.written ++ written }

theorem data_moved (session : WireSession) (phase : WirePhase) (written : List ClientFrame) :
    (session.moved phase written).data =
      session.data ++ written.filter fun frame => !frame.isPong :=
  List.filter_append ..

theorem data_moved_of_silent {session : WireSession} (silent : session.written = [])
    (phase : WirePhase) (texts : List String) :
    (session.moved phase (texts.map .text)).data = texts.map .text := by
  rw [data_moved, WireSession.data, silent, List.filter_nil, List.nil_append]
  exact List.filter_eq_self.mpr (by simp [ClientFrame.isPong])

section Moves

variable {json : JsonText} {session : WireSession} {attachment : Attachment} {texts : List String}

/-- Moves that write nothing, or nothing but pongs. -/
theorem Wrote.silent {closing : List ClientFrame}
    (wrote : Wrote json session attachment texts closing) (phase : WirePhase)
    {written : List ClientFrame}
    (silent : (written.filter fun frame => !frame.isPong) = []) :
    Wrote json (session.moved phase written) attachment texts closing := by
  rcases wrote with ⟨answers, greeted, data, complete⟩
  exact ⟨answers, greeted, by rw [data_moved, silent, List.append_nil, data], complete⟩

theorem Wrote.text (wrote : Wrote json session attachment texts []) (phase : WirePhase)
    (text : String) :
    Wrote json (session.moved phase [.text text]) attachment.next (texts ++ [text]) [] := by
  rcases wrote with ⟨answers, greeted, data, complete⟩
  refine ⟨answers, greeted, ?_, complete⟩
  rw [data_moved, data, ← List.append_assoc (answers ++ greeted), List.map_append]
  simp [ClientFrame.isPong]

theorem Wrote.announce (wrote : Wrote json session attachment texts []) (phase : WirePhase)
    {announced : List ClientFrame}
    (frames : (announced.filter fun frame => !frame.isPong) = announced) :
    Wrote json (session.moved phase announced) attachment.next texts announced := by
  rcases wrote with ⟨answers, greeted, data, complete⟩
  refine ⟨answers, greeted, ?_, complete⟩
  rw [data_moved, frames, data, List.append_nil]

theorem Greeted.silent {remaining : List (Option String)}
    (greeted : Greeted json session attachment remaining) (phase : WirePhase) :
    Greeted json (session.moved phase []) attachment remaining := by
  rcases greeted with ⟨answers, done, data, complete⟩
  exact ⟨answers, done, by rw [data_moved, data]; exact List.append_nil _, complete⟩

theorem Greeted.text {text : String} {remaining : List (Option String)}
    (greeted : Greeted json session attachment (some text :: remaining)) (phase : WirePhase) :
    Greeted json (session.moved phase [.text text]) attachment remaining := by
  rcases greeted with ⟨answers, done, data, complete, reports⟩
  refine ⟨answers, done ++ [text], ?_, ?_, reports⟩
  · rw [data_moved, data]
    simp [ClientFrame.isPong]
  · refine Eq.trans ?_ complete
    rw [List.map_append, List.append_assoc]
    rfl

theorem Running.silent {gateway : GatewayState}
    (running : Running json gateway session attachment) (phase : WirePhase)
    {written : List ClientFrame}
    (silent : (written.filter fun frame => !frame.isPong) = []) :
    Running json gateway (session.moved phase written) attachment := by
  rcases running with ⟨texts, wrote, length, carries⟩
  exact ⟨texts, wrote.silent phase silent, length, carries⟩

theorem Stopped.silent {gateway : GatewayState} {ending : Ending}
    (stopped : Stopped json gateway session attachment ending) (phase : WirePhase) :
    Stopped json gateway (session.moved phase []) attachment ending := by
  cases ending with
  | greetingFailed =>
      rcases stopped with ⟨none, remaining, greeted⟩
      exact ⟨none, remaining, greeted.silent phase⟩
  | writeFailed => exact Running.silent stopped phase rfl
  | clientEnded => exact Running.silent stopped phase rfl
  | exhausted =>
      rcases stopped with ⟨texts, wrote, settled⟩
      exact ⟨texts, wrote.silent phase rfl, settled⟩
  | closed =>
      rcases stopped with ⟨texts, code, reason, announced, announces, wrote, settled⟩
      exact ⟨texts, code, reason, announced, announces, wrote.silent phase rfl, settled⟩

/-- What the session finds on its channel behind the texts that it has taken. -/
theorem Running.content {world : WireWorld}
    (running : Running json world.gateway session attachment) :
    Exists fun texts => Wrote json session attachment texts [] /\
      texts.length = attachment.taken /\ Exists fun channel => Exists fun behind =>
        world.gateway.channels[attachment.receiver]? = some channel /\
        channel.sent = texts.map .text ++ behind /\
        world.content attachment.receiver = channel.sent /\
        (world.content attachment.receiver)[attachment.taken]? = behind.head? := by
  rcases running with ⟨texts, wrote, length, channel, stored, behind, sent⟩
  have content : world.content attachment.receiver = channel.sent := by
    rw [WireWorld.content, stored, Option.map_some, Option.getD_some]
  refine ⟨texts, wrote, length, channel, behind, stored, sent.symm, content, ?_⟩
  have here : attachment.taken = (texts.map OutboundMessage.text).length + 0 := by
    rw [List.length_map, length, Nat.add_zero]
  rw [content, ← sent, here, List.getElem?_append_right (Nat.le_add_right _ _),
    Nat.add_sub_cancel_left, List.head?_eq_getElem?]

end Moves

/-- The two attachments are of one connection. -/
def SameConnection (before after : WirePhase) : Prop :=
  forall attachment, after.attachment = some attachment -> Exists fun earlier =>
    before.attachment = some earlier /\ attachment.info = earlier.info /\
      attachment.receiver = earlier.receiver

theorem SameConnection.of_attachment {before after : WirePhase} {attachment earlier : Attachment}
    (had : before.attachment = some earlier) (has : after.attachment = some attachment)
    (info : attachment.info = earlier.info) (receiver : attachment.receiver = earlier.receiver) :
    SameConnection before after := by
  intro other same
  rw [has] at same
  cases same
  exact ⟨earlier, had, info, receiver⟩

/-- A move of a registered session takes it one step further. -/
theorem SessionMove.progress {registry : CommandRegistry} {config : AuthConfig}
    {toLowercase : String -> String} {json : JsonText} {world : WireWorld} {session : WireSession}
    {phase next : WirePhase} {operation : Option Operation} {written : List ClientFrame}
    (moves : SessionMove registry config toLowercase json world session phase operation next
      written) {maxConnectionsPerUser : Option Nat} {operations : List Operation}
    (gateway : world.gateway = GatewayState.run toLowercase maxConnectionsPerUser operations)
    {attachment : Attachment} (registered : phase.attachment = some attachment)
    (origin : Origin toLowercase maxConnectionsPerUser operations session.connectionId attachment)
    (progress : Progress json world.gateway session phase) :
    SameConnection phase next /\
      Progress json world.gateway (session.moved next written) next := by
  cases moves with
  | register => cases registered
  | refuse => cases registered
  | @greet attachment payload remaining text renders =>
      refine ⟨.of_attachment rfl rfl rfl rfl, progress.1, progress.2.1, ?_⟩
      have greeted := progress.2.2
      rw [List.map_cons, renders] at greeted
      exact greeted.text _
  | greetingFail =>
      exact ⟨.of_attachment rfl rfl rfl rfl, progress.1, _, progress.2.2.silent _⟩
  | serve =>
      refine ⟨.of_attachment rfl rfl rfl rfl, [], ?_, progress.1.symm, progress.2.1⟩
      rcases progress.2.2.silent _ with ⟨answers, greeted, data, complete, reports⟩
      refine ⟨answers, greeted, ?_, ?_, reports⟩
      · rw [data, List.append_nil, List.append_nil]
      · rw [← complete]
        exact (List.append_nil _).symm
  | @write attachment text head =>
      refine ⟨.of_attachment rfl rfl rfl rfl, ?_⟩
      rcases Running.content progress with
        ⟨texts, wrote, length, channel, behind, stored, sent, _, found⟩
      rw [head] at found
      refine ⟨texts ++ [text], wrote.text _ text, ?_, channel, stored, ?_⟩
      · rw [List.length_append, length]
        rfl
      · rw [sent, List.map_append]
        apply List.prefix_append_right_inj _ |>.mpr
        rcases List.head?_eq_some_iff.mp found.symm with ⟨rest, rfl⟩
        exact List.prefix_append [OutboundMessage.text text] rest
  | writeFail => exact ⟨.of_attachment rfl rfl rfl rfl, Running.silent progress _ rfl⟩
  | @close attachment code reason head _ announces =>
      refine ⟨.of_attachment rfl rfl rfl rfl, ?_⟩
      rcases Running.content progress with
        ⟨texts, wrote, length, channel, behind, stored, sent, _, found⟩
      rw [head] at found
      rcases List.head?_eq_some_iff.mp found.symm with ⟨rest, rfl⟩
      rw [gateway] at stored ⊢
      cases registered
      rcases origin.content with ⟨log, closes, parting, content⟩
      rw [stored, Option.map_some, sent] at content
      rcases texts_behind parting (Option.some.inj content) with ⟨others, _, closed⟩
      have last := (parting.eq_nil closed).2
      rw [last] at sent
      have settled := origin.settled stored (Or.inl ⟨.close code reason, by simp [sent], rfl⟩)
      rw [sent] at settled
      refine ⟨texts, code, reason, written, announces, wrote.announce _ ?_,
        congrArg Nat.succ length, settled⟩
      rcases announces with rfl | ⟨_, rfl⟩ <;> rfl
  | @exhaust attachment drained gone =>
      refine ⟨.of_attachment rfl rfl rfl rfl, ?_⟩
      rcases Running.content progress with
        ⟨texts, wrote, length, channel, behind, stored, sent, content, _⟩
      rw [content, sent, List.length_append, List.length_map, length] at drained
      have all : behind = [] := List.eq_nil_of_length_eq_zero (by omega)
      rw [all, List.append_nil] at sent
      cases registered
      unfold WireWorld.SendersGone at gone
      rw [gateway] at stored gone ⊢
      have settled := origin.settled stored (Or.inr gone)
      rw [sent] at settled
      exact ⟨texts, wrote.silent _ rfl, length, settled⟩
  | read => exact ⟨.of_attachment rfl rfl rfl rfl, Running.silent progress _ rfl⟩
  | @ping _ _ payload _ answer answers =>
      refine ⟨.of_attachment rfl rfl rfl rfl, Running.silent progress _ ?_⟩
      rcases answers with rfl | rfl <;> rfl
  | ignore => exact ⟨.of_attachment rfl rfl rfl rfl, Running.silent progress _ rfl⟩
  | hangUp => exact ⟨.of_attachment rfl rfl rfl rfl, Running.silent progress _ rfl⟩
  | perform => exact ⟨.of_attachment rfl rfl rfl rfl, Running.silent progress _ rfl⟩
  | handled => exact ⟨.of_attachment rfl rfl rfl rfl, Running.silent progress _ rfl⟩
  | release => exact ⟨.of_attachment rfl rfl rfl rfl, Stopped.silent progress _⟩
  | unregister => exact ⟨.of_attachment rfl rfl rfl rfl, Stopped.silent progress _⟩

/-! ## All sessions -/

section Sessions

variable (toLowercase : String -> String) (maxConnectionsPerUser : Option Nat) (json : JsonText)

/-- A session is accounted for by the operations so far. -/
structure Follows (operations : List Operation) (session : WireSession) : Prop where
  origin : forall attachment, session.phase.attachment = some attachment ->
    Origin toLowercase maxConnectionsPerUser operations session.connectionId attachment
  progress : Progress json (GatewayState.run toLowercase maxConnectionsPerUser operations) session
    session.phase

variable {toLowercase maxConnectionsPerUser json}

theorem Follows.concat {operations : List Operation} {session : WireSession}
    {operation : Operation}
    (follows : Follows toLowercase maxConnectionsPerUser json operations session)
    (fresh : FreshIds (operations ++ [operation])) :
    Follows toLowercase maxConnectionsPerUser json (operations ++ [operation]) session where
  origin := fun attachment registered => (follows.origin attachment registered).concat fresh
  progress := by
    rw [GatewayState.run_concat]
    exact follows.progress.apply toLowercase operation

theorem Follows.performed {operations : List Operation} {session : WireSession}
    {operation : Option Operation}
    (follows : Follows toLowercase maxConnectionsPerUser json operations session)
    (fresh : FreshIds (operations ++ operation.toList)) :
    Follows toLowercase maxConnectionsPerUser json (operations ++ operation.toList) session := by
  cases operation with
  | none => exact (List.append_nil operations).symm ▸ follows
  | some operation => exact follows.concat fresh

variable {registry : CommandRegistry} {config : AuthConfig}

/-- Only a session that has not begun registers, and it registers itself. -/
theorem SessionMove.registers {world : WireWorld} {session : WireSession}
    {phase next : WirePhase} {operation : Option Operation} {written : List ClientFrame}
    (moves : SessionMove registry config toLowercase json world session phase operation next
      written) {performed : Operation} (performs : operation = some performed)
    {connectionId : String} (registers : performed.registeredId = some connectionId) :
    phase = .arriving /\ connectionId = session.connectionId := by
  cases moves with
  | register =>
      cases performs
      cases registers
      exact ⟨rfl, rfl⟩
  | writeFail =>
      unfold Transport.requeue at performs
      split at performs
      · cases performs
      · split at performs
        · cases performs
          cases registers
        · cases performs
  | perform allowed =>
      cases performs
      cases allowed <;> cases registers
  | _ => cases performs <;> cases registers

theorem SessionMove.begun {world : WireWorld} {session : WireSession} {phase next : WirePhase}
    {operation : Option Operation} {written : List ClientFrame}
    (moves : SessionMove registry config toLowercase json world session phase operation next
      written) : next ≠ .arriving := by
  cases moves <;> intro same <;> cases same

/-- A registration begins the account of a session. -/
theorem Follows.registered {operations : List Operation} {session : WireSession}
    (fresh : FreshIds operations)
    (unused : session.connectionId ∉ operations.filterMap Operation.registeredId)
    (silent : session.written = []) (attempts : Attempts) (context : AuthContext)
    {answers : List String}
    (answered : Answers json session.transport attempts.run.failures answers)
    (order : HashOrder String) (now connectedAt : Int) (subjects : List String) :
    let registration := ((GatewayState.run toLowercase maxConnectionsPerUser
      operations).registerConnection order now session.connectionId context.userId
        context.clientInstanceId subjects connectedAt).1
    Follows toLowercase maxConnectionsPerUser json
      (operations ++ [.registerConnection order now session.connectionId context.userId
        context.clientInstanceId subjects connectedAt])
      (session.moved (.greeting ⟨attempts, context, registration.info, registration.receiver, 0⟩
        (greetings context)) (answers.map .text)) := by
  intro registration
  have absent := lookup_run_of_unregistered toLowercase maxConnectionsPerUser operations fresh
    session.connectionId unused
  have live := LiveConnection.of_registration
    (WellFormed.run toLowercase maxConnectionsPerUser operations fresh) order now absent
    context.userId context.clientInstanceId subjects connectedAt
  have reached := GatewayState.run_concat toLowercase maxConnectionsPerUser operations
    (.registerConnection order now session.connectionId context.userId context.clientInstanceId
      subjects connectedAt)
  constructor
  · intro attachment has
    cases has
    refine ⟨operations, _, [], rfl, rfl, rfl, [], [], rfl, ?_, Or.inl ⟨rfl, ?_⟩⟩
    · intro count bound
      rw [Nat.le_zero.mp bound, reached]
      exact live.reaches
    · rw [reached]
      exact (@List.append_nil String _).symm ▸ live
  · rw [reached]
    refine ⟨rfl, ⟨_, live.channel, List.nil_prefix⟩, answers, [], ?_, List.nil_append _, answered⟩
    rw [List.append_nil]
    exact data_moved_of_silent silent _ answers

variable (toLowercase maxConnectionsPerUser json) in
/-- The gateway is what the operations have made of it, and every session is
accounted for. -/
structure WireInvariant (labels : List (Option Operation)) (world : WireWorld) : Prop where
  gateway : world.gateway = GatewayState.run toLowercase maxConnectionsPerUser labels.reduceOption
  fresh : FreshIds labels.reduceOption
  distinct : (world.sessions.map WireSession.connectionId).Nodup
  unused : forall session, session ∈ world.sessions -> session.phase = .arriving ->
    session.connectionId ∉ labels.reduceOption.filterMap Operation.registeredId
  follows : forall session, session ∈ world.sessions ->
    Follows toLowercase maxConnectionsPerUser json labels.reduceOption session

theorem WireInvariant.initial {clients : List (String × Transport)}
    (distinct : (clients.map Prod.fst).Nodup) :
    WireInvariant toLowercase maxConnectionsPerUser json []
      (WireWorld.initial maxConnectionsPerUser clients) where
  gateway := rfl
  fresh := List.nodup_nil
  distinct := by
    rw [WireWorld.initial, List.map_map]
    exact distinct
  unused := fun _ _ _ => List.not_mem_nil
  follows := by
    intro session member
    rcases List.mem_map.mp member with ⟨client, _, rfl⟩
    refine ⟨?_, rfl⟩
    intro attachment impossible
    cases impossible

theorem freshIds_concat {operations : List Operation} {operation : Operation}
    (fresh : FreshIds operations)
    (unused : forall connectionId, operation.registeredId = some connectionId ->
      connectionId ∉ operations.filterMap Operation.registeredId) :
    FreshIds (operations ++ [operation]) := by
  rw [FreshIds, List.filterMap_append, List.filterMap_cons, List.filterMap_nil]
  cases registers : operation.registeredId with
  | none =>
      rw [List.append_nil]
      exact fresh
  | some connectionId => exact List.nodup_append.mpr ⟨fresh, List.nodup_singleton _, by
      rintro other member _ only rfl
      rw [List.mem_singleton.mp only] at member
      exact unused connectionId registers member⟩

theorem not_mem_registeredIds_concat {operations : List Operation} {operation : Operation}
    {connectionId : String} (unused : connectionId ∉ operations.filterMap Operation.registeredId)
    (different : operation.registeredId ≠ some connectionId) :
    connectionId ∉ (operations ++ [operation]).filterMap Operation.registeredId := by
  rw [List.filterMap_append, List.mem_append, not_or]
  refine ⟨unused, ?_⟩
  intro member
  rcases List.mem_filterMap.mp member with ⟨other, only, registers⟩
  rw [List.mem_singleton.mp only] at registers
  exact different registers

theorem IsOutside.registeredId {operation : Operation} (outside : IsOutside operation) :
    operation.registeredId = none := by
  rcases outside with traffic | ⟨order, now, staleAfterSeconds, rfl⟩
  · cases operation <;> first | rfl | cases traffic
  · rfl

theorem WireInvariant.outside {labels : List (Option Operation)} {world : WireWorld}
    (invariant : WireInvariant toLowercase maxConnectionsPerUser json labels world)
    {operation : Operation} (outside : IsOutside operation) :
    WireInvariant toLowercase maxConnectionsPerUser json (labels ++ [some operation])
      { world with gateway := operation.apply toLowercase world.gateway } := by
  have performed : (labels ++ [some operation]).reduceOption =
      labels.reduceOption ++ [operation] := by
    rw [← List.concat_eq_append, List.reduceOption_concat]
    rfl
  have fresh : FreshIds (labels.reduceOption ++ [operation]) := by
    refine freshIds_concat invariant.fresh ?_
    intro connectionId registers
    rw [outside.registeredId] at registers
    cases registers
  constructor
  · rw [performed, GatewayState.run_concat, ← invariant.gateway]
  · rw [performed]
    exact fresh
  · exact invariant.distinct
  · intro session member arriving
    rw [performed]
    refine not_mem_registeredIds_concat (invariant.unused session member arriving) ?_
    rw [outside.registeredId]
    exact (Option.some_ne_none _).symm
  · intro session member
    rw [performed]
    exact (invariant.follows session member).concat fresh

/-- The session that moves, before the operation of its move. -/
theorem Follows.moved {labels : List (Option Operation)} {world : WireWorld}
    (invariant : WireInvariant toLowercase maxConnectionsPerUser json labels world)
    {session : WireSession} (member : session ∈ world.sessions) {operation : Option Operation}
    {phase : WirePhase} {written : List ClientFrame}
    (moves : SessionMove registry config toLowercase json world session session.phase operation
      phase written) (fresh : FreshIds (labels.reduceOption ++ operation.toList)) :
    Follows toLowercase maxConnectionsPerUser json (labels.reduceOption ++ operation.toList)
      (session.moved phase written) := by
  have follows := invariant.follows session member
  cases has : session.phase.attachment with
  | some attachment =>
      have origin := follows.origin attachment has
      have progress := follows.progress
      rw [← invariant.gateway] at progress
      have next := moves.progress invariant.gateway has origin progress
      refine Follows.performed ⟨?_, ?_⟩ fresh
      · intro later same
        rcases next.1 later same with ⟨earlier, had, info, receiver⟩
        rw [has] at had
        cases had
        unfold Origin at origin ⊢
        rw [info, receiver]
        exact origin
      · rw [← invariant.gateway]
        exact next.2
  | none =>
      have unused := invariant.unused session member
      have silent := follows.progress
      generalize session.phase = before at moves has unused silent
      cases moves with
      | register _ _ answered order now connectedAt registers =>
          subst registers
          rw [invariant.gateway]
          exact Follows.registered invariant.fresh (unused rfl) silent _ _ answered order now
            connectedAt _
      | refuse _ _ answered =>
          refine ⟨?_, _, data_moved_of_silent silent _ _, answered⟩
          intro attachment impossible
          cases impossible
      | _ => cases has

theorem WireInvariant.session {labels : List (Option Operation)} {world : WireWorld}
    (invariant : WireInvariant toLowercase maxConnectionsPerUser json labels world) {index : Nat}
    {session : WireSession} (there : world.sessions[index]? = some session)
    {operation : Option Operation} {phase : WirePhase} {written : List ClientFrame}
    (moves : SessionMove registry config toLowercase json world session session.phase operation
      phase written) :
    WireInvariant toLowercase maxConnectionsPerUser json (labels ++ [operation])
      (world.advance toLowercase index session operation phase written) := by
  have member := List.mem_of_getElem? there
  have performed : (labels ++ [operation]).reduceOption =
      labels.reduceOption ++ operation.toList := by
    rw [← List.concat_eq_append, List.reduceOption_concat]
  have fresh : FreshIds (labels.reduceOption ++ operation.toList) := by
    cases performs : operation with
    | none => exact (List.append_nil labels.reduceOption).symm ▸ invariant.fresh
    | some performed =>
        refine freshIds_concat invariant.fresh ?_
        intro connectionId registers
        rcases moves.registers performs registers with ⟨arriving, rfl⟩
        exact invariant.unused session member arriving
  constructor
  · rw [performed, WireWorld.advance, invariant.gateway]
    cases operation with
    | none => rw [Option.toList_none, List.append_nil]; rfl
    | some operation => rw [Option.toList_some, GatewayState.run_concat]; rfl
  · rw [performed]
    exact fresh
  · have ids : (world.advance toLowercase index session operation phase written).sessions.map
        WireSession.connectionId = world.sessions.map WireSession.connectionId :=
      map_set_of_eq there rfl
    rw [ids]
    exact invariant.distinct
  · intro other otherMember arriving
    rcases List.mem_iff_getElem?.mp otherMember with ⟨position, otherThere⟩
    rcases getElem?_set_cases otherThere with ⟨_, rfl⟩ | ⟨elsewhere, old⟩
    · exact absurd arriving moves.begun
    · rw [performed]
      have before := invariant.unused other (List.mem_of_getElem? old) arriving
      cases performs : operation with
      | none => exact (List.append_nil labels.reduceOption).symm ▸ before
      | some performed =>
          refine not_mem_registeredIds_concat before ?_
          intro registers
          apply elsewhere
          have bound : position < (world.sessions.map WireSession.connectionId).length := by
            rw [List.length_map]
            exact (List.getElem?_eq_some_iff.mp old).1
          apply (List.getElem?_inj bound invariant.distinct).mp
          rw [List.getElem?_map, List.getElem?_map, old, there, Option.map_some, Option.map_some,
            (moves.registers performs registers).2]
  · intro other otherMember
    rw [performed]
    rcases List.mem_iff_getElem?.mp otherMember with ⟨position, otherThere⟩
    rcases getElem?_set_cases otherThere with ⟨_, rfl⟩ | ⟨_, old⟩
    · exact Follows.moved invariant member moves fresh
    · exact (invariant.follows other (List.mem_of_getElem? old)).performed fresh

theorem WireInvariant.execution {clients : List (String × Transport)}
    (distinct : (clients.map Prod.fst).Nodup) {labels : List (Option Operation)}
    {world : WireWorld}
    (execution : Execution (WireStep registry config toLowercase json)
      (WireWorld.initial maxConnectionsPerUser clients) labels world) :
    WireInvariant toLowercase maxConnectionsPerUser json labels world := by
  refine execution.history (WireInvariant toLowercase maxConnectionsPerUser json)
    (WireInvariant.initial distinct) ?_
  intro history state label next before taken
  cases taken with
  | session there moves => exact before.session there moves
  | outside outside => exact before.outside outside

end Sessions

/-- The attempts of a session, and the context that it was accepted with. -/
def WirePhase.login : WirePhase -> Option (Attempts × Option AuthContext)
  | .arriving => none
  | .refused attempts => some (attempts, none)
  | phase => phase.attachment.map fun attachment => (attachment.attempts, some attachment.context)

theorem WirePhase.login_of_attachment {phase : WirePhase} {attachment : Attachment}
    (has : phase.attachment = some attachment) :
    phase.login = some (attachment.attempts, some attachment.context) := by
  cases phase <;> cases has <;> rfl

/-- The attempts of the session came to this: it was accepted with a context, or
its client left. -/
structure LoggedIn (registry : CommandRegistry) (config : AuthConfig) (json : JsonText)
    (session : WireSession) (attempts : Attempts) (context : Option AuthContext) : Prop where
  made : attempts.Made registry config json session.transport
  outcome : attempts.run.outcome = context.elim .broken .succeeded

/-- Nothing was written, or answers to attempts of this session, none of which was
accepted. -/
def OnlyAnswers (registry : CommandRegistry) (config : AuthConfig) (json : JsonText)
    (session : WireSession) : Prop :=
  session.written = [] \/ Exists fun attempts =>
    LoggedIn registry config json session attempts none /\
      Exists fun answers : List String => session.data = answers.map .text /\
        Answers json session.transport attempts.run.failures answers

section Logins

variable {registry : CommandRegistry} {config : AuthConfig} {toLowercase : String -> String}
  {json : JsonText}

/-- A session logs in once, and with attempts that it makes. -/
theorem SessionMove.login {world : WireWorld} {session : WireSession} {phase next : WirePhase}
    {operation : Option Operation} {written : List ClientFrame}
    (moves : SessionMove registry config toLowercase json world session phase operation next
      written) :
    next.login = phase.login \/ (phase = .arriving /\ forall attempts context,
      next.login = some (attempts, context) ->
        LoggedIn registry config json session attempts context) := by
  cases moves with
  | register made accepted =>
      right
      refine ⟨rfl, fun attempts context same => ?_⟩
      cases same
      exact ⟨made, accepted⟩
  | refuse made broken =>
      right
      refine ⟨rfl, fun attempts context same => ?_⟩
      cases same
      exact ⟨made, broken⟩
  | _ => exact Or.inl rfl

theorem loggedIn_of_execution {maxConnectionsPerUser : Option Nat}
    {clients : List (String × Transport)} {labels : List (Option Operation)} {world : WireWorld}
    (execution : Execution (WireStep registry config toLowercase json)
      (WireWorld.initial maxConnectionsPerUser clients) labels world) :
    forall session, session ∈ world.sessions -> forall attempts context,
      session.phase.login = some (attempts, context) ->
        LoggedIn registry config json session attempts context := by
  refine execution.invariant (fun world => forall session, session ∈ world.sessions ->
    forall attempts context, session.phase.login = some (attempts, context) ->
      LoggedIn registry config json session attempts context) ?_ ?_
  · intro session member attempts context same
    rcases List.mem_map.mp member with ⟨_, _, rfl⟩
    cases same
  · intro before label after logged step
    cases step with
    | outside => exact logged
    | @session index session there operation phase written moves =>
        intro other member attempts context same
        rcases List.mem_iff_getElem?.mp member with ⟨position, found⟩
        rcases getElem?_set_cases found with ⟨_, rfl⟩ | ⟨_, old⟩
        · rcases moves.login with kept | ⟨_, fresh⟩
          · have earlier := logged session (List.mem_of_getElem? there) attempts context
              (kept.symm.trans same)
            exact ⟨earlier.made, earlier.outcome⟩
          · have login := fresh attempts context same
            exact ⟨login.made, login.outcome⟩
        · exact logged other (List.mem_of_getElem? old) attempts context same

end Logins

/-! ## The transcript -/

/-- All greetings are written. -/
def WirePhase.isGreeted : WirePhase -> Bool
  | .arriving => false
  | .refused _ => false
  | .greeting _ _ => false
  | .serving _ => true
  | .handling _ _ _ => true
  | .stopping _ ending => ending ≠ .greetingFailed
  | .released _ ending => ending ≠ .greetingFailed
  | .returned _ ending => ending ≠ .greetingFailed

/-- What a session has written, given the texts and the close frame of its
channel. -/
structure Transcript (json : JsonText) (session : WireSession) (attachment : Attachment)
    (log : List String) (parting : List OutboundMessage) (answers greeted texts : List String)
    (closing : List ClientFrame) : Prop where
  data : session.data = (answers ++ greeted ++ texts).map .text ++ closing
  answers : Answers json session.transport attachment.attempts.run.failures answers
  greetings : greeted.map some <+: greetingTexts json session attachment
  greeted : session.phase.isGreeted = true ->
    greeted.map some = greetingTexts json session attachment
  ungreeted : session.phase.isGreeted = false -> texts = []
  gapFree : texts <+: log
  taken : attachment.taken =
    texts.length + if session.phase.ending = some .closed then 1 else 0
  complete : session.phase.ending = some .closed \/ session.phase.ending = some .exhausted ->
    texts = log
  closing : closing = [] \/ (session.transport = .websocket /\ texts = log /\
    Exists fun code => Exists fun reason =>
      parting = [.close code reason] /\ closing = [.close code reason])

section Reading

variable {json : JsonText} {gateway : GatewayState} {session : WireSession}
  {attachment : Attachment} {log : List String} {parting : List OutboundMessage}

def Reads (json : JsonText) (session : WireSession) (attachment : Attachment)
    (log : List String) (parting : List OutboundMessage) : Prop :=
  Exists fun answers => Exists fun greeted => Exists fun texts => Exists fun closing =>
    Transcript json session attachment log parting answers greeted texts closing

theorem WirePhase.ending_of_ungreeted {phase : WirePhase} (ungreeted : phase.isGreeted = false) :
    ¬(phase.ending = some .closed \/ phase.ending = some .exhausted) := by
  rintro (ended | ended) <;> cases phase <;> cases ended <;> cases ungreeted

theorem Greeted.reads {remaining : List (Option String)}
    (written : Greeted json session attachment remaining) (none : attachment.taken = 0)
    (ungreeted : session.phase.isGreeted = false) :
    Reads json session attachment log parting := by
  rcases written with ⟨answers, greeted, data, complete, reports⟩
  have going := WirePhase.ending_of_ungreeted ungreeted
  refine ⟨answers, greeted, [], [], ?_, reports, ⟨remaining, complete⟩, ?_, fun _ => rfl,
    List.nil_prefix, ?_, fun ended => absurd ended going, Or.inl rfl⟩
  · rw [data, List.append_nil, List.append_nil]
  · intro impossible
    exact absurd (ungreeted.symm.trans impossible) Bool.false_ne_true
  · rw [none, if_neg fun closed => going (Or.inl closed)]
    rfl

/-- A session that has greeted its client, given what it wrote after that. -/
theorem Wrote.reads {texts : List String} {closing : List ClientFrame}
    (wrote : Wrote json session attachment texts closing)
    (isGreeted : session.phase.isGreeted = true) (gapFree : texts <+: log)
    (taken : attachment.taken = texts.length + if session.phase.ending = some .closed then 1 else 0)
    (complete : session.phase.ending = some .closed \/ session.phase.ending = some .exhausted ->
      texts = log)
    (closes : closing = [] \/ (session.transport = .websocket /\ texts = log /\
      Exists fun code => Exists fun reason =>
        parting = [.close code reason] /\ closing = [.close code reason])) :
    Reads json session attachment log parting := by
  rcases wrote with ⟨answers, greeted, data, all, reports⟩
  refine ⟨answers, greeted, texts, closing, data, reports, all ▸ List.prefix_refl _, fun _ => all,
    ?_, gapFree, taken, complete, closes⟩
  intro impossible
  exact absurd (impossible.symm.trans isGreeted) Bool.false_ne_true

theorem Running.reads (running : Running json gateway session attachment)
    (isGreeted : session.phase.isGreeted = true) (closes : IsParting parting)
    (content : gateway.channels[attachment.receiver]?.map Channel.sent =
      some (log.map .text ++ parting))
    (going : ¬(session.phase.ending = some .closed \/ session.phase.ending = some .exhausted)) :
    Reads json session attachment log parting := by
  rcases running with ⟨texts, wrote, length, channel, stored, behind, sent⟩
  rw [stored, Option.map_some, ← sent] at content
  rcases texts_behind closes (Option.some.inj content) with ⟨rest, same, _⟩
  refine wrote.reads isGreeted ⟨rest, same.symm⟩ ?_ (fun ended => absurd ended going) (Or.inl rfl)
  rw [if_neg fun closed => going (Or.inl closed), length]
  rfl

theorem Stopped.reads {ending : Ending}
    (stopped : Stopped json gateway session attachment ending)
    (stops : session.phase.ending = some ending)
    (isGreeted : session.phase.isGreeted = decide (ending ≠ .greetingFailed))
    (closes : IsParting parting)
    (content : gateway.channels[attachment.receiver]?.map Channel.sent =
      some (log.map .text ++ parting)) :
    Reads json session attachment log parting := by
  have going : ending ≠ .closed -> ending ≠ .exhausted ->
      ¬(session.phase.ending = some .closed \/ session.phase.ending = some .exhausted) := by
    rintro notClosed notExhausted (closed | exhausted)
    · exact notClosed (Option.some.inj (stops.symm.trans closed))
    · exact notExhausted (Option.some.inj (stops.symm.trans exhausted))
  cases ending with
  | greetingFailed =>
      rcases stopped with ⟨none, remaining, greeted⟩
      exact greeted.reads none isGreeted
  | writeFailed =>
      exact Running.reads stopped isGreeted closes content (going (by decide) (by decide))
  | clientEnded =>
      exact Running.reads stopped isGreeted closes content (going (by decide) (by decide))
  | exhausted =>
      rcases stopped with ⟨texts, wrote, length, settled⟩
      rw [settled.sent] at content
      rcases texts_behind closes ((List.append_nil _).trans (Option.some.inj content)) with
        ⟨rest, same, behind⟩
      have none : rest = [] := List.map_eq_nil_iff.mp (List.append_eq_nil_iff.mp behind.symm).1
      rw [none, List.append_nil] at same
      refine wrote.reads isGreeted (same ▸ List.prefix_refl _) ?_ (fun _ => same.symm) (Or.inl rfl)
      rw [stops, length]
      rfl
  | closed =>
      rcases stopped with ⟨texts, code, reason, announced, announces, wrote, length, settled⟩
      rw [settled.sent] at content
      rcases texts_behind closes (Option.some.inj content) with ⟨rest, same, behind⟩
      have none := (closes.eq_nil behind).1
      rw [none, List.append_nil] at same
      rw [none] at behind
      refine wrote.reads isGreeted (same ▸ List.prefix_refl _) ?_ (fun _ => same.symm) ?_
      · rw [stops, ← length]
        rfl
      · rcases announces with rfl | ⟨websocket, rfl⟩
        · exact Or.inl rfl
        · exact Or.inr ⟨websocket, same.symm, code, reason, behind.symm, rfl⟩

/-- Wherever a session is, it has written what is on its channel up to some
point. -/
theorem Progress.reads (progress : Progress json gateway session session.phase)
    (has : session.phase.attachment = some attachment) (closes : IsParting parting)
    (content : gateway.channels[attachment.receiver]?.map Channel.sent =
      some (log.map .text ++ parting)) :
    Reads json session attachment log parting := by
  have stops : forall ending, session.phase.ending = some ending ->
      session.phase.isGreeted = decide (ending ≠ .greetingFailed) ->
      Stopped json gateway session attachment ending ->
        Reads json session attachment log parting :=
    fun ending stops isGreeted stopped => stopped.reads stops isGreeted closes content
  have runs : session.phase.ending = none -> session.phase.isGreeted = true ->
      Running json gateway session attachment -> Reads json session attachment log parting := by
    intro none isGreeted running
    refine running.reads isGreeted closes content ?_
    rintro (closed | exhausted)
    · exact Option.some_ne_none _ (closed.symm.trans none)
    · exact Option.some_ne_none _ (exhausted.symm.trans none)
  have greets : session.phase.isGreeted = false -> attachment.taken = 0 -> forall remaining,
      Greeted json session attachment remaining -> Reads json session attachment log parting :=
    fun ungreeted none remaining greeted => greeted.reads none ungreeted
  generalize session.phase = current at progress has stops runs greets
  cases current with
  | arriving => cases has
  | refused => cases has
  | greeting =>
      cases has
      exact greets rfl progress.1 _ progress.2.2
  | serving =>
      cases has
      exact runs rfl rfl progress
  | handling =>
      cases has
      exact runs rfl rfl progress
  | stopping =>
      cases has
      exact stops _ rfl rfl progress
  | released =>
      cases has
      exact stops _ rfl rfl progress
  | returned =>
      cases has
      exact stops _ rfl rfl progress

end Reading

theorem Progress.onlyAnswers {registry : CommandRegistry} {config : AuthConfig} {json : JsonText}
    {gateway : GatewayState} {session : WireSession}
    (progress : Progress json gateway session session.phase)
    (logins : forall attempts context, session.phase.login = some (attempts, context) ->
      LoggedIn registry config json session attempts context)
    (nobody : session.phase.attachment = none) : OnlyAnswers registry config json session := by
  generalize session.phase = phase at progress logins nobody
  cases phase with
  | arriving => exact Or.inl progress
  | refused attempts => exact Or.inr ⟨attempts, logins attempts none rfl, progress⟩
  | _ => cases nobody

/-- In every run of the sessions, with whatever other tasks do in between, each
client has read answers to attempts of its own session that have failed.  If the
session has registered, then these came first, then greetings, then texts of the log
of its connection, in order and without a gap.  The log has the texts that waited for
it and those of the operations that addressed it, up to the operation that ended its
service.  A session that ended because its channel was closed or exhausted has written
all of it, and only a WebSocket session may add the close frame. -/
theorem clients_read_their_logs (registry : CommandRegistry) (config : AuthConfig)
    (toLowercase : String -> String) (json : JsonText) (maxConnectionsPerUser : Option Nat)
    (clients : List (String × Transport)) (distinct : (clients.map Prod.fst).Nodup)
    (labels : List (Option Operation)) (world : WireWorld)
    (execution : Execution (WireStep registry config toLowercase json)
      (WireWorld.initial maxConnectionsPerUser clients) labels world)
    (session : WireSession) (member : session ∈ world.sessions) :
    (session.phase.attachment = none -> OnlyAnswers registry config json session) /\
    forall attachment, session.phase.attachment = some attachment ->
      LoggedIn registry config json session attachment.attempts (some attachment.context) /\
      Exists fun earlier => Exists fun operation => Exists fun served => Exists fun rest =>
        labels.reduceOption = earlier ++ operation :: (served ++ rest) /\
          operation.registered = some attachment.info /\
          attachment.info.connectionId = session.connectionId /\
          Served toLowercase
            (GatewayState.run toLowercase maxConnectionsPerUser (earlier ++ [operation]))
            session.connectionId attachment.receiver attachment.info.subjects
            (replayedBy (GatewayState.run toLowercase maxConnectionsPerUser earlier) operation)
            served rest /\
          Reads json session attachment
            (replayedBy (GatewayState.run toLowercase maxConnectionsPerUser earlier) operation ++
              textsFor session.connectionId attachment.info.subjects served)
            ((rest.head?.map Operation.parting).getD []) := by
  have invariant := WireInvariant.execution distinct execution
  have follows := invariant.follows session member
  have logins := loggedIn_of_execution execution session member
  refine ⟨follows.progress.onlyAnswers logins, fun attachment registered => ⟨logins _ _
    (WirePhase.login_of_attachment registered), ?_⟩⟩
  rcases follows.origin attachment registered with
    ⟨earlier, operation, later, operations, registers, named, standing⟩
  have reached := foldl_run toLowercase maxConnectionsPerUser earlier later operation
  rw [operations, ← reached] at standing
  rcases standing.served with ⟨served, rest, rfl, serves⟩
  refine ⟨earlier, operation, served, rest, operations, registers, named, serves, ?_⟩
  have progress := follows.progress
  rw [operations, ← reached] at progress
  refine progress.reads registered ?_ serves.log
  cases rest with
  | nil => exact Or.inl rfl
  | cons operation rest => exact isParting_parting operation

/-- One session and what the operations have made of the gateway. -/
def soloWorld (toLowercase : String -> String) (maxConnectionsPerUser : Option Nat)
    (operations : List Operation) (session : WireSession) : WireWorld where
  gateway := GatewayState.run toLowercase maxConnectionsPerUser operations
  sessions := [session]

theorem WireStep.solo {registry : CommandRegistry} {config : AuthConfig}
    {toLowercase : String -> String} {json : JsonText} {maxConnectionsPerUser : Option Nat}
    {operations : List Operation} {session : WireSession} {performed : Option Operation}
    {next : WirePhase} {written : List ClientFrame}
    (moves : SessionMove registry config toLowercase json
      (soloWorld toLowercase maxConnectionsPerUser operations session) session session.phase
      performed next written) :
    WireStep registry config toLowercase json
      (soloWorld toLowercase maxConnectionsPerUser operations session) performed
      (soloWorld toLowercase maxConnectionsPerUser (operations ++ performed.toList)
        (session.moved next written)) := by
  have step := WireStep.session (rfl : (soloWorld toLowercase maxConnectionsPerUser operations
    session).sessions[0]? = some session) moves
  have reached : (soloWorld toLowercase maxConnectionsPerUser operations session).advance
      toLowercase 0 session performed next written =
        soloWorld toLowercase maxConnectionsPerUser (operations ++ performed.toList)
          (session.moved next written) := by
    cases performed <;>
      simp [WireWorld.advance, soloWorld, WireSession.moved, GatewayState.run, List.foldl_append]
  exact reached ▸ step

def guestTexts : List String :=
  ["\x7b\"pairing_endpoint_token\":\"Tok:1\",\"ts\":0," ++
      "\"type\":\"device_pairing_auth_ok\"\x7d",
    "\x7b\"type\":\"auth_ok\",\"user_id\":\"pairing:Tok:1\"\x7d"]

def newsText : String := "\x7b\"payload\":\"news\",\"type\":\"event\"\x7d"

/-- A guest who has read its greetings and a dispatch. -/
theorem clients_read_their_logs_of_guest :
    let config : AuthConfig := { authBackendBaseUrl := "", jwtUserIdClaim := "user_id" }
    Exists fun labels => Exists fun world => Exists fun session => Exists fun attachment =>
      Execution (WireStep builtinRegistry config asciiLowercase pairingJson)
          (WireWorld.initial none [("c1", .websocket)]) labels world /\
        session ∈ world.sessions /\ session.phase.attachment = some attachment /\
        session.data = (guestTexts ++ [newsText]).map .text /\
        LoggedIn builtinRegistry config pairingJson session attachment.attempts
          (some attachment.context) /\
        Exists fun earlier => Exists fun operation => Exists fun served => Exists fun rest =>
          labels.reduceOption = earlier ++ operation :: (served ++ rest) /\
            operation.registered = some attachment.info /\
            attachment.info.connectionId = session.connectionId /\
            Served asciiLowercase (GatewayState.run asciiLowercase none (earlier ++ [operation]))
              session.connectionId attachment.receiver attachment.info.subjects
              (replayedBy (GatewayState.run asciiLowercase none earlier) operation) served rest /\
            Reads pairingJson session attachment
              (replayedBy (GatewayState.run asciiLowercase none earlier) operation ++
                textsFor session.connectionId attachment.info.subjects served)
              ((rest.head?.map Operation.parting).getD []) := by
  intro config
  let approach : Approach := .socket ⟨none, none⟩ [.text pairingText]
  let attempts : Attempts := ⟨approach, fun _ => silentOracle,
    approach.authenticate builtinRegistry config pairingJson fun _ => silentOracle⟩
  let register : Operation := .registerConnection .sorted 0 "c1" "pairing:Tok:1" ""
    (connectionSubjects asciiLowercase "pairing:Tok:1") 0
  let dispatch : Operation :=
    .sendToSubjects .sorted 0 0 ["user:pairing:Tok:1"] newsText true none
  let attachment : Attachment := ⟨attempts, pairingContext,
    ⟨"c1", "pairing:Tok:1", "", connectionSubjects asciiLowercase "pairing:Tok:1", 0, 0⟩, 0, 0⟩
  let session : WirePhase -> List ClientFrame -> WireSession := fun phase written =>
    ⟨"c1", .websocket, phase, written⟩
  let later : WireSession :=
    session (.serving attachment.next) ((guestTexts ++ [newsText]).map .text)
  have made : attempts.Made builtinRegistry config pairingJson .websocket := ⟨rfl, rfl⟩
  have accepted : attempts.run.outcome = .succeeded pairingContext := rfl
  have answered : Answers pairingJson .websocket attempts.run.failures [] := List.nil_sublist _
  have registered : Execution (WireStep builtinRegistry config asciiLowercase pairingJson)
      (WireWorld.initial none [("c1", .websocket)]) [some register]
      (soloWorld asciiLowercase none [register]
        (session (.greeting attachment (greetings pairingContext)) [])) :=
    Execution.single (@WireStep.solo _ _ _ _ none [] (session .arriving []) _ _ _
      (.register made accepted answered .sorted 0 0 rfl))
  have served : Execution (WireStep builtinRegistry config asciiLowercase pairingJson)
      (WireWorld.initial none [("c1", .websocket)]) [some register, none, none, none]
      (soloWorld asciiLowercase none [register]
        (session (.serving attachment) (guestTexts.map .text))) :=
    ((registered.snoc (.solo (.greet (by decide +kernel)))).snoc
      (.solo (.greet (by decide +kernel)))).snoc (.solo .serve)
  have written : Execution (WireStep builtinRegistry config asciiLowercase pairingJson)
      (WireWorld.initial none [("c1", .websocket)])
      [some register, none, none, none, some dispatch, none]
      (soloWorld asciiLowercase none [register, dispatch] later) :=
    (served.snoc (.outside (Or.inl rfl))).snoc (@WireStep.solo _ _ _ _ none [register, dispatch]
      (session (.serving attachment) (guestTexts.map .text)) _ _ _ (.write (by decide +kernel)))
  refine ⟨_, _, later, attachment.next, written, List.mem_cons_self, rfl, rfl, ?_⟩
  exact (clients_read_their_logs builtinRegistry config asciiLowercase pairingJson none
    [("c1", .websocket)] (List.nodup_singleton _) _ _ written later List.mem_cons_self).2
    attachment.next rfl

end Session
end Gateway

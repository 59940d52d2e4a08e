import Gateway.Broker.Consumer
import Gateway.Foundation.JsonCompact

namespace Gateway
namespace Broker

open Foundation State

/-!
# Outbox entries are taken once each and in order

The position of the consumer counts the entries of the stream it has behind
it.  Entries between the origin of consumption and the position have been
taken; a waiting read cuts the stream at the position, and a batch that is being
processed continues from there.  Every step keeps this picture, except a read
with `$` that is issued after something was appended.
-/

section Progress

abbrev StreamCut (stream : List StreamEntry) (position : Nat) (start : EntryId) : Prop :=
  Cut StreamEntry.id streamBottom stream position start

/-- How the phase continues from a position. -/
def PhaseAgrees (stream : List StreamEntry) (position : Nat) : ConsumerPhase -> Prop
  | .connecting => True
  | .waiting start => StreamCut stream position start
  | .processing remaining => Exists fun batch =>
      batch <+: stream.drop position /\ remaining = batch.map StreamEntry.view

/-- The consumer has taken the entries from the origin up to the position. -/
structure Progress (world : OutboxWorld) (origin position : Nat) : Prop where
  started : origin ≤ position
  within : position ≤ world.stream.length
  taken : world.taken = ((world.stream.take position).drop origin).map StreamEntry.view
  cursor : (world.lastId = "$" /\ position = origin) \/
    Exists fun id : EntryId => world.lastId = id.text /\ StreamCut world.stream position id
  phase : PhaseAgrees world.stream position world.phase

/-- The invariant of the consumer. -/
structure Tracked (world : OutboxWorld) : Prop where
  increasing : Increasing StreamEntry.id world.stream
  unread : world.firstRead = none ->
    world.lastId = "$" /\ world.taken = [] /\ world.phase = .connecting
  read : forall origin, world.firstRead = some origin ->
    Exists fun position => Progress world origin position

/-! ## What each step does to the position -/

theorem Resolves.eq_of_dollar {stream : List StreamEntry} {argument : String} {start : EntryId}
    (resolves : Resolves stream argument start) (dollar : argument = "$") :
    start = lastStreamId stream := by
  cases resolves with
  | dollar => rfl
  | concrete => exact absurd dollar (EntryId.text_ne_dollar start)

theorem Resolves.eq_of_text {stream : List StreamEntry} {argument : String} {start id : EntryId}
    (resolves : Resolves stream argument start) (concrete : argument = id.text) : start = id := by
  cases resolves with
  | dollar => exact absurd concrete.symm (EntryId.text_ne_dollar id)
  | concrete => exact EntryId.text_inj concrete

/-- Appending leaves the position alone. -/
theorem PhaseAgrees.append {stream : List StreamEntry} {position : Nat} {phase : ConsumerPhase}
    {entry : StreamEntry} (agrees : PhaseAgrees stream position phase)
    (within : position ≤ stream.length) (newer : lastStreamId stream < entry.id) :
    PhaseAgrees (stream ++ [entry]) position phase := by
  cases phase with
  | connecting => trivial
  | waiting start => exact Cut.append agrees within newer
  | processing remaining =>
      rcases agrees with ⟨batch, ahead, same⟩
      refine ⟨batch, ?_, same⟩
      rw [List.drop_append_of_le_length within]
      exact ahead.trans (List.prefix_append _ _)

theorem Progress.append {world : OutboxWorld} {origin position : Nat} {entry : StreamEntry}
    (progress : Progress world origin position) (newer : lastStreamId world.stream < entry.id) :
    Progress { world with stream := world.stream ++ [entry] } origin position := by
  refine ⟨progress.started, ?_, ?_, ?_, progress.phase.append progress.within newer⟩
  · exact progress.within.trans (List.length_append ▸ Nat.le_add_right _ _)
  · change world.taken = _
    rw [List.take_append_of_le_length progress.within]
    exact progress.taken
  · rcases progress.cursor with start | ⟨id, same, cut⟩
    · exact Or.inl start
    · exact Or.inr ⟨id, same, cut.append progress.within newer⟩

/-- A batch continues from where its read was cut. -/
theorem XreadReply.phaseAgrees {name : String} {debug : RedisValue -> String}
    {stream : List StreamEntry} {start : EntryId} {value : RedisValue} {position : Nat}
    (answers : XreadReply name debug stream start value) (cut : StreamCut stream position start) :
    PhaseAgrees stream position (phaseAfterReply debug value) := by
  cases answers with
  | timeout => exact ⟨[], List.nil_prefix, rfl⟩
  | @batch entries nonempty bounded available =>
      rw [phaseAfterReply, parseXread_encodeBatch]
      refine ⟨entries, ?_, List.append_nil _⟩
      rwa [← cut.entriesAfter_eq]
  | unexpected rejected =>
      rw [phaseAfterReply, rejected]
      trivial

/-- Processing the next entry moves the position behind it. -/
theorem Progress.process {world : OutboxWorld} {origin position : Nat} {entry : ParsedEntry}
    {remaining : List ParsedEntry} {gateway : GatewayState}
    (progress : Progress world origin position)
    (increasing : Increasing StreamEntry.id world.stream)
    (phase : world.phase = .processing (entry :: remaining)) :
    Progress
      { world with
        lastId := entry.1
        phase := .processing remaining
        taken := world.taken ++ [entry]
        gateway := gateway } origin (position + 1) := by
  have agrees := progress.phase
  rw [phase] at agrees
  rcases agrees with ⟨batch, ahead, same⟩
  cases batch with
  | nil => cases same
  | cons next batch =>
      rcases List.cons.inj same with ⟨rfl, sameRest⟩
      rcases getElem?_of_cons_prefix_drop ahead with ⟨found, rest⟩
      have short : position < world.stream.length := (List.getElem?_eq_some_iff.mp found).1
      refine ⟨progress.started.trans (Nat.le_succ _), short, ?_,
        Or.inr ⟨next.id, rfl, Cut.after increasing found⟩, batch, rest, sameRest⟩
      change world.taken ++ [next.view] = _
      rw [progress.taken, drop_take_succ found progress.started, List.map_append]
      rfl

/-- A careful read starts where the consumer is. -/
theorem Progress.issueRead {world : OutboxWorld} {origin position : Nat} {start : EntryId}
    (progress : Progress world origin position)
    (increasing : Increasing StreamEntry.id world.stream)
    (resolves : Resolves world.stream world.lastId start)
    (kept : world.lastId = "$" -> world.stream.length = origin) :
    StreamCut world.stream position start := by
  rcases progress.cursor with ⟨dollar, atOrigin⟩ | ⟨id, concrete, cut⟩
  · rw [resolves.eq_of_dollar dollar, atOrigin, ← kept dollar]
    exact Cut.atEnd increasing
  · rw [resolves.eq_of_text concrete]
    exact cut

/-- The first read puts origin and position at the end of the stream. -/
theorem progress_of_first_read {world : OutboxWorld} {start : EntryId}
    (increasing : Increasing StreamEntry.id world.stream) (dollar : world.lastId = "$")
    (nothing : world.taken = []) (resolves : Resolves world.stream world.lastId start)
    (firstRead : Option Nat) :
    Progress { world with phase := .waiting start, firstRead := firstRead }
      world.stream.length world.stream.length := by
  refine ⟨le_rfl, le_rfl, ?_, Or.inl ⟨dollar, rfl⟩, ?_⟩
  · change world.taken = _
    rw [nothing, List.take_length, List.drop_length, List.map_nil]
  · change StreamCut _ _ start
    rw [resolves.eq_of_dollar dollar]
    exact Cut.atEnd increasing

end Progress

section Steps

variable {toLowercase : String -> String} {json : JsonText} {name : String}
  {debug : RedisValue -> String} {world next : OutboxWorld} {event : OutboxEvent}

theorem OutboxStep.increasing (taken : OutboxStep toLowercase json name debug world event next)
    (increasing : Increasing StreamEntry.id world.stream) :
    Increasing StreamEntry.id next.stream := by
  cases taken with
  | append newer => exact increasing.append newer
  | _ => exact increasing

/-- The first read is remembered. -/
theorem OutboxStep.firstRead {origin : Nat}
    (taken : OutboxStep toLowercase json name debug world event next)
    (read : world.firstRead = some origin) : next.firstRead = some origin := by
  cases taken with
  | issueRead phase resolves =>
      dsimp only
      rw [read]
      rfl
  | _ => exact read

/-- A step keeps the origin, unless it is a read that moves it. -/
theorem Progress.step {origin position : Nat} (progress : Progress world origin position)
    (increasing : Increasing StreamEntry.id world.stream)
    (taken : OutboxStep toLowercase json name debug world event next)
    (kept : forall start, event = .readIssued start -> world.lastId = "$" ->
      world.stream.length = origin) :
    Exists fun position => Progress next origin position := by
  -- Most steps leave the stream, the cursor and what was taken alone.
  have samePosition : forall phase, PhaseAgrees world.stream position phase ->
      forall firstRead gateway, Progress
        { world with phase := phase, firstRead := firstRead, gateway := gateway } origin position :=
    fun phase agrees _ _ =>
      ⟨progress.started, progress.within, progress.taken, progress.cursor, agrees⟩
  cases taken with
  | append newer => exact ⟨position, progress.append newer⟩
  | changeGateway operation => exact ⟨position, samePosition _ progress.phase _ _⟩
  | connectFail phase => exact ⟨position, progress⟩
  | @issueRead start phase resolves =>
      have agrees := progress.issueRead increasing resolves (kept start rfl)
      exact ⟨position, samePosition (.waiting start) agrees _ _⟩
  | readFail phase => exact ⟨position, samePosition .connecting trivial _ _⟩
  | reply phase answers =>
      have agrees := progress.phase
      rw [phase] at agrees
      exact ⟨position, samePosition _ (answers.phaseAgrees agrees) _ _⟩
  | process reading phase => exact ⟨position + 1, progress.process increasing phase⟩
  | finish phase => exact ⟨position, samePosition .connecting trivial _ _⟩

end Steps

section Runs

variable {toLowercase : String -> String} {json : JsonText} {name : String}
  {debug : RedisValue -> String}

theorem Tracked.initial {stream : List StreamEntry} (increasing : Increasing StreamEntry.id stream)
    (gateway : GatewayState) : Tracked (OutboxWorld.initial stream gateway) where
  increasing := increasing
  unread := fun _ => ⟨rfl, rfl, rfl⟩
  read := fun _ impossible => nomatch impossible

/-- A world whose first read is behind it is tracked if its position is. -/
theorem tracked_of_progress {world : OutboxWorld} {origin position : Nat}
    (increasing : Increasing StreamEntry.id world.stream) (read : world.firstRead = some origin)
    (progress : Progress world origin position) : Tracked world where
  increasing := increasing
  unread := by
    intro unread
    rw [read] at unread
    cases unread
  read := by
    intro other same
    rw [read] at same
    cases same
    exact ⟨position, progress⟩

/-- Before the first read only that read can be issued, and afterwards every step
moves the position ahead of the same origin. -/
theorem Tracked.step {world next : OutboxWorld} {event : OutboxEvent} (tracked : Tracked world)
    (taken : CarefulOutboxStep toLowercase json name debug world event next) : Tracked next := by
  rcases taken with ⟨step, kept⟩
  have increasing := step.increasing tracked.increasing
  cases read : world.firstRead with
  | some origin =>
      rcases tracked.read origin read with ⟨position, progress⟩
      have careful : forall start, event = .readIssued start -> world.lastId = "$" ->
          world.stream.length = origin := by
        rintro start rfl dollar
        exact kept dollar origin read
      rcases progress.step tracked.increasing step careful with ⟨position, progress⟩
      exact tracked_of_progress increasing (step.firstRead read) progress
  | none =>
      have unread := tracked.unread read
      have nobody : forall origin, world.firstRead = some origin -> False := by
        intro origin other
        rw [read] at other
        cases other
      cases step with
      | append newer => exact ⟨increasing, fun _ => unread, fun _ other => (nobody _ other).elim⟩
      | changeGateway operation =>
          exact ⟨increasing, fun _ => unread, fun _ other => (nobody _ other).elim⟩
      | connectFail phase => exact tracked
      | issueRead phase resolves =>
          rcases unread with ⟨dollar, nothing, _⟩
          refine tracked_of_progress increasing ?_
            (progress_of_first_read tracked.increasing dollar nothing resolves _)
          dsimp only
          rw [read]
          rfl
      | readFail phase => exact absurd (phase.symm.trans unread.2.2) nofun
      | reply phase answers => exact absurd (phase.symm.trans unread.2.2) nofun
      | process reading phase => exact absurd (phase.symm.trans unread.2.2) nofun
      | finish phase => exact absurd (phase.symm.trans unread.2.2) nofun

/-- What was taken is always an initial part of the entries from the origin
on. -/
theorem Progress.taken_prefix {world : OutboxWorld} {origin position : Nat}
    (progress : Progress world origin position) :
    world.taken <+: (world.stream.drop origin).map StreamEntry.view := by
  rw [progress.taken]
  exact ((List.take_prefix position world.stream).drop origin).map StreamEntry.view

theorem Progress.taken_of_caughtUp {world : OutboxWorld} {origin position : Nat}
    (progress : Progress world origin position) (caughtUp : world.CaughtUp) :
    world.taken = (world.stream.drop origin).map StreamEntry.view := by
  rcases caughtUp with ⟨start, phase, nothing⟩
  have cut := progress.phase
  rw [phase] at cut
  have ended : world.stream.drop position = [] :=
    (Cut.entriesAfter_eq cut).symm.trans nothing
  have everything : world.stream.take position = world.stream :=
    List.take_of_length_le (List.drop_eq_nil_iff.mp ended)
  rw [progress.taken, everything]

/-- In every run whose reads keep the start of consumption, the entries taken
are at any time an initial part of those appended since the first read, and all
of them once the reads have caught up. -/
theorem outbox_consumed_once_of_careful {stream : List StreamEntry} {gateway : GatewayState}
    {events : List OutboxEvent} {world : OutboxWorld}
    (increasing : Increasing StreamEntry.id stream)
    (run : Execution (CarefulOutboxStep toLowercase json name debug)
      (OutboxWorld.initial stream gateway) events world) :
    (forall origin, world.firstRead = some origin ->
      world.taken <+: (world.stream.drop origin).map StreamEntry.view) /\ world.ConsumedOnce := by
  have tracked := run.invariant Tracked (Tracked.initial increasing gateway)
    (fun _ _ _ before taken => before.step taken)
  constructor
  · intro origin read
    rcases tracked.read origin read with ⟨position, progress⟩
    exact progress.taken_prefix
  · intro origin read caughtUp
    rcases tracked.read origin read with ⟨position, progress⟩
    exact progress.taken_of_caughtUp caughtUp

end Runs

/-- A push without content for the subject `user:a`. -/
def emptyPush : Json :=
  Json.ofFields [("subjects", .array [.string "user:a"]), ("payload", .object [])]

def emptyPushText : String := "\x7b\"payload\":\x7b\x7d,\"subjects\":[\"user:a\"]\x7d"

/-- The JSON functions on the texts of these runs. -/
def emptyPushJson : JsonText := .ofTexts [(emptyPushText, emptyPush)]

def emptyPushEntry (time : Nat) : StreamEntry :=
  { id := toLex (time, 0), fields := [("data".toUTF8, emptyPushText.toUTF8)] }

def zeroReading : OutboxReading where
  order := .sorted
  snapshotNow := 0
  applyNow := 0
  routeNow := 0
  stickyNow := 0
  bufferNow := 0

/-- One entry arrives while the first read waits and one between two reads. -/
def consumptionEvents : List OutboxEvent :=
  [.readIssued streamBottom, .appended (emptyPushEntry 1),
    .replied (encodeBatch "outbox" [emptyPushEntry 1]), .processed zeroReading, .finished,
    .appended (emptyPushEntry 2), .readIssued (emptyPushEntry 1).id,
    .replied (encodeBatch "outbox" [emptyPushEntry 2]), .processed zeroReading, .finished,
    .readIssued (emptyPushEntry 2).id]

def consumptionWorld (gateway : GatewayState) : OutboxWorld where
  stream := [emptyPushEntry 1, emptyPushEntry 2]
  lastId := (emptyPushEntry 2).id.text
  phase := .waiting (emptyPushEntry 2).id
  taken := [(emptyPushEntry 1).view, (emptyPushEntry 2).view]
  firstRead := some 0
  gateway := gateway

/-- A waiting read is answered with one entry, which is then processed. -/
theorem take_single {toLowercase : String -> String} {json : JsonText} {name : String}
    {debug : RedisValue -> String} {world : OutboxWorld} {start : EntryId} (entry : StreamEntry)
    (reading : OutboxReading) (phase : world.phase = .waiting start)
    (available : [entry] <+: streamAfter start world.stream) :
    Execution (CarefulOutboxStep toLowercase json name debug) world
      [.replied (encodeBatch name [entry]), .processed reading, .finished]
      { world with
        lastId := entry.id.text
        phase := .connecting
        taken := world.taken ++ [entry.view]
        gateway := (processEntry toLowercase json reading world.gateway entry.view).2 } := by
  have single : phaseAfterReply debug (encodeBatch name [entry]) = .processing [entry.view] := by
    rw [phaseAfterReply, parseXread_encodeBatch]
    rfl
  have replied : CarefulOutboxStep toLowercase json name debug world
      (.replied (encodeBatch name [entry]))
      { world with phase := phaseAfterReply debug (encodeBatch name [entry]) } :=
    ⟨.reply phase (.batch (List.cons_ne_nil _ _) (by simp [xreadCount]) available), trivial⟩
  have processed : CarefulOutboxStep toLowercase json name debug
      { world with phase := phaseAfterReply debug (encodeBatch name [entry]) } (.processed reading)
      { world with
        lastId := entry.view.1
        phase := .processing []
        taken := world.taken ++ [entry.view]
        gateway := (processEntry toLowercase json reading world.gateway entry.view).2 } :=
    ⟨.process reading single, trivial⟩
  exact ((Execution.single replied).snoc processed).snoc ⟨.finish rfl, trivial⟩

theorem consumption_execution : Exists fun gateway =>
    Execution (CarefulOutboxStep asciiLowercase emptyPushJson "outbox" fun _ => "")
      (OutboxWorld.initial [] (GatewayState.new none)) consumptionEvents
      (consumptionWorld gateway) := by
  have first : Execution (CarefulOutboxStep asciiLowercase emptyPushJson "outbox" fun _ => "")
      (OutboxWorld.initial [] (GatewayState.new none))
      [.readIssued streamBottom, .appended (emptyPushEntry 1)]
      ⟨[emptyPushEntry 1], "$", .waiting streamBottom, [], some 0, GatewayState.new none⟩ :=
    (Execution.single ⟨.issueRead rfl .dollar, fun _ _ none => nomatch none⟩).snoc
      ⟨.append (by decide), trivial⟩
  have second : forall gateway, Execution
      (CarefulOutboxStep asciiLowercase emptyPushJson "outbox" fun _ => "")
      ⟨[emptyPushEntry 1], (emptyPushEntry 1).id.text, .connecting, [(emptyPushEntry 1).view],
        some 0, gateway⟩
      [.appended (emptyPushEntry 2), .readIssued (emptyPushEntry 1).id]
      ⟨[emptyPushEntry 1, emptyPushEntry 2], (emptyPushEntry 1).id.text,
        .waiting (emptyPushEntry 1).id, [(emptyPushEntry 1).view], some 0, gateway⟩ := by
    intro gateway
    have newer : lastStreamId [emptyPushEntry 1] < (emptyPushEntry 2).id := by decide
    exact (Execution.single ⟨.append newer, trivial⟩).snoc
      ⟨.issueRead rfl (.concrete _), fun dollar => absurd dollar (EntryId.text_ne_dollar _)⟩
  have firstTaken := first.trans
    (take_single (emptyPushEntry 1) zeroReading rfl List.prefix_rfl)
  have onlySecond : streamAfter (emptyPushEntry 1).id [emptyPushEntry 1, emptyPushEntry 2] =
      [emptyPushEntry 2] := rfl
  have secondTaken := (firstTaken.trans (second _)).trans
    (take_single (emptyPushEntry 2) zeroReading rfl (onlySecond ▸ List.prefix_rfl))
  exact ⟨_, secondTaken.snoc ⟨.issueRead rfl (.concrete _),
    fun dollar => absurd dollar (EntryId.text_ne_dollar _)⟩⟩

theorem outbox_consumed_once_of_two_pushes : Exists fun gateway =>
    (consumptionWorld gateway).CaughtUp /\
      (consumptionWorld gateway).taken =
        [emptyPushEntry 1, emptyPushEntry 2].map StreamEntry.view := by
  rcases consumption_execution with ⟨gateway, execution⟩
  have caughtUp : (consumptionWorld gateway).CaughtUp := ⟨_, rfl, rfl⟩
  exact ⟨gateway, caughtUp,
    (outbox_consumed_once_of_careful List.Pairwise.nil execution).2 0 rfl caughtUp⟩

/-- The first read times out on the empty stream, an entry arrives, and the
next read starts behind it. -/
def skippedEvents : List OutboxEvent :=
  [.readIssued streamBottom, .replied .nil, .finished, .appended (emptyPushEntry 1),
    .readIssued (emptyPushEntry 1).id]

def skippedWorld : OutboxWorld where
  stream := [emptyPushEntry 1]
  lastId := "$"
  phase := .waiting (emptyPushEntry 1).id
  taken := []
  firstRead := some 0
  gateway := GatewayState.new none

theorem outbox_entry_skipped :
    Execution (OutboxStep asciiLowercase emptyPushJson "outbox" fun _ => "")
      (OutboxWorld.initial [] (GatewayState.new none)) skippedEvents skippedWorld /\
      ¬ skippedWorld.ConsumedOnce := by
  constructor
  · exact ((((Execution.refl.snoc (.issueRead rfl .dollar)).snoc (.reply rfl .timeout)).snoc
      (.finish rfl)).snoc (.append (by decide))).snoc (.issueRead rfl .dollar)
  · intro consumed
    have none := consumed 0 rfl ⟨_, rfl, rfl⟩
    cases none

end Broker
end Gateway

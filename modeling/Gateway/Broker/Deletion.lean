import Gateway.Broker.ExactlyOnce
import Gateway.Broker.SnapshotLeaks

namespace Gateway
namespace Broker

open Foundation State Ingress

/-!
# Deleting what was consumed

With deletion on consumption, an XDEL is issued at the end of the processing of
an entry.  The exits before the dispatch have moved the cursor already but do
not come by this end, so that the entries that take them stay in the stream
although they are never read again.
-/

section Dispatched

variable (toLowercase : String -> String) (json : JsonText)

/-- The payload of a decoded entry. -/
abbrev payloadOf (decoded : Json) : Json :=
  (decoded.get "payload").getD .null

/-- Decoded entries with a subject, whose payload is no complete snapshot and
has a text as an event. -/
structure DispatchedContent (decoded : Json) : Prop where
  addressed : decoded.stringsField "subjects" ≠ []
  noSnapshot : ¬ (((payloadOf decoded).strField "type").getD "" = snapshotType /\
    CompleteSnapshot toLowercase (payloadOf decoded))
  renders : (json.render (eventEnvelope (payloadOf decoded))).isSome = true

instance (decoded : Json) : Decidable (DispatchedContent toLowercase json decoded) :=
  decidable_of_iff
    (decoded.stringsField "subjects" ≠ [] /\
      ¬ (((payloadOf decoded).strField "type").getD "" = snapshotType /\
        CompleteSnapshot toLowercase (payloadOf decoded)) /\
      (json.render (eventEnvelope (payloadOf decoded))).isSome = true)
    ⟨fun ⟨first, second, third⟩ => ⟨first, second, third⟩,
      fun ⟨first, second, third⟩ => ⟨first, second, third⟩⟩

/-- The data of the entry can be decoded, and the content is dispatched. -/
def Dispatched (entry : ParsedEntry) : Prop :=
  Exists fun decoded => decoded ∈ decodeEntry json entry.2 /\
    DispatchedContent toLowercase json decoded

instance (entry : ParsedEntry) : Decidable (Dispatched toLowercase json entry) :=
  inferInstanceAs (Decidable (Exists fun decoded => decoded ∈ _ /\ _))

variable {toLowercase json}

/-- Whether the processing reaches the dispatch depends on the entry alone. -/
theorem processEntry_isSome_iff (reading : OutboxReading) (gateway : GatewayState)
    (entry : ParsedEntry) :
    (processEntry toLowercase json reading gateway entry).1.isSome = true <->
      Dispatched toLowercase json entry := by
  unfold processEntry Dispatched
  cases decodeEntry json entry.2 with
  | none => exact iff_of_false Bool.false_ne_true fun ⟨_, impossible, _⟩ => nomatch impossible
  | some decoded =>
      have only : (Exists fun found => found ∈ some decoded /\
          DispatchedContent toLowercase json found) <->
          DispatchedContent toLowercase json decoded := by
        constructor
        · rintro ⟨found, same, content⟩
          rwa [Option.some.inj same]
        · exact fun content => ⟨decoded, rfl, content⟩
      rw [only]
      dsimp only
      by_cases unaddressed : decoded.stringsField "subjects" = []
      · rw [if_pos unaddressed]
        exact iff_of_false Bool.false_ne_true fun content => content.addressed unaddressed
      · rw [if_neg unaddressed]
        have recognised := parseRelayContextSnapshot_isSome_iff toLowercase reading.snapshotNow
          (payloadOf decoded)
        cases parsed : parseRelayContextSnapshot toLowercase reading.snapshotNow
            (payloadOf decoded) with
        | some snapshot =>
            rw [parsed] at recognised
            exact iff_of_false Bool.false_ne_true
              fun content => content.noSnapshot (recognised.mp rfl)
        | none =>
            rw [parsed] at recognised
            have noSnapshot := mt recognised.mpr Bool.false_ne_true
            cases rendered : json.render (eventEnvelope (payloadOf decoded)) with
            | none =>
                refine iff_of_false Bool.false_ne_true fun content => ?_
                have renders := content.renders
                rw [rendered] at renders
                cases renders
            | some text =>
                exact iff_of_true rfl ⟨unaddressed, noSnapshot, by rw [rendered]; rfl⟩

end Dispatched

/-- The world of the consumer together with the ids that an XDEL was issued
for.  The stream of the world remembers every entry that was ever appended. -/
structure DeletingWorld where
  world : OutboxWorld
  deleted : List String

namespace DeletingWorld

/-- The entries that the server still stores. -/
def stored (deleting : DeletingWorld) : List StreamEntry :=
  deleting.world.stream.filter fun entry => decide (entry.id.text ∉ deleting.deleted)

def initial (stream : List StreamEntry) (gateway : GatewayState) : DeletingWorld where
  world := OutboxWorld.initial stream gateway
  deleted := []

end DeletingWorld

/-- The ids deleted at the end of the processing of an entry. -/
def deletionOf (outboxDeleteOnConsume : Bool) (entryId : String)
    (dispatchResult : Option DispatchResult) : List String :=
  match dispatchResult with
  | none => []
  | some _ => if outboxDeleteOnConsume then [entryId] else []

section Steps

variable (toLowercase : String -> String) (json : JsonText) (name : String)
  (debug : RedisValue -> String) (outboxDeleteOnConsume : Bool)

/-- The consumer loop over a stream from which entries disappear.  A read is
answered from what is stored; the symbol `$` still stands for the last id that
was ever given out. -/
inductive DeletingStep : DeletingWorld -> OutboxEvent -> DeletingWorld -> Prop where
  | append {deleting : DeletingWorld} {entry : StreamEntry}
      (newer : lastStreamId deleting.world.stream < entry.id) :
      DeletingStep deleting (.appended entry)
        { deleting with
          world := { deleting.world with stream := deleting.world.stream ++ [entry] } }
  | changeGateway {deleting : DeletingWorld} (operation : Operation) :
      DeletingStep deleting (.gatewayChanged operation)
        { deleting with
          world := { deleting.world with
            gateway := operation.apply toLowercase deleting.world.gateway } }
  | connectFail {deleting : DeletingWorld} (phase : deleting.world.phase = .connecting) :
      DeletingStep deleting .connectFailed deleting
  | issueRead {deleting : DeletingWorld} {start : EntryId}
      (phase : deleting.world.phase = .connecting)
      (resolves : Resolves deleting.world.stream deleting.world.lastId start) :
      DeletingStep deleting (.readIssued start)
        { deleting with
          world := { deleting.world with
            phase := .waiting start
            firstRead := deleting.world.firstRead <|> some deleting.world.stream.length } }
  | readFail {deleting : DeletingWorld} {start : EntryId}
      (phase : deleting.world.phase = .waiting start) :
      DeletingStep deleting .readFailed
        { deleting with world := { deleting.world with phase := .connecting } }
  | reply {deleting : DeletingWorld} {start : EntryId} {value : RedisValue}
      (phase : deleting.world.phase = .waiting start)
      (answers : XreadReply name debug deleting.stored start value) :
      DeletingStep deleting (.replied value)
        { deleting with
          world := { deleting.world with phase := phaseAfterReply debug value } }
  | process {deleting : DeletingWorld} {entry : ParsedEntry} {remaining : List ParsedEntry}
      (reading : OutboxReading) (phase : deleting.world.phase = .processing (entry :: remaining)) :
      DeletingStep deleting (.processed reading)
        { world := { deleting.world with
            lastId := entry.1
            phase := .processing remaining
            taken := deleting.world.taken ++ [entry]
            gateway := (processEntry toLowercase json reading deleting.world.gateway entry).2 }
          deleted := deleting.deleted ++ deletionOf outboxDeleteOnConsume entry.1
            (processEntry toLowercase json reading deleting.world.gateway entry).1 }
  | finish {deleting : DeletingWorld} (phase : deleting.world.phase = .processing []) :
      DeletingStep deleting .finished
        { deleting with world := { deleting.world with phase := .connecting } }

end Steps

/-- Every entry that the cursor has stood on had its XDEL exactly once, and
none of them is stored. -/
structure ConsumedDeleted (deleting : DeletingWorld) : Prop where
  issued : forall entry, entry ∈ deleting.world.taken -> deleting.deleted.count entry.1 = 1
  removed : forall entry, entry ∈ deleting.stored -> entry.view ∉ deleting.world.taken

section Runs

variable {toLowercase : String -> String} {json : JsonText} {name : String}
  {debug : RedisValue -> String}

/-- A step of the plain consumer continues the stretch of the stream that was
taken, or starts a new one while nothing is taken yet. -/
theorem Progress.step_or_restart {world next : OutboxWorld} {event : OutboxEvent}
    {origin position : Nat} (progress : Progress world origin position)
    (increasing : Increasing StreamEntry.id world.stream)
    (taken : OutboxStep toLowercase json name debug world event next) :
    Exists fun origin => Exists fun position => Progress next origin position := by
  by_cases restarts : world.lastId = "$" /\ Exists fun start => event = .readIssued start
  · rcases restarts with ⟨dollar, start, rfl⟩
    have atOrigin : position = origin := by
      rcases progress.cursor with ⟨_, same⟩ | ⟨id, concrete, _⟩
      · exact same
      · exact absurd (concrete.symm.trans dollar) (EntryId.text_ne_dollar id)
    have nothing : world.taken = [] := by
      rw [progress.taken, atOrigin, List.drop_take_self, List.map_nil]
    cases taken with
    | issueRead phase resolves =>
        exact ⟨_, _, progress_of_first_read increasing dollar nothing resolves _⟩
  · have kept : forall start, event = .readIssued start -> world.lastId = "$" ->
        world.stream.length = origin :=
      fun start same dollar => absurd ⟨dollar, start, same⟩ restarts
    exact ⟨origin, progress.step increasing taken kept⟩

/-- What was taken comes from entries of the stream. -/
theorem Progress.mem_taken {world : OutboxWorld} {origin position : Nat} {entry : ParsedEntry}
    (progress : Progress world origin position) (member : entry ∈ world.taken) :
    Exists fun source : StreamEntry => source ∈ world.stream.take position /\
      source.view = entry := by
  rw [progress.taken] at member
  rcases List.mem_map.mp member with ⟨source, inside, same⟩
  exact ⟨source, List.mem_of_mem_drop inside, same⟩

/-- No id is taken twice. -/
theorem Progress.nodup_ids {world : OutboxWorld} {origin position : Nat}
    (progress : Progress world origin position)
    (increasing : Increasing StreamEntry.id world.stream) :
    (world.taken.map Prod.fst).Nodup := by
  have stretch : ((world.stream.take position).drop origin).Sublist world.stream :=
    (List.drop_sublist _ _).trans (List.take_sublist _ _)
  rw [progress.taken, List.map_map, List.Nodup, List.pairwise_map]
  refine (List.Pairwise.sublist stretch increasing).imp ?_
  intro earlier later before same
  exact absurd (EntryId.text_inj same) before.ne

/-- What was taken are the entries that the cursor has reached or passed, from
some origin on. -/
theorem Progress.taken_eq_reached {world : OutboxWorld} {origin position : Nat} {id : EntryId}
    (progress : Progress world origin position) (concrete : world.lastId = id.text) :
    world.taken = ((world.stream.drop origin).filter fun entry =>
      decide (entry.id ≤ id)).map StreamEntry.view := by
  rcases progress.cursor with ⟨dollar, _⟩ | ⟨reached, same, cut⟩
  · rw [concrete] at dollar
    exact absurd dollar (EntryId.text_ne_dollar id)
  · have sameId : reached = id := EntryId.text_inj (same.symm.trans concrete)
    subst sameId
    have split : world.stream.drop origin =
        (world.stream.take position).drop origin ++ world.stream.drop position := by
      rw [← List.drop_append_of_le_length, List.take_append_drop]
      rw [List.length_take, Nat.min_eq_left progress.within]
      exact progress.started
    have behind : ((world.stream.take position).drop origin).filter
        (fun entry => decide (entry.id ≤ reached)) = (world.stream.take position).drop origin :=
      List.filter_eq_self.mpr fun entry member =>
        decide_eq_true (cut.behind entry (List.mem_of_mem_drop member))
    have ahead : (world.stream.drop position).filter
        (fun entry => decide (entry.id ≤ reached)) = [] :=
      List.filter_eq_nil_iff.mpr fun entry member =>
        by rw [decide_eq_true_eq]; exact not_le.mpr (cut.ahead entry member)
    rw [progress.taken, split, List.filter_append, behind, ahead, List.append_nil]

/-! ## The consumer with deletion and the consumer without -/

/-- The account of a run with deletion: the plain consumer has made progress,
and the XDELs issued are those of the dispatched entries. -/
structure Accounted (toLowercase : String -> String) (json : JsonText)
    (deleting : DeletingWorld) : Prop where
  increasing : Increasing StreamEntry.id deleting.world.stream
  progress : Exists fun origin => Exists fun position => Progress deleting.world origin position
  deleted : deleting.deleted = (deleting.world.taken.filter fun entry =>
    decide (Dispatched toLowercase json entry)).map Prod.fst

theorem Accounted.mem_deleted {deleting : DeletingWorld} {entryId : String}
    (accounted : Accounted toLowercase json deleting) :
    entryId ∈ deleting.deleted <-> Exists fun entry : ParsedEntry =>
      entry ∈ deleting.world.taken /\ Dispatched toLowercase json entry /\ entry.1 = entryId := by
  rw [accounted.deleted]
  simp only [List.mem_map, List.mem_filter, decide_eq_true_eq, and_assoc]

/-- Nothing is deleted ahead of the position. -/
theorem Accounted.streamAfter_stored {deleting : DeletingWorld} {start : EntryId}
    (accounted : Accounted toLowercase json deleting)
    (phase : deleting.world.phase = .waiting start) :
    streamAfter start deleting.stored = streamAfter start deleting.world.stream := by
  rcases accounted.progress with ⟨origin, position, progress⟩
  have cut := progress.phase
  rw [phase] at cut
  apply entriesAfter_filter
  intro entry member later
  rw [decide_eq_true_eq, accounted.mem_deleted]
  rintro ⟨consumed, taken, _, sameText⟩
  rcases progress.mem_taken taken with ⟨source, behind, rfl⟩
  have sameId : source.id = entry.id := EntryId.text_inj sameText
  exact absurd (cut.behind source behind) (not_le.mpr (sameId ▸ later))

/-- The consumer with deletion takes the steps of the consumer without. -/
theorem DeletingStep.forget {outboxDeleteOnConsume : Bool} {deleting next : DeletingWorld}
    {event : OutboxEvent} (accounted : Accounted toLowercase json deleting)
    (taken : DeletingStep toLowercase json name debug outboxDeleteOnConsume deleting event next) :
    OutboxStep toLowercase json name debug deleting.world event next.world := by
  cases taken with
  | append newer => exact .append newer
  | changeGateway operation => exact .changeGateway operation
  | connectFail phase => exact .connectFail phase
  | issueRead phase resolves => exact .issueRead phase resolves
  | readFail phase => exact .readFail phase
  | reply phase answers =>
      refine .reply phase ?_
      cases answers with
      | timeout => exact .timeout
      | batch nonempty bounded available =>
          rw [accounted.streamAfter_stored phase] at available
          exact .batch nonempty bounded available
      | unexpected rejected => exact .unexpected rejected
  | process reading phase => exact .process reading phase
  | finish phase => exact .finish phase

theorem deletionOf_processEntry (reading : OutboxReading) (gateway : GatewayState)
    (entry : ParsedEntry) :
    deletionOf true entry.1 (processEntry toLowercase json reading gateway entry).1 =
      ([entry].filter fun entry => decide (Dispatched toLowercase json entry)).map Prod.fst := by
  have reaches := @processEntry_isSome_iff toLowercase json reading gateway entry
  cases result : (processEntry toLowercase json reading gateway entry).1 with
  | none =>
      rw [result] at reaches
      have stays := mt reaches.mpr Bool.false_ne_true
      rw [deletionOf, List.filter_singleton, decide_eq_false stays]
      rfl
  | some dispatched =>
      rw [result] at reaches
      have leaves := reaches.mp rfl
      rw [deletionOf, List.filter_singleton, decide_eq_true leaves]
      rfl

theorem Accounted.step {deleting next : DeletingWorld} {event : OutboxEvent}
    (accounted : Accounted toLowercase json deleting)
    (taken : DeletingStep toLowercase json name debug true deleting event next) :
    Accounted toLowercase json next := by
  have plain := taken.forget accounted
  rcases accounted.progress with ⟨origin, position, progress⟩
  refine ⟨plain.increasing accounted.increasing, progress.step_or_restart accounted.increasing plain,
    ?_⟩
  cases taken with
  | process reading phase =>
      dsimp only
      rw [accounted.deleted, deletionOf_processEntry, ← List.map_append, ← List.filter_append]
  | _ => exact accounted.deleted

theorem Accounted.initial {stream : List StreamEntry}
    (increasing : Increasing StreamEntry.id stream) (gateway : GatewayState) :
    Accounted toLowercase json (DeletingWorld.initial stream gateway) where
  increasing := increasing
  progress := by
    refine ⟨stream.length, stream.length, le_rfl, le_rfl, ?_, Or.inl ⟨rfl, rfl⟩, trivial⟩
    rw [List.drop_take_self]
    rfl
  deleted := rfl

/-- The deletions are complete exactly if every entry taken was dispatched. -/
theorem Accounted.consumedDeleted_iff {deleting : DeletingWorld}
    (accounted : Accounted toLowercase json deleting) :
    ConsumedDeleted deleting <->
      forall entry, entry ∈ deleting.world.taken -> Dispatched toLowercase json entry := by
  rcases accounted.progress with ⟨origin, position, progress⟩
  have distinct := progress.nodup_ids accounted.increasing
  constructor
  · intro consumed entry taken
    have listed : entry.1 ∈ deleting.deleted := by
      rw [← List.count_pos_iff, consumed.issued entry taken]
      exact Nat.one_pos
    rcases accounted.mem_deleted.mp listed with ⟨other, otherTaken, dispatched, sameId⟩
    rwa [← List.inj_on_of_nodup_map distinct otherTaken taken sameId]
  · intro dispatched
    have everything : deleting.deleted = deleting.world.taken.map Prod.fst := by
      rw [accounted.deleted, List.filter_eq_self.mpr]
      exact fun entry taken => decide_eq_true (dispatched entry taken)
    constructor
    · intro entry taken
      rw [everything]
      exact List.count_eq_one_of_mem distinct (List.mem_map_of_mem taken)
    · intro entry kept taken
      have absent := of_decide_eq_true (List.mem_filter.mp kept).2
      rw [everything] at absent
      exact absent (List.mem_map_of_mem taken)

/-- In every run with deletion on consumption, whatever its batches contain,
the entries consumed are those that the cursor has reached or passed, and they
are all deleted, once each, exactly if all of them came to be dispatched. -/
theorem consumed_entries_deleted_iff {stream : List StreamEntry} {gateway : GatewayState}
    {events : List OutboxEvent} {deleting : DeletingWorld}
    (increasing : Increasing StreamEntry.id stream)
    (run : Execution (DeletingStep toLowercase json name debug true)
      (DeletingWorld.initial stream gateway) events deleting) :
    (forall id : EntryId, deleting.world.lastId = id.text -> Exists fun origin =>
      deleting.world.taken = ((deleting.world.stream.drop origin).filter fun entry =>
        decide (entry.id ≤ id)).map StreamEntry.view) /\
    (ConsumedDeleted deleting <->
      forall entry, entry ∈ deleting.world.taken -> Dispatched toLowercase json entry) := by
  have accounted := run.invariant (Accounted toLowercase json)
    (Accounted.initial increasing gateway) (fun _ _ _ before taken => before.step taken)
  refine ⟨fun id concrete => ?_, accounted.consumedDeleted_iff⟩
  rcases accounted.progress with ⟨origin, position, progress⟩
  exact ⟨origin, progress.taken_eq_reached concrete⟩

end Runs

/-- The decoded data of an entry that has one field. -/
theorem decodeEntry_view (json : JsonText) (id : EntryId) (text : String) :
    decodeEntry json (StreamEntry.view ⟨id, [("data".toUTF8, text.toUTF8)]⟩).2 =
      json.parse text := by
  have stored : (StreamEntry.view ⟨id, [("data".toUTF8, text.toUTF8)]⟩).2.lookup "data" =
      some text := by
    rw [StreamEntry.view]
    dsimp only
    rw [List.foldl_cons, List.foldl_nil, fromUtf8Lossy_toUTF8, fromUtf8Lossy_toUTF8]
    exact AList.lookup_insert _
  rw [decodeEntry, stored, Option.getD_some]

def waitingWorld (stream : List StreamEntry) : DeletingWorld where
  world :=
    { stream := stream
      lastId := "$"
      phase := .waiting streamBottom
      taken := []
      firstRead := some 0
      gateway := GatewayState.new none }
  deleted := []

def processingWorld (entry : StreamEntry) : DeletingWorld where
  world := { (waitingWorld [entry]).world with phase := .processing [entry.view] }
  deleted := []

/-- The world in which one entry was consumed. -/
def consumedWorld (json : JsonText) (entry : StreamEntry) : DeletingWorld where
  world :=
    { stream := [entry]
      lastId := entry.id.text
      phase := .processing []
      taken := [entry.view]
      firstRead := some 0
      gateway := (processEntry asciiLowercase json zeroReading (GatewayState.new none)
        entry.view).2 }
  deleted := [] ++ deletionOf true entry.id.text
    (processEntry asciiLowercase json zeroReading (GatewayState.new none) entry.view).1

theorem consumedWorld_execution (json : JsonText) (entry : StreamEntry)
    (newer : streamBottom < entry.id) :
    Execution (DeletingStep asciiLowercase json "outbox" (fun _ => "") true)
      (DeletingWorld.initial [] (GatewayState.new none))
      [.readIssued streamBottom, .appended entry, .replied (encodeBatch "outbox" [entry]),
        .processed zeroReading] (consumedWorld json entry) := by
  have asked : DeletingStep asciiLowercase json "outbox" (fun _ => "") true
      (DeletingWorld.initial [] (GatewayState.new none)) (.readIssued streamBottom)
      (waitingWorld []) := .issueRead rfl .dollar
  have appended : DeletingStep asciiLowercase json "outbox" (fun _ => "") true (waitingWorld [])
      (.appended entry) (waitingWorld [entry]) := .append newer
  have available : [entry] <+: streamAfter streamBottom (waitingWorld [entry]).stored := by
    have everything : (waitingWorld [entry]).stored = [entry] := rfl
    rw [everything, streamAfter, entriesAfter, List.filter_singleton, decide_eq_true newer]
    exact List.prefix_rfl
  have replied : DeletingStep asciiLowercase json "outbox" (fun _ => "") true
      (waitingWorld [entry]) (.replied (encodeBatch "outbox" [entry])) (processingWorld entry) := by
    have single : phaseAfterReply (fun _ => "") (encodeBatch "outbox" [entry]) =
        .processing [entry.view] := by
      rw [phaseAfterReply, parseXread_encodeBatch]
      rfl
    rw [processingWorld, ← single]
    exact .reply rfl (.batch (List.cons_ne_nil _ _) (by simp [xreadCount]) available)
  have processed : DeletingStep asciiLowercase json "outbox" (fun _ => "") true
      (processingWorld entry) (.processed zeroReading) (consumedWorld json entry) :=
    @DeletingStep.process asciiLowercase json "outbox" (fun _ => "") true (processingWorld entry)
      entry.view [] zeroReading rfl
  exact (((Execution.single asked).snoc appended).snoc replied).snoc processed

/-- A push is deleted when it is consumed. -/
theorem consumed_entries_deleted_iff_of_push :
    ConsumedDeleted (consumedWorld emptyPushJson (emptyPushEntry 1)) := by
  have run := consumedWorld_execution emptyPushJson (emptyPushEntry 1) (by decide)
  refine (consumed_entries_deleted_iff List.Pairwise.nil run).2.mpr ?_
  intro entry taken
  rw [List.mem_singleton.mp taken]
  refine ⟨emptyPush, ?_, by decide +kernel⟩
  rw [emptyPushEntry, decodeEntry_view]
  exact JsonText.ofTexts_parse_head emptyPushText emptyPush []

/-- A complete snapshot in the stream. -/
def policyJson : JsonText := snapshotJson (Json.ofInt 7) "7"

def policyEntry : StreamEntry where
  id := toLex (1, 0)
  fields := [("data".toUTF8, (snapshotText "7").toUTF8)]

theorem policyEntry_not_dispatched :
    ¬ Dispatched asciiLowercase policyJson policyEntry.view := by
  have decodes : decodeEntry policyJson policyEntry.view.2 =
      some (snapshotOfVersion (Json.ofInt 7)) := by
    rw [policyEntry, decodeEntry_view]
    exact snapshotJson_parse _ _
  rintro ⟨decoded, found, content⟩
  rw [decodes] at found
  cases found
  exact absurd content (by decide +kernel)

/-- The snapshot is consumed, but no XDEL is issued for it and the stream keeps
it. -/
theorem snapshot_never_deleted :
    Execution (DeletingStep asciiLowercase policyJson "outbox" (fun _ => "") true)
      (DeletingWorld.initial [] (GatewayState.new none))
      [.readIssued streamBottom, .appended policyEntry,
        .replied (encodeBatch "outbox" [policyEntry]), .processed zeroReading]
      (consumedWorld policyJson policyEntry) /\
    (consumedWorld policyJson policyEntry).deleted = [] /\
    (consumedWorld policyJson policyEntry).stored = [policyEntry] /\
    ¬ ConsumedDeleted (consumedWorld policyJson policyEntry) := by
  have nothing : (consumedWorld policyJson policyEntry).deleted = [] := by
    have stays := mt (processEntry_isSome_iff zeroReading (GatewayState.new none)
      policyEntry.view).mp policyEntry_not_dispatched
    rw [consumedWorld, Option.not_isSome_iff_eq_none.mp stays]
    rfl
  refine ⟨consumedWorld_execution policyJson policyEntry (by decide), nothing, ?_, ?_⟩
  · rw [DeletingWorld.stored, nothing]
    rfl
  · intro consumed
    have once := consumed.issued policyEntry.view List.mem_cons_self
    rw [nothing] at once
    cases once

end Broker
end Gateway

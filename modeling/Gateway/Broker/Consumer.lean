import Gateway.Broker.Outbox
import Gateway.State.Operations

namespace Gateway
namespace Broker

open Foundation State

/-!
# The outbox consumer

The consumer reads the stream in a loop.  Its cursor starts as the symbol `$`
and becomes the id of an entry when that entry is processed; failed and empty
reads go round the loop with the cursor they had.  Producers append entries
and other tasks change the gateway between any two steps of the loop.

A read with `$` starts at the end of the stream as it is when the read is
issued.  Entries that arrive between two such reads are never seen.
-/

/-- Where the consumer is in its loop.  A waiting read remembers the id it
starts from. -/
inductive ConsumerPhase where
  | connecting
  | waiting (start : EntryId)
  | processing (remaining : List ParsedEntry)

/-- The stream, the consumer, and the gateway it serves.  `taken` lists the
entries that went through the processing, and `firstRead` is the length of the
stream when the first XREAD was issued. -/
structure OutboxWorld where
  stream : List StreamEntry
  lastId : String
  phase : ConsumerPhase
  taken : List ParsedEntry
  firstRead : Option Nat
  gateway : GatewayState

/-- `start_outbox_consumer` with its cursor at `$` on a given stream. -/
def OutboxWorld.initial (stream : List StreamEntry) (gateway : GatewayState) : OutboxWorld where
  stream := stream
  lastId := "$"
  phase := .connecting
  taken := []
  firstRead := none
  gateway := gateway

/-- The number of entries that one XREAD asks for. -/
def xreadCount : Nat := 50

/-- The id that the server reads an XREAD argument as. -/
inductive Resolves (stream : List StreamEntry) : String -> EntryId -> Prop where
  | dollar : Resolves stream "$" (lastStreamId stream)
  | concrete (id : EntryId) : Resolves stream id.text id

/-- What a waiting read may be answered with: nothing, a batch of the entries
after its start, or a value that is not a stream reply at all. -/
inductive XreadReply (name : String) (debug : RedisValue -> String) (stream : List StreamEntry)
    (start : EntryId) : RedisValue -> Prop where
  | timeout : XreadReply name debug stream start .nil
  | batch {entries : List StreamEntry} (nonempty : entries ≠ [])
      (bounded : entries.length ≤ xreadCount)
      (available : entries <+: streamAfter start stream) :
      XreadReply name debug stream start (encodeBatch name entries)
  | unexpected {value : RedisValue} {message : String}
      (rejected : parseXread debug value = .error message) :
      XreadReply name debug stream start value

/-- The loop body after a reply: parse it, and process its entries one after
the other, or start over. -/
def phaseAfterReply (debug : RedisValue -> String) (value : RedisValue) : ConsumerPhase :=
  match parseXread debug value with
  | .error _ => .connecting
  | .ok streams => .processing (streams.flatMap Prod.snd)

inductive OutboxEvent where
  | appended (entry : StreamEntry)
  | gatewayChanged (operation : Operation)
  | connectFailed
  | readIssued (start : EntryId)
  | readFailed
  | replied (value : RedisValue)
  | processed (reading : OutboxReading)
  | finished

section Steps

variable (toLowercase : String -> String) (json : JsonText) (name : String)
  (debug : RedisValue -> String)

inductive OutboxStep : OutboxWorld -> OutboxEvent -> OutboxWorld -> Prop where
  | append {world : OutboxWorld} {entry : StreamEntry}
      (newer : lastStreamId world.stream < entry.id) :
      OutboxStep world (.appended entry) { world with stream := world.stream ++ [entry] }
  | changeGateway {world : OutboxWorld} (operation : Operation) :
      OutboxStep world (.gatewayChanged operation)
        { world with gateway := operation.apply toLowercase world.gateway }
  | connectFail {world : OutboxWorld} (phase : world.phase = .connecting) :
      OutboxStep world .connectFailed world
  | issueRead {world : OutboxWorld} {start : EntryId} (phase : world.phase = .connecting)
      (resolves : Resolves world.stream world.lastId start) :
      OutboxStep world (.readIssued start)
        { world with
          phase := .waiting start
          firstRead := world.firstRead <|> some world.stream.length }
  | readFail {world : OutboxWorld} {start : EntryId} (phase : world.phase = .waiting start) :
      OutboxStep world .readFailed { world with phase := .connecting }
  | reply {world : OutboxWorld} {start : EntryId} {value : RedisValue}
      (phase : world.phase = .waiting start)
      (answers : XreadReply name debug world.stream start value) :
      OutboxStep world (.replied value) { world with phase := phaseAfterReply debug value }
  | process {world : OutboxWorld} {entry : ParsedEntry} {remaining : List ParsedEntry}
      (reading : OutboxReading) (phase : world.phase = .processing (entry :: remaining)) :
      OutboxStep world (.processed reading)
        { world with
          lastId := entry.1
          phase := .processing remaining
          taken := world.taken ++ [entry]
          gateway := (processEntry toLowercase json reading world.gateway entry).2 }
  | finish {world : OutboxWorld} (phase : world.phase = .processing []) :
      OutboxStep world .finished { world with phase := .connecting }

/-- A read with `$` after the first one is issued only if nothing was appended
since the first one. -/
def CursorKept (world : OutboxWorld) : OutboxEvent -> Prop
  | .readIssued _ =>
      world.lastId = "$" ->
        forall origin, world.firstRead = some origin -> world.stream.length = origin
  | _ => True

/-- The steps in which no read moves the start of consumption. -/
def CarefulOutboxStep (world : OutboxWorld) (event : OutboxEvent) (next : OutboxWorld) : Prop :=
  OutboxStep toLowercase json name debug world event next /\ CursorKept world event

end Steps

/-- The waiting read starts at the end of the stream. -/
def OutboxWorld.CaughtUp (world : OutboxWorld) : Prop :=
  Exists fun start => world.phase = .waiting start /\ streamAfter start world.stream = []

/-- Once the consumer has caught up, it has taken every entry from the first
read on, once each and in stream order. -/
def OutboxWorld.ConsumedOnce (world : OutboxWorld) : Prop :=
  forall origin, world.firstRead = some origin -> world.CaughtUp ->
    world.taken = (world.stream.drop origin).map StreamEntry.view

end Broker
end Gateway

import Gateway.Broker.Redis
import Gateway.Broker.RelaySnapshot
import Gateway.Ingress.Message
import Gateway.State.Connections

namespace Gateway
namespace Broker

open Foundation State Ingress

/-!
# Processing one outbox entry

An entry carries a JSON text in its `data` field.  A relay-context snapshot
updates the store.  Every other payload is wrapped in an event and dispatched:
a response to the connection that asked for it, if its route is still there,
and everything else to the subjects of the entry.
-/

/-- The clock readings and the iteration order of processing one entry. -/
structure OutboxReading where
  order : HashOrder String
  snapshotNow : Int
  applyNow : Int
  routeNow : Int
  stickyNow : Int
  bufferNow : Int

def DispatchResult.add (left right : DispatchResult) : DispatchResult :=
  { attemptedCount := left.attemptedCount + right.attemptedCount
    enqueuedCount := left.enqueuedCount + right.enqueuedCount }

/-- Send a response along its request route.  The first component is set when
it was put on the connection's channel; otherwise the attempts are counted. -/
def sendAlongRoute (reading : OutboxReading) (state : GatewayState) (requestId : String)
    (subjects : List String) (text : String) : Bool × DispatchResult × GatewayState :=
  match state.resolveRequestRoute reading.routeNow requestId subjects with
  | (none, resolved) => (false, { attemptedCount := 0, enqueuedCount := 0 }, resolved)
  | (some connectionId, resolved) =>
      match resolved.sendToConnection connectionId text with
      | (true, sent) => (true, { attemptedCount := 1, enqueuedCount := 1 }, sent)
      | (false, failed) =>
          (false, { attemptedCount := 1, enqueuedCount := 0 },
            failed.clearRequestRoute requestId)

/-- Dispatch the text of an event.  A response whose route is missing or stale
falls back to the subjects. -/
def dispatchEvent (reading : OutboxReading) (state : GatewayState) (requestId : Option String)
    (subjects : List String) (text : String) : DispatchResult × GatewayState :=
  match requestId with
  | none =>
      state.sendToSubjects reading.order reading.stickyNow reading.bufferNow subjects text true none
  | some requestId =>
      match sendAlongRoute reading state requestId subjects text with
      | (true, result, sent) => (result, sent)
      | (false, result, failed) =>
          let fallback := failed.sendToSubjects reading.order reading.stickyNow reading.bufferNow
            subjects text true none
          (DispatchResult.add result fallback.1, fallback.2)

section Processing

variable (toLowercase : String -> String) (json : JsonText)

/-- The JSON value of an entry.  An entry without data is an empty object. -/
def decodeEntry (fields : FieldMap) : Option Json :=
  json.parse ((fields.lookup "data").getD "\x7b\x7d")

/-- Process one entry.  The result is present if the entry reached the
dispatch, after which it may be deleted from the stream. -/
def processEntry (reading : OutboxReading) (state : GatewayState) (entry : ParsedEntry) :
    Option DispatchResult × GatewayState :=
  match decodeEntry json entry.2 with
  | none => (none, state)
  | some decoded =>
      let subjects := decoded.stringsField "subjects"
      if subjects = [] then (none, state)
      else
        let payload := (decoded.get "payload").getD .null
        match parseRelayContextSnapshot toLowercase reading.snapshotNow payload with
        | some snapshot =>
            (none, state.applyRelayContextSnapshot toLowercase reading.applyNow snapshot)
        | none =>
            match json.render (eventEnvelope payload) with
            | none => (none, state)
            | some text =>
                let dispatched := dispatchEvent reading state (extractRequestId payload) subjects text
                (some dispatched.1, dispatched.2)

end Processing

end Broker
end Gateway

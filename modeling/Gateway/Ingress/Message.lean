import Gateway.Foundation.Json

namespace Gateway
namespace Ingress

open Foundation

/-!
# Messages of clients and events for clients

What the gateway reads out of a message before it hands it to the backend, and
the event that it wraps around everything it sends to clients.
-/

structure MessageFlags where
  encrypted : Option Bool
  qos : Option String
  deriving DecidableEq, Repr

/-- Absent flags are left out. -/
def MessageFlags.toJson (flags : MessageFlags) : Json :=
  Json.ofFields
    ((flags.encrypted.map fun value => ("encrypted", Json.bool value)).toList ++
      (flags.qos.map fun value => ("qos", Json.string value)).toList)

/-- The first of three fields that is a string and not blank. -/
def extractChannelId (data : Json) (fallback : String) : String :=
  ((["channel_id", "channel", "topic"].filterMap data.strField).map trim
    |>.find? fun value => decide (value ≠ "")).getD fallback

def extractPayload (data : Json) : Json := (data.get "payload").getD data

def nonEmptyField (data : Json) (key : String) : Option String :=
  (data.strField key).filter fun value => decide (value ≠ "")

/-- The nested flag `encrypted` wins over the outer one, the outer `qos` wins
over the nested one. -/
def extractFlags (data : Json) : MessageFlags :=
  let nested := data.get "flags"
  { encrypted :=
      (nested.bind fun flags => (flags.get "encrypted").bind Json.asBool) <|>
        (data.get "encrypted").bind Json.asBool
    qos := nonEmptyField data "qos" <|> nested.bind fun flags => nonEmptyField flags "qos" }

/-- The event that wraps a payload. -/
def eventEnvelope (payload : Json) : Json :=
  Json.ofFields [("type", .string "event"), ("payload", payload)]

end Ingress
end Gateway

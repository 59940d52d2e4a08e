import Gateway.Foundation.Json
import Gateway.State.Relay

namespace Gateway
namespace Broker

open Foundation State

/-!
# Relay-context snapshots on the outbox

The backend grants relay rights by outbox entries whose payload describes the
operation contexts of one subject.  A payload that is not a complete snapshot
is not one at all, and a context of a snapshot that is incomplete is skipped.
-/

def extractRequestId (payload : Json) : Option String := payload.trimmedField "request_id"

/-- An unsigned integer, with a second chance for positive signed ones. -/
def parseU64 (value : Option Json) : Option Nat :=
  value.bind fun item =>
    item.asU64 <|> item.asI64.bind fun parsed => if 0 < parsed then some parsed.toNat else none

def parseI64 (value : Option Json) : Option Int := value.bind Json.asI64

section Snapshots

variable (toLowercase : String -> String)

def parseContextType (value : String) : Option RelayContextType :=
  if normalize toLowercase value = "file_transfer_peer" then some .fileTransferPeer else none

def parseScopeMode (value : String) : Option AudienceScopeMode :=
  [("fixed_peer", AudienceScopeMode.fixedPeer),
    ("context_members", AudienceScopeMode.contextMembers),
    ("explicit_subset", AudienceScopeMode.explicitSubset)].lookup (normalize toLowercase value)

def parseContextState (value : String) : Option RelayContextState :=
  [("opened", RelayContextState.opened),
    ("active", RelayContextState.active),
    ("revoked", RelayContextState.revoked),
    ("closed", RelayContextState.closed),
    ("policy_version_bumped", RelayContextState.policyVersionBumped)].lookup
      (normalize toLowercase value)

/-- One context of a snapshot.  Its defaults come from the snapshot. -/
def parseRelayContext (contextType : RelayContextType) (policyVersion : Nat)
    (receivedAt defaultTtl : Int) (object : Json) : Option RelayOperationContext := do
  let contextId ← object.trimmedField "context_id"
  let operationKey ← object.trimmedField "operation_key"
  let authorizedSubject ← object.trimmedField "authorized_subject"
  let state ← parseContextState toLowercase ((object.strField "state").getD "active")
  let contextPolicyVersion := (parseU64 (object.get "policy_version")).getD policyVersion
  let openedAt := (parseI64 (object.get "opened_at")).getD receivedAt
  let updatedAt := (parseI64 (object.get "updated_at")).getD receivedAt
  let expiresAt :=
    (parseI64 (object.get "expires_at")).getD (saturatingAdd receivedAt defaultTtl)
  let grantObject ← (object.get "grant").filter Json.isObject
  let grantId ← grantObject.trimmedField "grant_id"
  let scopeObject ← (object.get "audience_scope").filter Json.isObject
  let scopeMode ← parseScopeMode toLowercase ((scopeObject.strField "mode").getD "")
  return {
    contextId := contextId
    operationKey := operationKey
    operationClass := "relay_hotpath"
    contextType := contextType
    state := state
    authorizedSubject := authorizedSubject
    audienceScope := { mode := scopeMode, peers := scopeObject.stringsField "peers" }
    allowedCommandFamilies := object.stringsField "allowed_command_families"
    policyVersion := contextPolicyVersion
    grant :=
      { grantId := grantId
        policyVersion :=
          (parseU64 (grantObject.get "policy_version")).getD contextPolicyVersion
        issuedAt := (parseI64 (grantObject.get "issued_at")).getD receivedAt
        expiresAt := (parseI64 (grantObject.get "expires_at")).getD expiresAt }
    openedAt := openedAt
    updatedAt := updatedAt
    expiresAt := expiresAt }

/-- The snapshot in a payload.  The clock dates a snapshot that has no time of
its own. -/
def parseRelayContextSnapshot (now : Int) (payload : Json) : Option RelayContextSnapshot := do
  guard ((payload.strField "type").getD "" = "gateway_relay_context_snapshot")
  guard (normalize toLowercase ((payload.strField "operation_class").getD "") = "relay_hotpath")
  let subjectEmail ← payload.trimmedField "subject"
  let contextType ← parseContextType toLowercase ((payload.strField "context_type").getD "")
  let policyVersion ← parseU64 (payload.get "policy_version")
  let receivedAt := (parseI64 (payload.get "ts")).getD now
  let defaultTtl := (parseI64 (payload.get "default_ttl_seconds")).getD (24 * 60 * 60)
  let items := (payload.arrayField "contexts").getD []
  return {
    subjectEmail := subjectEmail
    contextType := contextType
    policyVersion := policyVersion
    contexts := items.filterMap fun item =>
      parseRelayContext toLowercase contextType policyVersion receivedAt defaultTtl item
    receivedAt := receivedAt }

end Snapshots

end Broker
end Gateway

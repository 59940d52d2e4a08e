import Gateway.Foundation.InvertedIndex
import Gateway.Foundation.Text

namespace Gateway
namespace State

open Foundation

/-!
# The records of the gateway state

These are the data of `state.rs` and the enumerations of `routes.rs` that they
use.  Times are Unix seconds.  An outbound sender is the index of its channel in
the list of channels created so far, and a channel keeps every message that was
put on it, in order, together with whether its receiver is still alive.
-/

inductive OutboundMessage where
  | text (text : String)
  | close (code : Nat) (reason : String)
  deriving DecidableEq, Repr

structure DispatchResult where
  attemptedCount : Nat
  enqueuedCount : Nat
  deriving DecidableEq, Repr

/-- An unbounded channel: what was sent on it and whether anybody can receive. -/
structure Channel where
  sent : List OutboundMessage
  receiverAlive : Bool
  deriving DecidableEq, Repr

structure PendingMessage where
  text : String
  enqueuedAt : Int
  stickyKey : Option String
  deriving DecidableEq, Repr

structure RequestRoute where
  connectionId : String
  userId : String
  updatedAt : Int
  deriving DecidableEq, Repr

structure ReadyConnection where
  userId : String
  readyAt : Int
  deriving DecidableEq, Repr

def pendingMaxPerSubject : Nat := 256
def pendingTtlSeconds : Int := 30
def requestRouteTtlSeconds : Int := 120
def requestRouteMax : Nat := 8192
def relayContextTtlSeconds : Int := 24 * 60 * 60
def relayReplayTtlSeconds : Int := 10 * 60
def relayReplayCacheMax : Nat := 200000
def relayRateWindowSeconds : Int := 1
def relayRateLimitDefault : Nat := 240
def relayChunkCiphertextMaxBytes : Nat := 2000000

/-! ## Relay contexts -/

inductive RelayContextType where
  | fileTransferPeer
  deriving DecidableEq, Repr

inductive AudienceScopeMode where
  | fixedPeer
  | contextMembers
  | explicitSubset
  deriving DecidableEq, Repr

inductive RelayGuardClass where
  | contextBoundPeer
  deriving DecidableEq, Repr

structure RelayAuthorizationSpec where
  requiresRelayContext : Bool
  relayContextType : RelayContextType
  audienceScopeMode : AudienceScopeMode
  guardClass : RelayGuardClass
  commandFamily : String
  operationKeyField : String
  deriving DecidableEq, Repr

inductive RelayContextState where
  | opened
  | active
  | revoked
  | closed
  | policyVersionBumped
  deriving DecidableEq, Repr

def RelayContextState.isRelayPermitted : RelayContextState -> Bool
  | .active => true
  | _ => false

structure RelayGrant where
  grantId : String
  policyVersion : Nat
  issuedAt : Int
  expiresAt : Int
  deriving DecidableEq, Repr

structure RelayAudienceScope where
  mode : AudienceScopeMode
  peers : List String
  deriving DecidableEq, Repr

structure RelayOperationContext where
  contextId : String
  operationKey : String
  operationClass : String
  contextType : RelayContextType
  state : RelayContextState
  authorizedSubject : String
  audienceScope : RelayAudienceScope
  allowedCommandFamilies : List String
  policyVersion : Nat
  grant : RelayGrant
  openedAt : Int
  updatedAt : Int
  expiresAt : Int
  deriving DecidableEq, Repr

structure RelayContextSnapshot where
  subjectEmail : String
  contextType : RelayContextType
  policyVersion : Nat
  contexts : List RelayOperationContext
  receivedAt : Int
  deriving DecidableEq, Repr

structure RelaySubjectContexts where
  contextType : RelayContextType
  policyVersion : Nat
  updatedAt : Int
  contexts : List RelayOperationContext
  deriving DecidableEq, Repr

structure RelayAuthDecision where
  contextId : String
  policyVersion : Nat
  deriving DecidableEq, Repr

inductive RelayAuthError where
  | missingContext
  | senderBindingInvalid
  | scopeViolation
  | contextStateInvalid (state : RelayContextState)
  | grantExpired
  | grantInvalid
  | policyVersionMismatch
  | replayDetected
  | rateLimited
  | payloadTooLarge
  deriving DecidableEq, Repr

/-- The error code that is reported to the client. -/
def RelayAuthError.code : RelayAuthError -> String
  | .missingContext => "relay_context_missing"
  | .senderBindingInvalid => "relay_sender_binding_invalid"
  | .scopeViolation => "relay_scope_violation"
  | .contextStateInvalid .revoked => "relay_context_revoked"
  | .contextStateInvalid .closed => "relay_context_closed"
  | .contextStateInvalid .policyVersionBumped => "relay_context_policy_version_bumped"
  | .contextStateInvalid .opened => "relay_context_not_active"
  | .contextStateInvalid .active => "relay_context_invalid_state"
  | .grantExpired => "relay_grant_expired"
  | .grantInvalid => "relay_grant_invalid"
  | .policyVersionMismatch => "relay_policy_version_mismatch"
  | .replayDetected => "relay_replay_detected"
  | .rateLimited => "relay_rate_limited"
  | .payloadTooLarge => "relay_payload_too_large"

structure RelayReplayEntry where
  seenAt : Int
  deriving DecidableEq, Repr

structure RelayRateCounter where
  windowStart : Int
  count : Nat
  deriving DecidableEq, Repr

structure ConnectionInfo where
  connectionId : String
  userId : String
  clientInstanceId : String
  subjects : List String
  connectedAt : Int
  lastSeenAt : Int
  deriving DecidableEq, Repr

/-- A registered connection.  The sender is an index into the channels. -/
structure ConnectionHandle where
  info : ConnectionInfo
  sender : Nat
  deriving DecidableEq, Repr

abbrev PendingTable := HashTable String (List PendingMessage)
abbrev RequestRouteTable := HashTable String RequestRoute
abbrev RelayContextTable := HashTable String RelaySubjectContexts
abbrev RelayReplayTable := HashTable String RelayReplayEntry
abbrev RelayRateTable := HashTable String RelayRateCounter

structure GatewayState where
  connections : HashTable String ConnectionHandle
  subjects : InvertedIndex String String
  pendingBySubject : PendingTable
  requestRoutes : RequestRouteTable
  relayContextsBySubject : RelayContextTable
  relayReplayCache : RelayReplayTable
  relayRateCounters : RelayRateTable
  readyConnections : HashTable String ReadyConnection
  maxConnectionsPerUser : Option Nat
  channels : List Channel

def GatewayState.new (maxConnectionsPerUser : Option Nat) : GatewayState where
  connections := ∅
  subjects := ∅
  pendingBySubject := ∅
  requestRoutes := ∅
  relayContextsBySubject := ∅
  relayReplayCache := ∅
  relayRateCounters := ∅
  readyConnections := ∅
  maxConnectionsPerUser := maxConnectionsPerUser
  channels := []

def i64Min : Int := -2 ^ 63
def i64Max : Int := 2 ^ 63 - 1

def saturate (value : Int) : Int := max i64Min (min i64Max value)

def saturatingSub (left right : Int) : Int := saturate (left - right)

def saturatingAdd (left right : Int) : Int := saturate (left + right)

/-- A bound that is itself a 64-bit integer is exceeded by the saturated
difference exactly when the difference exceeds it. -/
theorem lt_saturatingSub_iff {bound : Int} (low : i64Min ≤ bound) (high : bound < i64Max)
    (left right : Int) : bound < saturatingSub left right <-> bound < left - right := by
  unfold saturatingSub saturate
  omega

end State
end Gateway

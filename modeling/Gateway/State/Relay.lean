import Gateway.State.Records

namespace Gateway
namespace State

open Foundation

/-!
# The relay-context store and relay authorization

The backend grants relay rights by snapshots of operation contexts.  A
snapshot is normalised and merged into the entry of its subject.  A relayed
command is admitted when some stored context matches it, its nonce is fresh,
and the sender's rate in the current second is below the limit.
-/

section Normalisation

variable (toLowercase : String -> String)

/-- The trimmed and lower-cased form in which names are compared. -/
def normalize (value : String) : String := toLowercase (trim value)

def sanitizeEmail (value : String) : Option String :=
  if normalize toLowercase value = "" then none else some (normalize toLowercase value)

/-- Normalise a list of names, dropping blank and repeated ones.  Command
families and scope peers are sanitised in the same way. -/
def sanitizeNames (values : List String) : List String :=
  values.foldl (fun result value =>
    match sanitizeEmail toLowercase value with
    | none => result
    | some normalized => if normalized ∈ result then result else result ++ [normalized]) []

def sanitizeAllowedFamilies (values : List String) : List String :=
  sanitizeNames toLowercase values

def sanitizeScopePeers (values : List String) : List String :=
  sanitizeNames toLowercase values

end Normalisation

namespace GatewayState

section Snapshot

variable (toLowercase : String -> String)

/-- Validate and normalise one context of a snapshot for the given subject. -/
def incomingContext (now : Int) (subjectEmail : String) (contextType : RelayContextType)
    (context : RelayOperationContext) : Option RelayOperationContext :=
  match sanitizeEmail toLowercase context.authorizedSubject with
  | none => none
  | some authorizedSubject =>
      let allowedFamilies := sanitizeAllowedFamilies toLowercase context.allowedCommandFamilies
      let peers := sanitizeScopePeers toLowercase context.audienceScope.peers
      let contextId := trim context.contextId
      let operationKey := trim context.operationKey
      let expiresAt :=
        if 0 < context.expiresAt then context.expiresAt
        else saturatingAdd now relayContextTtlSeconds
      let grantExpiresAt :=
        if 0 < context.grant.expiresAt then context.grant.expiresAt else expiresAt
      if authorizedSubject ≠ subjectEmail then none
      else if context.contextType ≠ contextType then none
      else if allowedFamilies = [] then none
      else if peers = [] then none
      else if contextId = "" then none
      else if operationKey = "" then none
      else some
        { contextId := contextId
          operationKey := operationKey
          operationClass := trim context.operationClass
          contextType := context.contextType
          state := context.state
          authorizedSubject := authorizedSubject
          audienceScope := { mode := context.audienceScope.mode, peers := peers }
          allowedCommandFamilies := allowedFamilies
          policyVersion := context.policyVersion
          grant :=
            { grantId := trim context.grant.grantId
              policyVersion := context.grant.policyVersion
              issuedAt := context.grant.issuedAt
              expiresAt := grantExpiresAt }
          openedAt := context.openedAt
          updatedAt := context.updatedAt
          expiresAt := expiresAt }

/-- Replace the context with the same operation key, if there is one. -/
def mergeContext (contexts : List RelayOperationContext) (incoming : RelayOperationContext) :
    List RelayOperationContext :=
  contexts.filter (fun existing => decide (existing.operationKey ≠ incoming.operationKey)) ++
    [incoming]

/-- The sorting order of stored contexts. -/
def contextOrder (left right : RelayOperationContext) : Prop :=
  left.updatedAt < right.updatedAt ∨
    (left.updatedAt = right.updatedAt ∧ left.operationKey ≤ right.operationKey)

instance (left right : RelayOperationContext) : Decidable (contextOrder left right) :=
  inferInstanceAs (Decidable (_ ∨ _))

/-- The contexts of the existing entry that a snapshot keeps. -/
def retainedContexts (now : Int) (contextType : RelayContextType)
    (existing : Option RelaySubjectContexts) : List RelayOperationContext :=
  match existing with
  | none => []
  | some entry =>
      if entry.contextType = contextType then
        entry.contexts.filter fun context => decide (now ≤ context.expiresAt)
      else []

/-- The entry that a snapshot stores, or nothing when it is stale. -/
def nextSubjectContexts (now : Int) (subjectEmail : String) (snapshot : RelayContextSnapshot)
    (existing : Option RelaySubjectContexts) : Option RelaySubjectContexts :=
  let stale := existing.any fun entry =>
    decide (entry.contextType = snapshot.contextType) &&
      decide (snapshot.policyVersion < entry.policyVersion)
  if stale then none
  else
    let incoming := snapshot.contexts.filterMap
      (incomingContext toLowercase now subjectEmail snapshot.contextType)
    let merged := incoming.foldl mergeContext
      (retainedContexts now snapshot.contextType existing)
    let policyVersion :=
      match existing with
      | some entry =>
          if entry.contextType = snapshot.contextType then
            max snapshot.policyVersion entry.policyVersion
          else snapshot.policyVersion
      | none => snapshot.policyVersion
    some
      { contextType := snapshot.contextType
        policyVersion := policyVersion
        updatedAt := snapshot.receivedAt
        contexts := merged.insertionSort contextOrder }

def applyRelayContextSnapshot (now : Int) (state : GatewayState)
    (snapshot : RelayContextSnapshot) : GatewayState :=
  match sanitizeEmail toLowercase snapshot.subjectEmail with
  | none => state
  | some subjectEmail =>
      match nextSubjectContexts toLowercase now subjectEmail snapshot
          (state.relayContextsBySubject.lookup subjectEmail) with
      | none => state
      | some entry =>
          { state with
            relayContextsBySubject := state.relayContextsBySubject.insert subjectEmail entry }

end Snapshot

/-! ## Nonces and rates -/

def pruneRelayReplayCache (now : Int) (state : GatewayState) : GatewayState :=
  if state.relayReplayCache.entries.length ≤ relayReplayCacheMax then state
  else
    let stale := state.relayReplayCache.entries.filter fun entry =>
      decide (relayReplayTtlSeconds < saturatingSub now entry.2.seenAt)
    { state with relayReplayCache := state.relayReplayCache.eraseAll (stale.map Sigma.fst) }

def ensureRelayReplayFresh (state : GatewayState) (replayKey : String) (now : Int) :
    Except RelayAuthError Unit × GatewayState :=
  if trim replayKey = "" then (.ok (), state)
  else
    let recorded : GatewayState :=
      { state with relayReplayCache := state.relayReplayCache.insert replayKey { seenAt := now } }
    match state.relayReplayCache.lookup replayKey with
    | some existing =>
        if saturatingSub now existing.seenAt ≤ relayReplayTtlSeconds then
          (.error .replayDetected, state)
        else (.ok (), recorded.pruneRelayReplayCache now)
    | none => (.ok (), recorded.pruneRelayReplayCache now)

/-- The largest 32-bit count. -/
def u32Max : Nat := 2 ^ 32 - 1

section Admission

variable (toLowercase : String -> String)

def relayRateWindow (now : Int) : Int := now.tdiv (max relayRateWindowSeconds 1)

def relayRateKey (senderEmail commandName contextId : String) (window : Int) : String :=
  normalize toLowercase senderEmail ++ "|" ++ normalize toLowercase commandName ++ "|" ++
    normalize toLowercase contextId ++ "|" ++ window.repr

/-- The counter of a key in a window, reset when it belongs to another window. -/
def currentRelayRate (state : GatewayState) (key : String) (window : Int) : RelayRateCounter :=
  match state.relayRateCounters.lookup key with
  | none => { windowStart := window, count := 0 }
  | some counter =>
      if counter.windowStart ≠ window then { windowStart := window, count := 0 } else counter

def ensureRelayRateLimit (state : GatewayState)
    (senderEmail commandName contextId : String) (now : Int) :
    Except RelayAuthError Unit × GatewayState :=
  let window := relayRateWindow now
  let key := relayRateKey toLowercase senderEmail commandName contextId window
  let counter := state.currentRelayRate key window
  if relayRateLimitDefault ≤ counter.count then
    (.error .rateLimited,
      { state with relayRateCounters := state.relayRateCounters.insert key counter })
  else
    (.ok (),
      { state with
        relayRateCounters := state.relayRateCounters.insert key
          { counter with count := min (counter.count + 1) u32Max } })

def relayReplayKey (sender commandName contextId nonce : String) : String :=
  sender ++ "|" ++ commandName ++ "|" ++ contextId ++ "|" ++ nonce

/-- A call without a nonce, or with a blank one, is not checked for replay. -/
def ensureNonceFresh (state : GatewayState) (sender commandName contextId : String)
    (replayNonce : Option String) (now : Int) : Except RelayAuthError Unit × GatewayState :=
  match replayNonce with
  | none => (.ok (), state)
  | some nonce =>
      if trim nonce = "" then (.ok (), state)
      else
        state.ensureRelayReplayFresh
          (relayReplayKey sender commandName contextId (trim nonce)) now

/-- The two bookkeeping checks on the context that was selected. -/
def admitRelay (state : GatewayState) (sender commandName : String)
    (context : RelayOperationContext) (replayNonce : Option String) (now : Int) :
    Except RelayAuthError RelayAuthDecision × GatewayState :=
  match state.ensureNonceFresh sender commandName context.contextId replayNonce now with
  | (.error error, next) => (.error error, next)
  | (.ok (), next) =>
      match next.ensureRelayRateLimit toLowercase sender commandName context.contextId now with
      | (.error error, last) => (.error error, last)
      | (.ok (), last) =>
          (.ok { contextId := context.contextId, policyVersion := context.policyVersion }, last)

/-- What the scan decides about one context: skip it, refuse the command, or
select it. -/
inductive ContextVerdict where
  | skip
  | refuse (error : RelayAuthError)
  | select
  deriving DecidableEq, Repr

def judgeContext (sender : String) (authSpec : RelayAuthorizationSpec) (operationKey : String)
    (targetEmails : List String) (now : Int) (context : RelayOperationContext) :
    ContextVerdict :=
  if context.contextType ≠ authSpec.relayContextType then .skip
  else if context.operationKey ≠ operationKey then .skip
  else if normalize toLowercase authSpec.commandFamily ∉ context.allowedCommandFamilies then .skip
  else if context.authorizedSubject ≠ sender then .skip
  else if trim context.grant.grantId = "" then .refuse .grantInvalid
  else if context.policyVersion = 0 ∨ context.grant.policyVersion = 0 ∨
      context.policyVersion ≠ context.grant.policyVersion then .refuse .policyVersionMismatch
  else if context.expiresAt < now ∨ context.grant.expiresAt < now then .refuse .grantExpired
  else if context.audienceScope.mode ≠ authSpec.audienceScopeMode then .skip
  else if ¬ (∀ target ∈ targetEmails,
      normalize toLowercase target ∈ context.audienceScope.peers) then .skip
  else if context.state.isRelayPermitted = false then
    .refuse (.contextStateInvalid context.state)
  else .select

/-- The first context that is not skipped decides. -/
def scanContexts (judge : RelayOperationContext -> ContextVerdict) :
    List RelayOperationContext -> Except RelayAuthError RelayOperationContext
  | [] => .error .scopeViolation
  | context :: contexts =>
      match judge context with
      | .skip => scanContexts judge contexts
      | .refuse error => .error error
      | .select => .ok context

def authorizeRelayHotpath (state : GatewayState) (senderEmail commandName : String)
    (authSpec : RelayAuthorizationSpec) (operationKey : String) (targetEmails : List String)
    (replayNonce : Option String) (payloadSizeHint : Option Nat) (now : Int) :
    Except RelayAuthError RelayAuthDecision × GatewayState :=
  match sanitizeEmail toLowercase senderEmail with
  | none => (.error .senderBindingInvalid, state)
  | some sender =>
      if trim operationKey = "" then (.error .missingContext, state)
      else if targetEmails = [] then (.error .scopeViolation, state)
      else if payloadSizeHint.any fun size => decide (relayChunkCiphertextMaxBytes < size) then
        (.error .payloadTooLarge, state)
      else
        match state.relayContextsBySubject.lookup sender with
        | none => (.error .missingContext, state)
        | some subjectContexts =>
            if subjectContexts.contextType ≠ authSpec.relayContextType then
              (.error .missingContext, state)
            else
              match scanContexts
                  (judgeContext toLowercase sender authSpec (trim operationKey) targetEmails now)
                  subjectContexts.contexts with
              | .error error => (.error error, state)
              | .ok context =>
                  state.admitRelay toLowercase sender commandName context replayNonce now

end Admission

def listRelayContextsForSubject (toLowercase : String -> String) (state : GatewayState)
    (subjectEmail : String) : Option RelaySubjectContexts :=
  (sanitizeEmail toLowercase subjectEmail).bind state.relayContextsBySubject.lookup

end GatewayState

end State
end Gateway

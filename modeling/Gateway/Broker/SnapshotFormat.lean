import Gateway.Broker.Outbox
import Gateway.Foundation.JsonValues

namespace Gateway
namespace Broker

open Foundation State

/-!
# The format of relay-context snapshots

The parser of the outbox accepts many spellings of a snapshot: blanks around
names, words in any case, times and versions that are left out, and contexts
that are not complete.  What it makes of them is always formed in the same way,
and whatever is formed in this way has a canonical spelling that the parser
reads back.  So the outbox carries exactly the formed snapshots.
-/

/-- A name that is not blank and has no blanks around it. -/
def Trimmed (text : String) : Prop := trim text = text /\ text ≠ ""

/-- A signed integer of 64 bits. -/
def IsI64 (value : Int) : Prop := -2 ^ 63 ≤ value /\ value < 2 ^ 63

structure FormedContext (contextType : RelayContextType) (context : RelayOperationContext) :
    Prop where
  contextId : Trimmed context.contextId
  operationKey : Trimmed context.operationKey
  operationClass : context.operationClass = "relay_hotpath"
  contextType : context.contextType = contextType
  authorizedSubject : Trimmed context.authorizedSubject
  policyVersion : context.policyVersion < 2 ^ 64
  grantId : Trimmed context.grant.grantId
  grantVersion : context.grant.policyVersion < 2 ^ 64
  issuedAt : IsI64 context.grant.issuedAt
  grantExpiresAt : IsI64 context.grant.expiresAt
  openedAt : IsI64 context.openedAt
  updatedAt : IsI64 context.updatedAt
  expiresAt : IsI64 context.expiresAt

structure FormedSnapshot (snapshot : RelayContextSnapshot) : Prop where
  subjectEmail : Trimmed snapshot.subjectEmail
  policyVersion : snapshot.policyVersion < 2 ^ 64
  receivedAt : IsI64 snapshot.receivedAt
  contexts : forall context, context ∈ snapshot.contexts ->
    FormedContext snapshot.contextType context

def contextTypeWord : RelayContextType -> String
  | .fileTransferPeer => "file_transfer_peer"

def scopeModeWord : AudienceScopeMode -> String
  | .fixedPeer => "fixed_peer"
  | .contextMembers => "context_members"
  | .explicitSubset => "explicit_subset"

def contextStateWord : RelayContextState -> String
  | .opened => "opened"
  | .active => "active"
  | .revoked => "revoked"
  | .closed => "closed"
  | .policyVersionBumped => "policy_version_bumped"

/-- The words of the format. -/
def snapshotWords : List String :=
  ["relay_hotpath", "file_transfer_peer", "fixed_peer", "context_members", "explicit_subset",
    "opened", "active", "revoked", "closed", "policy_version_bumped"]

def encodeGrant (grant : RelayGrant) : Json :=
  Json.ofFields
    [("grant_id", .string grant.grantId), ("policy_version", .ofInt grant.policyVersion),
      ("issued_at", .ofInt grant.issuedAt), ("expires_at", .ofInt grant.expiresAt)]

def encodeScope (scope : RelayAudienceScope) : Json :=
  Json.ofFields
    [("mode", .string (scopeModeWord scope.mode)), ("peers", .array (scope.peers.map .string))]

def encodeContext (context : RelayOperationContext) : Json :=
  Json.ofFields
    [("context_id", .string context.contextId), ("operation_key", .string context.operationKey),
      ("authorized_subject", .string context.authorizedSubject),
      ("state", .string (contextStateWord context.state)),
      ("policy_version", .ofInt context.policyVersion), ("opened_at", .ofInt context.openedAt),
      ("updated_at", .ofInt context.updatedAt), ("expires_at", .ofInt context.expiresAt),
      ("grant", encodeGrant context.grant), ("audience_scope", encodeScope context.audienceScope),
      ("allowed_command_families", .array (context.allowedCommandFamilies.map .string))]

def encodeSnapshot (snapshot : RelayContextSnapshot) : Json :=
  Json.ofFields
    [("type", .string "gateway_relay_context_snapshot"),
      ("operation_class", .string "relay_hotpath"), ("subject", .string snapshot.subjectEmail),
      ("context_type", .string (contextTypeWord snapshot.contextType)),
      ("policy_version", .ofInt snapshot.policyVersion), ("ts", .ofInt snapshot.receivedAt),
      ("contexts", .array (snapshot.contexts.map encodeContext))]

section Fields

variable {data : Json} {key : String}

theorem trimmed_of_trimmedField {text : String} (found : data.trimmedField key = some text) :
    Trimmed text := by
  rcases Option.filter_eq_some_iff.mp found with ⟨trims, visible⟩
  rcases Option.map_eq_some_iff.mp trims with ⟨raw, _, rfl⟩
  exact ⟨trim_trim raw, of_decide_eq_true visible⟩

theorem trimmedField_of_trimmed {text : String} (trimmed : Trimmed text)
    (found : data.get key = some (.string text)) : data.trimmedField key = some text := by
  rw [Json.trimmedField, Json.strField, found]
  refine Option.filter_eq_some_iff.mpr ⟨?_, decide_eq_true trimmed.2⟩
  exact congrArg some trimmed.1

theorem strField_of_string {text : String} (found : data.get key = some (.string text)) :
    data.strField key = some text := by
  rw [Json.strField, found]
  rfl

theorem stringsField_of_strings {texts : List String}
    (found : data.get key = some (.array (texts.map .string))) : data.stringsField key = texts := by
  rw [Json.stringsField, Json.arrayField, found]
  show (texts.map Json.string).filterMap Json.asStr = texts
  rw [List.filterMap_map]
  exact List.filterMap_some

theorem parseU64_of_ofInt {value : Nat} (found : data.get key = some (.ofInt value)) :
    parseU64 (data.get key) = some value := by
  rw [found, parseU64, Option.bind_some, Json.asU64_ofInt]
  rfl

theorem parseI64_of_ofInt {value : Int} (bounds : IsI64 value)
    (found : data.get key = some (.ofInt value)) : parseI64 (data.get key) = some value := by
  rw [found]
  exact Json.asI64_ofInt bounds.2

/-- The second chance for signed integers never comes to anything. -/
theorem parseU64_lt (representable : data.Representable) {value : Nat}
    (found : parseU64 (data.get key) = some value) : value < 2 ^ 64 := by
  rcases Option.bind_eq_some_iff.mp found with ⟨item, there, parsed⟩
  have inside := representable.get there
  cases unsigned : item.asU64 with
  | some stored =>
      rw [unsigned] at parsed
      exact inside.asU64_lt (unsigned.trans parsed)
  | none =>
      rw [unsigned] at parsed
      rcases Option.bind_eq_some_iff.mp parsed with ⟨number, isSigned, positive⟩
      have bounds := inside.asI64_bounds isSigned
      split at positive
      · rw [← Option.some.inj positive]
        omega
      · cases positive

theorem parseI64_bounds (representable : data.Representable) {value : Int}
    (found : parseI64 (data.get key) = some value) : IsI64 value := by
  rcases Option.bind_eq_some_iff.mp found with ⟨item, there, signed⟩
  exact (representable.get there).asI64_bounds signed

theorem parseI64_getD_bounds (representable : data.Representable) {fallback : Int}
    (bounds : IsI64 fallback) : IsI64 ((parseI64 (data.get key)).getD fallback) := by
  cases found : parseI64 (data.get key) with
  | none => exact bounds
  | some value => exact parseI64_bounds representable found

theorem parseU64_getD_lt (representable : data.Representable) {fallback : Nat}
    (bound : fallback < 2 ^ 64) : (parseU64 (data.get key)).getD fallback < 2 ^ 64 := by
  cases found : parseU64 (data.get key) with
  | none => exact bound
  | some value => exact parseU64_lt representable found

theorem saturatingAdd_bounds (left right : Int) : IsI64 (saturatingAdd left right) := by
  unfold IsI64 saturatingAdd saturate i64Min i64Max
  omega

end Fields

section Parsing

variable {toLowercase : String -> String}

theorem parseRelayContext_formed {contextType : RelayContextType} {policyVersion : Nat}
    {receivedAt defaultTtl : Int} {object : Json} {context : RelayOperationContext}
    (representable : object.Representable) (version : policyVersion < 2 ^ 64)
    (received : IsI64 receivedAt)
    (parsed : parseRelayContext toLowercase contextType policyVersion receivedAt defaultTtl object =
      some context) : FormedContext contextType context := by
  simp only [parseRelayContext, Option.bind_eq_bind, Option.bind_eq_some_iff,
    Option.filter_eq_some_iff] at parsed
  rcases parsed with ⟨contextId, hasId, operationKey, hasKey, authorizedSubject, hasSubject, state,
    _, grantObject, ⟨hasGrant, _⟩, grantId, hasGrantId, scopeObject, _, mode, _, made⟩
  have grantRepresentable := representable.get hasGrant
  have contextVersion := @parseU64_getD_lt object "policy_version" representable _ version
  have expires := @parseI64_getD_bounds object "expires_at" representable _
    (saturatingAdd_bounds receivedAt defaultTtl)
  cases made
  exact
    { contextId := trimmed_of_trimmedField hasId
      operationKey := trimmed_of_trimmedField hasKey
      operationClass := rfl
      contextType := rfl
      authorizedSubject := trimmed_of_trimmedField hasSubject
      policyVersion := contextVersion
      grantId := trimmed_of_trimmedField hasGrantId
      grantVersion := parseU64_getD_lt grantRepresentable contextVersion
      issuedAt := parseI64_getD_bounds grantRepresentable received
      grantExpiresAt := parseI64_getD_bounds grantRepresentable expires
      openedAt := parseI64_getD_bounds representable received
      updatedAt := parseI64_getD_bounds representable received
      expiresAt := expires }

theorem parseRelayContextSnapshot_formed {now : Int} (present : IsI64 now) {payload : Json}
    (representable : payload.Representable) {snapshot : RelayContextSnapshot}
    (parsed : parseRelayContextSnapshot toLowercase now payload = some snapshot) :
    FormedSnapshot snapshot := by
  simp only [parseRelayContextSnapshot, Option.bind_eq_bind, Option.bind_eq_some_iff] at parsed
  rcases parsed with ⟨_, _, _, _, subject, hasSubject, contextType, _, policyVersion, hasVersion,
    made⟩
  have version := parseU64_lt representable hasVersion
  have received := @parseI64_getD_bounds payload "ts" representable _ present
  cases made
  refine ⟨trimmed_of_trimmedField hasSubject, version, received, fun context member => ?_⟩
  rcases List.mem_filterMap.mp member with ⟨item, listed, parsedItem⟩
  cases hasContexts : payload.arrayField "contexts" with
  | none =>
      rw [hasContexts] at listed
      cases listed
  | some items =>
      rw [hasContexts] at listed
      exact parseRelayContext_formed (representable.arrayField hasContexts listed) version received
        parsedItem

/-! ## The parser reads the canonical spelling -/

/-- Lower-casing leaves the words of the format as they are. -/
def KeepsWords (toLowercase : String -> String) : Prop :=
  forall word, word ∈ snapshotWords -> toLowercase word = word

theorem normalize_word (keeps : KeepsWords toLowercase) {word : String}
    (member : word ∈ snapshotWords) : normalize toLowercase word = word := by
  have trimmed : forall word, word ∈ snapshotWords -> trim word = word := by decide +kernel
  rw [State.normalize, trimmed word member, keeps word member]

theorem parseContextType_word (keeps : KeepsWords toLowercase) (contextType : RelayContextType) :
    parseContextType toLowercase (contextTypeWord contextType) = some contextType := by
  cases contextType
  rw [parseContextType, contextTypeWord, normalize_word keeps (by decide), if_pos rfl]

theorem parseScopeMode_word (keeps : KeepsWords toLowercase) (mode : AudienceScopeMode) :
    parseScopeMode toLowercase (scopeModeWord mode) = some mode := by
  have word : normalize toLowercase (scopeModeWord mode) = scopeModeWord mode :=
    normalize_word keeps (by cases mode <;> decide)
  rw [parseScopeMode, word]
  cases mode <;> decide

theorem parseContextState_word (keeps : KeepsWords toLowercase) (state : RelayContextState) :
    parseContextState toLowercase (contextStateWord state) = some state := by
  have word : normalize toLowercase (contextStateWord state) = contextStateWord state :=
    normalize_word keeps (by cases state <;> decide)
  rw [parseContextState, word]
  cases state <;> decide

theorem parseRelayContext_encode (keeps : KeepsWords toLowercase) {contextType : RelayContextType}
    {context : RelayOperationContext} (formed : FormedContext contextType context)
    (policyVersion : Nat) (receivedAt defaultTtl : Int) :
    parseRelayContext toLowercase contextType policyVersion receivedAt defaultTtl
      (encodeContext context) = some context := by
  have fields : forall key, (encodeContext context).get key = _ := Json.get_ofFields _
  have grantFields : forall key, (encodeGrant context.grant).get key = _ := Json.get_ofFields _
  have scopeFields : forall key, (encodeScope context.audienceScope).get key = _ :=
    Json.get_ofFields _
  have contextId := trimmedField_of_trimmed formed.contextId (fields "context_id")
  have operationKey := trimmedField_of_trimmed formed.operationKey (fields "operation_key")
  have authorizedSubject := trimmedField_of_trimmed formed.authorizedSubject
    (fields "authorized_subject")
  have state := strField_of_string (fields "state")
  have version := parseU64_of_ofInt (fields "policy_version")
  have openedAt := parseI64_of_ofInt formed.openedAt (fields "opened_at")
  have updatedAt := parseI64_of_ofInt formed.updatedAt (fields "updated_at")
  have expiresAt := parseI64_of_ofInt formed.expiresAt (fields "expires_at")
  have grant : (encodeContext context).get "grant" = some (encodeGrant context.grant) :=
    fields "grant"
  have grantId := trimmedField_of_trimmed formed.grantId (grantFields "grant_id")
  have grantVersion := parseU64_of_ofInt (grantFields "policy_version")
  have issuedAt := parseI64_of_ofInt formed.issuedAt (grantFields "issued_at")
  have grantExpiresAt := parseI64_of_ofInt formed.grantExpiresAt (grantFields "expires_at")
  have scope : (encodeContext context).get "audience_scope" =
      some (encodeScope context.audienceScope) := fields "audience_scope"
  have mode := strField_of_string (scopeFields "mode")
  have peers := stringsField_of_strings (scopeFields "peers")
  have families := stringsField_of_strings (fields "allowed_command_families")
  have grantObject : (encodeGrant context.grant).isObject = true := rfl
  have scopeObject : (encodeScope context.audienceScope).isObject = true := rfl
  simp only [parseRelayContext, contextId, operationKey, authorizedSubject, state, version,
    openedAt, updatedAt, expiresAt, grant, grantId, grantVersion, issuedAt, grantExpiresAt, scope,
    mode, peers, families, Option.bind_eq_bind, Option.bind_some, Option.getD_some,
    Option.filter_some, grantObject, scopeObject, if_true, parseContextState_word keeps,
    parseScopeMode_word keeps]
  rw [← formed.contextType, ← formed.operationClass]
  rfl

/-- A formed snapshot is read back at any time. -/
theorem parseRelayContextSnapshot_encode (keeps : KeepsWords toLowercase)
    {snapshot : RelayContextSnapshot} (formed : FormedSnapshot snapshot) (now : Int) :
    parseRelayContextSnapshot toLowercase now (encodeSnapshot snapshot) = some snapshot := by
  have fields : forall key, (encodeSnapshot snapshot).get key = _ := Json.get_ofFields _
  have type := strField_of_string (fields "type")
  have operationClass := strField_of_string (fields "operation_class")
  have subject := trimmedField_of_trimmed formed.subjectEmail (fields "subject")
  have contextType := strField_of_string (fields "context_type")
  have version := parseU64_of_ofInt (fields "policy_version")
  have receivedAt := parseI64_of_ofInt formed.receivedAt (fields "ts")
  have items : (encodeSnapshot snapshot).arrayField "contexts" =
      some (snapshot.contexts.map encodeContext) := by
    rw [Json.arrayField, fields "contexts"]
    rfl
  have relays : normalize toLowercase "relay_hotpath" = "relay_hotpath" :=
    normalize_word keeps (by decide)
  have contexts : forall defaultTtl, (snapshot.contexts.map encodeContext).filterMap
      (parseRelayContext toLowercase snapshot.contextType snapshot.policyVersion snapshot.receivedAt
        defaultTtl) = snapshot.contexts := by
    intro defaultTtl
    rw [List.filterMap_map]
    refine (List.filterMap_congr fun context member => ?_).trans List.filterMap_some
    exact parseRelayContext_encode keeps (formed.contexts context member) _ _ _
  simp only [parseRelayContextSnapshot, type, operationClass, subject, contextType, version,
    receivedAt, items, relays, Option.getD_some, guard_true, Option.bind_eq_bind, Option.bind_some,
    parseContextType_word keeps, contexts]
  rfl

end Parsing

theorem representable_of_nat {value : Nat} (bound : value < 2 ^ 64) :
    (Json.ofInt value).Representable :=
  .ofInt (by omega) (by omega)

theorem representable_of_i64 {value : Int} (bounds : IsI64 value) :
    (Json.ofInt value).Representable := by
  rcases bounds with ⟨low, high⟩
  exact .ofInt low (by omega)

theorem representable_of_strings (texts : List String) :
    (Json.array (texts.map .string)).Representable := by
  refine .array fun item member => ?_
  rcases List.mem_map.mp member with ⟨text, _, rfl⟩
  exact .string text

theorem representable_encodeContext {contextType : RelayContextType}
    {context : RelayOperationContext} (formed : FormedContext contextType context) :
    (encodeContext context).Representable := by
  have grant : (encodeGrant context.grant).Representable := by
    refine .ofFields ?_
    simp only [List.forall_mem_cons]
    exact ⟨.string _, representable_of_nat formed.grantVersion,
      representable_of_i64 formed.issuedAt, representable_of_i64 formed.grantExpiresAt,
      fun _ nothing => absurd nothing List.not_mem_nil⟩
  have scope : (encodeScope context.audienceScope).Representable := by
    refine .ofFields ?_
    simp only [List.forall_mem_cons]
    exact ⟨.string _, representable_of_strings _, fun _ nothing => absurd nothing List.not_mem_nil⟩
  refine .ofFields ?_
  simp only [List.forall_mem_cons]
  exact ⟨.string _, .string _, .string _, .string _, representable_of_nat formed.policyVersion,
    representable_of_i64 formed.openedAt, representable_of_i64 formed.updatedAt,
    representable_of_i64 formed.expiresAt, grant, scope, representable_of_strings _,
    fun _ nothing => absurd nothing List.not_mem_nil⟩

theorem representable_encodeSnapshot {snapshot : RelayContextSnapshot}
    (formed : FormedSnapshot snapshot) : (encodeSnapshot snapshot).Representable := by
  have contexts : (Json.array (snapshot.contexts.map encodeContext)).Representable := by
    refine .array fun item member => ?_
    rcases List.mem_map.mp member with ⟨context, listed, rfl⟩
    exact representable_encodeContext (formed.contexts context listed)
  refine .ofFields ?_
  simp only [List.forall_mem_cons]
  exact ⟨.string _, .string _, .string _, .string _, representable_of_nat formed.policyVersion,
    representable_of_i64 formed.receivedAt, contexts,
    fun _ nothing => absurd nothing List.not_mem_nil⟩

/-- The snapshots that some payload stands for are the formed ones. -/
theorem exists_payload_iff_formed {toLowercase : String -> String} (keeps : KeepsWords toLowercase)
    {now : Int} (present : IsI64 now) (snapshot : RelayContextSnapshot) :
    (Exists fun payload : Json => payload.Representable /\
        parseRelayContextSnapshot toLowercase now payload = some snapshot) <->
      FormedSnapshot snapshot := by
  constructor
  · rintro ⟨payload, representable, parsed⟩
    exact parseRelayContextSnapshot_formed present representable parsed
  · intro formed
    exact ⟨encodeSnapshot snapshot, representable_encodeSnapshot formed,
      parseRelayContextSnapshot_encode keeps formed now⟩

/-- The entry that carries a snapshot. -/
def snapshotEntry (subjects : List String) (snapshot : RelayContextSnapshot) : Json :=
  Json.ofFields
    [("subjects", .array (subjects.map .string)), ("payload", encodeSnapshot snapshot)]

theorem snapshotEntry_subjects (subjects : List String) (snapshot : RelayContextSnapshot) :
    (snapshotEntry subjects snapshot).stringsField "subjects" = subjects :=
  stringsField_of_strings (Json.get_ofFields _ "subjects")

theorem snapshotEntry_payload (subjects : List String) (snapshot : RelayContextSnapshot) :
    (snapshotEntry subjects snapshot).get "payload" = some (encodeSnapshot snapshot) :=
  Json.get_ofFields _ "payload"

theorem representable_snapshotEntry (subjects : List String) {snapshot : RelayContextSnapshot}
    (formed : FormedSnapshot snapshot) : (snapshotEntry subjects snapshot).Representable := by
  refine .ofFields ?_
  simp only [List.forall_mem_cons]
  exact ⟨representable_of_strings subjects, representable_encodeSnapshot formed,
    fun _ nothing => absurd nothing List.not_mem_nil⟩

end Broker
end Gateway

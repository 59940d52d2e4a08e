import Gateway.Foundation.JsonCompact
import Gateway.Foundation.Retry
import Gateway.Ingress.Registry
import Gateway.Preauth.Admission
import Gateway.Session.Lifecycle
import Gateway.State.Preservation

namespace Gateway
namespace Preauth

open Foundation Ingress State

/-!
# Authenticating a connection

Both transports try one payload after the other.  The first payload is composed
from the query of the request, if this has a token, and the others are sent by
the client.  Whatever is wrong with a payload is reported to the client, who
may send another one.
-/

/-- What either transport hands over to its session. -/
structure AuthContext where
  userId : String
  clientInstanceId : String
  bootstrapSuccessPayload : Option Json

def missingToken (requestId : Option String) : PreAuthFailure where
  code := "missing_token"
  message := "Missing token."
  requestId := requestId

def invalidToken (requestId : Option String) : PreAuthFailure where
  code := "invalid_token"
  message := "Invalid token."
  requestId := requestId

/-- An instance id that is too long or has other characters is dropped. -/
def sanitizeClientInstanceId (raw : String) : String :=
  let id := trim raw
  if 128 < id.utf8ByteSize ∨
      (id.toList.all fun char =>
        char.isAlphanum || char == '-' || char == '_' || char == '.') = false then ""
  else id

/-- The second stage: a guest is taken at its word, and a token has to verify. -/
def resolveUserId (config : AuthConfig) (oracle : AuthOracle) (requestId : Option String)
    (resolved : PreAuthSuccess) : Except PreAuthFailure String :=
  match resolved.userId with
  | some userId => .ok userId
  | none =>
      match resolved.token with
      | none => .error (missingToken requestId)
      | some token =>
          if trim token = "" then .error (missingToken requestId)
          else
            match oracle.verifyJwt token with
            | none => .error (invalidToken requestId)
            | some claims => .ok ((claims.strField config.jwtUserIdClaim).getD "")

def authenticatePayload (registry : CommandRegistry) (config : AuthConfig) (oracle : AuthOracle)
    (authPayload : Json) : Except PreAuthFailure AuthContext :=
  let requestId := normalizeRequestId (authPayload.strField "request_id")
  match resolveInitialAuth registry config oracle authPayload with
  | .error failure => .error failure
  | .ok resolved =>
      match resolveUserId config oracle requestId resolved with
      | .error failure => .error failure
      | .ok userId =>
          if userId = "" then .error (invalidToken requestId)
          else
            .ok
              { userId := userId
                clientInstanceId := sanitizeClientInstanceId resolved.clientInstanceId
                bootstrapSuccessPayload := resolved.successPayload }

/-- The answer to a payload that is not accepted. -/
def sendAuthError (now : Int) (failure : PreAuthFailure) : Json :=
  withRequestId failure.requestId (Json.ofFields
    [("type", .string "auth_error"), ("error", .string failure.code),
      ("message", .string failure.message), ("ts", .ofInt now)])

/-- One turn of the loop. -/
def authenticateTurn (registry : CommandRegistry) (config : AuthConfig)
    (oracles : Nat -> AuthOracle) (turn : Nat) (authPayload : Json) : Except Json AuthContext :=
  (authenticatePayload registry config (oracles turn) authPayload).mapError
    (sendAuthError (oracles turn).now)

/-- The text after a prefix. -/
def stripPrefix (start text : String) : Option String :=
  (start.toList.isPrefixOf? text.toList).map String.ofList

def normalizeBearerToken (token : String) : String :=
  trim ((stripPrefix "Bearer " (trim token)).getD token)

def queryPayload (token : Option String) (clientInstanceId : Option String) : Option Json :=
  token.map fun rawToken => Json.ofFields
    [("type", .string "auth"), ("token", .string (normalizeBearerToken rawToken)),
      ("client_instance_id", .string (clientInstanceId.getD ""))]

/-- The query of a WebSocket request, decoded by the web framework. -/
structure WsAuthQuery where
  token : Option String
  clientInstanceId : Option String
  deriving DecidableEq, Repr

/-- The text before and after the first occurrence of a character. -/
def splitOnce (mark : Char) (text : String) : Option (String × String) :=
  if mark ∈ text.toList then
    some (String.ofList (text.toList.takeWhile fun char => char != mark),
      String.ofList (text.toList.dropWhile fun char => char != mark).tail)
  else none

/-- The first value of a parameter in the path of a WebTransport request,
which is not decoded. -/
def queryParam (path key : String) : Option String :=
  (splitOnce '?' path).bind fun halves =>
    let pairs := (halves.2.toList.splitOn '&').map fun pair =>
      (splitOnce '=' (String.ofList pair)).getD (String.ofList pair, "")
    (pairs.find? fun pair => pair.1 == key).map Prod.snd

/-- What may arrive on a WebSocket. -/
inductive WsFrame where
  | text (text : String)
  | binary (bytes : ByteArray)
  | ping (payload : ByteArray)
  | pong (payload : ByteArray)
  | close
  | error

/-- Control frames are passed over.  A frame that ends the socket and a
payload that does not parse end the authentication. -/
def readSocketAuthMessage (json : JsonText) : WsFrame -> Option (Option Json)
  | .text text => some (json.parse text)
  | .binary bytes => some ((String.fromUTF8? bytes).bind json.parse)
  | .ping _ => none
  | .pong _ => none
  | .close => some none
  | .error => some none

/-- What may arrive on a WebTransport connection. -/
inductive UniStream where
  | read (bytes : ByteArray)
  | error

def readConnectionAuthMessage (json : JsonText) : UniStream -> Option Json
  | .read bytes => json.parse ((String.fromUTF8? bytes).getD "")
  | .error => none

/-- The payloads that the WebSocket loop examines, in order. -/
def socketPayloads (json : JsonText) (query : WsAuthQuery) (frames : List WsFrame) :
    List (Option Json) :=
  (queryPayload query.token query.clientInstanceId).toList.map some ++
    frames.filterMap (readSocketAuthMessage json)

/-- The payloads that the WebTransport loop examines, in order. -/
def connectionPayloads (json : JsonText) (path : String) (streams : List UniStream) :
    List (Option Json) :=
  (queryPayload (queryParam path "token") (queryParam path "client_instance_id")).toList.map
      some ++
    streams.map (readConnectionAuthMessage json)

section Loops

variable (registry : CommandRegistry) (config : AuthConfig) (json : JsonText)
  (oracles : Nat -> AuthOracle)

/-- The loop over the payloads, with an oracle for each turn. -/
def authenticateAll (payloads : List (Option Json)) : RetryRun Json AuthContext :=
  retry (authenticateTurn registry config oracles) 0 payloads

def authenticateSocket (query : WsAuthQuery) (frames : List WsFrame) : RetryRun Json AuthContext :=
  authenticateAll registry config oracles (socketPayloads json query frames)

def authenticateConnection (path : String) (streams : List UniStream) :
    RetryRun Json AuthContext :=
  authenticateAll registry config oracles (connectionPayloads json path streams)

end Loops

/-- The gateway after a session has got this far with its authentication.  It
registers when it has succeeded, and when it has failed it unregisters all the
same. -/
def startSession (toLowercase : String -> String) (order : HashOrder String) (now : Int)
    (connectionId : String) (connectedAt : Int) (gateway : GatewayState) :
    RetryOutcome AuthContext -> GatewayState
  | .waiting => gateway
  | .broken => (gateway.unregisterConnection connectionId).2
  | .succeeded context =>
      (gateway.registerConnection order now connectionId context.userId context.clientInstanceId
        (Session.connectionSubjects toLowercase context.userId) connectedAt).2

/-- The users that a payload may authenticate. -/
inductive AuthenticatedAs (config : AuthConfig) (oracle : AuthOracle) (payload : Json) :
    String -> Prop where
  | verified {token userId : String} {claims : Json}
      (source : TokenFor config oracle payload token)
      (verifies : oracle.verifyJwt token = some claims)
      (named : claims.strField config.jwtUserIdClaim = some userId) :
      AuthenticatedAs config oracle payload userId
  | guest {userId : String} (admitted : GuestFor oracle payload userId) :
      AuthenticatedAs config oracle payload userId

section OnePayload

variable {registry : CommandRegistry} {config : AuthConfig} {oracle : AuthOracle}
  {payload : Json} {requestId : Option String}

/-- The second stage keeps to the first, up to the empty user id. -/
theorem resolveUserId_ok {resolved : PreAuthSuccess} {userId : String}
    (admitted : AdmittedAs config oracle payload resolved)
    (identified : resolveUserId config oracle requestId resolved = .ok userId)
    (visible : userId ≠ "") : AuthenticatedAs config oracle payload userId := by
  unfold resolveUserId at identified
  cases admitted with
  | guest user admitted =>
      rw [user] at identified
      cases identified
      exact .guest admitted
  | @holder token noUser given source =>
      rw [noUser, given] at identified
      dsimp only at identified
      split at identified
      · cases identified
      cases verifies : oracle.verifyJwt token with
      | none =>
          rw [verifies] at identified
          cases identified
      | some claims =>
          rw [verifies] at identified
          cases identified
          cases named : claims.strField config.jwtUserIdClaim with
          | none =>
              rw [named] at visible
              exact absurd rfl visible
          | some userId => exact .verified source verifies named

theorem authenticatePayload_ok {context : AuthContext}
    (authenticated : authenticatePayload registry config oracle payload = .ok context) :
    context.userId ≠ "" /\ AuthenticatedAs config oracle payload context.userId := by
  unfold authenticatePayload at authenticated
  dsimp only at authenticated
  cases resolution : resolveInitialAuth registry config oracle payload with
  | error failure =>
      rw [resolution] at authenticated
      cases authenticated
  | ok resolved =>
      rw [resolution] at authenticated
      dsimp only at authenticated
      cases identified : resolveUserId config oracle
          (normalizeRequestId (payload.strField "request_id")) resolved with
      | error failure =>
          rw [identified] at authenticated
          cases authenticated
      | ok userId =>
          rw [identified] at authenticated
          dsimp only at authenticated
          split at authenticated
          · cases authenticated
          · next visible =>
            cases authenticated
            exact ⟨visible, resolveUserId_ok (resolveInitialAuth_ok resolution) identified visible⟩

end OnePayload

section Soundness

variable (registry : CommandRegistry) (config : AuthConfig) (oracles : Nat -> AuthOracle)

/-- The last payload examined authenticates the user on its own, after all
earlier ones have been turned down. -/
def AcceptedOnLast (payloads : List (Option Json)) (context : AuthContext) : Prop :=
  Exists fun earlier => Exists fun last => Exists fun unread =>
    payloads = earlier.map some ++ some last :: unread /\
      AllFail (authenticateTurn registry config oracles) 0 earlier /\
      authenticatePayload registry config (oracles earlier.length) last = .ok context /\
      context.userId ≠ "" /\
      AuthenticatedAs config (oracles earlier.length) last context.userId

theorem authenticateTurn_ok {turn : Nat} {payload : Json} {context : AuthContext}
    (authenticated : authenticateTurn registry config oracles turn payload = .ok context) :
    authenticatePayload registry config (oracles turn) payload = .ok context := by
  unfold authenticateTurn at authenticated
  cases attempted : authenticatePayload registry config (oracles turn) payload with
  | error failure =>
      rw [attempted] at authenticated
      cases authenticated
  | ok result =>
      rw [attempted] at authenticated
      cases authenticated
      rfl

theorem authenticateAll_accepted {payloads : List (Option Json)} {context : AuthContext}
    (succeeded : (authenticateAll registry config oracles payloads).outcome =
      .succeeded context) : AcceptedOnLast registry config oracles payloads context := by
  rcases retry_succeeded_iff.mp succeeded with ⟨earlier, last, unread, same, fail, accepted⟩
  rw [Nat.zero_add] at accepted
  have authenticated := authenticateTurn_ok registry config oracles accepted
  exact ⟨earlier, last, unread, same, fail, authenticated, authenticatePayload_ok authenticated⟩

/-- What was turned down has no influence on what comes later. -/
theorem authenticateAll_forgets {others : Nat -> AuthOracle} {earlier other : List Json}
    (fail : AllFail (authenticateTurn registry config oracles) 0 earlier)
    (otherFail : AllFail (authenticateTurn registry config others) 0 other)
    (same : forall later, oracles (earlier.length + later) = others (other.length + later))
    (rest : List (Option Json)) :
    (authenticateAll registry config oracles (earlier.map some ++ rest)).outcome =
      (authenticateAll registry config others (other.map some ++ rest)).outcome := by
  unfold authenticateAll
  rw [retry_of_allFail fail, retry_of_allFail otherFail]
  refine congrArg RetryRun.outcome (retry_congr ?_ rest)
  intro later
  rw [Nat.zero_add, Nat.zero_add]
  funext payload
  unfold authenticateTurn
  rw [same]

end Soundness

theorem startSession_of_unauthenticated {toLowercase : String -> String}
    {order : HashOrder String} {now connectedAt : Int} {connectionId : String}
    {gateway : GatewayState} {outcome : RetryOutcome AuthContext}
    (unauthenticated : forall context, outcome ≠ .succeeded context)
    (absent : gateway.connections.lookup connectionId = none) :
    startSession toLowercase order now connectionId connectedAt gateway outcome = gateway := by
  cases outcome with
  | waiting => rfl
  | broken =>
      rw [startSession, GatewayState.unregisterConnection_of_absent absent]
  | succeeded context => exact absurd rfl (unauthenticated context)

/-- Neither transport authenticates a user without the credentials of the last
payload, and both authenticate alike. -/
theorem authentication_sound (registry : CommandRegistry) (config : AuthConfig)
    (json : JsonText) (oracles : Nat -> AuthOracle) :
    (forall query frames context,
      (authenticateSocket registry config json oracles query frames).outcome =
        .succeeded context ->
      AcceptedOnLast registry config oracles (socketPayloads json query frames) context) /\
    (forall path streams context,
      (authenticateConnection registry config json oracles path streams).outcome =
        .succeeded context ->
      AcceptedOnLast registry config oracles (connectionPayloads json path streams) context) /\
    (forall (others : Nat -> AuthOracle) (earlier other : List Json) (rest : List (Option Json)),
      AllFail (authenticateTurn registry config oracles) 0 earlier ->
      AllFail (authenticateTurn registry config others) 0 other ->
      (forall later, oracles (earlier.length + later) = others (other.length + later)) ->
      (authenticateAll registry config oracles (earlier.map some ++ rest)).outcome =
        (authenticateAll registry config others (other.map some ++ rest)).outcome) /\
    (forall (outcome : RetryOutcome AuthContext) (toLowercase : String -> String)
        (order : HashOrder String) (now : Int) (connectionId : String) (connectedAt : Int)
        (gateway : GatewayState),
      (forall context, outcome ≠ .succeeded context) ->
      gateway.connections.lookup connectionId = none ->
      startSession toLowercase order now connectionId connectedAt gateway outcome = gateway) /\
    (forall query frames path streams,
      queryPayload query.token query.clientInstanceId =
        queryPayload (queryParam path "token") (queryParam path "client_instance_id") ->
      frames.filterMap (readSocketAuthMessage json) =
        streams.map (readConnectionAuthMessage json) ->
      authenticateSocket registry config json oracles query frames =
        authenticateConnection registry config json oracles path streams) := by
  refine ⟨?_, ?_, ?_, ?_, ?_⟩
  · intro query frames context succeeded
    exact authenticateAll_accepted registry config oracles succeeded
  · intro path streams context succeeded
    exact authenticateAll_accepted registry config oracles succeeded
  · intro others earlier other rest fail otherFail same
    exact authenticateAll_forgets registry config oracles fail otherFail same rest
  · intro outcome toLowercase order now connectionId connectedAt gateway unauthenticated absent
    exact startSession_of_unauthenticated unauthenticated absent
  · intro query frames path streams sameQuery sameMessages
    rw [authenticateSocket, authenticateConnection, socketPayloads, connectionPayloads, sameQuery,
      sameMessages]

def pairingText : String :=
  "\x7b\"type\":\"device_pairing_auth\",\"pairing_endpoint_token\":\"Tok:1\"\x7d"

def pairingJson : JsonText :=
  .ofTexts [("\x7b\x7d", .object []),
    (pairingText, Json.ofFields [("type", .string "device_pairing_auth"),
      ("pairing_endpoint_token", .string "Tok:1")])]

/-- No backend and no tokens. -/
def silentOracle : AuthOracle where
  now := 0
  nowMicros := 0
  clientBuilds := true
  post _ _ := none
  verifyJwt _ := none

def pairingContext : AuthContext where
  userId := "pairing:Tok:1"
  clientInstanceId := ""
  bootstrapSuccessPayload := some (Json.ofFields
    [("type", .string "device_pairing_auth_ok"), ("pairing_endpoint_token", .string "Tok:1"),
      ("ts", .ofInt 0)])

/-- Its first payload is empty. -/
theorem authentication_sound_pairing :
    let config : AuthConfig := { authBackendBaseUrl := "", jwtUserIdClaim := "user_id" }
    AcceptedOnLast builtinRegistry config (fun _ => silentOracle)
        (socketPayloads pairingJson ⟨none, none⟩
          [.ping ⟨#[]⟩, .text "\x7b\x7d", .text pairingText]) pairingContext /\
      AcceptedOnLast builtinRegistry config (fun _ => silentOracle)
        (connectionPayloads pairingJson "/wt?v=1"
          [.read "\x7b\x7d".toUTF8, .read pairingText.toUTF8]) pairingContext := by
  intro config
  have sound := authentication_sound builtinRegistry config pairingJson fun _ => silentOracle
  exact ⟨sound.1 ⟨none, none⟩ _ pairingContext rfl, sound.2.1 "/wt?v=1" _ pairingContext rfl⟩

end Preauth
end Gateway

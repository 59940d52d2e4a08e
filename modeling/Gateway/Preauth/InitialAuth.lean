import Gateway.Ingress.Routes
import Gateway.Preauth.Guests

namespace Gateway
namespace Preauth

open Foundation Ingress

/-!
# The first stage of authentication

A client that is not authenticated yet may send six types of payload.  Each
leads to a token that is still to be verified, or to the user id of a guest.
What the auth backend replies, what the clock shows and which tokens verify is
not decided here: an attempt to authenticate has one oracle for all of it.
-/

structure PreAuthSuccess where
  token : Option String
  userId : Option String
  clientInstanceId : String
  successPayload : Option Json

structure PreAuthFailure where
  code : String
  message : String
  requestId : Option String
  deriving DecidableEq, Repr

/-- The configuration that authentication reads. -/
structure AuthConfig where
  authBackendBaseUrl : String
  jwtUserIdClaim : String
  deriving DecidableEq, Repr

/-- A reply of the auth backend.  There is no body if it is not JSON. -/
structure BackendReply where
  status : Nat
  body : Option Json

/-- What happens outside the gateway during one attempt. -/
structure AuthOracle where
  now : Int
  nowMicros : Int
  clientBuilds : Bool
  post : String -> Json -> Option BackendReply
  verifyJwt : String -> Option Json

def normalizeRequestId (value : Option String) : Option String :=
  value.bind fun raw =>
    if trim raw = "" then none else some (String.ofList ((trim raw).toList.take 128))

/-- A string field without its surrounding whitespace, empty if there is
none. -/
def textField (payload : Json) (key : String) : String :=
  ((payload.strField key).map trim).getD ""

def extractErrorMessage (value : Json) : Option String :=
  (((value.strField "message").or (value.strField "error")).map trim).filter fun item =>
    decide (item ≠ "")

def extractErrorCode (value : Json) : Option String :=
  value.trimmedField "error"

def BackendReply.isSuccess (reply : BackendReply) : Bool :=
  200 ≤ reply.status && reply.status < 300

def resolvePreauthHttpPath (commandName : String) (requestId : Option String) :
    Except PreAuthFailure String :=
  match resolveHttpPath commandName with
  | none =>
      .error
        { code := "auth_route_unconfigured"
          message := "No auth backend route configured for '" ++ commandName ++ "'."
          requestId := requestId }
  | some path => .ok path

/-- The base URL without the slashes at its end. -/
def backendBase (config : AuthConfig) : String :=
  String.ofList ((trim config.authBackendBaseUrl).toList.rdropWhile fun char => char == '/')

def authenticateViaHttp (config : AuthConfig) (oracle : AuthOracle) (path : String) (body : Json)
    (requestId : Option String) : Except PreAuthFailure (String × Json) :=
  let base := backendBase config
  if base = "" then
    .error
      { code := "auth_backend_unavailable"
        message := "Auth backend is not configured."
        requestId := requestId }
  else if oracle.clientBuilds = false then
    .error
      { code := "auth_backend_unavailable"
        message := "Could not initialize auth client."
        requestId := requestId }
  else
    match oracle.post (base ++ path) body with
    | none =>
        .error
          { code := "auth_backend_timeout"
            message := "Auth backend request failed."
            requestId := requestId }
    | some reply =>
        let parsed := reply.body.getD (.object [])
        if reply.isSuccess = false then
          .error
            { code := (extractErrorCode parsed).getD ("auth_http_" ++ reply.status.repr)
              message := (extractErrorMessage parsed).getD
                (if reply.status = 401 then "Invalid credentials."
                else "Authentication failed (" ++ reply.status.repr ++ ")")
              requestId := requestId }
        else
          match parsed.trimmedField "token" with
          | none =>
              .error
                { code := "token_missing"
                  message := "Auth backend did not return a token."
                  requestId := requestId }
          | some token => .ok (token, (parsed.get "user").getD .null)

section Types

variable (config : AuthConfig) (oracle : AuthOracle) (payload : Json)
  (requestId : Option String) (clientInstanceId : String)

/-- Add the request id to an answer, if there is one. -/
def withRequestId (answer : Json) : Json :=
  match requestId with
  | none => answer
  | some id => answer.set "request_id" (.string id)

def invalidAuthPayload (message : String) : PreAuthFailure where
  code := "invalid_auth_payload"
  message := message
  requestId := requestId

def resolveAuth : Except PreAuthFailure PreAuthSuccess :=
  match payload.trimmedField "token" with
  | none =>
      .error { code := "missing_token", message := "Missing token.", requestId := requestId }
  | some token =>
      .ok
        { token := some token
          userId := none
          clientInstanceId := clientInstanceId
          successPayload := none }

/-- The answer to a client whom the backend has given a token. -/
def backendAnswer (okType token : String) (user : Json) : Json :=
  let answer := withRequestId requestId
    (Json.ofFields [("type", .string okType), ("token", .string token), ("ts", .ofInt oracle.now)])
  match user with
  | .null => answer
  | user => answer.set "user" user

/-- The common end of the three requests that go to the backend. -/
def resolveViaBackend (commandName okType : String) (body : Json) :
    Except PreAuthFailure PreAuthSuccess :=
  match resolvePreauthHttpPath commandName requestId with
  | .error failure => .error failure
  | .ok path =>
      match authenticateViaHttp config oracle path body requestId with
      | .error failure => .error failure
      | .ok (token, user) =>
          let answer := backendAnswer oracle requestId okType token user
          .ok
            { token := some ((answer.strField "token").getD "")
              userId := none
              clientInstanceId := clientInstanceId
              successPayload := some answer }

def loginBody : Json :=
  Json.ofFields
    [("email", .string (textField payload "email")),
      ("password", .string (textField payload "password"))]

def resolveAuthLoginRequest : Except PreAuthFailure PreAuthSuccess :=
  if textField payload "email" = "" ∨ textField payload "password" = "" then
    .error (invalidAuthPayload requestId "Email and password are required.")
  else
    resolveViaBackend config oracle requestId clientInstanceId "auth_login_request"
      "auth_login_ok" (loginBody payload)

/-- The fields of an identity proof. -/
def identityFields : List String := ["key_id", "algorithm", "public_key", "challenge", "signature"]

/-- An identity takes part in a registration if any of its fields is given. -/
def identityRequested : Bool :=
  identityFields.any fun key => textField payload key != ""

def identityIncomplete : Bool :=
  identityFields.any fun key => textField payload key == ""

def registerBody : Json :=
  let body := Json.ofFields
    [("name", .string (textField payload "name")),
      ("email", .string (textField payload "email")),
      ("password", .string (textField payload "password"))]
  if identityRequested payload = true then
    identityFields.foldl (fun built key => built.set key (.string (textField payload key))) body
  else body

def resolveAuthRegisterRequest : Except PreAuthFailure PreAuthSuccess :=
  if textField payload "name" = "" ∨ textField payload "email" = "" ∨
      textField payload "password" = "" then
    .error (invalidAuthPayload requestId "Name, email and password are required.")
  else if identityRequested payload = true ∧ identityIncomplete payload = true then
    .error (invalidAuthPayload requestId "Identity registration payload is incomplete.")
  else
    resolveViaBackend config oracle requestId clientInstanceId "auth_register_request"
      "auth_register_ok" (registerBody payload)

def identityBody : Json :=
  let body := Json.ofFields
    (identityFields.map fun key => (key, .string (textField payload key)))
  if textField payload "email" = "" then body
  else body.set "email" (.string (textField payload "email"))

def resolveAuthIdentityRequest : Except PreAuthFailure PreAuthSuccess :=
  if identityIncomplete payload = true then
    .error (invalidAuthPayload requestId "Identity auth payload is incomplete.")
  else
    resolveViaBackend config oracle requestId clientInstanceId "auth_identity_request"
      "auth_identity_ok" (identityBody payload)

def resolveDropboxPublicAuth : Except PreAuthFailure PreAuthSuccess :=
  let slug := textField payload "slug"
  if isValidDropboxSlug slug = false then
    .error
      { code := "invalid_dropbox_slug"
        message := "Invalid dropbox slug."
        requestId := requestId }
  else
    .ok
      { token := none
        userId := some (composeDropboxGuestUserId slug oracle.nowMicros)
        clientInstanceId := clientInstanceId
        successPayload := some (withRequestId requestId (Json.ofFields
          [("type", .string "dropbox_public_auth_ok"), ("slug", .string slug),
            ("ts", .ofInt oracle.now)])) }

def resolveDevicePairingAuth : Except PreAuthFailure PreAuthSuccess :=
  let token := textField payload "pairing_endpoint_token"
  if isValidPairingToken token = false then
    .error
      { code := "invalid_pairing_token"
        message := "Invalid pairing token."
        requestId := requestId }
  else
    .ok
      { token := none
        userId := some (composePairingGuestUserId token)
        clientInstanceId := clientInstanceId
        successPayload := some (withRequestId requestId (Json.ofFields
          [("type", .string "device_pairing_auth_ok"),
            ("pairing_endpoint_token", .string token), ("ts", .ofInt oracle.now)])) }

end Types

def invalidAuthType (requestId : Option String) : PreAuthFailure where
  code := "invalid_auth_type"
  message := "Unsupported auth payload type."
  requestId := requestId

def resolveInitialAuth (registry : CommandRegistry) (config : AuthConfig) (oracle : AuthOracle)
    (payload : Json) : Except PreAuthFailure PreAuthSuccess :=
  let requestId := normalizeRequestId (payload.strField "request_id")
  let clientInstanceId := textField payload "client_instance_id"
  let authType := textField payload "type"
  match registry.resolveCommandSpec authType with
  | none => .error (invalidAuthType requestId)
  | some commandSpec =>
      if commandSpec.routingClass ≠ .noAuth then .error (invalidAuthType requestId)
      else if authType = "auth" then resolveAuth payload requestId clientInstanceId
      else if authType = "auth_login_request" then
        resolveAuthLoginRequest config oracle payload requestId clientInstanceId
      else if authType = "auth_register_request" then
        resolveAuthRegisterRequest config oracle payload requestId clientInstanceId
      else if authType = "auth_identity_request" then
        resolveAuthIdentityRequest config oracle payload requestId clientInstanceId
      else if authType = "dropbox_public_auth" then
        resolveDropboxPublicAuth oracle payload requestId clientInstanceId
      else if authType = "device_pairing_auth" then
        resolveDevicePairingAuth oracle payload requestId clientInstanceId
      else .error (invalidAuthType requestId)

end Preauth
end Gateway

import Gateway.Preauth.InitialAuth

namespace Gateway
namespace Preauth

open Foundation Ingress

/-!
# What a payload has to show

The first stage either leads to a token, which the payload presents or the
backend issues for a complete request, or it admits a guest.
-/

/-- A request that may go to the backend, with its body. -/
inductive CompleteRequest (payload : Json) : String -> Json -> Prop where
  | login (email : textField payload "email" ≠ "") (password : textField payload "password" ≠ "") :
      CompleteRequest payload "auth_login_request" (loginBody payload)
  | register (name : textField payload "name" ≠ "") (email : textField payload "email" ≠ "")
      (password : textField payload "password" ≠ "")
      (identity : (forall key, key ∈ identityFields -> textField payload key = "") \/
        forall key, key ∈ identityFields -> textField payload key ≠ "") :
      CompleteRequest payload "auth_register_request" (registerBody payload)
  | identity (fields : forall key, key ∈ identityFields -> textField payload key ≠ "") :
      CompleteRequest payload "auth_identity_request" (identityBody payload)

/-- Where a token may come from. -/
inductive TokenFor (config : AuthConfig) (oracle : AuthOracle) (payload : Json) :
    String -> Prop where
  | presented {token : String} (type : textField payload "type" = "auth")
      (field : payload.trimmedField "token" = some token) : TokenFor config oracle payload token
  | issued {token path : String} {body answer : Json} {reply : BackendReply}
      (complete : CompleteRequest payload (textField payload "type") body)
      (route : resolveHttpPath (textField payload "type") = some path)
      (replied : oracle.post (backendBase config ++ path) body = some reply)
      (success : reply.isSuccess = true) (answered : reply.body = some answer)
      (field : answer.trimmedField "token" = some token) : TokenFor config oracle payload token

/-- Who is admitted without a token. -/
inductive GuestFor (oracle : AuthOracle) (payload : Json) : String -> Prop where
  | dropbox (type : textField payload "type" = "dropbox_public_auth")
      (valid : isValidDropboxSlug (textField payload "slug") = true) :
      GuestFor oracle payload
        (composeDropboxGuestUserId (textField payload "slug") oracle.nowMicros)
  | pairing (type : textField payload "type" = "device_pairing_auth")
      (valid : isValidPairingToken (textField payload "pairing_endpoint_token") = true) :
      GuestFor oracle payload
        (composePairingGuestUserId (textField payload "pairing_endpoint_token"))

/-- What the first stage may report. -/
inductive AdmittedAs (config : AuthConfig) (oracle : AuthOracle) (payload : Json)
    (success : PreAuthSuccess) : Prop where
  | holder {token : String} (noUser : success.userId = none) (given : success.token = some token)
      (source : TokenFor config oracle payload token)
  | guest {userId : String} (user : success.userId = some userId)
      (admitted : GuestFor oracle payload userId)

section Stages

variable {config : AuthConfig} {oracle : AuthOracle} {payload : Json}
  {requestId : Option String} {clientInstanceId : String} {success : PreAuthSuccess}

/-! ## The backend -/

theorem get_withRequestId {key : String} (requestId : Option String)
    (other : key ≠ "request_id") (answer : Json) :
    (withRequestId requestId answer).get key = answer.get key := by
  unfold withRequestId
  cases requestId with
  | none => rfl
  | some id => exact Json.get_set_of_ne other answer _

/-- The token in the answer to the client is the token of the backend. -/
theorem strField_backendAnswer (okType token : String) (user : Json) :
    (backendAnswer oracle requestId okType token user).strField "token" = some token := by
  have bare : (Json.ofFields [("type", .string okType), ("token", .string token),
      ("ts", .ofInt oracle.now)]).get "token" = some (.string token) :=
    (Json.get_set_of_ne (by decide : "token" ≠ "ts")
      (Json.ofFields [("type", .string okType), ("token", .string token)]) _).trans
      (Json.get_ofFields_concat [("type", .string okType)] "token" _)
  have named := (get_withRequestId requestId (by decide) _).trans bare
  have kept : (backendAnswer oracle requestId okType token user).get "token" =
      some (.string token) := by
    unfold backendAnswer
    cases user with
    | null => exact named
    | _ => exact (Json.get_set_of_ne (by decide) _ _).trans named
  rw [Json.strField, kept]
  rfl

theorem authenticateViaHttp_ok {path token : String} {body user : Json}
    (authenticated : authenticateViaHttp config oracle path body requestId = .ok (token, user)) :
    Exists fun reply => Exists fun answer =>
      oracle.post (backendBase config ++ path) body = some reply /\ reply.isSuccess = true /\
        reply.body = some answer /\ answer.trimmedField "token" = some token := by
  unfold authenticateViaHttp at authenticated
  dsimp only at authenticated
  split at authenticated
  · cases authenticated
  split at authenticated
  · cases authenticated
  cases posted : oracle.post (backendBase config ++ path) body with
  | none =>
      rw [posted] at authenticated
      cases authenticated
  | some reply =>
      rw [posted] at authenticated
      dsimp only at authenticated
      split at authenticated
      · cases authenticated
      · next success =>
        cases answered : reply.body with
        | none =>
            rw [answered] at authenticated
            cases authenticated
        | some answer =>
            rw [answered, Option.getD_some] at authenticated
            cases field : answer.trimmedField "token" with
            | none =>
                rw [field] at authenticated
                cases authenticated
            | some found =>
                rw [field] at authenticated
                cases authenticated
                exact ⟨reply, answer, rfl, Bool.eq_true_of_not_eq_false success, answered, field⟩

theorem resolveViaBackend_ok {commandName okType : String} {body : Json}
    (type : textField payload "type" = commandName)
    (complete : CompleteRequest payload commandName body)
    (resolved : resolveViaBackend config oracle requestId clientInstanceId commandName okType
      body = .ok success) :
    AdmittedAs config oracle payload success := by
  subst type
  unfold resolveViaBackend resolvePreauthHttpPath at resolved
  cases route : resolveHttpPath (textField payload "type") with
  | none =>
      rw [route] at resolved
      cases resolved
  | some path =>
      rw [route] at resolved
      dsimp only at resolved
      cases authenticated : authenticateViaHttp config oracle path body requestId with
      | error failure =>
          rw [authenticated] at resolved
          cases resolved
      | ok issued =>
          rcases issued with ⟨token, user⟩
          rw [authenticated] at resolved
          cases resolved
          rcases authenticateViaHttp_ok authenticated with
            ⟨reply, answer, replied, isSuccess, answered, field⟩
          refine .holder rfl ?_ (.issued complete route replied isSuccess answered field)
          rw [strField_backendAnswer]
          rfl

/-! ## The types of payload -/

theorem resolveAuth_ok (type : textField payload "type" = "auth")
    (resolved : resolveAuth payload requestId clientInstanceId = .ok success) :
    AdmittedAs config oracle payload success := by
  unfold resolveAuth at resolved
  cases field : payload.trimmedField "token" with
  | none =>
      rw [field] at resolved
      cases resolved
  | some token =>
      rw [field] at resolved
      cases resolved
      exact .holder rfl rfl (.presented type field)

theorem resolveAuthLoginRequest_ok (type : textField payload "type" = "auth_login_request")
    (resolved : resolveAuthLoginRequest config oracle payload requestId clientInstanceId =
      .ok success) : AdmittedAs config oracle payload success := by
  unfold resolveAuthLoginRequest at resolved
  split at resolved
  · cases resolved
  · next complete =>
    rcases not_or.mp complete with ⟨email, password⟩
    exact resolveViaBackend_ok type (.login email password) resolved

theorem identityIncomplete_eq_false_iff :
    identityIncomplete payload = false <->
      forall key, key ∈ identityFields -> textField payload key ≠ "" := by
  simp [identityIncomplete]

theorem identityRequested_eq_false_iff :
    identityRequested payload = false <->
      forall key, key ∈ identityFields -> textField payload key = "" := by
  simp [identityRequested]

theorem resolveAuthRegisterRequest_ok
    (type : textField payload "type" = "auth_register_request")
    (resolved : resolveAuthRegisterRequest config oracle payload requestId clientInstanceId =
      .ok success) : AdmittedAs config oracle payload success := by
  unfold resolveAuthRegisterRequest at resolved
  split at resolved
  · cases resolved
  · next fields =>
    split at resolved
    · cases resolved
    · next consistent =>
      rcases not_or.mp fields with ⟨name, credentials⟩
      rcases not_or.mp credentials with ⟨email, password⟩
      refine resolveViaBackend_ok type (.register name email password ?_) resolved
      rw [← identityRequested_eq_false_iff, ← identityIncomplete_eq_false_iff]
      cases requested : identityRequested payload with
      | false => exact Or.inl rfl
      | true =>
          exact Or.inr (Bool.eq_false_of_not_eq_true fun incomplete =>
            consistent ⟨requested, incomplete⟩)

theorem resolveAuthIdentityRequest_ok
    (type : textField payload "type" = "auth_identity_request")
    (resolved : resolveAuthIdentityRequest config oracle payload requestId clientInstanceId =
      .ok success) : AdmittedAs config oracle payload success := by
  unfold resolveAuthIdentityRequest at resolved
  split at resolved
  · cases resolved
  · next complete =>
    have fields := identityIncomplete_eq_false_iff.mp (Bool.eq_false_of_not_eq_true complete)
    exact resolveViaBackend_ok type (.identity fields) resolved

theorem resolveDropboxPublicAuth_ok (type : textField payload "type" = "dropbox_public_auth")
    (resolved : resolveDropboxPublicAuth oracle payload requestId clientInstanceId =
      .ok success) : AdmittedAs config oracle payload success := by
  unfold resolveDropboxPublicAuth at resolved
  dsimp only at resolved
  split at resolved
  · cases resolved
  · next valid =>
    cases resolved
    exact .guest rfl (.dropbox type (Bool.eq_true_of_not_eq_false valid))

theorem resolveDevicePairingAuth_ok (type : textField payload "type" = "device_pairing_auth")
    (resolved : resolveDevicePairingAuth oracle payload requestId clientInstanceId =
      .ok success) : AdmittedAs config oracle payload success := by
  unfold resolveDevicePairingAuth at resolved
  dsimp only at resolved
  split at resolved
  · cases resolved
  · next valid =>
    cases resolved
    exact .guest rfl (.pairing type (Bool.eq_true_of_not_eq_false valid))

/-- The first stage admits nobody else. -/
theorem resolveInitialAuth_ok {registry : CommandRegistry}
    (resolved : resolveInitialAuth registry config oracle payload = .ok success) :
    AdmittedAs config oracle payload success := by
  unfold resolveInitialAuth at resolved
  dsimp only at resolved
  cases known : registry.resolveCommandSpec (textField payload "type") with
  | none =>
      rw [known] at resolved
      cases resolved
  | some commandSpec =>
      rw [known] at resolved
      dsimp only at resolved
      by_cases routed : commandSpec.routingClass ≠ .noAuth
      · rw [if_pos routed] at resolved
        cases resolved
      rw [if_neg routed] at resolved
      by_cases auth : textField payload "type" = "auth"
      · rw [if_pos auth] at resolved
        exact resolveAuth_ok auth resolved
      rw [if_neg auth] at resolved
      by_cases login : textField payload "type" = "auth_login_request"
      · rw [if_pos login] at resolved
        exact resolveAuthLoginRequest_ok login resolved
      rw [if_neg login] at resolved
      by_cases register : textField payload "type" = "auth_register_request"
      · rw [if_pos register] at resolved
        exact resolveAuthRegisterRequest_ok register resolved
      rw [if_neg register] at resolved
      by_cases identity : textField payload "type" = "auth_identity_request"
      · rw [if_pos identity] at resolved
        exact resolveAuthIdentityRequest_ok identity resolved
      rw [if_neg identity] at resolved
      by_cases dropbox : textField payload "type" = "dropbox_public_auth"
      · rw [if_pos dropbox] at resolved
        exact resolveDropboxPublicAuth_ok dropbox resolved
      rw [if_neg dropbox] at resolved
      by_cases pairing : textField payload "type" = "device_pairing_auth"
      · rw [if_pos pairing] at resolved
        exact resolveDevicePairingAuth_ok pairing resolved
      rw [if_neg pairing] at resolved
      cases resolved

end Stages

end Preauth
end Gateway

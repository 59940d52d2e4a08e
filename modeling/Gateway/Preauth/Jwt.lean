import Gateway.Preauth.InitialAuth
import Gateway.Process.Config

namespace Gateway
namespace Preauth

open Foundation Process

/-!
# Verifying a token

The key that a token has to be signed with is fixed by the configuration.  With
a JWKS URL it is the first key of the fetched set that has the key id of the
token, and otherwise it is the key of the configuration, which is a shared
secret or a PEM text, depending on the configured algorithm and never on the
token.  No second key is tried.
-/

/-- The signature algorithms that the configuration can name. -/
inductive Algorithm where
  | rs256
  | rs384
  | rs512
  | hs256
  | hs384
  | hs512
  deriving DecidableEq, Repr

def Algorithm.isShared : Algorithm -> Bool
  | .hs256 => true
  | .hs384 => true
  | .hs512 => true
  | _ => false

/-- An unknown name stands for the default. -/
def algorithmOf (name : String) : Algorithm :=
  match name with
  | "RS256" => .rs256
  | "RS384" => .rs384
  | "RS512" => .rs512
  | "HS256" => .hs256
  | "HS384" => .hs384
  | "HS512" => .hs512
  | _ => .rs256

inductive AuthError where
  | missingToken
  | invalidToken
  | configMissing
  deriving DecidableEq, Repr

/-- What the library is asked to check besides the signature. -/
structure Validation where
  algorithm : Algorithm
  issuers : Option (List String)
  audiences : Option (List String)
  leeway : Nat
  deriving DecidableEq, Repr

/-- The checks of the library by default. -/
def Validation.new (algorithm : Algorithm) : Validation where
  algorithm := algorithm
  issuers := none
  audiences := none
  leeway := 60

/-- The library for tokens.  The header of a token has a key id or none, and
decoding depends on the time. -/
structure JwtLibrary where
  Key : Type
  Jwk : Type
  keyId : Jwk -> Option String
  decodeHeader : String -> Option (Option String)
  fromJwk : Jwk -> Option Key
  fromSecret : String -> Key
  fromRsaPem : String -> Option Key
  decode : Int -> Validation -> Key -> String -> Option Json

/-- What one attempt reads from outside the gateway. -/
structure AuthReading (library : JwtLibrary) where
  now : Int
  nowMicros : Int
  clientBuilds : Bool
  post : String -> Json -> Option BackendReply
  fetchJwks : String -> Option (List library.Jwk)
  decodeNow : Int

/-- The parts of the configuration that the first stage reads. -/
def authConfig (config : Config) : AuthConfig where
  authBackendBaseUrl := config.authBackendBaseUrl
  jwtUserIdClaim := config.jwtUserIdClaim

/-- The configured checks.  A leeway that is not positive leaves the default. -/
def validationOf (config : Config) : Validation :=
  let bare := Validation.new (algorithmOf config.jwtAlg)
  { bare with
    issuers := if config.jwtIssuer ≠ "" then some [config.jwtIssuer] else bare.issuers
    audiences := if config.jwtAudience ≠ "" then some [config.jwtAudience] else bare.audiences
    leeway := if 0 < config.jwtLeeway then config.jwtLeeway.toNat else bare.leeway }

section Verification

variable (library : JwtLibrary) (config : Config) (reading : AuthReading library)

/-- The key in the fetched set, if there is one. -/
def fetchedKey (token : String) : Except AuthError library.Key :=
  match library.decodeHeader token with
  | none => .error .invalidToken
  | some none => .error .invalidToken
  | some (some kid) =>
      match reading.fetchJwks config.jwtJwksUrl with
      | none => .error .invalidToken
      | some keys =>
          match keys.find? fun key => library.keyId key == some kid with
          | none => .error .invalidToken
          | some jwk => ((library.fromJwk jwk).map Except.ok).getD (.error .invalidToken)

def staticKey : Except AuthError library.Key :=
  if (algorithmOf config.jwtAlg).isShared = true then .ok (library.fromSecret config.jwtPublicKey)
  else ((library.fromRsaPem config.jwtPublicKey).map Except.ok).getD (.error .invalidToken)

/-- The only key that a token is decoded with. -/
def signingKey (token : String) : Except AuthError library.Key :=
  if config.jwtJwksUrl ≠ "" then fetchedKey library config reading token
  else if config.jwtPublicKey ≠ "" then staticKey library config
  else .error .configMissing

def verifyJwt (token : String) : Except AuthError Json :=
  (signingKey library config reading token).bind fun key =>
    ((library.decode reading.decodeNow (validationOf config) key token).map Except.ok).getD
      (.error .invalidToken)

/-- What happens outside the gateway, with tokens verified as configured. -/
def AuthReading.oracle : AuthOracle where
  now := reading.now
  nowMicros := reading.nowMicros
  clientBuilds := reading.clientBuilds
  post := reading.post
  verifyJwt := fun token => (verifyJwt library config reading token).toOption

/-! ## Trusted keys -/

/-- The keys that the configuration trusts for a token. -/
inductive TrustedKey (token : String) : library.Key -> Prop where
  | fetched {kid : String} {keys before after : List library.Jwk} {jwk : library.Jwk}
      {key : library.Key} (url : config.jwtJwksUrl ≠ "")
      (header : library.decodeHeader token = some (some kid))
      (answered : reading.fetchJwks config.jwtJwksUrl = some keys)
      (split : keys = before ++ jwk :: after) (named : library.keyId jwk = some kid)
      (first : forall other, other ∈ before -> library.keyId other ≠ some kid)
      (decodes : library.fromJwk jwk = some key) : TrustedKey token key
  | shared (noUrl : config.jwtJwksUrl = "") (given : config.jwtPublicKey ≠ "")
      (algorithm : (algorithmOf config.jwtAlg).isShared = true) :
      TrustedKey token (library.fromSecret config.jwtPublicKey)
  | pem {key : library.Key} (noUrl : config.jwtJwksUrl = "") (given : config.jwtPublicKey ≠ "")
      (algorithm : (algorithmOf config.jwtAlg).isShared = false)
      (decodes : library.fromRsaPem config.jwtPublicKey = some key) : TrustedKey token key

variable {library config reading}

theorem getD_ok_eq_ok_iff {Value : Type} {result : Option Value} {error : AuthError}
    {value : Value} :
    (result.map Except.ok).getD (.error error) = .ok value <-> result = some value := by
  cases result <;> simp

theorem fetchedKey_eq_ok_iff (url : config.jwtJwksUrl ≠ "") {token : String}
    {key : library.Key} :
    fetchedKey library config reading token = .ok key <->
      TrustedKey library config reading token key := by
  constructor
  · intro found
    unfold fetchedKey at found
    split at found
    · cases found
    · cases found
    · next kid header =>
      split at found
      · cases found
      · next keys answered =>
        split at found
        · cases found
        · next jwk first =>
          rcases List.find?_eq_some_iff_append.mp first with ⟨named, before, after, split, others⟩
          refine .fetched url header answered split (by simpa using named) ?_
            (getD_ok_eq_ok_iff.mp found)
          intro other member same
          simpa [same] using others other member
  · intro trusted
    cases trusted with
    | @fetched kid keys before after jwk _ _ header answered split named first decodes =>
        have found : (keys.find? fun key => library.keyId key == some kid) = some jwk := by
          rw [List.find?_eq_some_iff_append]
          refine ⟨by simp [named], before, after, split, ?_⟩
          intro other member
          simp [first other member]
        unfold fetchedKey
        rw [header, answered]
        dsimp only
        rw [found]
        exact getD_ok_eq_ok_iff.mpr decodes
    | shared noUrl => exact absurd noUrl url
    | pem noUrl => exact absurd noUrl url

theorem staticKey_eq_ok_iff (url : config.jwtJwksUrl = "") (given : config.jwtPublicKey ≠ "")
    {token : String} {key : library.Key} :
    staticKey library config = .ok key <-> TrustedKey library config reading token key := by
  unfold staticKey
  split
  · next shared =>
    constructor
    · intro found
      cases found
      exact .shared url given shared
    · intro trusted
      cases trusted with
      | fetched some => exact absurd url some
      | shared => rfl
      | pem _ _ pem => exact absurd (shared.symm.trans pem) (by decide)
  · next pem =>
    rw [getD_ok_eq_ok_iff]
    constructor
    · exact .pem url given (Bool.eq_false_of_not_eq_true pem)
    · intro trusted
      cases trusted with
      | fetched some => exact absurd url some
      | shared _ _ shared => exact absurd shared pem
      | pem _ _ _ decodes => exact decodes

/-- The key of a token is the one that the configuration trusts. -/
theorem signingKey_eq_ok_iff {token : String} {key : library.Key} :
    signingKey library config reading token = .ok key <->
      TrustedKey library config reading token key := by
  unfold signingKey
  split
  · next url => exact fetchedKey_eq_ok_iff url
  · next noUrl =>
    have url := not_not.mp noUrl
    split
    · next given => exact staticKey_eq_ok_iff url given
    · next missing =>
      constructor
      · intro impossible
        cases impossible
      · intro trusted
        cases trusted with
        | fetched some => exact absurd url some
        | shared _ given => exact absurd given missing
        | pem _ given => exact absurd given missing

/-- No other key is trusted for the token. -/
theorem TrustedKey.unique {token : String} {key other : library.Key}
    (trusted : TrustedKey library config reading token key)
    (otherTrusted : TrustedKey library config reading token other) : key = other := by
  have first := signingKey_eq_ok_iff.mpr trusted
  rw [signingKey_eq_ok_iff.mpr otherTrusted] at first
  cases first
  rfl

/-- A token verifies exactly if it decodes under the trusted key. -/
theorem verifyJwt_eq_ok_iff {token : String} {claims : Json} :
    verifyJwt library config reading token = .ok claims <-> Exists fun key =>
      TrustedKey library config reading token key /\
        library.decode reading.decodeNow (validationOf config) key token = some claims := by
  unfold verifyJwt
  constructor
  · intro verified
    cases signed : signingKey library config reading token with
    | error =>
        rw [signed] at verified
        cases verified
    | ok key =>
        rw [signed] at verified
        exact ⟨key, signingKey_eq_ok_iff.mp signed, getD_ok_eq_ok_iff.mp verified⟩
  · rintro ⟨key, trusted, decodes⟩
    rw [signingKey_eq_ok_iff.mpr trusted]
    exact getD_ok_eq_ok_iff.mpr decodes

theorem oracle_verifyJwt_eq_some_iff {token : String} {claims : Json} :
    (reading.oracle library config).verifyJwt token = some claims <->
      verifyJwt library config reading token = .ok claims := by
  unfold AuthReading.oracle
  dsimp only
  cases verifyJwt library config reading token <;> simp [Except.toOption]

end Verification

end Preauth
end Gateway

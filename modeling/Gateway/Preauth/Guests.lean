import Gateway.Foundation.Text

namespace Gateway
namespace Preauth

/-!
# Routes and guests of the authentication stage

Three kinds of request are forwarded to the auth backend.  Two further kinds
admit a guest, whose user id is composed from what the guest has presented.
-/

structure PreAuthHttpRoute where
  commandName : String
  path : String
  deriving DecidableEq, Repr

def preauthHttpRoutes : List PreAuthHttpRoute :=
  [ ⟨"auth_login_request", "/api/login_check"⟩,
    ⟨"auth_register_request", "/api/register"⟩,
    ⟨"auth_identity_request", "/api/identity/login"⟩]

def resolveHttpPath (commandName : String) : Option String :=
  (preauthHttpRoutes.find? fun entry => entry.commandName == commandName).map
    PreAuthHttpRoute.path

def dropboxGuestUserPrefix : String := "public-dropbox"

def pairingGuestUserPrefix : String := "pairing"

def composeDropboxGuestUserId (slug : String) (timestampMicros : Int) : String :=
  dropboxGuestUserPrefix ++ ":" ++ slug ++ ":" ++ timestampMicros.repr

def composePairingGuestUserId (token : String) : String :=
  pairingGuestUserPrefix ++ ":" ++ token

/-- The length is counted in bytes. -/
def isValidDropboxSlug (slug : String) : Bool :=
  if slug = "" ∨ 64 < slug.utf8ByteSize then false
  else slug.toList.all fun char => char.isAlphanum || char == '-' || char == '_'

def isValidPairingToken (token : String) : Bool :=
  if token = "" ∨ 191 < token.utf8ByteSize then false
  else token.toList.all fun char =>
    char.isAlphanum || char == '-' || char == '_' || char == ':'

theorem chars_of_isValidDropboxSlug {slug : String} (valid : isValidDropboxSlug slug = true) :
    forall char, char ∈ slug.toList ->
      (char.isAlphanum || char == '-' || char == '_') = true := by
  unfold isValidDropboxSlug at valid
  split at valid
  · cases valid
  · exact List.all_eq_true.mp valid

theorem chars_of_isValidPairingToken {token : String}
    (valid : isValidPairingToken token = true) :
    forall char, char ∈ token.toList ->
      (char.isAlphanum || char == '-' || char == '_' || char == ':') = true := by
  unfold isValidPairingToken at valid
  split at valid
  · cases valid
  · exact List.all_eq_true.mp valid

end Preauth
end Gateway

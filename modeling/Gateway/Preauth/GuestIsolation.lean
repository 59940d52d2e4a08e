import Gateway.Preauth.Admission
import Gateway.Session.Lifecycle
import Gateway.State.Provenance

namespace Gateway
namespace Preauth

open Foundation State

/-!
# Guests among themselves

The user id of a guest tells where it comes from: no two guests have the same
id.  The subjects of a guest are less telling.  Besides its own subject every
guest has the lower-cased one, and this is shared by all guests whose ids agree
up to letter case.  Guests that do not agree up to letter case have no subject
in common, and no text that is addressed to the one gets to the other.
-/

/-- A guest by what it has presented. -/
inductive Guest where
  | dropbox (slug : String) (timestampMicros : Int)
  | pairing (token : String)
  deriving DecidableEq, Repr

namespace Guest

/-- What the first stage of authentication accepts. -/
def Accepted : Guest -> Prop
  | .dropbox slug _ => isValidDropboxSlug slug = true
  | .pairing token => isValidPairingToken token = true

def userId : Guest -> String
  | .dropbox slug timestampMicros => composeDropboxGuestUserId slug timestampMicros
  | .pairing token => composePairingGuestUserId token

/-- The guest with the upper-case letters of its text lowered. -/
def folded : Guest -> Guest
  | .dropbox slug timestampMicros => .dropbox (asciiLowercase slug) timestampMicros
  | .pairing token => .pairing (asciiLowercase token)

/-- The subjects that both transports register for a guest. -/
def subjects (toLowercase : String -> String) (guest : Guest) : List String :=
  Session.connectionSubjects toLowercase guest.userId

end Guest

/-- Whoever is admitted without a token is an accepted guest. -/
theorem GuestFor.exists_guest {oracle : AuthOracle} {payload : Json} {userId : String}
    (admitted : GuestFor oracle payload userId) :
    Exists fun guest : Guest => guest.Accepted /\ guest.userId = userId := by
  cases admitted with
  | dropbox type valid => exact ⟨.dropbox _ oracle.nowMicros, valid, rfl⟩
  | pairing type valid => exact ⟨.pairing _, valid, rfl⟩

theorem composeDropboxGuestUserId_inj {slug other : String} {micros otherMicros : Int}
    (same : composeDropboxGuestUserId slug micros = composeDropboxGuestUserId other otherMicros) :
    slug = other /\ micros = otherMicros := by
  have parts := delimited_inj ':' (not_mem_int_repr (by decide) (by decide) _)
    (not_mem_int_repr (by decide) (by decide) _) same
  have lists := congrArg String.toList parts.1
  simp only [String.toList_append] at lists
  exact ⟨String.toList_inj.mp (List.append_cancel_left lists), Int.repr_inj.mp parts.2⟩

theorem composePairingGuestUserId_inj {token other : String}
    (same : composePairingGuestUserId token = composePairingGuestUserId other) :
    token = other := by
  have lists := congrArg String.toList same
  simp only [composePairingGuestUserId, String.toList_append] at lists
  exact String.toList_inj.mp (List.append_cancel_left lists)

/-- The prefixes differ in their second character. -/
theorem composeDropboxGuestUserId_ne_pairing (slug token : String) (micros : Int) :
    composeDropboxGuestUserId slug micros ≠ composePairingGuestUserId token := by
  intro same
  have seconds := congrArg (fun text : String => text.toList[1]?) same
  simp [composeDropboxGuestUserId, composePairingGuestUserId, dropboxGuestUserPrefix,
    pairingGuestUserPrefix] at seconds

theorem Guest.userId_injective : Function.Injective Guest.userId := by
  intro left right same
  cases left with
  | dropbox slug micros =>
      cases right with
      | dropbox other otherMicros =>
          rcases composeDropboxGuestUserId_inj same with ⟨rfl, rfl⟩
          rfl
      | pairing token => exact absurd same (composeDropboxGuestUserId_ne_pairing slug token micros)
  | pairing token =>
      cases right with
      | dropbox slug micros =>
          exact absurd same.symm (composeDropboxGuestUserId_ne_pairing slug token micros)
      | pairing other => rw [composePairingGuestUserId_inj same]

/-! ## Letter case -/

/-- The characters of accepted guest ids. -/
def isGuestChar (char : Char) : Bool :=
  char.isAlphanum || char == '-' || char == '_' || char == ':'

theorem toNat_of_isAlphanum {char : Char} (alphanumeric : char.isAlphanum = true) :
    48 ≤ char.toNat /\ char.toNat ≤ 122 := by
  have ranges : ((65 ≤ char.toNat /\ char.toNat ≤ 90) \/
      97 ≤ char.toNat /\ char.toNat ≤ 122) \/ 48 ≤ char.toNat /\ char.toNat ≤ 57 := by
    simpa [Char.isAlphanum, Char.isAlpha, Char.isUpper, Char.isLower, Char.isDigit,
      UInt32.le_iff_toNat_le] using alphanumeric
  omega

/-- They are visible ASCII characters. -/
theorem isGuestChar_range {char : Char} (guest : isGuestChar char = true) :
    32 < char.toNat /\ char.toNat < 128 := by
  simp only [isGuestChar, Bool.or_eq_true, beq_iff_eq] at guest
  rcases guest with ((alphanumeric | rfl) | rfl) | rfl
  · have range := toNat_of_isAlphanum alphanumeric
    omega
  all_goals decide

theorem isWhitespace_of_isGuestChar {char : Char} (guest : isGuestChar char = true) :
    isWhitespace char = false := by
  have range := isGuestChar_range guest
  rw [Bool.eq_false_iff]
  simp only [isWhitespace, ne_eq, Bool.or_eq_true, Bool.and_eq_true, decide_eq_true_eq, beq_iff_eq]
  omega

theorem isGuestChar_of_isDigit {char : Char} (digit : char.isDigit = true) :
    isGuestChar char = true := by
  simp [isGuestChar, Char.isAlphanum, digit]

namespace Guest

variable {guest left right : Guest}

theorem fixedParts :
    (forall char, char ∈ dropboxGuestUserPrefix.toList -> isGuestChar char = true) /\
      (forall char, char ∈ pairingGuestUserPrefix.toList -> isGuestChar char = true) /\
        forall char, char ∈ ":".toList -> isGuestChar char = true := by
  have checked : dropboxGuestUserPrefix.toList.all isGuestChar = true /\
      pairingGuestUserPrefix.toList.all isGuestChar = true /\
        ":".toList.all isGuestChar = true := by
    decide +kernel
  simpa only [List.all_eq_true] using checked

/-- An accepted guest has an id of these characters. -/
theorem isGuestChar_of_mem_userId (accepted : guest.Accepted) {char : Char}
    (member : char ∈ guest.userId.toList) : isGuestChar char = true := by
  rcases fixedParts with ⟨dropboxPart, pairingPart, colonPart⟩
  cases guest with
  | dropbox slug micros =>
      simp only [userId, composeDropboxGuestUserId, String.toList_append, List.mem_append] at member
      rcases member with (((start | colon) | inSlug) | colon) | inTime
      · exact dropboxPart char start
      · exact colonPart char colon
      · rw [isGuestChar, chars_of_isValidDropboxSlug accepted char inSlug, Bool.true_or]
      · exact colonPart char colon
      · rcases mem_int_repr inTime with digit | rfl
        · exact isGuestChar_of_isDigit digit
        · decide
  | pairing token =>
      simp only [userId, composePairingGuestUserId, String.toList_append, List.mem_append] at member
      rcases member with (start | colon) | inToken
      · exact pairingPart char start
      · exact colonPart char colon
      · exact chars_of_isValidPairingToken accepted char inToken

theorem folded_folded (guest : Guest) : guest.folded.folded = guest.folded := by
  cases guest with
  | dropbox slug micros => rw [folded, folded, asciiLowercase_laws.idempotent]
  | pairing token => rw [folded, folded, asciiLowercase_laws.idempotent]

end Guest

theorem asciiLowercase_append (left right : String) :
    asciiLowercase (left ++ right) = asciiLowercase left ++ asciiLowercase right := by
  simp only [asciiLowercase, String.toList_append, List.map_append, String.ofList_append]

/-- Digits and signs have no case. -/
theorem asciiLowercase_int_repr (value : Int) : asciiLowercase value.repr = value.repr := by
  have same : forall char, char ∈ value.repr.toList -> char.toLower = id char := by
    intro char member
    rcases mem_int_repr member with digit | rfl
    · apply Char.toLower_eq_of_not_isUpper
      have range : 48 ≤ char.toNat /\ char.toNat ≤ 57 := by
        simpa [Char.isDigit, UInt32.le_iff_toNat_le] using digit
      intro upper
      have above : 65 ≤ char.toNat /\ char.toNat ≤ 90 := by
        simpa [Char.isUpper, UInt32.le_iff_toNat_le] using upper
      omega
    · rfl
  rw [asciiLowercase, List.map_congr_left same, List.map_id, String.ofList_toList]

/-- Lower-casing an id lowers the text that the guest has presented. -/
theorem Guest.asciiLowercase_userId (guest : Guest) :
    asciiLowercase guest.userId = guest.folded.userId := by
  have prefixes : asciiLowercase dropboxGuestUserPrefix = dropboxGuestUserPrefix /\
      asciiLowercase pairingGuestUserPrefix = pairingGuestUserPrefix /\
        asciiLowercase ":" = ":" := by decide
  rcases prefixes with ⟨dropbox, pairing, colon⟩
  cases guest with
  | dropbox slug micros =>
      simp only [userId, composeDropboxGuestUserId, asciiLowercase_append, dropbox, colon,
        asciiLowercase_int_repr, folded]
  | pairing token =>
      simp only [userId, composePairingGuestUserId, asciiLowercase_append, pairing, colon, folded]

/-- Lower-casing of texts that only have ASCII characters. -/
def LowersAscii (toLowercase : String -> String) : Prop :=
  forall text, (forall char, char ∈ text.toList -> char.toNat < 128) ->
    toLowercase text = asciiLowercase text

section Subjects

variable {toLowercase : String -> String}

theorem Guest.userId_ne_empty (guest : Guest) : guest.userId ≠ "" := by
  intro empty
  have lists := congrArg String.toList empty
  cases guest with
  | dropbox slug micros =>
      simp [userId, composeDropboxGuestUserId, dropboxGuestUserPrefix] at lists
  | pairing token =>
      simp [userId, composePairingGuestUserId, pairingGuestUserPrefix] at lists

theorem userSubject_inj {left right : String} (same : "user:" ++ left = "user:" ++ right) :
    left = right := by
  have lists := congrArg String.toList same
  simp only [String.toList_append] at lists
  exact String.toList_inj.mp (List.append_cancel_left lists)

theorem Guest.normalize_userId (ascii : LowersAscii toLowercase) {guest : Guest}
    (accepted : guest.Accepted) :
    State.normalize toLowercase guest.userId = guest.folded.userId := by
  have trimmed : trim guest.userId = guest.userId := trim_of_visible fun char member =>
    isWhitespace_of_isGuestChar (guest.isGuestChar_of_mem_userId accepted member)
  rw [State.normalize, trimmed, ascii guest.userId, guest.asciiLowercase_userId]
  intro char member
  exact (isGuestChar_range (guest.isGuestChar_of_mem_userId accepted member)).2

/-- The subjects of a guest are those of its id and of the lowered id. -/
theorem Guest.mem_subjects_iff (ascii : LowersAscii toLowercase) {guest : Guest}
    (accepted : guest.Accepted) (subject : String) :
    subject ∈ guest.subjects toLowercase <->
      subject = "user:" ++ guest.userId \/ subject = "user:" ++ guest.folded.userId := by
  unfold Guest.subjects Session.connectionSubjects
  dsimp only
  rw [guest.normalize_userId ascii accepted]
  by_cases same : guest.folded.userId = guest.userId
  · rw [if_neg fun both => both.2 same, List.mem_singleton, same, or_self]
  · rw [if_pos ⟨guest.folded.userId_ne_empty, same⟩, List.mem_cons, List.mem_singleton]

/-- Two accepted guests have a subject in common exactly if they agree up to
letter case. -/
theorem Guest.common_subject_iff (ascii : LowersAscii toLowercase) {left right : Guest}
    (leftAccepted : left.Accepted) (rightAccepted : right.Accepted) :
    (Exists fun subject => subject ∈ left.subjects toLowercase /\
      subject ∈ right.subjects toLowercase) <-> left.folded = right.folded := by
  constructor
  · rintro ⟨subject, leftMember, rightMember⟩
    rcases (left.mem_subjects_iff ascii leftAccepted subject).mp leftMember with rfl | rfl
    · rcases (right.mem_subjects_iff ascii rightAccepted _).mp rightMember with same | same
      · rw [Guest.userId_injective (userSubject_inj same)]
      · rw [Guest.userId_injective (userSubject_inj same), right.folded_folded]
    · rcases (right.mem_subjects_iff ascii rightAccepted _).mp rightMember with same | same
      · rw [← Guest.userId_injective (userSubject_inj same), left.folded_folded]
      · exact Guest.userId_injective (userSubject_inj same)
  · intro same
    refine ⟨"user:" ++ left.folded.userId, ?_, ?_⟩
    · exact (left.mem_subjects_iff ascii leftAccepted _).mpr (Or.inr rfl)
    · exact (right.mem_subjects_iff ascii rightAccepted _).mpr (Or.inr (by rw [same]))

end Subjects

/-! ## Isolation -/

/-- Neither the queues of the guest nor the channels of its connections hold
the text, unless it was sent to the connection itself. -/
def NeverGets (toLowercase : String -> String) (guest : Guest) (operations : List Operation)
    (text : String) (state : GatewayState) : Prop :=
  (forall subject, subject ∈ guest.subjects toLowercase -> forall item,
    item ∈ pendingOf state.pendingBySubject subject -> item.text ≠ text) /\
  forall id handle, state.connections.lookup id = some handle ->
    handle.info.subjects = guest.subjects toLowercase ->
    (forall operation, operation ∈ operations -> Not (operation.AddressesConnection id text)) ->
    text ∉ state.textsOn handle.sender

/-- A text that a run addresses only to subjects of one guest does not get to
a guest without a subject in common. -/
theorem Guest.neverGets_of_disjoint {toLowercase : String -> String} {left right : Guest}
    (disjoint : forall subject, subject ∈ left.subjects toLowercase ->
      subject ∉ right.subjects toLowercase)
    (maxConnectionsPerUser : Option Nat) {operations : List Operation}
    (fresh : FreshIds operations) {text : String}
    (addressed : forall operation, operation ∈ operations -> forall subject,
      operation.AddressesSubject subject text -> subject ∈ left.subjects toLowercase) :
    NeverGets toLowercase right operations text
      (GatewayState.run toLowercase maxConnectionsPerUser operations) := by
  have traced := texts_were_addressed toLowercase maxConnectionsPerUser operations fresh text
  refine ⟨?_, ?_⟩
  · intro subject listed item member same
    rcases traced.queued subject item member same with ⟨operation, ran, toSubject⟩
    exact disjoint subject (addressed operation ran subject toSubject) listed
  · intro id handle found registered indirect member
    rcases traced.sent id handle found member with
      ⟨operation, ran, direct⟩ | ⟨subject, subscribed, operation, ran, toSubject⟩
    · exact indirect operation ran direct
    · rw [registered] at subscribed
      exact disjoint subject (addressed operation ran subject toSubject) subscribed

/-- Guests have different ids.  They share a subject exactly if they agree up to
letter case, and otherwise nothing that is sent to the one gets to the other. -/
theorem guests_isolated_unless_folded {toLowercase : String -> String}
    (ascii : LowersAscii toLowercase) {left right : Guest} (leftAccepted : left.Accepted)
    (rightAccepted : right.Accepted) (different : left ≠ right) :
    left.userId ≠ right.userId /\
      ((Exists fun subject => subject ∈ left.subjects toLowercase /\
        subject ∈ right.subjects toLowercase) <-> left.folded = right.folded) /\
      (left.folded ≠ right.folded -> forall (maxConnectionsPerUser : Option Nat)
        (operations : List Operation), FreshIds operations -> forall text,
        (forall operation, operation ∈ operations -> forall subject,
          operation.AddressesSubject subject text -> subject ∈ left.subjects toLowercase) ->
        NeverGets toLowercase right operations text
          (GatewayState.run toLowercase maxConnectionsPerUser operations)) := by
  have common := Guest.common_subject_iff ascii leftAccepted rightAccepted
  refine ⟨fun same => different (Guest.userId_injective same), common, ?_⟩
  intro distinct maxConnectionsPerUser operations fresh text addressed
  refine Guest.neverGets_of_disjoint ?_ maxConnectionsPerUser fresh addressed
  intro subject leftMember rightMember
  exact distinct (common.mp ⟨subject, leftMember, rightMember⟩)

/-- Two pairing devices and a text for the first one. -/
theorem guests_isolated_unless_folded_pairing :
    let operations : List Operation :=
      [.registerConnection .sorted 0 "c1" "pairing:Left" ""
          ((Guest.pairing "Left").subjects asciiLowercase) 0,
        .registerConnection .sorted 0 "c2" "pairing:right" ""
          ((Guest.pairing "right").subjects asciiLowercase) 0,
        .sendToSubjects .sorted 1 1 ["user:pairing:left"] "m" true none]
    (Guest.pairing "Left").userId ≠ (Guest.pairing "right").userId /\
      NeverGets asciiLowercase (.pairing "right") operations "m"
        (GatewayState.run asciiLowercase none operations) := by
  intro operations
  have isolated := @guests_isolated_unless_folded asciiLowercase (fun _ _ => rfl)
    (.pairing "Left") (.pairing "right") rfl rfl (by decide)
  refine ⟨isolated.1, isolated.2.2 (by decide) none operations (by decide) "m" ?_⟩
  intro operation member subject addressed
  simp only [operations, List.mem_cons, List.not_mem_nil, or_false] at member
  rcases member with rfl | rfl | rfl
  · exact absurd addressed id
  · exact absurd addressed id
  · rw [List.mem_singleton.mp addressed.1]
    decide +kernel

/-- The guests with the pairing tokens `ABC` and `abc` are both accepted, and a
text for the second one goes to the first one. -/
theorem guests_share_a_subject :
    let upper := Guest.pairing "ABC"
    let lower := Guest.pairing "abc"
    let state := GatewayState.run asciiLowercase none
      [.registerConnection .sorted 0 "c1" upper.userId "" (upper.subjects asciiLowercase) 0,
        .sendToSubjects .sorted 1 1 ["user:" ++ lower.userId] "m" true none]
    upper.Accepted /\ lower.Accepted /\ upper ≠ lower /\
      "user:" ++ lower.userId ∈ upper.subjects asciiLowercase /\
      "user:" ++ lower.userId ∈ lower.subjects asciiLowercase /\
      "m" ∈ state.textsOn 0 := by
  intro upper lower state
  refine ⟨rfl, rfl, by decide, by decide +kernel, by decide +kernel, by decide +kernel⟩

end Preauth
end Gateway

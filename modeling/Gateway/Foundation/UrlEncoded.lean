import Gateway.Foundation.Text

namespace Gateway
namespace Foundation

/-!
# Form encoding of query components

A component of a query is decoded by turning plus signs into spaces and escapes
into bytes, and reading the bytes as UTF-8.  Encoders differ in which characters
they leave alone.  All of them leave letters, digits and some marks alone, and
all of them escape what separates components, so that a text can be recovered
from every encoding of it.
-/

def plusToSpace (char : Char) : Char := if char = '+' then ' ' else char

/-- The value of a hexadecimal digit. -/
def hexDigit (char : Char) : Option Nat :=
  if '0' ≤ char ∧ char ≤ '9' then some (char.toNat - 48)
  else if 'a' ≤ char ∧ char ≤ 'f' then some (char.toNat - 87)
  else if 'A' ≤ char ∧ char ≤ 'F' then some (char.toNat - 55)
  else none

/-- The byte that two hexadecimal digits stand for. -/
def hexByte (high low : Char) : Option UInt8 :=
  (hexDigit high).bind fun upper => (hexDigit low).map fun lower => UInt8.ofNat (16 * upper + lower)

/-- The bytes of a text with escapes.  A percent sign without two digits stands
for itself. -/
def percentDecode : List Char -> List UInt8
  | [] => []
  | '%' :: high :: low :: rest =>
      match hexByte high low with
      | some byte => byte :: percentDecode rest
      | none => String.utf8EncodeChar '%' ++ percentDecode (high :: low :: rest)
  | char :: rest => String.utf8EncodeChar char ++ percentDecode rest

/-- Decode a component of a query. -/
def decodeComponent (raw : String) : String :=
  fromUtf8Lossy (percentDecode (raw.toList.map plusToSpace)).toByteArray

/-- The characters that every encoder leaves alone. -/
def isUnreserved (char : Char) : Bool :=
  char.isAlphanum || char == '-' || char == '.' || char == '_'

/-- The characters that some encoder leaves alone. -/
def isLiteral (char : Char) : Bool :=
  isUnreserved char ||
    ['~', '!', '$', '\x27', '(', ')', '*', ',', ';', ':', '@', '/', '?'].contains char

/-- A list of bytes with an escape for each of them. -/
inductive EscapesBytes : List UInt8 -> List Char -> Prop where
  | nil : EscapesBytes [] []
  | cons {byte : UInt8} {bytes : List UInt8} {high low : Char} {raw : List Char}
      (digits : hexByte high low = some byte) (rest : EscapesBytes bytes raw) :
      EscapesBytes (byte :: bytes) ('%' :: high :: low :: raw)

/-- What a character may be encoded as. -/
inductive EncodesChar : Char -> List Char -> Prop where
  | literal {char : Char} (allowed : isLiteral char = true) : EncodesChar char [char]
  | plus : EncodesChar ' ' ['+']
  | escaped {char : Char} {raw : List Char} (reserved : isUnreserved char = false)
      (escapes : EscapesBytes (String.utf8EncodeChar char) raw) : EncodesChar char raw

/-- What a text may be encoded as. -/
inductive EncodesList : List Char -> List Char -> Prop where
  | nil : EncodesList [] []
  | cons {char : Char} {chars piece raw : List Char} (first : EncodesChar char piece)
      (rest : EncodesList chars raw) : EncodesList (char :: chars) (piece ++ raw)

def Encodes (text raw : String) : Prop := EncodesList text.toList raw.toList

theorem isAlphanum_of_hexDigit {char : Char} {value : Nat} (digit : hexDigit char = some value) :
    char.isAlphanum = true := by
  unfold hexDigit at digit
  simp only [Char.isAlphanum, Char.isAlpha, Char.isUpper, Char.isLower, Char.isDigit,
    Bool.or_eq_true, Bool.and_eq_true, decide_eq_true_eq]
  split at digit
  · next range => exact Or.inr range
  · split at digit
    · next range => exact Or.inl (Or.inr ⟨range.1, range.2.trans (by decide)⟩)
    · split at digit
      · next range => exact Or.inl (Or.inl ⟨range.1, range.2.trans (by decide)⟩)
      · cases digit

theorem isLiteral_of_hexDigit {char : Char} {value : Nat} (digit : hexDigit char = some value) :
    isLiteral char = true := by
  rw [isLiteral, isUnreserved, isAlphanum_of_hexDigit digit]
  rfl

theorem hexByte_digits {high low : Char} {byte : UInt8} (digits : hexByte high low = some byte) :
    isLiteral high = true /\ isLiteral low = true := by
  rcases Option.bind_eq_some_iff.mp digits with ⟨upper, first, rest⟩
  rcases Option.map_eq_some_iff.mp rest with ⟨lower, second, _⟩
  exact ⟨isLiteral_of_hexDigit first, isLiteral_of_hexDigit second⟩

theorem isWhitespace_of_isAlphanum {char : Char} (alphanumeric : char.isAlphanum = true) :
    isWhitespace char = false := by
  have range : ((65 ≤ char.toNat /\ char.toNat ≤ 90) \/ (97 ≤ char.toNat /\ char.toNat ≤ 122)) \/
      (48 ≤ char.toNat /\ char.toNat ≤ 57) := by
    simpa [Char.isAlphanum, Char.isAlpha, Char.isUpper, Char.isLower, Char.isDigit,
      UInt32.le_iff_toNat_le] using alphanumeric
  rw [Bool.eq_false_iff]
  simp only [isWhitespace, ne_eq, Bool.or_eq_true, Bool.and_eq_true, decide_eq_true_eq, beq_iff_eq]
  omega

theorem isWhitespace_of_isLiteral {char : Char} (allowed : isLiteral char = true) :
    isWhitespace char = false := by
  simp only [isLiteral, isUnreserved, Bool.or_eq_true, beq_iff_eq, List.contains_iff_mem,
    List.mem_cons, List.not_mem_nil, or_false] at allowed
  rcases allowed with (((alphanumeric | rfl) | rfl) | rfl) | mark
  · exact isWhitespace_of_isAlphanum alphanumeric
  · rfl
  · rfl
  · rfl
  · rcases mark with rfl | rfl | rfl | rfl | rfl | rfl | rfl | rfl | rfl | rfl | rfl | rfl | rfl
    all_goals rfl

/-- The characters that occur in encodings. -/
def isEncoding (char : Char) : Bool := isLiteral char || char == '+' || char == '%'

theorem EscapesBytes.isEncoding {bytes : List UInt8} {raw : List Char}
    (escapes : EscapesBytes bytes raw) : forall char, char ∈ raw -> isEncoding char = true := by
  induction escapes with
  | nil => exact fun char member => absurd member List.not_mem_nil
  | cons digits rest ih =>
      intro char member
      have literals := hexByte_digits digits
      rcases List.mem_cons.mp member with rfl | member
      · rfl
      rcases List.mem_cons.mp member with rfl | member
      · rw [Foundation.isEncoding, literals.1]
        rfl
      rcases List.mem_cons.mp member with rfl | member
      · rw [Foundation.isEncoding, literals.2]
        rfl
      exact ih char member

theorem EncodesChar.isEncoding {char : Char} {piece : List Char}
    (encodes : EncodesChar char piece) :
    forall other, other ∈ piece -> isEncoding other = true := by
  cases encodes with
  | literal allowed =>
      intro other member
      rw [List.mem_singleton.mp member, Foundation.isEncoding, allowed]
      rfl
  | plus =>
      intro other member
      rw [List.mem_singleton.mp member]
      rfl
  | escaped reserved escapes => exact escapes.isEncoding

theorem EncodesList.isEncoding {chars raw : List Char} (encodes : EncodesList chars raw) :
    forall char, char ∈ raw -> isEncoding char = true := by
  induction encodes with
  | nil => exact fun char member => absurd member List.not_mem_nil
  | cons first rest ih =>
      intro char member
      rcases List.mem_append.mp member with inside | later
      · exact first.isEncoding char inside
      · exact ih char later

theorem percentDecode_cons {char : Char} (plain : char ≠ '%') (rest : List Char) :
    percentDecode (char :: rest) = String.utf8EncodeChar char ++ percentDecode rest := by
  rw [percentDecode]
  intro high low others same
  exact absurd same plain

theorem percentDecode_escapes {bytes : List UInt8} {raw : List Char}
    (escapes : EscapesBytes bytes raw) (rest : List Char) :
    percentDecode (raw.map plusToSpace ++ rest) = bytes ++ percentDecode rest := by
  induction escapes with
  | nil => rfl
  | @cons byte bytes high low raw digits _ ih =>
      have keeps : forall {char : Char}, isLiteral char = true -> plusToSpace char = char := by
        intro char allowed
        rw [plusToSpace, if_neg]
        rintro rfl
        exact absurd allowed (by decide)
      have literals := hexByte_digits digits
      have percent : plusToSpace '%' = '%' := by decide
      rw [List.map_cons, List.map_cons, List.map_cons, keeps literals.1, keeps literals.2, percent,
        List.cons_append, List.cons_append, List.cons_append, percentDecode, digits]
      dsimp only
      rw [ih, List.cons_append]

theorem percentDecode_char {char : Char} {piece : List Char} (encodes : EncodesChar char piece)
    (rest : List Char) :
    percentDecode (piece.map plusToSpace ++ rest) =
      String.utf8EncodeChar char ++ percentDecode rest := by
  cases encodes with
  | literal allowed =>
      have apart : char ≠ '+' /\ char ≠ '%' := by
        constructor <;>
        · rintro rfl
          exact absurd allowed (by decide)
      rw [List.map_singleton, plusToSpace, if_neg apart.1, List.singleton_append,
        percentDecode_cons apart.2]
  | plus => exact percentDecode_cons (by decide) rest
  | escaped reserved escapes => exact percentDecode_escapes escapes rest

theorem percentDecode_encoded {chars raw : List Char} (encodes : EncodesList chars raw) :
    percentDecode (raw.map plusToSpace) = chars.flatMap String.utf8EncodeChar := by
  induction encodes with
  | nil => rfl
  | cons first rest ih =>
      rw [List.map_append, percentDecode_char first, ih, List.flatMap_cons]

/-- A component is decoded to the text that it encodes. -/
theorem decodeComponent_encoded {text raw : String} (encodes : Encodes text raw) :
    decodeComponent raw = text := by
  have bytes : (text.toList.flatMap String.utf8EncodeChar).toByteArray = text.toUTF8 :=
    String.utf8Encode_toList
  rw [decodeComponent, percentDecode_encoded encodes, bytes, fromUtf8Lossy_toUTF8]

/-! ## Encodings that are the text itself -/

/-- The text contains nothing that decoding changes. -/
def NeedsNoDecoding (raw : String) : Prop := '%' ∉ raw.toList /\ '+' ∉ raw.toList

instance (raw : String) : Decidable (NeedsNoDecoding raw) :=
  inferInstanceAs (Decidable (_ /\ _))

theorem EscapesBytes.length_eq {bytes : List UInt8} {raw : List Char}
    (escapes : EscapesBytes bytes raw) : raw.length = 3 * bytes.length := by
  induction escapes with
  | nil => rfl
  | cons digits rest ih =>
      simp only [List.length_cons, ih]
      omega

/-- An escaped character is longer than the character. -/
theorem length_of_escapes {char : Char} {raw : List Char}
    (escapes : EscapesBytes (String.utf8EncodeChar char) raw) : 1 < raw.length := by
  have bytes : 0 < (String.utf8EncodeChar char).length :=
    List.length_pos_of_ne_nil String.utf8EncodeChar_ne_nil
  rw [escapes.length_eq]
  exact Nat.lt_of_lt_of_le (by decide) (Nat.mul_le_mul_left 3 (Nat.succ_le_of_lt bytes))

theorem percent_mem_of_escapes {char : Char} {raw : List Char}
    (escapes : EscapesBytes (String.utf8EncodeChar char) raw) : '%' ∈ raw := by
  generalize same : String.utf8EncodeChar char = bytes at escapes
  cases escapes with
  | nil => exact absurd same String.utf8EncodeChar_ne_nil
  | cons digits rest => exact List.mem_cons_self

/-- Nothing gets shorter by encoding, and with an escape it gets longer. -/
theorem EncodesList.length_le {chars raw : List Char} (encodes : EncodesList chars raw) :
    chars.length ≤ raw.length /\ ('%' ∈ raw -> chars.length < raw.length) := by
  induction encodes with
  | nil => exact ⟨le_rfl, fun impossible => absurd impossible List.not_mem_nil⟩
  | @cons char chars piece raw first rest ih =>
      have longer : 1 ≤ piece.length /\ ('%' ∈ piece -> 1 < piece.length) := by
        cases first with
        | literal allowed =>
            refine ⟨le_rfl, fun member => ?_⟩
            rw [← List.mem_singleton.mp member] at allowed
            exact absurd allowed (by decide)
        | plus => exact ⟨le_rfl, fun member => absurd member (by decide)⟩
        | escaped reserved escapes =>
            have long := length_of_escapes escapes
            exact ⟨long.le, fun _ => long⟩
      rw [List.length_cons, List.length_append]
      refine ⟨by omega, fun member => ?_⟩
      rcases List.mem_append.mp member with inside | later
      · have strict := longer.2 inside
        omega
      · have strict := ih.2 later
        omega

/-- A character that no encoder leaves alone is escaped, unless it is a space. -/
theorem EncodesList.percent_mem {chars raw : List Char} (encodes : EncodesList chars raw)
    {char : Char} (member : char ∈ chars) (special : isLiteral char = false) (visible : char ≠ ' ') :
    '%' ∈ raw := by
  induction encodes with
  | nil => cases member
  | cons first rest ih =>
      rcases List.mem_cons.mp member with rfl | later
      · cases first with
        | literal allowed =>
            rw [special] at allowed
            cases allowed
        | plus => exact absurd rfl visible
        | escaped reserved escapes =>
            exact List.mem_append_left _ (percent_mem_of_escapes escapes)
      · exact List.mem_append_right _ (ih later)

theorem EncodesList.eq_of_plain {chars raw : List Char} (encodes : EncodesList chars raw)
    (percent : '%' ∉ raw) (plus : '+' ∉ raw) : raw = chars := by
  induction encodes with
  | nil => rfl
  | cons first rest ih =>
      rw [List.mem_append, not_or] at percent plus
      rw [ih percent.2 plus.2]
      cases first with
      | literal allowed => rfl
      | plus => exact absurd List.mem_cons_self plus.1
      | escaped reserved escapes => exact absurd (percent_mem_of_escapes escapes) percent.1

/-- Unreserved characters stand for themselves. -/
theorem encoded_eq_of_unreserved {text raw : String} (encodes : Encodes text raw)
    (unreserved : forall char, char ∈ text.toList -> isUnreserved char = true) : raw = text := by
  unfold Encodes at encodes
  apply String.toList_inj.mp
  generalize text.toList = chars at encodes unreserved
  generalize raw.toList = rawChars at encodes
  induction encodes with
  | nil => rfl
  | cons first rest ih =>
      rw [ih fun char member => unreserved char (List.mem_cons_of_mem _ member)]
      have alone := unreserved _ List.mem_cons_self
      cases first with
      | literal allowed => rfl
      | plus => exact absurd alone (by decide)
      | escaped reserved escapes =>
          rw [alone] at reserved
          cases reserved

theorem encodes_self {text : String}
    (unreserved : forall char, char ∈ text.toList -> isUnreserved char = true) :
    Encodes text text := by
  unfold Encodes
  generalize text.toList = chars at unreserved ⊢
  induction chars with
  | nil => exact .nil
  | cons char chars ih =>
      have allowed : isLiteral char = true := by
        rw [isLiteral, unreserved char List.mem_cons_self]
        rfl
      exact .cons (.literal allowed)
        (ih fun other member => unreserved other (List.mem_cons_of_mem _ member))

theorem EncodesList.append {chars others raw rawOthers : List Char}
    (first : EncodesList chars raw) (second : EncodesList others rawOthers) :
    EncodesList (chars ++ others) (raw ++ rawOthers) := by
  induction first with
  | nil => exact second
  | cons encodes rest ih =>
      rw [List.cons_append, List.append_assoc]
      exact .cons encodes ih

/-- An encoding is the text itself exactly if there is nothing to decode. -/
theorem encoded_eq_iff {text raw : String} (encodes : Encodes text raw) :
    raw = text <-> NeedsNoDecoding raw := by
  constructor
  · intro same
    have unescaped : '%' ∉ raw.toList := by
      intro member
      have longer := (EncodesList.length_le encodes).2 member
      rw [same] at longer
      exact absurd longer (lt_irrefl _)
    refine ⟨unescaped, fun member => unescaped ?_⟩
    rw [same] at member
    exact EncodesList.percent_mem encodes member (by decide) (by decide)
  · intro plain
    exact String.toList_inj.mp (EncodesList.eq_of_plain encodes plain.1 plain.2)

end Foundation
end Gateway

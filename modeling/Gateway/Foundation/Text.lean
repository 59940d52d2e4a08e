import Mathlib

namespace Gateway
namespace Foundation

/-!
# Trimming, delimited keys and bytes

Trimming removes leading and trailing characters with the Unicode
`White_Space` property.  Lower-casing follows the Unicode tables, which are not
reproduced here: it is an argument wherever it is used, and a result that needs
one of its laws names that law in `LowercaseLaws`.
-/

/-- The characters with the Unicode property `White_Space`. -/
def isWhitespace (char : Char) : Bool :=
  (9 ≤ char.toNat && char.toNat ≤ 13) || char.toNat == 0x20 || char.toNat == 0x85 ||
    char.toNat == 0xA0 || char.toNat == 0x1680 ||
    (0x2000 ≤ char.toNat && char.toNat ≤ 0x200A) || char.toNat == 0x2028 ||
    char.toNat == 0x2029 || char.toNat == 0x202F || char.toNat == 0x205F ||
    char.toNat == 0x3000

/-- Remove whitespace from both ends. -/
def trim (text : String) : String :=
  String.ofList ((text.toList.dropWhile isWhitespace).rdropWhile isWhitespace)

/-- Lower-casing of the ASCII letters.  On texts without other cased letters
this is what the full Unicode mapping does. -/
def asciiLowercase (text : String) : String :=
  String.ofList (text.toList.map Char.toLower)

theorem trim_eq_empty_iff (text : String) :
    trim text = "" <-> forall char, char ∈ text.toList -> isWhitespace char = true := by
  rw [trim, String.ofList_eq_empty_iff, List.rdropWhile_eq_nil_iff]
  constructor
  · intro blank char member
    by_contra visible
    have kept : text.toList.dropWhile isWhitespace ≠ [] := by
      intro none
      exact visible (List.dropWhile_eq_nil_iff.mp none char member)
    have first := blank _ (List.head_mem kept)
    rw [List.head_dropWhile_not isWhitespace kept] at first
    contradiction
  · intro blank char member
    exact blank char ((List.dropWhile_suffix _).subset member)

theorem trim_ne_empty_of_mem {text : String} {char : Char} (member : char ∈ text.toList)
    (visible : isWhitespace char = false) : trim text ≠ "" := by
  intro blank
  have whitespace := (trim_eq_empty_iff text).mp blank char member
  rw [visible] at whitespace
  contradiction

/-- A trimmed text neither starts nor ends with whitespace. -/
private theorem dropWhile_rdropWhile {X : Type} (p : X -> Bool) (list : List X)
    (starts : list.dropWhile p = list) :
    (list.rdropWhile p).dropWhile p = list.rdropWhile p := by
  rcases List.rdropWhile_prefix p (l := list) with ⟨rest, whole⟩
  cases kept : list.rdropWhile p with
  | nil => rfl
  | cons head tail =>
      rw [kept] at whole
      rw [← whole, List.cons_append] at starts
      cases drops : p head with
      | false => rw [List.dropWhile_cons_of_neg (by rw [drops]; exact Bool.false_ne_true)]
      | true =>
          rw [List.dropWhile_cons_of_pos drops] at starts
          have shorter := congrArg List.length starts
          have bound := (List.dropWhile_suffix (l := tail ++ rest) p).length_le
          rw [shorter, List.length_cons] at bound
          omega

theorem trim_trim (text : String) : trim (trim text) = trim text := by
  have fixed := dropWhile_rdropWhile isWhitespace (text.toList.dropWhile isWhitespace)
    (List.dropWhile_idempotent _ _)
  rw [trim, trim, String.toList_ofList, fixed, List.rdropWhile_idempotent]

/-- A text without whitespace is trimmed. -/
theorem trim_of_visible {text : String}
    (visible : forall char, char ∈ text.toList -> isWhitespace char = false) :
    trim text = text := by
  have first : text.toList.dropWhile isWhitespace = text.toList := by
    rw [List.dropWhile_eq_self_iff]
    intro nonempty
    rw [visible _ (List.getElem_mem nonempty)]
    exact Bool.false_ne_true
  have last : text.toList.rdropWhile isWhitespace = text.toList := by
    rw [List.rdropWhile_eq_self_iff]
    intro nonempty
    rw [visible _ (List.getLast_mem nonempty)]
    exact Bool.false_ne_true
  rw [trim, first, last, String.ofList_toList]

/-- The laws of Unicode lower-casing that some results rely on. -/
structure LowercaseLaws (toLowercase : String -> String) : Prop where
  idempotent : forall text, toLowercase (toLowercase text) = toLowercase text
  keeps_trimmed : forall text,
    trim text = text -> trim (toLowercase text) = toLowercase text

theorem isWhitespace_toLower (char : Char) :
    isWhitespace char.toLower = isWhitespace char := by
  by_cases upper : char.isUpper = true
  · have range : 65 ≤ char.toNat /\ char.toNat ≤ 90 := by
      simpa [Char.isUpper, UInt32.le_iff_toNat_le] using upper
    have lowered : char.toLower.toNat = char.toNat + 32 := by
      rw [Char.toLower_eq_of_isUpper upper, Char.toNat_ofNat, if_pos]
      exact Or.inl (by omega)
    rw [Bool.eq_iff_iff]
    simp only [isWhitespace, lowered, Bool.or_eq_true, Bool.and_eq_true, decide_eq_true_eq,
      beq_iff_eq]
    omega
  · rw [Char.toLower_eq_of_not_isUpper upper]

/-- The ASCII mapping has these laws. -/
theorem asciiLowercase_laws : LowercaseLaws asciiLowercase where
  idempotent := by
    intro text
    have twice : Char.toLower ∘ Char.toLower = Char.toLower :=
      funext Char.toLower_toLower_eq_toLower
    rw [asciiLowercase, asciiLowercase, String.toList_ofList, List.map_map, twice]
  keeps_trimmed := by
    intro text trimmed
    have same : isWhitespace ∘ Char.toLower = isWhitespace := funext isWhitespace_toLower
    have commutes : trim (asciiLowercase text) = asciiLowercase (trim text) := by
      simp only [trim, asciiLowercase, String.toList_ofList, List.rdropWhile, List.dropWhile_map,
        same, ← List.map_reverse]
    rw [commutes, trimmed]

private theorem tail_eq_of_append_eq {X : Type} (mark : X) :
    forall (left right leftTail rightTail : List X),
      mark ∉ leftTail -> mark ∉ rightTail ->
      left ++ mark :: leftTail = right ++ mark :: rightTail -> leftTail = rightTail
  | [], [], _, _, _, _, same => (List.cons.inj same).2
  | [], _ :: _, _, _, absent, _, same =>
      absurd ((List.cons.inj same).2 ▸ List.mem_append_right _ List.mem_cons_self) absent
  | _ :: _, [], _, _, _, absent, same =>
      absurd ((List.cons.inj same).2 ▸ List.mem_append_right _ List.mem_cons_self) absent
  | _ :: left, _ :: right, _, _, leftAbsent, rightAbsent, same =>
      tail_eq_of_append_eq mark left right _ _ leftAbsent rightAbsent (List.cons.inj same).2

/-- The decimal text of a natural number consists of digits. -/
theorem not_mem_repr {mark : Char} (sign : mark.isDigit = false) (value : Nat) :
    mark ∉ value.repr.toList := by
  intro member
  rw [Nat.toList_repr] at member
  have digit := Nat.isDigit_of_mem_toDigits (by decide) (by decide) member
  rw [sign] at digit
  contradiction

theorem isWhitespace_of_isDigit {char : Char} (digit : char.isDigit = true) :
    isWhitespace char = false := by
  have range : 48 ≤ char.toNat /\ char.toNat ≤ 57 := by
    simpa [Char.isDigit, UInt32.le_iff_toNat_le] using digit
  rw [Bool.eq_false_iff]
  simp only [isWhitespace, ne_eq, Bool.or_eq_true, Bool.and_eq_true, decide_eq_true_eq, beq_iff_eq]
  omega

theorem trim_repr (value : Nat) : trim value.repr = value.repr := by
  apply trim_of_visible
  intro char member
  rw [Nat.toList_repr] at member
  exact isWhitespace_of_isDigit (Nat.isDigit_of_mem_toDigits (by decide) (by decide) member)

theorem mem_int_repr {char : Char} {value : Int} (member : char ∈ value.repr.toList) :
    char.isDigit = true \/ char = '-' := by
  have digits : forall n : Nat, char ∈ n.repr.toList -> char.isDigit = true := by
    intro n listed
    rw [Nat.toList_repr] at listed
    exact Nat.isDigit_of_mem_toDigits (by decide) (by decide) listed
  cases value with
  | ofNat n => exact Or.inl (digits n member)
  | negSucc n =>
      change char ∈ ("-" ++ (n + 1).repr).toList at member
      rw [String.toList_append, List.mem_append] at member
      rcases member with sign | digit
      · exact Or.inr (List.mem_singleton.mp sign)
      · exact Or.inl (digits _ digit)

/-- The decimal text of an integer does not contain a delimiter. -/
theorem not_mem_int_repr {mark : Char} (sign : mark.isDigit = false) (minus : mark ≠ '-')
    (value : Int) : mark ∉ value.repr.toList := by
  intro member
  rcases mem_int_repr member with digit | same
  · rw [sign] at digit
    contradiction
  · exact minus same

/-- A text is split by the last occurrence of a delimiter in only one way. -/
theorem delimited_inj (mark : Char) {left right leftTail rightTail : String}
    (leftAbsent : mark ∉ leftTail.toList) (rightAbsent : mark ∉ rightTail.toList)
    (same : left ++ String.singleton mark ++ leftTail =
      right ++ String.singleton mark ++ rightTail) :
    left = right /\ leftTail = rightTail := by
  have lists := congrArg String.toList same
  simp only [String.toList_append, List.append_assoc, String.toList_singleton] at lists
  have tails := tail_eq_of_append_eq mark _ _ _ _ leftAbsent rightAbsent lists
  rw [tails] at lists
  exact ⟨String.toList_inj.mp (List.append_cancel_right lists), String.toList_inj.mp tails⟩

/-- Two delimited keys agree only if the integers at their ends agree. -/
theorem repr_eq_of_delimited_eq {left right : String} {leftValue rightValue : Int}
    (same : left ++ "|" ++ leftValue.repr = right ++ "|" ++ rightValue.repr) :
    leftValue = rightValue :=
  Int.repr_inj.mp (delimited_inj '|' (not_mem_int_repr (by decide) (by decide) _)
    (not_mem_int_repr (by decide) (by decide) _) same).2

/-- Two numbers with a dash between them can be read back. -/
theorem dashed_inj {left right leftValue rightValue : Nat}
    (same : left.repr ++ "-" ++ leftValue.repr = right.repr ++ "-" ++ rightValue.repr) :
    left = right /\ leftValue = rightValue := by
  have parts := delimited_inj '-' (not_mem_repr (by decide) leftValue)
    (not_mem_repr (by decide) rightValue) same
  exact ⟨Nat.repr_inj.mp parts.1, Nat.repr_inj.mp parts.2⟩

/-- The bytes of a multi-byte character after its first one. -/
def isContinuation (byte : UInt8) : Bool := 0x80 ≤ byte && byte ≤ 0xBF

/-- How many continuation bytes follow a first byte, and the bits of the
character that the first byte carries. -/
def utf8Lead (lead : UInt8) : Option (Nat × Nat) :=
  if lead ≤ 0x7F then some (0, lead.toNat)
  else if 0xC2 ≤ lead && lead ≤ 0xDF then some (1, lead.toNat - 0xC0)
  else if 0xE0 ≤ lead && lead ≤ 0xEF then some (2, lead.toNat - 0xE0)
  else if 0xF0 ≤ lead && lead ≤ 0xF4 then some (3, lead.toNat - 0xF0)
  else none

/-- The second byte excludes overlong forms, surrogates and values above the
largest character. -/
def isSecondByte (lead second : UInt8) : Bool :=
  isContinuation second && (lead != 0xE0 || 0xA0 ≤ second) && (lead != 0xED || second ≤ 0x9F) &&
    (lead != 0xF0 || 0x90 ≤ second) && (lead != 0xF4 || second ≤ 0x8F)

/-- The continuation bytes that may follow a first byte, at most `needed`. -/
def continuationBytes (lead : UInt8) (needed : Nat) : List UInt8 -> List UInt8
  | [] => []
  | second :: rest =>
      if needed ≠ 0 ∧ isSecondByte lead second = true then
        second :: (rest.take (needed - 1)).takeWhile isContinuation
      else []

/-- Decode bytes, replacing every maximal piece of an ill-formed sequence by
the replacement character.  The first argument bounds the number of pieces. -/
def repairUtf8 : Nat -> List UInt8 -> List Char
  | 0, _ => []
  | _ + 1, [] => []
  | pieces + 1, lead :: rest =>
      match utf8Lead lead with
      | none => '\uFFFD' :: repairUtf8 pieces rest
      | some (needed, bits) =>
          let accepted := continuationBytes lead needed rest
          let char :=
            if accepted.length = needed then
              Char.ofNat (accepted.foldl (fun value byte => value * 64 + (byte.toNat - 0x80)) bits)
            else '\uFFFD'
          char :: repairUtf8 pieces (rest.drop accepted.length)

/-- Decode bytes as UTF-8 without ever failing. -/
def fromUtf8Lossy (bytes : ByteArray) : String :=
  if valid : bytes.IsValidUTF8 then String.fromUTF8 bytes valid
  else String.ofList (repairUtf8 bytes.size bytes.toList)

theorem fromUtf8Lossy_toUTF8 (text : String) : fromUtf8Lossy text.toUTF8 = text :=
  dif_pos text.isValidUTF8

example : fromUtf8Lossy ⟨#[0x61, 0xE2, 0x82, 0xFF, 0x62]⟩ = "a\uFFFD\uFFFDb" := by
  decide +kernel

end Foundation
end Gateway

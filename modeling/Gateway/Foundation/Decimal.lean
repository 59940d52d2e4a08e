import Gateway.Foundation.Text

namespace Gateway
namespace Foundation

/-!
# Decimal texts of bounded integers

Reading an integer of a fixed width from a text, as a standard library does it:
an optional sign, at least one digit and nothing else, and no value outside the
range.  The decimal text of a number in the range is read back as this number.
-/

/-- The value of one or more decimal digits. -/
def parseDigits (chars : List Char) : Option Nat :=
  if chars ≠ [] ∧ chars.all Char.isDigit = true then some (Nat.ofDigitChars 10 chars 0) else none

/-- Digits after an optional plus sign. -/
def parsePlus : List Char -> Option Nat
  | '+' :: digits => parseDigits digits
  | digits => parseDigits digits

/-- Digits after an optional sign. -/
def parseSign : List Char -> Option Int
  | '-' :: digits => (parseDigits digits).map fun magnitude : Nat => -(magnitude : Int)
  | chars => (parsePlus chars).map Int.ofNat

/-- An unsigned integer up to a bound, with an optional plus sign. -/
def parseUnsigned (bound : Nat) (text : String) : Option Nat :=
  (parsePlus text.toList).filter fun value => decide (value ≤ bound)

/-- A signed integer within bounds, with an optional sign. -/
def parseSigned (low high : Int) (text : String) : Option Int :=
  (parseSign text.toList).filter fun value => decide (low ≤ value ∧ value ≤ high)

theorem parseUnsigned_le {bound value : Nat} {text : String}
    (read : parseUnsigned bound text = some value) : value ≤ bound :=
  of_decide_eq_true (Option.filter_eq_some_iff.mp read).2

theorem parseSigned_mem {low high value : Int} {text : String}
    (read : parseSigned low high text = some value) : low ≤ value /\ value ≤ high :=
  of_decide_eq_true (Option.filter_eq_some_iff.mp read).2

theorem parseDigits_repr (value : Nat) : parseDigits value.repr.toList = some value := by
  have digits : forall char, char ∈ Nat.toDigits 10 value -> char.isDigit = true :=
    fun _ member => Nat.isDigit_of_mem_toDigits (by decide) (by decide) member
  rw [Nat.toList_repr, parseDigits, if_pos ⟨Nat.toDigits_ne_nil, List.all_eq_true.mpr digits⟩,
    Nat.ofDigitChars_ten_toDigits]

/-- A text of digits has no sign. -/
theorem head_repr_isDigit {value : Nat} {char : Char} {rest : List Char}
    (starts : value.repr.toList = char :: rest) : char.isDigit = true := by
  rw [Nat.toList_repr] at starts
  have member : char ∈ Nat.toDigits 10 value := by
    rw [starts]
    exact List.mem_cons_self
  exact Nat.isDigit_of_mem_toDigits (by decide) (by decide) member

theorem parsePlus_repr (value : Nat) : parsePlus value.repr.toList = some value := by
  unfold parsePlus
  split
  · next digits starts => exact absurd (head_repr_isDigit starts) (by decide)
  · exact parseDigits_repr value

theorem parseSign_repr (value : Int) : parseSign value.repr.toList = some value := by
  cases value with
  | ofNat magnitude =>
      have same : (Int.ofNat magnitude).repr = magnitude.repr := rfl
      rw [same]
      unfold parseSign
      split
      · next digits starts => exact absurd (head_repr_isDigit starts) (by decide)
      · rw [parsePlus_repr]
        rfl
  | negSucc magnitude =>
      have same : (Int.negSucc magnitude).repr.toList = '-' :: (magnitude + 1).repr.toList := by
        change ("-" ++ (magnitude + 1).repr).toList = _
        rw [String.toList_append]
        rfl
      rw [same]
      exact congrArg (Option.map fun magnitude : Nat => -(magnitude : Int))
        (parseDigits_repr (magnitude + 1))

theorem parseUnsigned_repr {bound value : Nat} (inRange : value ≤ bound) :
    parseUnsigned bound value.repr = some value := by
  rw [parseUnsigned, parsePlus_repr]
  exact Option.filter_eq_some_iff.mpr ⟨rfl, decide_eq_true inRange⟩

theorem parseSigned_repr {low high value : Int} (inRange : low ≤ value /\ value ≤ high) :
    parseSigned low high value.repr = some value := by
  rw [parseSigned, parseSign_repr]
  exact Option.filter_eq_some_iff.mpr ⟨rfl, decide_eq_true inRange⟩

end Foundation
end Gateway

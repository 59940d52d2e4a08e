import Gateway.Foundation.JsonValues

namespace Gateway
namespace Foundation

/-!
# Compact JSON texts

The shortest text of a value: no blanks, the fields of an object in the order in
which they are stored, and only those characters escaped that must be.  A double
has no text here, since its shortest decimal is not modelled.
-/

namespace Json

def hexDigit (digit : Nat) : Char :=
  if digit < 10 then Char.ofNat (48 + digit) else Char.ofNat (87 + digit)

/-- The letter of a short escape. -/
def shortEscape : Nat -> Option Char
  | 8 => some 'b'
  | 9 => some 't'
  | 10 => some 'n'
  | 12 => some 'f'
  | 13 => some 'r'
  | 34 => some (Char.ofNat 34)
  | 92 => some (Char.ofNat 92)
  | _ => none

def escapeChar (char : Char) : List Char :=
  match shortEscape char.toNat with
  | some letter => [Char.ofNat 92, letter]
  | none =>
      if char.toNat < 32 then
        [Char.ofNat 92, 'u', '0', '0', hexDigit (char.toNat / 16), hexDigit (char.toNat % 16)]
      else [char]

def quoted (text : String) : List Char :=
  Char.ofNat 34 :: (text.toList.flatMap escapeChar ++ [Char.ofNat 34])

def compactNumber : JsonNumber -> Option (List Char)
  | .posInt value => some value.repr.toList
  | .negInt value => some value.repr.toList
  | .float _ => none

mutual

def compactChars : Json -> Option (List Char)
  | .null => some "null".toList
  | .bool true => some "true".toList
  | .bool false => some "false".toList
  | .number value => compactNumber value
  | .string text => some (quoted text)
  | .array items => (compactItems items).map fun inside => '[' :: (inside ++ [']'])
  | .object fields =>
      (compactFields fields).map fun inside => '\x7b' :: (inside ++ ['\x7d'])

def compactItems : List Json -> Option (List Char)
  | [] => some []
  | [item] => compactChars item
  | item :: items => do
      let first ← compactChars item
      let rest ← compactItems items
      return first ++ ',' :: rest

def compactFields : List (String × Json) -> Option (List Char)
  | [] => some []
  | [(key, value)] => do
      let first ← compactChars value
      return quoted key ++ ':' :: first
  | (key, value) :: fields => do
      let first ← compactChars value
      let rest ← compactFields fields
      return quoted key ++ ':' :: (first ++ ',' :: rest)

end

def compact (value : Json) : Option String := value.compactChars.map String.ofList

theorem compactNumber_ne_nil (value : JsonNumber) : compactNumber value ≠ some [] := by
  intro empty
  cases value with
  | posInt value =>
      exact Nat.repr_ne_empty (String.toList_eq_nil_iff.mp (Option.some.inj empty))
  | negInt value =>
      have blank : value.repr = "" := String.toList_eq_nil_iff.mp (Option.some.inj empty)
      cases value with
      | ofNat value => exact Nat.repr_ne_empty blank
      | negSucc value => exact absurd blank (by simp [Int.repr])
  | float bits => cases empty

/-- No value has an empty text. -/
theorem compact_ne_empty {value : Json} {text : String} (rendered : value.compact = some text) :
    text ≠ "" := by
  rintro rfl
  rcases Option.map_eq_some_iff.mp rendered with ⟨chars, same, empty⟩
  rw [String.ofList_eq_empty_iff.mp empty] at same
  cases value with
  | null => cases same
  | bool value => cases value <;> cases same
  | number value => exact compactNumber_ne_nil value same
  | string text => cases same
  | array items =>
      rw [compactChars] at same
      rcases Option.map_eq_some_iff.mp same with ⟨inside, _, empty⟩
      cases empty
  | object fields =>
      rw [compactChars] at same
      rcases Option.map_eq_some_iff.mp same with ⟨inside, _, empty⟩
      cases empty

end Json

/-- Reads the given texts, each as the value beside it, and writes compact texts. -/
def JsonText.ofTexts (texts : List (String × Json)) : JsonText where
  parse text := texts.lookup text
  render := Json.compact

theorem JsonText.ofTexts_parse_head (text : String) (value : Json)
    (texts : List (String × Json)) :
    (JsonText.ofTexts ((text, value) :: texts)).parse text = some value :=
  List.lookup_cons_self

theorem JsonText.mem_of_ofTexts_parse {texts : List (String × Json)} {text : String} {value : Json}
    (parsed : (JsonText.ofTexts texts).parse text = some value) : (text, value) ∈ texts :=
  Json.mem_of_lookup parsed

example : (Json.ofFields [("type", .string "event"),
      ("payload", .array [.ofInt (-5), .null])]).compact =
    some "\x7b\"payload\":[-5,null],\"type\":\"event\"\x7d" := by decide +kernel

end Foundation
end Gateway

import Gateway.Foundation.Text

namespace Gateway
namespace Foundation

/-!
# JSON values

A value with the accessors of a typical JSON library: every accessor is total
and answers `none` on a value of another shape.  Objects are maps ordered by
their keys, represented by the list of their fields.  Parsing and rendering of
texts are not part of this module.
-/

/-- A number is stored as an unsigned or a signed 64-bit integer, or else as
the bits of a double. -/
inductive JsonNumber where
  | posInt (value : Nat)
  | negInt (value : Int)
  | float (bits : UInt64)
  deriving DecidableEq, Repr

inductive Json where
  | null
  | bool (value : Bool)
  | number (value : JsonNumber)
  | string (value : String)
  | array (items : List Json)
  | object (fields : List (String × Json))
  deriving Repr

namespace Json

/-- Look up a field.  Only objects have fields. -/
def get (data : Json) (key : String) : Option Json :=
  match data with
  | .object fields => fields.lookup key
  | _ => none

def asStr : Json -> Option String
  | .string value => some value
  | _ => none

def asArray : Json -> Option (List Json)
  | .array items => some items
  | _ => none

def asBool : Json -> Option Bool
  | .bool value => some value
  | _ => none

def isObject : Json -> Bool
  | .object _ => true
  | _ => false

def asU64 : Json -> Option Nat
  | .number (.posInt value) => some value
  | _ => none

/-- Integers up to the largest signed 64-bit integer. -/
def asI64 : Json -> Option Int
  | .number (.posInt value) => if value < 2 ^ 63 then some value else none
  | .number (.negInt value) => some value
  | _ => none

/-- A string-valued field of an object. -/
def strField (data : Json) (key : String) : Option String :=
  (data.get key).bind asStr

/-- An array-valued field of an object. -/
def arrayField (data : Json) (key : String) : Option (List Json) :=
  (data.get key).bind asArray

/-- A string field with its surrounding whitespace removed, unless it is
blank. -/
def trimmedField (data : Json) (key : String) : Option String :=
  ((data.strField key).map trim).filter fun value => decide (value ≠ "")

/-- The strings of an array-valued field. -/
def stringsField (data : Json) (key : String) : List String :=
  ((data.arrayField key).getD []).filterMap asStr

/-- A 64-bit integer as a number. -/
def ofInt (value : Int) : Json :=
  .number (if 0 ≤ value then .posInt value.toNat else .negInt value)

/-- Insert or overwrite a field, keeping the fields ordered by key. -/
def insertField (key : String) (value : Json) : List (String × Json) -> List (String × Json)
  | [] => [(key, value)]
  | (other, old) :: fields =>
      if key < other then (key, value) :: (other, old) :: fields
      else if key = other then (key, value) :: fields
      else (other, old) :: insertField key value fields

/-- Assign a field.  `null` becomes an object, and on every other value that
is not an object the assignment has no meaning. -/
def set (data : Json) (key : String) (value : Json) : Json :=
  match data with
  | .object fields => .object (insertField key value fields)
  | .null => .object [(key, value)]
  | other => other

/-- The object with the given fields, built one after the other. -/
def ofFields (fields : List (String × Json)) : Json :=
  .object (fields.foldl (fun built field => insertField field.1 field.2 built) [])

theorem lookup_insertField_self (key : String) (value : Json) (fields : List (String × Json)) :
    (insertField key value fields).lookup key = some value := by
  induction fields with
  | nil => simp [insertField]
  | cons field fields ih =>
      rcases field with ⟨other, old⟩
      rw [insertField]
      split
      · simp
      · split
        · simp
        · rename_i different
          have notEqual : (key == other) = false := by simpa using different
          rw [List.lookup_cons, notEqual]
          exact ih

theorem lookup_insertField_of_ne {key asked : String} (different : asked ≠ key) (value : Json)
    (fields : List (String × Json)) :
    (insertField key value fields).lookup asked = fields.lookup asked := by
  have skipped : (asked == key) = false := by simpa using different
  induction fields with
  | nil => simp [insertField, List.lookup_cons, skipped]
  | cons field fields ih =>
      rcases field with ⟨other, old⟩
      rw [insertField]
      split
      · rw [List.lookup_cons, skipped]
      · split
        · rename_i same
          subst same
          rw [List.lookup_cons, List.lookup_cons, skipped]
        · rw [List.lookup_cons, List.lookup_cons, ih]

/-- Whoever has a field is an object. -/
theorem exists_object_of_get {key : String} {data value : Json}
    (found : data.get key = some value) : Exists fun fields => data = .object fields := by
  cases data <;> simp_all [get]

theorem get_set_self {key : String} {data value : Json}
    (object : Exists fun fields => data = .object fields) :
    (data.set key value).get key = some value := by
  rcases object with ⟨fields, rfl⟩
  exact lookup_insertField_self key value fields

theorem get_set_of_ne {key asked : String} (different : asked ≠ key) (data value : Json) :
    (data.set key value).get asked = data.get asked := by
  cases data with
  | object fields => exact lookup_insertField_of_ne different value fields
  | null => exact lookup_insertField_of_ne different value []
  | _ => rfl

/-- The last of several values for a field wins. -/
theorem get_ofFields_concat (fields : List (String × Json)) (key : String) (value : Json) :
    (ofFields (fields ++ [(key, value)])).get key = some value := by
  rw [ofFields, List.foldl_append]
  exact lookup_insertField_self key value _

theorem get_ofFields_of_getLast? {fields : List (String × Json)} {key : String} {value : Json}
    (last : fields.getLast? = some (key, value)) : (ofFields fields).get key = some value := by
  rcases List.getLast?_eq_some_iff.mp last with ⟨earlier, rfl⟩
  exact get_ofFields_concat earlier key value

end Json

/-- Parsing and rendering of JSON texts. -/
structure JsonText where
  parse : String -> Option Json
  render : Json -> Option String

end Foundation
end Gateway

import Gateway.Foundation.Json

namespace Gateway
namespace Foundation

/-!
# Which JSON values there are

A number in a JSON text is stored in 64 bits, so that not every value of the
type has a text.  Objects that are built field by field are read back field by
field.
-/

/-- A number as it leaves the parser of texts. -/
def JsonNumber.Ranged : JsonNumber -> Prop
  | .posInt value => value < 2 ^ 64
  | .negInt value => -2 ^ 63 ≤ value /\ value < 0
  | .float _ => True

namespace Json

/-- All numbers inside a value have 64 bits. -/
inductive Representable : Json -> Prop where
  | null : Representable .null
  | bool (value : Bool) : Representable (.bool value)
  | number {value : JsonNumber} (ranged : value.Ranged) : Representable (.number value)
  | string (value : String) : Representable (.string value)
  | array {items : List Json} (inside : forall item, item ∈ items -> Representable item) :
      Representable (.array items)
  | object {fields : List (String × Json)}
      (inside : forall field, field ∈ fields -> Representable field.2) :
      Representable (.object fields)

theorem mem_of_lookup {Value : Type} {fields : List (String × Value)} {key : String} {value : Value}
    (found : fields.lookup key = some value) : (key, value) ∈ fields := by
  induction fields with
  | nil => cases found
  | cons field fields ih =>
      rw [List.lookup_cons] at found
      split at found
      · next same =>
        rw [eq_of_beq same, ← Option.some.inj found]
        exact List.mem_cons_self
      · exact List.mem_cons_of_mem _ (ih found)

theorem Representable.get {data value : Json} (representable : data.Representable) {key : String}
    (found : data.get key = some value) : value.Representable := by
  rcases exists_object_of_get found with ⟨fields, rfl⟩
  cases representable with
  | object inside => exact inside _ (mem_of_lookup found)

theorem Representable.arrayField {data : Json} (representable : data.Representable) {key : String}
    {items : List Json} (found : data.arrayField key = some items) {item : Json}
    (member : item ∈ items) : item.Representable := by
  rcases Option.bind_eq_some_iff.mp found with ⟨value, there, isArray⟩
  cases value with
  | array values =>
      cases representable.get there with
      | array inside => exact inside item (Option.some.inj isArray ▸ member)
  | _ => cases isArray

theorem Representable.asU64_lt {data : Json} (representable : data.Representable) {value : Nat}
    (found : data.asU64 = some value) : value < 2 ^ 64 := by
  cases representable with
  | @number number ranged =>
      cases number with
      | posInt stored => exact Option.some.inj found ▸ ranged
      | _ => cases found
  | _ => cases found

theorem Representable.asI64_bounds {data : Json} (representable : data.Representable) {value : Int}
    (found : data.asI64 = some value) : -2 ^ 63 ≤ value /\ value < 2 ^ 63 := by
  cases representable with
  | @number number ranged =>
      cases number with
      | posInt stored =>
          have stored64 : (if stored < 2 ^ 63 then some (stored : Int) else none) = some value :=
            found
          split at stored64
          · next small =>
            have same : (stored : Int) = value := Option.some.inj stored64
            omega
          · cases stored64
      | negInt stored =>
          have same : stored = value := Option.some.inj found
          rcases ranged with ⟨low, negative⟩
          omega
      | float _ => cases found
  | _ => cases found

theorem asI64_ofInt {value : Int} (high : value < 2 ^ 63) : (ofInt value).asI64 = some value := by
  unfold ofInt
  split
  · have small : value.toNat < 2 ^ 63 := by omega
    simp only [asI64, if_pos small]
    congr 1
    omega
  · rfl

theorem asU64_ofInt (value : Nat) : (ofInt value).asU64 = some value := by
  simp [ofInt, asU64]

theorem Representable.ofInt {value : Int} (low : -2 ^ 63 ≤ value) (high : value < 2 ^ 64) :
    (ofInt value).Representable := by
  refine .number ?_
  split
  · show value.toNat < 2 ^ 64
    omega
  · exact ⟨low, by omega⟩

/-- The last value for a field is the one that is read. -/
theorem get_ofFields (fields : List (String × Json)) (key : String) :
    (ofFields fields).get key = fields.reverse.lookup key := by
  induction fields using List.reverseRecOn with
  | nil => rfl
  | append_singleton fields field ih =>
      rcases field with ⟨other, value⟩
      rw [List.reverse_append, List.reverse_singleton, List.singleton_append, List.lookup_cons]
      by_cases same : key = other
      · rw [same, get_ofFields_concat, beq_self_eq_true]
      · rw [beq_false_of_ne same]
        rw [← ih, ofFields, List.foldl_append]
        exact lookup_insertField_of_ne same value _

theorem Representable.insertField {fields : List (String × Json)} {key : String} {value : Json}
    (representable : value.Representable)
    (inside : forall field, field ∈ fields -> field.2.Representable) :
    forall field, field ∈ insertField key value fields -> field.2.Representable := by
  induction fields with
  | nil =>
      intro field member
      rw [List.mem_singleton.mp member]
      exact representable
  | cons first fields ih =>
      have rest := ih fun field member => inside field (List.mem_cons_of_mem _ member)
      intro field member
      unfold Json.insertField at member
      split at member
      · rcases List.mem_cons.mp member with rfl | old
        · exact representable
        · exact inside field old
      · split at member
        · rcases List.mem_cons.mp member with rfl | old
          · exact representable
          · exact inside field (List.mem_cons_of_mem _ old)
        · rcases List.mem_cons.mp member with rfl | later
          · exact inside _ List.mem_cons_self
          · exact rest field later

theorem Representable.ofFields {fields : List (String × Json)}
    (inside : forall field, field ∈ fields -> field.2.Representable) :
    (ofFields fields).Representable := by
  refine .object ?_
  induction fields using List.reverseRecOn with
  | nil => exact fun _ member => absurd member List.not_mem_nil
  | append_singleton fields field ih =>
      rw [List.foldl_append]
      exact (inside field (List.mem_append_right _ List.mem_cons_self)).insertField
        (ih fun earlier member => inside earlier (List.mem_append_left _ member))

end Json
end Foundation
end Gateway

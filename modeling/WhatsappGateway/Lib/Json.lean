import Mathlib.Tactic.SplitIfs

/-!
Untyped documents. An object is the list of its fields; a field that is set takes the place of
the one with its name, or comes last.
-/

namespace WhatsappGateway.Lib

inductive Json where
  | null
  | bool (value : Bool)
  | num (text : String)
  | str (text : String)
  | arr (elems : List Json)
  | obj (fields : List (String × Json))

namespace Json

abbrev Object := List (String × Json)

/-- The texts among the elements of an array. -/
def strings (elems : List Json) : List String :=
  elems.filterMap fun
    | .str text => some text
    | _ => none

def setField (name : String) (value : Json) : Object → Object
  | [] => [(name, value)]
  | field :: rest =>
    if field.1 = name then (name, value) :: rest else field :: setField name value rest

variable {name other : String} {value : Json} {object : Object}

theorem strings_map_str (texts : List String) : strings (texts.map .str) = texts := by
  unfold strings
  rw [List.filterMap_map]
  exact List.filterMap_some

theorem lookup_setField_self : (setField name value object).lookup name = some value := by
  induction object with
  | nil => simp [setField]
  | cons field rest ih =>
    unfold setField
    split_ifs with heq
    · simp
    · rw [List.lookup_cons, beq_eq_false_iff_ne.mpr (Ne.symm heq)]
      exact ih

theorem lookup_setField_ne (hne : other ≠ name) :
    (setField name value object).lookup other = object.lookup other := by
  induction object with
  | nil => simp [setField, hne]
  | cons field rest ih =>
    unfold setField
    split_ifs with heq
    · rw [List.lookup_cons, List.lookup_cons, beq_eq_false_iff_ne.mpr hne,
        beq_eq_false_iff_ne.mpr (heq ▸ hne)]
    · rw [List.lookup_cons, List.lookup_cons, ih]

end Json

end WhatsappGateway.Lib

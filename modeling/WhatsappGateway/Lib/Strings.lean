import Mathlib.Data.List.Infix

/-!
Letters and prefixes as Go's `strings` package has them, for texts that are lists of characters.
-/

namespace WhatsappGateway.Lib.Strings

/-- The lower case of a letter, as far as it is in ASCII. Two letters beyond ASCII have their
lower case there; any other letter beyond ASCII stays what it is. -/
def toLower (c : Char) : Char :=
  if c = '\u0130' then 'i' else if c = '\u212a' then 'k' else c.toLower

/-- `strings.CutPrefix`. -/
def cutPrefix (text start : List Char) : Option (List Char) :=
  if start.isPrefixOf text then some (text.drop start.length) else none

theorem cutPrefix_eq_some {text start rest : List Char} :
    cutPrefix text start = some rest ↔ text = start ++ rest := by
  unfold cutPrefix
  split_ifs with h
  · obtain ⟨tail, rfl⟩ := List.isPrefixOf_iff_prefix.mp h
    rw [List.drop_left, Option.some.injEq, List.append_cancel_left_eq]
  · refine iff_of_false nofun ?_
    rintro rfl
    exact h (List.isPrefixOf_iff_prefix.mpr (List.prefix_append start rest))

end WhatsappGateway.Lib.Strings

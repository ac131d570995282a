import Mathlib.Data.List.Infix

/-!
Patterns over an alphabet: a literal letter, one letter of any kind, or any number of
letters. The letters are characters in a pattern for names, and words in one for routing
keys.
-/

namespace WhatsappGateway.Lib

variable {α : Type*}

inductive GlobToken (α : Type*) where
  | lit (a : α)
  | one
  | many
deriving DecidableEq, Repr

abbrev Glob (α : Type*) := List (GlobToken α)

namespace Glob

/-- The pattern that only its own letters match. -/
def literal (xs : List α) : Glob α := xs.map .lit

variable [DecidableEq α] {p : Glob α} {w xs : List α} {a : α}

def accepts : Glob α → List α → Bool
  | [], w => w.isEmpty
  | .lit _ :: _, [] => false
  | .lit a :: p, b :: w => a = b && accepts p w
  | .one :: _, [] => false
  | .one :: p, _ :: w => accepts p w
  | .many :: p, w => w.tails.any (accepts p)

theorem accepts_nil : accepts [] w = true ↔ w = [] := by
  rw [accepts, List.isEmpty_iff]

theorem accepts_lit : accepts (.lit a :: p) w = true ↔ ∃ v, w = a :: v ∧ accepts p v = true := by
  cases w with
  | nil => simp [accepts]
  | cons b w =>
    rw [accepts, Bool.and_eq_true, decide_eq_true_eq]
    constructor
    · rintro ⟨rfl, hw⟩
      exact ⟨w, rfl, hw⟩
    · rintro ⟨v, hcons, hv⟩
      obtain ⟨rfl, rfl⟩ := List.cons.inj hcons
      exact ⟨rfl, hv⟩

theorem accepts_many : accepts (.many :: p) w = true ↔ ∃ v, v <:+ w ∧ accepts p v = true := by
  rw [accepts, List.any_eq_true]
  simp only [List.mem_tails]

/-- Any number of letters at the end. -/
theorem accepts_many_last : accepts (.many :: []) w = true :=
  accepts_many.mpr ⟨[], List.nil_suffix, rfl⟩

theorem accepts_literal_append :
    accepts (literal xs ++ p) w = true ↔ ∃ v, w = xs ++ v ∧ accepts p v = true := by
  induction xs generalizing w with
  | nil => simp [literal]
  | cons a xs ih =>
    rw [literal, List.map_cons, List.cons_append, accepts_lit]
    constructor
    · rintro ⟨u, rfl, hu⟩
      obtain ⟨v, rfl, hv⟩ := ih.mp hu
      exact ⟨v, rfl, hv⟩
    · rintro ⟨v, rfl, hv⟩
      exact ⟨xs ++ v, rfl, ih.mpr ⟨v, rfl, hv⟩⟩

theorem accepts_literal : accepts (literal xs) w = true ↔ w = xs := by
  have happend := @accepts_literal_append α _ [] w xs
  rw [List.append_nil] at happend
  rw [happend]
  constructor
  · rintro ⟨v, rfl, hv⟩
    rw [accepts_nil.mp hv, List.append_nil]
  · rintro rfl
    exact ⟨[], (List.append_nil _).symm, rfl⟩

/-- A literal beginning and then anything: the pattern of a prefix. -/
theorem accepts_prefix : accepts (literal xs ++ [.many]) w = true ↔ xs <+: w := by
  rw [accepts_literal_append]
  constructor
  · rintro ⟨v, rfl, -⟩
    exact List.prefix_append xs v
  · rintro ⟨v, rfl⟩
    exact ⟨v, rfl, accepts_many_last⟩

end Glob

end WhatsappGateway.Lib

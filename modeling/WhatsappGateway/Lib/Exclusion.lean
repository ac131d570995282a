import Mathlib.Logic.Function.Basic

/-!
Participants that take turns in a section. Each of them is in a phase, or is not there,
and a predicate tells the phases inside the section from those outside. The rules say
what one step of a participant does to who is inside.
-/

namespace WhatsappGateway.Lib.Exclusion

variable {ι φ : Type*} {inside : φ → Bool} {before after : ι → Option φ} {i : ι} {p : φ}

/-- Nobody is inside. -/
def Vacant (inside : φ → Bool) (phaseAt : ι → Option φ) : Prop :=
  ∀ i p, phaseAt i = some p → inside p = false

/-- At most one participant is inside. -/
def Exclusive (inside : φ → Bool) (phaseAt : ι → Option φ) : Prop :=
  ∀ i j p q, phaseAt i = some p → phaseAt j = some q → inside p = true → inside q = true → i = j

/-- Whenever somebody is inside, `P` holds. -/
def WhileInside (inside : φ → Bool) (phaseAt : ι → Option φ) (P : Prop) : Prop :=
  ∀ i p, phaseAt i = some p → inside p = true → P

/-- Who is inside afterwards was inside before. -/
def NobodyEnters (inside : φ → Bool) (before after : ι → Option φ) : Prop :=
  ∀ i q, after i = some q → inside q = true → ∃ p, before i = some p ∧ inside p = true

theorem NobodyEnters.refl (inside : φ → Bool) (phaseAt : ι → Option φ) :
    NobodyEnters inside phaseAt phaseAt :=
  fun _ q hq hinside => ⟨q, hq, hinside⟩

/-- Only `i` moves, and does not enter. -/
theorem NobodyEnters.of_moved (hothers : ∀ j, j ≠ i → after j = before j)
    (hmoved : ∀ q, after i = some q → inside q = true → ∃ p, before i = some p ∧ inside p = true) :
    NobodyEnters inside before after := by
  intro j q hq hinside
  by_cases hj : j = i
  · subst hj
    exact hmoved q hq hinside
  · exact ⟨q, (hothers j hj).symm.trans hq, hinside⟩

theorem NobodyEnters.update [DecidableEq ι]
    (h : inside p = true → ∃ q, before i = some q ∧ inside q = true) :
    NobodyEnters inside before (Function.update before i (some p)) := by
  refine .of_moved (fun j hj => Function.update_of_ne hj _ _) ?_
  intro q hq hinside
  rw [Function.update_self] at hq
  obtain rfl := Option.some.inj hq
  exact h hinside

theorem Vacant.whileInside {P : Prop} (h : Vacant inside before) : WhileInside inside before P := by
  intro i p hp hinside
  rw [h i p hp] at hinside
  cases hinside

theorem Vacant.exclusive (h : Vacant inside before) : Exclusive inside before :=
  fun i _ p _ hp _ hinside _ => h.whileInside i p hp hinside

theorem WhileInside.of_nobodyEnters {P : Prop} (h : WhileInside inside before P)
    (henters : NobodyEnters inside before after) : WhileInside inside after P := by
  intro j q hq hinside
  obtain ⟨p, hp, hbefore⟩ := henters j q hq hinside
  exact h j p hp hbefore

theorem Vacant.of_nobodyEnters (h : Vacant inside before)
    (henters : NobodyEnters inside before after) : Vacant inside after := by
  intro j q hq
  by_contra hinside
  obtain ⟨p, hp, hbefore⟩ := henters j q hq (eq_true_of_ne_false hinside)
  rw [h j p hp] at hbefore
  cases hbefore

theorem Exclusive.of_nobodyEnters (h : Exclusive inside before)
    (henters : NobodyEnters inside before after) : Exclusive inside after := by
  intro j k q q' hq hq' hinside hinside'
  obtain ⟨p, hp, hbefore⟩ := henters j q hq hinside
  obtain ⟨p', hp', hbefore'⟩ := henters k q' hq' hinside'
  exact h j k p p' hp hp' hbefore hbefore'

/-- A participant may enter the vacant section. -/
theorem Vacant.enter (h : Vacant inside before) (hothers : ∀ j, j ≠ i → after j = before j) :
    Exclusive inside after := by
  have honly : ∀ j q, after j = some q → inside q = true → j = i := by
    intro j q hq hinside
    by_contra hj
    rw [hothers j hj] at hq
    exact h.whileInside j q hq hinside
  intro j k q q' hq hq' hinside hinside'
  rw [honly j q hq hinside, honly k q' hq' hinside']

/-- When the participant inside leaves, the section is vacant. -/
theorem Exclusive.leave (h : Exclusive inside before) (hi : before i = some p)
    (hinside : inside p = true) (hothers : ∀ j, j ≠ i → after j = before j)
    (hleft : ∀ q, after i = some q → inside q = false) : Vacant inside after := by
  intro j q hq
  by_cases hj : j = i
  · subst hj
    exact hleft q hq
  · rw [hothers j hj] at hq
    by_contra hbefore
    exact hj (h j i q p hq hi (eq_true_of_ne_false hbefore) hinside)

end WhatsappGateway.Lib.Exclusion

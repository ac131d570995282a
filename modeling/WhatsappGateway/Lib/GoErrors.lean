import Mathlib.Data.List.Basic

/-!
Errors as Go's `errors` package sees them. An error has a message, says of itself which
sentinels it is and whether it carries a typed value, and may wrap other errors. `is` and
`asTyped` search the tree that the wrapped errors make, in preorder.
-/

namespace WhatsappGateway.Lib

variable {σ ν : Type*}

/-- `isSelf` is a comparison with a sentinel, or a method `Is` of the error. -/
inductive GoError (σ ν : Type*) where
  | mk (message : String) (isSelf : σ → Bool) (asSelf : Option ν) (wrapped : List (GoError σ ν))

namespace GoError

def message : GoError σ ν → String
  | mk message _ _ _ => message

/-- `errors.New`. -/
def new (message : String) : GoError σ ν := mk message (fun _ => false) none []

/-- A sentinel. -/
def sentinel [DecidableEq σ] (s : σ) (message : String) : GoError σ ν :=
  mk message (fun target => target = s) none []

/-- `fmt.Errorf("...: %w", err)`. -/
def wrap (text : String) (err : GoError σ ν) : GoError σ ν :=
  mk (text ++ ": " ++ err.message) (fun _ => false) none [err]

mutual

/-- `errors.Is`. -/
def is (target : σ) : GoError σ ν → Bool
  | mk _ isSelf _ wrapped => isSelf target || anyIs target wrapped

def anyIs (target : σ) : List (GoError σ ν) → Bool
  | [] => false
  | err :: errs => is target err || anyIs target errs

end

mutual

/-- `errors.As`. -/
def asTyped : GoError σ ν → Option ν
  | mk _ _ asSelf wrapped => asSelf.or (firstAs wrapped)

def firstAs : List (GoError σ ν) → Option ν
  | [] => none
  | err :: errs => (asTyped err).or (firstAs errs)

end

/-- The error wraps the sentinel, at any depth. -/
inductive Wraps (target : σ) : GoError σ ν → Prop where
  | here {message : String} {isSelf : σ → Bool} {asSelf : Option ν}
      {wrapped : List (GoError σ ν)} : isSelf target = true →
      Wraps target (mk message isSelf asSelf wrapped)
  | deeper {message : String} {isSelf : σ → Bool} {asSelf : Option ν}
      {wrapped : List (GoError σ ν)} {err : GoError σ ν} : err ∈ wrapped → Wraps target err →
      Wraps target (mk message isSelf asSelf wrapped)

variable {target : σ} {err : GoError σ ν} {errs : List (GoError σ ν)}

theorem anyIs_eq_true : anyIs target errs = true ↔ ∃ err ∈ errs, is target err = true := by
  induction errs with
  | nil => simp [anyIs]
  | cons err errs ih => rw [anyIs, Bool.or_eq_true, ih, List.exists_mem_cons_iff]

theorem is_of_wraps (h : Wraps target err) : is target err = true := by
  induction h with
  | here hself => rw [is, hself, Bool.true_or]
  | deeper hmem _ ih => rw [is, anyIs_eq_true.mpr ⟨_, hmem, ih⟩, Bool.or_true]

mutual

theorem wraps_of_is : ∀ err : GoError σ ν, is target err = true → Wraps target err
  | mk _ _ _ wrapped, h => by
    rw [is, Bool.or_eq_true] at h
    rcases h with hself | hany
    · exact .here hself
    · obtain ⟨err, hmem, hwraps⟩ := wraps_of_anyIs wrapped hany
      exact .deeper hmem hwraps

theorem wraps_of_anyIs : ∀ errs : List (GoError σ ν), anyIs target errs = true →
    ∃ err ∈ errs, Wraps target err
  | [], h => by cases h
  | err :: errs, h => by
    rw [anyIs, Bool.or_eq_true] at h
    rcases h with hfirst | hrest
    · exact ⟨err, List.mem_cons_self, wraps_of_is err hfirst⟩
    · obtain ⟨err', hmem, hwraps⟩ := wraps_of_anyIs errs hrest
      exact ⟨err', List.mem_cons_of_mem _ hmem, hwraps⟩

end

/-- `errors.Is` finds a sentinel at any depth. -/
theorem is_iff_wraps : is target err = true ↔ Wraps target err :=
  ⟨wraps_of_is err, is_of_wraps⟩

/-- A text around an error does not hide what it wraps. -/
theorem is_wrap {text : String} : is target (wrap text err) = is target err := by
  rw [wrap, is, anyIs, anyIs, Bool.or_false, Bool.false_or]

end GoError

end WhatsappGateway.Lib

import WhatsappGateway.Lib.FilePath

/-!
`filepath.Rel`: the way from one clean path to another, up from the first to where the two part
and down from there. Joined to the first path it leads to the second.
-/

namespace WhatsappGateway.Lib.FilePath

/-- What is left of two lists of components after their common beginning. -/
def dropCommon : List Part → List Part → List Part × List Part
  | x :: xs, y :: ys => if x = y then dropCommon xs ys else (x :: xs, y :: ys)
  | xs, ys => (xs, ys)

/-- `filepath.Rel`, to a path that has a name; `none` is an error. -/
def rel (basepath targpath : String) : Option String :=
  let base := parse basepath
  let targ := parse targpath
  if base = targ then some "."
  else if base.rooted ≠ targ.rooted then none
  else
    let rest := dropCommon base.parts targ.parts
    if rest.1.head? = some dotdot then none
    else
      some (String.ofList (['/'].intercalate
        (List.replicate rest.1.length dotdot ++ rest.2)))

/-- The number of levels up from `base` on the way to `targ`. -/
def ascent (base targ : Path) : Nat :=
  (dropCommon base.names (if base.ups = targ.ups then targ.names else [])).1.length +
    (targ.ups - base.ups)

variable {xs ys : List Part} {base targ : Path}

theorem dropCommon_nil (xs : List Part) : dropCommon xs [] = (xs, []) := by
  cases xs <;> rfl

theorem dropCommon_spec (xs ys : List Part) :
    ∃ front, xs = front ++ (dropCommon xs ys).1 ∧ ys = front ++ (dropCommon xs ys).2 := by
  induction xs generalizing ys with
  | nil => exact ⟨[], rfl, rfl⟩
  | cons x xs ih =>
    cases ys with
    | nil => exact ⟨[], rfl, rfl⟩
    | cons y ys =>
      unfold dropCommon
      split_ifs with heq
      · obtain ⟨front, hxs, hys⟩ := ih ys
        refine ⟨x :: front, ?_, ?_⟩
        · rw [List.cons_append, ← hxs]
        · rw [List.cons_append, ← hys, heq]
      · exact ⟨[], rfl, rfl⟩

theorem dropCommon_replicate (part : Part) (n : Nat) (xs ys : List Part) :
    dropCommon (List.replicate n part ++ xs) (List.replicate n part ++ ys) = dropCommon xs ys := by
  induction n with
  | zero => rfl
  | succ n ih =>
    rw [List.replicate_succ, List.cons_append, List.cons_append, dropCommon, if_pos rfl]
    exact ih

/-- No name is a step up. -/
theorem dropCommon_plain (hplain : ∀ name ∈ xs, Plain name) (ys : List Part) :
    dropCommon xs (dotdot :: ys) = (xs, dotdot :: ys) := by
  cases xs with
  | nil => rfl
  | cons x xs => exact if_neg (hplain x List.mem_cons_self).2.2.1

theorem dropCommon_parts (hbase : base.Valid) (hups : base.ups ≤ targ.ups) :
    dropCommon base.parts targ.parts =
      if base.ups = targ.ups then dropCommon base.names targ.names
      else (base.names, List.replicate (targ.ups - base.ups) dotdot ++ targ.names) := by
  unfold Path.parts
  obtain ⟨d, hd⟩ := Nat.exists_eq_add_of_le hups
  rw [hd, List.replicate_add, List.append_assoc, dropCommon_replicate, Nat.add_sub_cancel_left]
  cases d with
  | zero => simp
  | succ d =>
    rw [if_neg (by omega), List.replicate_succ, List.cons_append]
    exact dropCommon_plain hbase.plain _

theorem foldl_enter_steps {n : Nat} {names : List Part} (h : ∀ name ∈ names, Plain name) :
    (List.replicate n dotdot ++ names).foldl Path.enter (start false) = ⟨false, n, names⟩ := by
  rw [List.foldl_append, start, Path.foldl_enter_dotdot, Path.foldl_enter_plain h]
  simp

/-- The steps of the way: up to where the two part, and down from there. -/
theorem exists_way (hbase : base.Valid) (htarg : targ.Valid) (hrooted : targ.rooted = base.rooted)
    (hups : base.ups ≤ targ.ups) :
    ∃ up down, dropCommon base.parts targ.parts =
        (up, List.replicate (targ.ups - base.ups) dotdot ++ down) ∧
      (∀ name ∈ up, Plain name) ∧ (∀ name ∈ down, Plain name) ∧
      ascent base targ = up.length + (targ.ups - base.ups) ∧
      base.resolve ⟨false, ascent base targ, down⟩ = targ := by
  rw [dropCommon_parts hbase hups]
  unfold ascent
  by_cases heq : base.ups = targ.ups
  · obtain ⟨front, hbaseNames, htargNames⟩ := dropCommon_spec base.names targ.names
    rw [if_pos heq, if_pos heq]
    generalize dropCommon base.names targ.names = rest at *
    obtain ⟨up, down⟩ := rest
    simp only at hbaseNames htargNames
    have hnone : targ.ups - base.ups = 0 := by omega
    rw [hnone]
    refine ⟨up, down, rfl, ?_, ?_, rfl, ?_⟩
    · intro name hname
      exact hbase.plain name (hbaseNames ▸ List.mem_append_right front hname)
    · intro name hname
      exact htarg.plain name (htargNames ▸ List.mem_append_right front hname)
    · obtain ⟨rooted, ups, names⟩ := targ
      simp only at hrooted htargNames heq
      simp only [Path.resolve, hbaseNames, htargNames, hrooted, heq]
      simp
  · rw [if_neg heq, if_neg heq, dropCommon_nil]
    refine ⟨base.names, targ.names, rfl, hbase.plain, htarg.plain, rfl, ?_⟩
    have hrelative : targ.rooted = false := by
      cases hroot : targ.rooted with
      | false => rfl
      | true =>
        have hnone := htarg.rooted_ups hroot
        omega
    obtain ⟨rooted, ups, names⟩ := targ
    simp only at hrooted hrelative heq hups
    rw [hrelative] at hrooted
    simp only [Path.resolve, ← hrooted, hrelative, Bool.false_eq_true, if_false, Path.mk.injEq,
      true_and]
    constructor
    · omega
    · rw [Nat.sub_eq_zero_of_le (Nat.le_add_right _ _)]
      simp

theorem dropCommon_self (xs : List Part) : dropCommon xs xs = ([], []) := by
  induction xs with
  | nil => rfl
  | cons x xs ih =>
    rw [dropCommon, if_pos rfl]
    exact ih

/-- The way to a path that lies no less far up. -/
theorem rel_spec (basepath targpath : String)
    (hrooted : (parse targpath).rooted = (parse basepath).rooted)
    (hups : (parse basepath).ups ≤ (parse targpath).ups) :
    ∃ key, rel basepath targpath = some key ∧
      (parse basepath).resolve (parse (join [".", key])) = parse targpath ∧
      (parse (join [".", key])).ups = ascent (parse basepath) (parse targpath) := by
  by_cases hne : parse basepath = parse targpath
  · refine ⟨".", if_pos hne, ?_, ?_⟩
    · rw [← hne]
      exact Path.resolve_start
    · rw [← hne, ascent, if_pos rfl, dropCommon_self, Nat.sub_self]
      rfl
  obtain ⟨up, down, hrest, hup, hdown, hascent, hresolve⟩ :=
    exists_way (parse_valid basepath) (parse_valid targpath) hrooted hups
  set base := parse basepath with hbase
  set targ := parse targpath with htarg
  have hsteps : List.replicate up.length dotdot ++
        (List.replicate (targ.ups - base.ups) dotdot ++ down) =
      List.replicate (ascent base targ) dotdot ++ down := by
    rw [← List.append_assoc, ← List.replicate_add, hascent]
  set steps := List.replicate (ascent base targ) dotdot ++ down with hstepsDef
  have hsome : steps ≠ [] := by
    intro hnil
    obtain ⟨hnone, rfl⟩ := List.append_eq_nil_iff.mp hnil
    rw [List.replicate_eq_nil_iff] at hnone
    rw [hnone] at hresolve
    apply hne
    rw [← hresolve]
    exact (Path.resolve_start).symm
  have hslash : ∀ part ∈ steps, '/' ∉ part := by
    intro part hpart
    rcases List.mem_append.mp hpart with hdots | hname
    · obtain rfl := List.eq_of_mem_replicate hdots
      decide
    · exact (hdown part hname).2.2.2
  have hhead : up.head? ≠ some dotdot :=
    fun hhead => (hup dotdot (List.mem_of_mem_head? hhead)).2.2.1 rfl
  have hrel : rel basepath targpath = some (String.ofList (['/'].intercalate steps)) := by
    unfold rel
    rw [← hbase, ← htarg, if_neg hne, if_neg (not_not.mpr hrooted.symm), hrest]
    simp only [hhead, if_false, hsteps]
  have hparse : parse (join [".", String.ofList (['/'].intercalate steps)]) =
      ⟨false, ascent base targ, down⟩ := by
    rw [parse_join_foldl (by decide) (by simp), String.intercalate_singleton, split,
      String.toList_ofList, List.splitOn_intercalate '/' hslash hsome]
    exact foldl_enter_steps hdown
  refine ⟨_, hrel, ?_, ?_⟩
  · rw [hparse]
    exact hresolve
  · rw [hparse]

end WhatsappGateway.Lib.FilePath

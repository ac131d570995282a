import Mathlib.Data.List.DropRight
import Mathlib.Data.List.Infix
import Mathlib.Data.List.TakeWhile
import Mathlib.Logic.Basic
import WhatsappGateway.Lib.Fields

/-!
Lexical path names, as Go's `path/filepath` has them on Unix: `Clean`, `Dir` and `Join`.
A clean path goes up a number of directories and then down through names, from the
root or from the current directory. Cleaning walks the components of a path one
by one, so a component that is joined to a path is a step from where the path
leads, and joining a relative path is the same as joining its clean form.
-/

namespace WhatsappGateway.Lib.FilePath

abbrev Part := List Char

def dot : Part := ['.']

def dotdot : Part := ['.', '.']

/-- A name that cleaning keeps. -/
def Plain (part : Part) : Prop := part ≠ [] ∧ part ≠ dot ∧ part ≠ dotdot ∧ '/' ∉ part

instance (part : Part) : Decidable (Plain part) :=
  inferInstanceAs (Decidable (part ≠ [] ∧ part ≠ dot ∧ part ≠ dotdot ∧ '/' ∉ part))

theorem plain_of_mem {c : Char} {part : Part} (hc : c ∈ part) (hdot : c ≠ '.')
    (hslash : '/' ∉ part) : Plain part := by
  refine ⟨List.ne_nil_of_mem hc, ?_, ?_, hslash⟩
  · rintro rfl
    exact hdot (List.mem_singleton.mp hc)
  · rintro rfl
    simp only [dotdot, List.mem_cons, List.not_mem_nil, or_false, or_self] at hc
    exact hdot hc

structure Path where
  rooted : Bool
  ups : Nat
  names : List Part
deriving DecidableEq, Repr

namespace Path

/-- Only names are left below the way up, and there is no way up from the root. -/
structure Valid (p : Path) : Prop where
  plain : ∀ name ∈ p.names, Plain name
  rooted_ups : p.rooted = true → p.ups = 0

/-- One more component. `..` undoes a name; above the root it does nothing. -/
def enter (p : Path) (part : Part) : Path :=
  if part = [] ∨ part = dot then p
  else if part = dotdot then
    if p.names = [] then if p.rooted then p else { p with ups := p.ups + 1 }
    else { p with names := p.names.dropLast }
  else { p with names := p.names ++ [part] }

def parts (p : Path) : List Part := List.replicate p.ups dotdot ++ p.names

def render (p : Path) : String :=
  String.ofList
    (if p.rooted then '/' :: ['/'].intercalate p.parts
    else if p.parts = [] then dot
    else ['/'].intercalate p.parts)

/-- Where the relative path `rel` leads from `base`. -/
def resolve (base rel : Path) : Path where
  rooted := base.rooted
  ups := if base.rooted then base.ups else base.ups + (rel.ups - base.names.length)
  names := base.names.take (base.names.length - rel.ups) ++ rel.names

/-- One directory up in the spelling: a name is dropped, else one of the steps up. -/
def parent (p : Path) : Path :=
  if p.names = [] then { p with ups := p.ups - 1 } else { p with names := p.names.dropLast }

/-- `p` is `base`, or lies below it. -/
def Below (base p : Path) : Prop :=
  p.rooted = base.rooted ∧ p.ups = base.ups ∧ base.names <+: p.names

end Path

def split (path : String) : List Part := path.toList.splitOn '/'

def isRooted (path : String) : Bool := path.toList.head? = some '/'

/-- Where a rooted or a relative walk starts. -/
def start (rooted : Bool) : Path := ⟨rooted, 0, []⟩

/-- The clean form of a path. -/
def parse (path : String) : Path := (split path).foldl Path.enter (start (isRooted path))

/-- `filepath.Clean`. -/
def clean (path : String) : String := (parse path).render

/-- `filepath.Join`. Leading empty elements are dropped; of no others, the result is empty. -/
def join (elems : List String) : String :=
  match elems.dropWhile (· = "") with
  | [] => ""
  | first :: rest => clean ("/".intercalate (first :: rest))

/-- `filepath.Dir`: all up to the last separator, in clean form. -/
def dir (path : String) : String :=
  clean (String.ofList (path.toList.reverse.dropWhile (· ≠ '/')).reverse)

/-! ### One component -/

namespace Path

variable {p base rel : Path} {part : Part} {names ps : List Part}

theorem enter_skip (h : part = [] ∨ part = dot) : p.enter part = p := if_pos h

theorem enter_plain (h : Plain part) : p.enter part = { p with names := p.names ++ [part] } := by
  obtain ⟨hnil, hdot, hdotdot, _⟩ := h
  simp [enter, hnil, hdot, hdotdot]

theorem enter_dotdot_up (h : p.names = []) :
    p.enter dotdot = if p.rooted then p else { p with ups := p.ups + 1 } := by
  simp [enter, dotdot, dot, h]

theorem enter_dotdot_back (h : p.names ≠ []) :
    p.enter dotdot = { p with names := p.names.dropLast } := by
  simp [enter, dotdot, dot, h]

theorem enter_rooted (part : Part) : (p.enter part).rooted = p.rooted := by
  unfold enter
  split_ifs <;> rfl

theorem Valid.enter (h : p.Valid) (hslash : '/' ∉ part) : (p.enter part).Valid := by
  unfold Path.enter
  split_ifs with hskip hdotdot hnames hrooted
  · exact h
  · exact h
  · refine ⟨h.plain, fun hroot => ?_⟩
    rw [hroot] at hrooted
    cases hrooted rfl
  · exact ⟨fun name hname => h.plain name (List.mem_of_mem_dropLast hname), h.rooted_ups⟩
  · refine ⟨?_, h.rooted_ups⟩
    intro name hname
    rcases List.mem_append.mp hname with hold | hnew
    · exact h.plain name hold
    · obtain rfl := List.mem_singleton.mp hnew
      rw [not_or] at hskip
      exact ⟨hskip.1, hskip.2, hdotdot, hslash⟩

theorem foldl_enter_rooted (p : Path) (ps : List Part) :
    (ps.foldl enter p).rooted = p.rooted := by
  induction ps generalizing p with
  | nil => rfl
  | cons part ps ih =>
    rw [List.foldl_cons, ih]
    exact enter_rooted part

theorem resolve_start : base.resolve (start false) = base := by
  cases base
  simp [resolve, start]

/-- A component after a relative path is a component after where that path leads. -/
theorem resolve_enter (hrel : rel.rooted = false) (part : Part) :
    (base.resolve rel).enter part = base.resolve (rel.enter part) := by
  by_cases hskip : part = [] ∨ part = dot
  · rw [enter_skip hskip, enter_skip hskip]
  by_cases hdotdot : part = dotdot
  · subst hdotdot
    by_cases hnames : rel.names = []
    · rw [enter_dotdot_up hnames, hrel]
      by_cases hup : base.names.length ≤ rel.ups
      · -- The way up leads out of `base`.
        have hnone : base.names.length - rel.ups = 0 := by omega
        have hnone' : base.names.length - (rel.ups + 1) = 0 := by omega
        have hempty : (base.resolve rel).names = [] := by simp [resolve, hnone, hnames]
        rw [enter_dotdot_up hempty]
        cases hrooted : base.rooted with
        | true => simp [resolve, hrooted, hnone, hnone', hnames]
        | false =>
          simp only [resolve, hrooted, hnone, hnone', hnames, Bool.false_eq_true, if_false,
            Path.mk.injEq, true_and, and_true]
          omega
      · have hsome : (base.resolve rel).names ≠ [] := by
          apply List.ne_nil_of_length_pos
          simp only [resolve, List.length_append, List.length_take]
          omega
        have hups : rel.ups - base.names.length = rel.ups + 1 - base.names.length := by omega
        have hlength : min (min (base.names.length - rel.ups) base.names.length - 1)
            (base.names.length - rel.ups) = base.names.length - (rel.ups + 1) := by omega
        rw [enter_dotdot_back hsome]
        simp only [resolve, hnames, List.append_nil, Bool.false_eq_true, if_false]
        rw [hups, List.dropLast_eq_take, List.length_take, List.take_take, hlength]
    · have hsome : (base.resolve rel).names ≠ [] := by simp [resolve, hnames]
      rw [enter_dotdot_back hsome, enter_dotdot_back hnames]
      simp only [resolve]
      rw [List.dropLast_append_of_ne_nil hnames]
  · simp only [enter, if_neg hskip, if_neg hdotdot, resolve, List.append_assoc]

/-- The components of a relative path lead from `base` to where its clean form leads. -/
theorem foldl_enter_resolve (hrel : rel.rooted = false) :
    ps.foldl enter (base.resolve rel) = base.resolve (ps.foldl enter rel) := by
  induction ps generalizing rel with
  | nil => rfl
  | cons part ps ih =>
    rw [List.foldl_cons, List.foldl_cons, resolve_enter hrel]
    exact ih ((enter_rooted part).trans hrel)

theorem foldl_enter (base : Path) (ps : List Part) :
    ps.foldl enter base = base.resolve (ps.foldl enter (start false)) := by
  rw [← foldl_enter_resolve rfl, resolve_start]

theorem foldl_enter_valid (h : p.Valid) (hslash : ∀ part ∈ ps, '/' ∉ part) :
    (ps.foldl enter p).Valid := by
  induction ps generalizing p with
  | nil => exact h
  | cons part ps ih =>
    rw [List.foldl_cons]
    apply ih (h.enter (hslash part List.mem_cons_self))
    intro other hother
    exact hslash other (List.mem_cons_of_mem _ hother)

theorem foldl_enter_plain (h : ∀ name ∈ names, Plain name) :
    names.foldl enter p = { p with names := p.names ++ names } := by
  induction names generalizing p with
  | nil => simp
  | cons name names ih =>
    rw [List.foldl_cons, enter_plain (h name List.mem_cons_self),
      ih fun other hother => h other (List.mem_cons_of_mem _ hother)]
    simp

theorem foldl_enter_dotdot (ups n : Nat) :
    (List.replicate n dotdot).foldl enter ⟨false, ups, []⟩ = ⟨false, ups + n, []⟩ := by
  induction n generalizing ups with
  | zero => rfl
  | succ n ih =>
    rw [List.replicate_succ, List.foldl_cons, enter_dotdot_up rfl]
    simp only [Bool.false_eq_true, if_false]
    rw [ih, Nat.add_right_comm, Nat.add_assoc]

/-- The components of a clean path lead to it. -/
theorem foldl_enter_parts (h : p.Valid) : p.parts.foldl enter (start p.rooted) = p := by
  obtain ⟨rooted, ups, names⟩ := p
  rw [parts, List.foldl_append]
  cases rooted with
  | true =>
    obtain rfl : ups = 0 := h.rooted_ups rfl
    rw [List.replicate_zero, List.foldl_nil, foldl_enter_plain h.plain]
    rfl
  | false =>
    rw [start, foldl_enter_dotdot, foldl_enter_plain h.plain]
    simp

/-- Where a relative path leads lies below `base` when the names that it climbs out of are
the ones that it comes back through. -/
theorem below_resolve_iff (base rel : Path) :
    base.Below (base.resolve rel) ↔
      (base.rooted = true ∨ rel.ups ≤ base.names.length) ∧
        base.names.drop (base.names.length - rel.ups) <+: rel.names := by
  have hnames : base.names <+: (base.resolve rel).names ↔
      base.names.drop (base.names.length - rel.ups) <+: rel.names := by
    have hsplit := List.take_append_drop (base.names.length - rel.ups) base.names
    have hprefix : base.names.take (base.names.length - rel.ups) ++
          base.names.drop (base.names.length - rel.ups) <+:
        base.names.take (base.names.length - rel.ups) ++ rel.names ↔
          base.names.drop (base.names.length - rel.ups) <+: rel.names :=
      List.prefix_append_right_inj _
    rw [hsplit] at hprefix
    exact hprefix
  have hups : (base.resolve rel).ups = base.ups ↔
      base.rooted = true ∨ rel.ups ≤ base.names.length := by
    simp only [resolve]
    split
    · next h => simp [h]
    · next h =>
      simp only [h, Bool.false_eq_true, false_or]
      omega
  simp only [Below, hnames, hups]
  exact ⟨fun h => h.2, fun h => ⟨rfl, h⟩⟩

/-! ### One directory up -/

theorem parent_up (h : p.names = []) : p.parent = { p with ups := p.ups - 1 } := if_pos h

theorem parent_name (h : p.names ≠ []) : p.parent = { p with names := p.names.dropLast } :=
  if_neg h

theorem parent_rooted (p : Path) : p.parent.rooted = p.rooted := by
  unfold parent
  split_ifs <;> rfl

theorem Valid.parent (h : p.Valid) : p.parent.Valid := by
  by_cases hnames : p.names = []
  · rw [parent_up hnames]
    refine ⟨h.plain, fun hrooted => ?_⟩
    have hups := h.rooted_ups hrooted
    simp only [hups]
  · rw [parent_name hnames]
    exact ⟨fun name hname => h.plain name (List.mem_of_mem_dropLast hname), h.rooted_ups⟩

theorem parts_parent (p : Path) : p.parent.parts = p.parts.dropLast := by
  unfold parts
  by_cases hnames : p.names = []
  · rw [parent_up hnames, hnames]
    simp
  · rw [parent_name hnames, List.dropLast_append_of_ne_nil hnames]

end Path

/-! ### Strings -/

variable {path base : String} {p : Path} {rest : List String}

theorem slash_not_mem_split (path : String) : ∀ part ∈ split path, '/' ∉ part :=
  sep_not_mem_splitOn path.toList

theorem parse_valid (path : String) : (parse path).Valid :=
  Path.foldl_enter_valid ⟨by simp [start], fun _ => rfl⟩ (slash_not_mem_split path)

theorem Path.Valid.parts_clean (h : p.Valid) : ∀ part ∈ p.parts, part ≠ [] ∧ '/' ∉ part := by
  intro part hpart
  rcases List.mem_append.mp hpart with hup | hname
  · obtain rfl := List.eq_of_mem_replicate hup
    decide
  · have hplain := h.plain part hname
    exact ⟨hplain.1, hplain.2.2.2⟩

theorem splitOn_intercalate_parts (h : p.Valid) (hparts : p.parts ≠ []) :
    (['/'].intercalate p.parts).splitOn '/' = p.parts :=
  List.splitOn_intercalate '/' (fun part hpart => (h.parts_clean part hpart).2) hparts

/-- The clean form of what a clean path is written as is that path. -/
theorem parse_render (h : p.Valid) : parse p.render = p := by
  have hfold := Path.foldl_enter_parts h
  unfold parse split isRooted Path.render
  rw [String.toList_ofList]
  cases hrooted : p.rooted with
  | true =>
    rw [hrooted] at hfold
    simp only [if_true, List.head?_cons, decide_true]
    rw [List.splitOn_cons_eq_if_modifyHead]
    simp only [beq_self_eq_true, if_true, List.foldl_cons]
    rw [Path.enter_skip (Or.inl rfl)]
    by_cases hparts : p.parts = []
    · rw [hparts] at hfold ⊢
      rw [List.intercalate_nil, List.splitOn_nil, List.foldl_cons, Path.enter_skip (Or.inl rfl)]
      exact hfold
    · rw [splitOn_intercalate_parts h hparts]
      exact hfold
  | false =>
    rw [hrooted] at hfold
    simp only [Bool.false_eq_true, if_false]
    by_cases hparts : p.parts = []
    · rw [hparts] at hfold
      simp only [hparts, if_true]
      rw [List.foldl_nil] at hfold
      rw [← hfold]
      decide
    · simp only [hparts, if_false]
      rw [splitOn_intercalate_parts h hparts]
      have hrelative : decide ((['/'].intercalate p.parts).head? = some '/') = false := by
        obtain ⟨first, more, hcons⟩ := List.exists_cons_of_ne_nil hparts
        have hfirst := h.parts_clean first (by rw [hcons]; exact List.mem_cons_self)
        obtain ⟨c, chars, rfl⟩ := List.exists_cons_of_ne_nil hfirst.1
        have hc : c ≠ '/' := by
          rintro rfl
          exact hfirst.2 List.mem_cons_self
        rw [hcons]
        cases more with
        | nil => simp [hc]
        | cons second more => simp [List.intercalate_cons_cons, hc]
      rw [hrelative]
      exact hfold

theorem parse_clean (path : String) : parse (clean path) = parse path :=
  parse_render (parse_valid path)

/-! ### `Dir` -/

/-- All up to the last separator is rooted as the path is, and has its components but the last. -/
theorem split_upToLast (path : String) :
    let front := String.ofList (path.toList.reverse.dropWhile (· ≠ '/')).reverse
    split front = (split path).dropLast ++ [[]] ∧ isRooted front = isRooted path := by
  simp only [split, isRooted, String.toList_ofList]
  by_cases hslash : '/' ∈ path.toList.reverse
  · obtain ⟨last, front, hpath, hlast⟩ := List.eq_append_cons_of_mem hslash
    have hchars : path.toList = front.reverse ++ '/' :: last.reverse := by
      rw [← List.reverse_reverse path.toList, hpath]
      simp
    have hdrop : (path.toList.reverse.dropWhile (· ≠ '/')).reverse = front.reverse ++ ['/'] := by
      rw [hpath, List.dropWhile_append_of_pos]
      · simp
      · intro c hc
        have hne : c ≠ '/' := fun heq => hlast (heq ▸ hc)
        simpa using hne
    have hlast' : '/' ∉ last.reverse := by simpa using hlast
    rw [hdrop, hchars, List.splitOn_append_cons_self, List.splitOn_append_cons_self,
      List.splitOn_eq_singleton hlast', List.splitOn_nil, List.dropLast_concat]
    refine ⟨rfl, ?_⟩
    cases front.reverse <;> rfl
  · have hnone : '/' ∉ path.toList := by simpa using hslash
    have hdrop : path.toList.reverse.dropWhile (· ≠ '/') = [] := by
      rw [List.dropWhile_eq_nil_iff]
      intro c hc
      have hne : c ≠ '/' := fun heq => hslash (heq ▸ hc)
      simpa using hne
    have hhead : path.toList.head? ≠ some '/' := fun hhead => hnone (List.mem_of_mem_head? hhead)
    rw [hdrop, List.splitOn_eq_singleton hnone]
    simp [hhead]

theorem parse_dir (path : String) :
    parse (dir path) = (split path).dropLast.foldl Path.enter (start (isRooted path)) := by
  obtain ⟨hsplit, hrooted⟩ := split_upToLast path
  unfold dir
  rw [parse_clean]
  unfold parse
  rw [hsplit, hrooted, List.foldl_append, List.foldl_cons, List.foldl_nil,
    Path.enter_skip (Or.inl rfl)]

/-- The components that a clean path is written with. -/
theorem split_render (h : p.Valid) :
    split p.render =
      (if p.rooted then [[]] else []) ++
        (if p.parts = [] then [if p.rooted then [] else dot] else p.parts) := by
  unfold split Path.render
  rw [String.toList_ofList]
  by_cases hparts : p.parts = []
  · cases hrooted : p.rooted
    · simp only [hparts, if_true, Bool.false_eq_true, if_false, List.nil_append]
      rfl
    · simp only [hparts, if_true, List.intercalate_nil]
      rfl
  · cases hrooted : p.rooted with
    | true =>
      simp only [if_true, hparts, if_false]
      rw [List.splitOn_cons_eq_if_modifyHead, splitOn_intercalate_parts h hparts]
      simp
    | false =>
      simp only [Bool.false_eq_true, hparts, if_false]
      rw [splitOn_intercalate_parts h hparts]
      simp

theorem isRooted_render (h : p.Valid) : isRooted p.render = p.rooted := by
  have hparse : (parse p.render).rooted = p.rooted := by rw [parse_render h]
  rw [← hparse]
  unfold parse
  exact (Path.foldl_enter_rooted (start _) _).symm

theorem parse_dir_render (h : p.Valid) : parse (dir p.render) = p.parent := by
  have hparent : p.parent.parts.foldl Path.enter (start p.rooted) = p.parent := by
    rw [← p.parent_rooted]
    exact Path.foldl_enter_parts h.parent
  rw [parse_dir, split_render h, isRooted_render h]
  rw [Path.parts_parent] at hparent
  by_cases hparts : p.parts = []
  · rw [hparts] at hparent
    cases hrooted : p.rooted with
    | true => simpa [hparts, hrooted, Path.enter_skip] using hparent
    | false => simpa [hparts, hrooted] using hparent
  · rw [List.dropLast_append_of_ne_nil (by simp [hparts]), List.foldl_append]
    cases hrooted : p.rooted with
    | true => simpa [hparts, hrooted, Path.enter_skip] using hparent
    | false => simpa [hparts, hrooted] using hparent

theorem render_parse_clean (path : String) : (parse (clean path)).render = clean path := by
  rw [parse_clean]
  rfl

theorem dir_render (h : p.Valid) : dir p.render = p.parent.render := by
  rw [← parse_dir_render h]
  exact (render_parse_clean _).symm

/-! ### `Join` -/

/-- The components of what is joined to a path are steps from it. -/
theorem parse_join_foldl (hbase : base ≠ "") (hrest : rest ≠ []) :
    parse (join (base :: rest)) =
      (split ("/".intercalate rest)).foldl Path.enter (parse base) := by
  have hsplit : split ("/".intercalate (base :: rest)) =
      split base ++ split ("/".intercalate rest) := by
    rw [String.intercalate_cons_of_ne_nil hrest]
    unfold split
    rw [String.toList_append, String.toList_append, List.append_assoc]
    exact List.splitOn_append_cons_self _ _
  have hroot : isRooted ("/".intercalate (base :: rest)) = isRooted base := by
    rw [String.intercalate_cons_of_ne_nil hrest]
    unfold isRooted
    rw [String.toList_append, String.toList_append, List.append_assoc, List.head?_append]
    cases hlist : base.toList with
    | nil => exact absurd (String.toList_eq_nil_iff.mp hlist) hbase
    | cons c chars => rfl
  unfold join
  rw [List.dropWhile_cons_of_neg (by simpa using hbase)]
  simp only
  rw [parse_clean, parse, hsplit, hroot, List.foldl_append]
  rfl

/-- Joining to a path leads where the joined elements lead from there. -/
theorem parse_join (hbase : base ≠ "") (hrest : rest ≠ []) :
    parse (join (base :: rest)) = (parse base).resolve (parse (join ("." :: rest))) := by
  rw [parse_join_foldl hbase hrest, parse_join_foldl (by decide) hrest,
    Path.foldl_enter (parse base)]
  rfl

theorem render_parse_join (hbase : base ≠ "") (rest : List String) :
    (parse (join (base :: rest))).render = join (base :: rest) := by
  unfold join
  rw [List.dropWhile_cons_of_neg (by simpa using hbase)]
  exact render_parse_clean _

variable {elems names : List String} {first name : String}

theorem split_slash (a b : String) : split (a ++ "/" ++ b) = split a ++ split b := by
  unfold split
  rw [String.toList_append, String.toList_append, List.append_assoc]
  exact List.splitOn_append_cons_self _ _

theorem join_dropWhile (elems : List String) :
    join (elems.dropWhile (· = "")) = join elems := by
  unfold join
  rw [List.dropWhile_idempotent]

/-- An element without a separator is one more component. -/
theorem parse_join_concat (hslash : '/' ∉ name.toList) :
    parse (join (elems ++ [name])) = (parse (join elems)).enter name.toList := by
  have hsplit : split name = [name.toList] := List.splitOn_eq_singleton hslash
  have hempty : parse "" = start false := by decide
  rw [← join_dropWhile elems, ← join_dropWhile (elems ++ [name]), List.dropWhile_append]
  cases helems : elems.dropWhile (· = "") with
  | nil =>
    have hnone : parse (join []) = start false := hempty
    rw [List.isEmpty_nil, if_pos rfl, hnone]
    by_cases hname : name = ""
    · rw [hname]
      decide
    · have hrelative : isRooted name = false := by
        unfold isRooted
        rw [decide_eq_false_iff_not]
        exact fun hhead => hslash (List.mem_of_mem_head? hhead)
      rw [join_dropWhile]
      unfold join
      rw [List.dropWhile_cons_of_neg (by simpa using hname)]
      dsimp only
      rw [parse_clean, String.intercalate_singleton, parse, hsplit, hrelative, List.foldl_cons,
        List.foldl_nil]
  | cons first rest =>
    have hfirst : first ≠ "" := by
      have hhead := List.head?_dropWhile_not (fun elem => decide (elem = "")) elems
      rw [helems] at hhead
      simpa using hhead
    rw [List.isEmpty_cons, if_neg Bool.false_ne_true, List.cons_append,
      parse_join_foldl hfirst (List.append_ne_nil_of_right_ne_nil _ (List.cons_ne_nil _ _))]
    by_cases hrest : rest = []
    · rw [hrest, List.nil_append, String.intercalate_singleton, hsplit]
      unfold join
      rw [List.dropWhile_cons_of_neg (by simpa using hfirst)]
      dsimp only
      rw [parse_clean, String.intercalate_singleton, List.foldl_cons, List.foldl_nil]
    · rw [String.intercalate_append_of_ne_nil hrest (List.cons_ne_nil _ _),
        String.intercalate_singleton, split_slash, hsplit, List.foldl_append,
        parse_join_foldl hfirst hrest, List.foldl_cons, List.foldl_nil]

theorem parse_join_append (hslash : ∀ name ∈ names, '/' ∉ name.toList) :
    parse (join (elems ++ names)) =
      (names.map String.toList).foldl Path.enter (parse (join elems)) := by
  induction names generalizing elems with
  | nil => rw [List.append_nil, List.map_nil, List.foldl_nil]
  | cons name names ih =>
    obtain ⟨hname, hnames⟩ := List.forall_mem_cons.mp hslash
    rw [List.append_cons, ih hnames, parse_join_concat hname, List.map_cons, List.foldl_cons]

theorem render_parse_join_of_ne (h : join elems ≠ "") :
    (parse (join elems)).render = join elems := by
  unfold join at h ⊢
  split at h
  · exact absurd rfl h
  · exact render_parse_clean _

/-- A clean path that is joined to another counts as a relative one. -/
theorem parse_join_render (h : p.Valid) :
    parse (join [".", p.render]) = { p with rooted := false } := by
  have hfold : p.parts.foldl Path.enter (start false) = { p with rooted := false } :=
    Path.foldl_enter_parts (p := { p with rooted := false }) ⟨h.plain, nofun⟩
  have hstart : parse "." = start false := by decide
  rw [parse_join_foldl (by decide) (List.cons_ne_nil _ _), String.intercalate_singleton,
    split_render h, hstart, List.foldl_append, ← hfold]
  have hroot : (if p.rooted then [([] : Part)] else []).foldl Path.enter (start false) =
      start false := by
    cases p.rooted <;> rfl
  rw [hroot]
  by_cases hparts : p.parts = []
  · rw [if_pos hparts, hparts]
    cases p.rooted <;> rfl
  · rw [if_neg hparts]

end WhatsappGateway.Lib.FilePath

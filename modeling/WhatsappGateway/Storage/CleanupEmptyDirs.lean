import WhatsappGateway.Lib.Loop
import WhatsappGateway.Storage.Host

/-!
The walk that removes empty directories after a deletion or a retention pass. It goes up the
spelling of a path and stops where the spelling is that of the configured path. It stays inside
the storage exactly when the outermost directory that it may get to, which is the storage
itself for an object of the storage, is spelled that way, or cannot be emptied.
-/

namespace WhatsappGateway.Storage

open Lib FilePath FileTree

namespace LocalStorage

/-- The variables of the walk. -/
structure Climb where
  dir : String
  disk : Disk File

/-- The error of `os.Remove` is not looked at. -/
def cleanupTick (s : LocalStorage) (host : Host) (c : Climb) : Option Climb :=
  if c.dir ≠ s.localPath ∧ c.dir ≠ "." then
    match host.readDir c.disk c.dir with
    | none => none
    | some [] => some ⟨dir c.dir, (host.remove c.disk c.dir).getD c.disk⟩
    | some (_ :: _) => none
  else none

def cleanupEmptyDirs (s : LocalStorage) (host : Host) (disk : Disk File) (path : String)
    (last : Climb) : Prop :=
  Halts (s.cleanupTick host) ⟨dir path, disk⟩ last

/-! ### The callers -/

/-- The expired files that a walk over the store removes. It ends at a directory that cannot be
read; a file that cannot be removed is passed over, and so is one whose name starts with a
dot. -/
def removeExpired (host : Host) (cutoff : Int) : List Location → Disk File → Disk File
  | [], disk => disk
  | l :: rest, disk =>
    match disk.node l with
    | none => removeExpired host cutoff rest disk
    | some .dir =>
      if host.refuses .read l ≠ none then disk else removeExpired host cutoff rest disk
    | some (.file info) =>
      if (l.getLast?.bind List.head?) = some '.' then removeExpired host cutoff rest disk
      else if info.modTime < cutoff ∧ host.refuses .delete l = none then
        removeExpired host cutoff rest ((disk.remove l).getD disk)
      else removeExpired host cutoff rest disk

inductive Pass where
  | deleteFile (bucket key : String)
  | performCleanup (retentionDays cutoff : Int)

/-- The path that a pass starts the walk from. -/
def Pass.path (s : LocalStorage) : Pass → String
  | .deleteFile bucket key => s.getFullPath bucket key
  | .performCleanup _ _ => join [s.localPath, "webhook"]

/-- The disk when the pass comes to the walk, if it does. -/
def Pass.reaches (s : LocalStorage) (host : Host) (disk : Disk File) : Pass → Option (Disk File)
  | .deleteFile bucket key =>
    if !s.healthy then none
    else
      match host.stat disk (s.getFullPath bucket key) with
      | none => none
      | some _ => host.remove disk (s.getFullPath bucket key)
  | .performCleanup retentionDays cutoff =>
    if retentionDays ≤ 0 then none
    else some (removeExpired host cutoff (disk.walk (host.locate s.localPath)) disk)

/-! ### What the walk should keep -/

/-- All that changed is that directories below `base` are gone. -/
def EmptiedInside (base : Location) (before after : Disk File) : Prop :=
  ∀ l, after.node l ≠ before.node l → Inside base l ∧ before.IsDir l ∧ after.node l = none

/-- From `from_`, the walk ends, and all that it removes lies below the configured path. -/
def StaysFrom (s : LocalStorage) (host : Host) (disk : Disk File) (from_ : Path) : Prop :=
  ∃ last, Halts (s.cleanupTick host) ⟨from_.render, disk⟩ last ∧
    EmptiedInside (host.locate s.localPath) disk last.disk

def StaysInside (s : LocalStorage) (host : Host) (disk : Disk File) (path : String) : Prop :=
  ∃ last, s.cleanupEmptyDirs host disk path last ∧
    EmptiedInside (host.locate s.localPath) disk last.disk

/-- A directory that reads empty and can be removed. -/
structure Clear (host : Host) (disk : Disk File) (l : Location) : Prop where
  isDir : disk.IsDir l
  readable : host.refuses .read l = none
  deletable : l ≠ [] → host.refuses .delete l = none
  empty : disk.entries l = []

/-- All that is left in `top` is the way down to `from_`, and nothing on the way is refused. -/
structure Bare (host : Host) (disk : Disk File) (top from_ : Path) : Prop where
  way : ∀ l, FileTree.locate host.cwd top <+: l → l <+: FileTree.locate host.cwd from_ →
    disk.IsDir l ∧ host.refuses .read l = none ∧ (l ≠ [] → host.refuses .delete l = none)
  alone : ∀ l, FileTree.locate host.cwd top <+: l → disk.node l ≠ none →
    l <+: FileTree.locate host.cwd from_

/-- The outermost directory that the walk may get to: the configured one, when the walk starts
in it, else where it starts. -/
def outermost (s : LocalStorage) (host : Host) (from_ : Path) : Path :=
  let base := host.locate s.localPath
  let l := FileTree.locate host.cwd from_
  if base <+: l then
    { from_ with names := from_.names.take (from_.names.length - (l.length - base.length)) }
  else from_

/-- The working directory, or so many levels up from it. -/
def UpOnly (p : Path) : Prop := p.rooted = false ∧ p.names = []

/-- The outermost directory is where the walk ends in any case, or it cannot be emptied. -/
def Held (s : LocalStorage) (host : Host) (disk : Disk File) (path : String) : Prop :=
  let from_ := parse (dir path)
  let top := s.outermost host from_
  top.render = s.localPath ∨ UpOnly top ∨ ¬ Bare host disk top from_

variable {s : LocalStorage} {host : Host} {disk disk' : Disk File} {c c' : Climb}
  {p top : Path} {base l : Location} {name : Part} {names : List Part}

/-! ### One step -/

theorem locate_render (h : p.Valid) : host.locate p.render = FileTree.locate host.cwd p := by
  unfold Host.locate
  rw [parse_render h]

theorem parent_append :
    Path.parent { top with names := top.names ++ (names ++ [name]) } =
      { top with names := top.names ++ names } := by
  rw [Path.parent_name (by simp), ← List.append_assoc, List.dropLast_concat]

/-- The walk is over at the configured path as it is spelled, and at the working directory. -/
theorem tick_eq_none_of_spelled (h : c.dir = s.localPath ∨ c.dir = ".") :
    s.cleanupTick host c = none := by
  unfold cleanupTick
  rw [if_neg]
  rintro ⟨hbase, hdot⟩
  rcases h with h | h
  · exact hbase h
  · exact hdot h

/-- The walk goes no further up from a directory which holds something. -/
theorem tick_eq_none_of_entries (hvalid : p.Valid)
    (h : disk.entries (FileTree.locate host.cwd p) ≠ []) :
    s.cleanupTick host ⟨p.render, disk⟩ = none := by
  unfold cleanupTick Host.readDir
  rw [locate_render hvalid]
  obtain ⟨name, rest, hentries⟩ := List.exists_cons_of_ne_nil h
  simp only [hentries]
  split_ifs <;> rfl

/-- What a step of the walk does: one directory up, and at most the one that it leaves is gone. -/
theorem tick_cases (h : s.cleanupTick host c = some c') :
    c.dir ≠ s.localPath ∧ c.dir ≠ "." ∧ host.readDir c.disk c.dir = some [] ∧
      c' = ⟨dir c.dir, (host.remove c.disk c.dir).getD c.disk⟩ := by
  unfold cleanupTick at h
  split_ifs at h with hspelled
  split at h
  · cases h
  · next hread => exact ⟨hspelled.1, hspelled.2, hread, (Option.some.inj h).symm⟩
  · cases h

theorem tick_of_empty (hbase : c.dir ≠ s.localPath) (hdot : c.dir ≠ ".")
    (hread : host.readDir c.disk c.dir = some []) :
    s.cleanupTick host c =
      some ⟨dir c.dir, (host.remove c.disk c.dir).getD c.disk⟩ := by
  unfold cleanupTick
  rw [if_pos ⟨hbase, hdot⟩, hread]

/-- The walk puts nothing on the disk. -/
theorem node_eq_none_of_halts {last : Climb} (h : Halts (s.cleanupTick host) c last)
    (hgone : c.disk.node l = none) : last.disk.node l = none := by
  induction h with
  | ended => exact hgone
  | moved htick _ ih =>
    apply ih
    obtain ⟨_, _, _, rfl⟩ := tick_cases htick
    cases hremove : host.remove _ _ with
    | none => exact hgone
    | some disk' =>
      change disk'.node l = none
      rw [Disk.node_remove (Host.remove_eq_some.mp hremove).2.2]
      split_ifs
      · rfl
      · exact hgone

theorem EmptiedInside.refl : EmptiedInside base disk disk := fun _ h => absurd rfl h

/-- A directory below `base` is gone first. -/
theorem emptiedInside_iff_of_remove {after : Disk File} (hremove : disk.remove l = some disk')
    (hinside : Inside base l) (hdir : disk.IsDir l)
    (hgone : ∀ k, disk'.node k = none → after.node k = none) :
    EmptiedInside base disk after ↔ EmptiedInside base disk' after := by
  have hnode := Disk.node_remove hremove
  have hl : disk'.node l = none := by rw [hnode, if_pos rfl]
  constructor
  · intro hemptied k hchanged
    by_cases hk : k = l
    · subst hk
      exact absurd ((hgone k hl).trans hl.symm) hchanged
    · have hkeep : disk'.node k = disk.node k := by rw [hnode, if_neg hk]
      obtain ⟨hbelow, hwas, hnow⟩ := hemptied k (hkeep ▸ hchanged)
      exact ⟨hbelow, hkeep.trans hwas, hnow⟩
  · intro hemptied k hchanged
    by_cases hk : k = l
    · subst hk
      exact ⟨hinside, hdir, hgone k hl⟩
    · have hkeep : disk'.node k = disk.node k := by rw [hnode, if_neg hk]
      obtain ⟨hbelow, hwas, hnow⟩ := hemptied k (hkeep ▸ hchanged)
      exact ⟨hbelow, hkeep.symm.trans hwas, hnow⟩

/-! ### One directory -/

/-- The walk from a path that is neither where it ends. -/
structure Climbing (s : LocalStorage) (p : Path) : Prop where
  valid : p.Valid
  not_base : p.render ≠ s.localPath
  not_dot : p.render ≠ "."

theorem staysFrom_of_over (h : s.cleanupTick host ⟨p.render, disk⟩ = none) :
    StaysFrom s host disk p :=
  ⟨⟨p.render, disk⟩, .ended h, EmptiedInside.refl⟩

theorem readDir_of_clear (hvalid : p.Valid)
    (h : Clear host disk (FileTree.locate host.cwd p)) :
    host.readDir disk p.render = some [] := by
  rw [Host.readDir_eq_some, locate_render hvalid]
  exact ⟨h.isDir, h.readable, h.empty⟩

/-- A directory that is not clear ends the walk there or one level up; what is on the disk
stays. -/
theorem staysFrom_of_not_clear (hvalid : p.Valid) (hup : ¬ UpOnly p)
    (h : ¬ Clear host disk (FileTree.locate host.cwd p)) : StaysFrom s host disk p := by
  cases htick : s.cleanupTick host ⟨p.render, disk⟩ with
  | none => exact staysFrom_of_over htick
  | some c =>
    obtain ⟨_, _, hread, rfl⟩ := tick_cases htick
    rw [Host.readDir_eq_some, locate_render hvalid] at hread
    obtain ⟨hdir, hreadable, hempty⟩ := hread
    have hnames : p.names ≠ [] := by
      intro hnames
      have hrooted : p.rooted = true := by simpa [UpOnly, hnames] using hup
      have hroot : FileTree.locate host.cwd p = [] := by
        unfold FileTree.locate
        rw [if_pos hrooted, hnames]
      exact h ⟨hdir, hreadable, fun hne => absurd hroot hne, hempty⟩
    have hrefused : host.remove disk p.render = none := by
      rw [Option.eq_none_iff_forall_ne_some]
      intro disk' hremove
      obtain ⟨_, hdelete, _⟩ := Host.remove_eq_some.mp hremove
      rw [locate_render hvalid] at hdelete
      exact h ⟨hdir, hreadable, fun _ => hdelete, hempty⟩
    rw [hrefused, dir_render hvalid] at htick
    refine ⟨⟨p.parent.render, disk⟩, .moved htick (.ended ?_), EmptiedInside.refl⟩
    apply tick_eq_none_of_entries hvalid.parent
    -- The directory that was not removed is still an entry of the one above.
    obtain ⟨front, name, hsplit⟩ := (List.eq_nil_or_concat p.names).resolve_left hnames
    rw [List.concat_eq_append] at hsplit
    have hlocate : FileTree.locate host.cwd p =
        FileTree.locate host.cwd p.parent ++ [name] := by
      rw [Path.parent_name hnames, hsplit, List.dropLast_concat, ← locate_append, ← hsplit]
    have hentry : name ∈ disk.entries (FileTree.locate host.cwd p.parent) := by
      rw [Disk.mem_entries, ← hlocate, hdir]
      exact Option.some_ne_none _
    exact List.ne_nil_of_mem hentry

/-- A clear directory is removed. -/
theorem tick_of_clear (hclimbing : Climbing s p) (hnames : p.names ≠ [])
    (h : Clear host disk (FileTree.locate host.cwd p)) :
    ∃ disk', disk.remove (FileTree.locate host.cwd p) = some disk' ∧
      s.cleanupTick host ⟨p.render, disk⟩ = some ⟨p.parent.render, disk'⟩ := by
  have hvalid := hclimbing.valid
  have hroot : FileTree.locate host.cwd p ≠ [] := by
    unfold FileTree.locate
    split_ifs
    · exact hnames
    · simp [hnames]
  obtain ⟨disk', hremove⟩ := Option.isSome_iff_exists.mp
    (Disk.remove_isSome.mpr ⟨hroot, h.isDir ▸ Option.some_ne_none _, h.empty⟩)
  have hremoved : host.remove disk p.render = some disk' := by
    rw [Host.remove_eq_some, parse_render hvalid, locate_render hvalid]
    exact ⟨hnames, h.deletable hroot, hremove⟩
  refine ⟨disk', hremove, ?_⟩
  have hread := readDir_of_clear hvalid h
  rw [tick_of_empty (c := ⟨p.render, disk⟩) hclimbing.not_base hclimbing.not_dot hread]
  simp only [hremoved, dir_render hvalid, Option.getD_some]

/-- Up from the working directory nothing is removed, and the walk comes to an end. -/
theorem staysFrom_of_upOnly (hup : UpOnly p) (hvalid : p.Valid) : StaysFrom s host disk p := by
  obtain ⟨hrelative, hnames⟩ := hup
  induction hups : p.ups generalizing p with
  | zero =>
    have hp : p = start false := by
      cases p
      simp_all [start]
    refine staysFrom_of_over (tick_eq_none_of_spelled (Or.inr ?_))
    rw [hp]
    rfl
  | succ n ih =>
    cases htick : s.cleanupTick host ⟨p.render, disk⟩ with
    | none => exact staysFrom_of_over htick
    | some c =>
      obtain ⟨_, _, _, rfl⟩ := tick_cases htick
      have hrefused : host.remove disk p.render = none :=
        Host.remove_eq_none (by rw [parse_render hvalid]; exact hnames)
      rw [hrefused, dir_render hvalid] at htick
      have hparent : p.parent = { p with ups := p.ups - 1 } := Path.parent_up hnames
      obtain ⟨last, hhalts, hemptied⟩ :=
        ih (p := p.parent) hvalid.parent (p.parent_rooted.trans hrelative)
          (by rw [hparent]; exact hnames) (by rw [hparent, hups]; rfl)
      exact ⟨last, .moved htick hhalts, hemptied⟩

/-! ### The way -/

theorem clear_of_bare (hbelow : FileTree.locate host.cwd top <+: FileTree.locate host.cwd p)
    (h : Bare host disk top p) : Clear host disk (FileTree.locate host.cwd p) := by
  obtain ⟨hdir, hread, hdelete⟩ := h.way _ hbelow (List.prefix_refl _)
  refine ⟨hdir, hread, hdelete, ?_⟩
  rw [List.eq_nil_iff_forall_not_mem]
  intro name hname
  have hpre := h.alone _ (hbelow.trans (List.prefix_append _ [name]))
    (Disk.mem_entries.mp hname)
  have hlength := hpre.length_le
  rw [List.length_append, List.length_singleton] at hlength
  omega

theorem bare_of_clear (h : Clear host disk (FileTree.locate host.cwd p)) :
    Bare host disk p p := by
  constructor
  · intro l habove hbelow
    obtain rfl := hbelow.eq_of_length_le habove.length_le
    exact ⟨h.isDir, h.readable, h.deletable⟩
  · intro l habove hsome
    by_cases hl : l = FileTree.locate host.cwd p
    · rw [hl]
    · exact absurd (Disk.node_eq_none_of_inside h.empty ⟨habove, hl⟩) hsome

/-- Removing the last directory of the way leaves a way that is shorter by it. -/
theorem bare_iff_of_remove
    (hclear : Clear host disk (FileTree.locate host.cwd top ++ names ++ [name]))
    (hremove : disk.remove (FileTree.locate host.cwd top ++ names ++ [name]) = some disk') :
    Bare host disk top { top with names := top.names ++ (names ++ [name]) } ↔
      Bare host disk' top { top with names := top.names ++ names } := by
  have hnode := Disk.node_remove hremove
  have hgone := hnode (FileTree.locate host.cwd top ++ names ++ [name])
  rw [if_pos rfl] at hgone
  have hkeep : ∀ l, l ≠ FileTree.locate host.cwd top ++ names ++ [name] →
      disk'.node l = disk.node l := by
    intro l hl
    rw [hnode, if_neg hl]
  have hway : ∀ l, l <+: FileTree.locate host.cwd top ++ names →
      l ≠ FileTree.locate host.cwd top ++ names ++ [name] := by
    rintro l hpre rfl
    have hlength := hpre.length_le
    rw [List.length_append, List.length_singleton] at hlength
    omega
  constructor
  · intro hbare
    rcases hbare with ⟨hbareWay, halone⟩
    rw [locate_append, ← List.append_assoc] at hbareWay halone
    constructor
    · intro l habove hbelow
      rw [locate_append] at hbelow
      obtain ⟨hdir, hrest⟩ := hbareWay l habove (hbelow.trans (List.prefix_append _ _))
      exact ⟨(hkeep l (hway l hbelow)).trans hdir, hrest⟩
    · intro l habove hsome
      rw [locate_append]
      have hl : l ≠ FileTree.locate host.cwd top ++ names ++ [name] := by
        rintro rfl
        exact hsome hgone
      rw [hkeep l hl] at hsome
      exact (List.prefix_concat_iff.mp (halone l habove hsome)).resolve_left hl
  · intro hbare
    rcases hbare with ⟨hbareWay, halone⟩
    rw [locate_append] at hbareWay halone
    constructor
    · intro l habove hbelow
      rw [locate_append, ← List.append_assoc] at hbelow
      rcases List.prefix_concat_iff.mp hbelow with rfl | hpre
      · exact ⟨hclear.isDir, hclear.readable, hclear.deletable⟩
      · obtain ⟨hdir, hrest⟩ := hbareWay l habove hpre
        exact ⟨(hkeep l (hway l hpre)).symm.trans hdir, hrest⟩
    · intro l habove hsome
      rw [locate_append, ← List.append_assoc]
      by_cases hl : l = FileTree.locate host.cwd top ++ names ++ [name]
      · rw [hl]
      · rw [← hkeep l hl] at hsome
        exact (halone l habove hsome).trans (List.prefix_append _ _)

/-! ### The walk -/

theorem climbing_or_over (hvalid : p.Valid) :
    Climbing s p ∨ p.render = s.localPath ∨ UpOnly p := by
  by_cases hbase : p.render = s.localPath
  · exact Or.inr (Or.inl hbase)
  by_cases hdot : p.render = "."
  · right
    right
    have hp : p = parse "." := by rw [← hdot, parse_render hvalid]
    rw [hp]
    unfold UpOnly
    decide
  · exact Or.inl ⟨hvalid, hbase, hdot⟩

/-- At the outermost directory, which is not below the configured path. -/
theorem staysFrom_outermost_iff (hvalid : top.Valid)
    (hlimit : Inside (host.locate s.localPath) (FileTree.locate host.cwd top) → UpOnly top) :
    StaysFrom s host disk top ↔
      top.render = s.localPath ∨ UpOnly top ∨ ¬ Bare host disk top top := by
  constructor
  · intro hstays
    by_contra hnone
    simp only [not_or, not_not] at hnone
    obtain ⟨hbase, hup, hbare⟩ := hnone
    have hclimbing : Climbing s top :=
      (climbing_or_over hvalid).resolve_right fun h => h.elim hbase hup
    have hclear := clear_of_bare (List.prefix_refl _) hbare
    obtain ⟨last, hhalts, hemptied⟩ := hstays
    by_cases hnames : top.names = []
    · -- The root reads empty: the walk does not leave it.
      have hrooted : top.rooted = true := by
        cases hrooted : top.rooted with
        | true => rfl
        | false => exact absurd ⟨hrooted, hnames⟩ hup
      have hread := readDir_of_clear hvalid hclear
      have hrefused : host.remove disk top.render = none :=
        Host.remove_eq_none (by rw [parse_render hvalid]; exact hnames)
      have hparent : top.parent = top := by
        rw [Path.parent_up hnames, hvalid.rooted_ups hrooted]
        cases top
        simp_all
        exact (hvalid.rooted_ups rfl).symm
      have hcycle : s.cleanupTick host ⟨top.render, disk⟩ = some ⟨top.render, disk⟩ := by
        rw [tick_of_empty (c := ⟨top.render, disk⟩) hclimbing.not_base hclimbing.not_dot hread]
        simp only [hrefused, dir_render hvalid, hparent, Option.getD_none]
      exact not_halts_of_cycle hcycle hhalts
    · obtain ⟨disk', hremove, htick⟩ := tick_of_clear hclimbing hnames hclear
      rw [halts_iff_of_next htick] at hhalts
      have hgone := node_eq_none_of_halts (l := FileTree.locate host.cwd top) hhalts
        (by rw [Disk.node_remove hremove, if_pos rfl])
      have hchanged : last.disk.node (FileTree.locate host.cwd top) ≠
          disk.node (FileTree.locate host.cwd top) := by
        rw [hgone, hclear.isDir]
        exact (Option.some_ne_none _).symm
      exact hup (hlimit (hemptied _ hchanged).1)
  · rintro (hbase | hup | hbare)
    · exact staysFrom_of_over (tick_eq_none_of_spelled (Or.inl hbase))
    · exact staysFrom_of_upOnly hup hvalid
    · by_cases hup : UpOnly top
      · exact staysFrom_of_upOnly hup hvalid
      · exact staysFrom_of_not_clear hvalid hup fun hclear => hbare (bare_of_clear hclear)

/-- Along the way up to the outermost directory. -/
theorem staysFrom_iff
    (hvalid : Path.Valid { top with names := top.names ++ names })
    (hbase : names = [] ∨ host.locate s.localPath <+: FileTree.locate host.cwd top)
    (hlimit : Inside (host.locate s.localPath) (FileTree.locate host.cwd top) → UpOnly top) :
    StaysFrom s host disk { top with names := top.names ++ names } ↔
      top.render = s.localPath ∨ UpOnly top ∨
        ¬ Bare host disk top { top with names := top.names ++ names } := by
  induction names using List.reverseRecOn generalizing disk with
  | nil =>
    simp only [List.append_nil] at hvalid ⊢
    exact staysFrom_outermost_iff hvalid hlimit
  | append_singleton names name ih =>
    have habove := hbase.resolve_left (by simp)
    set p : Path := { top with names := top.names ++ (names ++ [name]) } with hp
    have hlocate : FileTree.locate host.cwd p =
        FileTree.locate host.cwd top ++ names ++ [name] := by
      rw [hp, locate_append, List.append_assoc]
    have hinside : Inside (host.locate s.localPath) (FileTree.locate host.cwd p) := by
      rw [hlocate, List.append_assoc]
      refine ⟨habove.trans (List.prefix_append _ _), ?_⟩
      intro heq
      have hlength := habove.length_le
      rw [← heq, List.length_append, List.length_append, List.length_singleton] at hlength
      omega
    have hnames : p.names ≠ [] := by simp [hp]
    have hup : ¬ UpOnly p := fun h => hnames h.2
    have hclimbing : Climbing s p := by
      refine (climbing_or_over hvalid).resolve_right ?_
      rintro (hspelled | h)
      · apply hinside.2
        rw [← hspelled, locate_render hvalid]
      · exact hup h
    by_cases hclear : Clear host disk (FileTree.locate host.cwd p)
    · obtain ⟨disk', hremove, htick⟩ := tick_of_clear hclimbing hnames hclear
      have hparent : p.parent = { top with names := top.names ++ names } := parent_append
      have hrest : StaysFrom s host disk p ↔ StaysFrom s host disk' p.parent := by
        unfold StaysFrom
        apply exists_congr
        intro last
        rw [halts_iff_of_next htick, and_congr_right_iff]
        intro hhalts
        exact emptiedInside_iff_of_remove hremove hinside hclear.isDir
          fun k hk => node_eq_none_of_halts hhalts hk
      have hbare : Bare host disk top p ↔ Bare host disk' top p.parent := by
        rw [hlocate] at hclear hremove
        rw [hparent]
        exact bare_iff_of_remove hclear hremove
      rw [hrest, hbare, hparent]
      apply ih (hparent ▸ hvalid.parent) (Or.inr habove)
    · have hstays : StaysFrom s host disk p := staysFrom_of_not_clear hvalid hup hclear
      have hbelow : FileTree.locate host.cwd top <+: FileTree.locate host.cwd p := by
        rw [hlocate, List.append_assoc]
        exact List.prefix_append _ _
      have hbare : ¬ Bare host disk top p := fun h => hclear (clear_of_bare hbelow h)
      simp [hstays, hbare]

/-- The way up from the outermost directory is not the walk's. -/
theorem outermost_spec (s : LocalStorage) (host : Host) (hvalid : p.Valid) :
    ∃ names, p = { s.outermost host p with names := (s.outermost host p).names ++ names } ∧
      (s.outermost host p).Valid ∧
      (names = [] ∨
        host.locate s.localPath <+: FileTree.locate host.cwd (s.outermost host p)) ∧
      (Inside (host.locate s.localPath) (FileTree.locate host.cwd (s.outermost host p)) →
        UpOnly (s.outermost host p)) := by
  set base := host.locate s.localPath with hbase
  by_cases hbelow : base <+: FileTree.locate host.cwd p
  · set n := p.names.length - ((FileTree.locate host.cwd p).length - base.length) with hn
    have htop : s.outermost host p = { p with names := p.names.take n } := if_pos hbelow
    have hsplit : FileTree.locate host.cwd p =
        FileTree.locate host.cwd { p with names := p.names.take n } ++ p.names.drop n := by
      rw [← locate_append, List.take_append_drop]
    have hlength := congrArg List.length hsplit
    rw [List.length_append, List.length_drop] at hlength
    have hbound := hbelow.length_le
    refine ⟨p.names.drop n, ?_, ?_, ?_, ?_⟩
    · rw [htop]
      simp
    · rw [htop]
      exact ⟨fun name hname => hvalid.plain name (List.mem_of_mem_take hname), hvalid.rooted_ups⟩
    · right
      rw [htop]
      apply List.prefix_of_prefix_length_le hbelow
      · exact ⟨_, hsplit.symm⟩
      · omega
    · rw [htop]
      rintro ⟨hpre, hne⟩
      -- Below the configured path there is only the working directory left, or up from it.
      have hlonger := lt_of_le_of_ne hpre.length_le fun heq => hne (hpre.eq_of_length heq).symm
      have hnone : n = 0 := by omega
      have hnames : p.names.take n = [] := by rw [hnone, List.take_zero]
      refine ⟨?_, hnames⟩
      cases hrooted : p.rooted with
      | false => rfl
      | true =>
        simp [FileTree.locate, hrooted, hnames] at hlonger
  · have htop : s.outermost host p = p := if_neg hbelow
    rw [htop]
    exact ⟨[], by simp, hvalid, Or.inl rfl, fun hinside => absurd hinside.1 hbelow⟩

theorem staysInside_iff_held (s : LocalStorage) (host : Host) (disk : Disk File)
    (path : String) : StaysInside s host disk path ↔ Held s host disk path := by
  have hvalid : (parse (dir path)).Valid := parse_valid _
  obtain ⟨names, hsplit, htop, hbase, hlimit⟩ := outermost_spec s host hvalid
  have hfrom : StaysInside s host disk path ↔ StaysFrom s host disk (parse (dir path)) := by
    unfold StaysInside StaysFrom cleanupEmptyDirs
    rw [show (parse (dir path)).render = dir path from render_parse_clean _]
  unfold Held
  rw [hfrom]
  simp only
  generalize s.outermost host (parse (dir path)) = top at *
  rw [hsplit] at hvalid ⊢
  exact staysFrom_iff hvalid hbase hlimit

/-- The walk of every pass stays inside the storage exactly when it is held. -/
theorem pass_staysInside_iff (s : LocalStorage) (host : Host) (disk : Disk File) (pass : Pass) :
    (∀ disk' ∈ pass.reaches s host disk, StaysInside s host disk' (pass.path s)) ↔
      ∀ disk' ∈ pass.reaches s host disk, Held s host disk' (pass.path s) :=
  forall₂_congr fun disk' _ => staysInside_iff_held s host disk' (pass.path s)

/-- With the configured path in clean form, the walk for an object of the storage is held. -/
theorem held_of_clean {bucket key : String} (hclean : clean s.localPath = s.localPath)
    (hups : (relative bucket key).ups = 0) (hnames : (relative bucket key).names ≠ []) :
    Held s host disk (s.getFullPath bucket key) := by
  have hpath : parse (s.getFullPath bucket key) =
      { parse s.localPath with
        names := (parse s.localPath).names ++ (relative bucket key).names } := by
    rw [parse_getFullPath]
    simp [Path.resolve, hups]
  have hfrom : parse (dir (s.getFullPath bucket key)) =
      { parse s.localPath with
        names := (parse s.localPath).names ++ (relative bucket key).names.dropLast } := by
    rw [← render_parse_getFullPath, parse_dir_render (parse_valid _), hpath,
      Path.parent_name (by simp [hnames]), List.dropLast_append_of_ne_nil hnames]
  have hlocate : FileTree.locate host.cwd
      { parse s.localPath with
        names := (parse s.localPath).names ++ (relative bucket key).names.dropLast } =
      FileTree.locate host.cwd (parse s.localPath) ++ (relative bucket key).names.dropLast :=
    locate_append _ _
  have htop : s.outermost host (parse (dir (s.getFullPath bucket key))) = parse s.localPath := by
    unfold outermost Host.locate
    simp only
    rw [hfrom, hlocate, if_pos (List.prefix_append _ _)]
    simp
  left
  rw [htop]
  exact hclean

/-- The default storage, in `/app`, when its only object is `a.txt`. -/
def appDisk : Disk File :=
  Disk.ofList
    [(["app".toList], .dir), (["app".toList, "storage".toList], .dir),
      (["app".toList, "storage".toList, "a.txt".toList], .file ⟨[], 0⟩)]

def appHost : Host := ⟨["app".toList], fun _ _ => none, fun _ _ => ⟨"", false⟩⟩

/-- That object is deleted. -/
def emptyStorageDisk : Disk File :=
  (Pass.reaches defaultStorage appHost appDisk (.deleteFile "" "a.txt")).getD Disk.empty

/-- With the default path, deleting the last object removes the storage directory. -/
theorem default_storage_removed :
    ¬ ∀ (s : LocalStorage) (host : Host) (disk : Disk File) (pass : Pass),
      ∀ disk' ∈ pass.reaches s host disk, StaysInside s host disk' (pass.path s) := by
  intro hinside
  have hreaches : Pass.reaches defaultStorage appHost appDisk (.deleteFile "" "a.txt") =
      some emptyStorageDisk := by
    have hsome : (Pass.reaches defaultStorage appHost appDisk
        (.deleteFile "" "a.txt")).isSome = true := by decide +kernel
    obtain ⟨disk', hdisk⟩ := Option.isSome_iff_exists.mp hsome
    rw [emptyStorageDisk, hdisk, Option.getD_some]
  obtain ⟨last, hhalts, hemptied⟩ := hinside defaultStorage appHost appDisk _ _ hreaches
  let start : Climb :=
    ⟨dir (Pass.path defaultStorage (.deleteFile "" "a.txt")), emptyStorageDisk⟩
  have hover : (defaultStorage.cleanupTick appHost
      (runFor (defaultStorage.cleanupTick appHost) 1 start)).isNone = true := by decide +kernel
  have hlast := hhalts.eq_runFor (Option.isNone_iff_eq_none.mp hover)
  have hgone : (last.disk.node ["app".toList, "storage".toList]).isNone = true := by
    rw [hlast]
    decide +kernel
  have hthere : (emptyStorageDisk.node ["app".toList, "storage".toList]).isSome = true := by
    decide +kernel
  have hchanged : last.disk.node ["app".toList, "storage".toList] ≠
      emptyStorageDisk.node ["app".toList, "storage".toList] := by
    rw [Option.isNone_iff_eq_none.mp hgone]
    intro heq
    rw [← heq] at hthere
    cases hthere
  have hbase : ["app".toList, "storage".toList] = appHost.locate defaultStorage.localPath := by
    decide +kernel
  exact (hemptied _ hchanged).1.2 hbase

end LocalStorage

end WhatsappGateway.Storage

import Mathlib.Data.Char
import Mathlib.Data.List.AList
import Mathlib.Data.List.Lex
import Mathlib.Data.List.Sort
import WhatsappGateway.Lib.FilePath

/-!
A file system without links: directories and files at locations, which are the names from the
root down. That the root is a directory, that whatever is on the disk lies in a directory, and
that its names are names of a path, is part of a disk. The operations fail where the system's
would for the disk's own sake; what else can be refused is up to the caller.
-/

namespace WhatsappGateway.Lib.FileTree

open FilePath

abbrev Location := List Part

/-- Where a path leads from the working directory. -/
def locate (cwd : Location) (p : Path) : Location :=
  if p.rooted then p.names else cwd.take (cwd.length - p.ups) ++ p.names

/-- `l` lies below `top`. -/
def Inside (top l : Location) : Prop := top <+: l ∧ l ≠ top

variable {cwd : Location}

theorem locate_append (p : Path) (names : List Part) :
    locate cwd { p with names := p.names ++ names } = locate cwd p ++ names := by
  unfold locate
  cases p.rooted <;> simp

/-- A relative path leads so many levels up from a location, and down from there. -/
theorem locate_resolve (p rel : Path) :
    locate cwd (p.resolve rel) =
      (locate cwd p).take ((locate cwd p).length - rel.ups) ++ rel.names := by
  unfold locate Path.resolve
  cases hrooted : p.rooted with
  | true => simp
  | false =>
    simp only [Bool.false_eq_true, if_false, List.length_append, List.length_take,
      ← List.append_assoc, List.take_append, List.take_take]
    congr 2
    · congr 1
      omega
    · congr 1
      omega

inductive Node (α : Type*) where
  | dir
  | file (content : α)

structure Disk (α : Type*) where
  nodes : AList (fun _ : Location => Node α)
  root : nodes.lookup [] = some .dir
  parent : ∀ l name, l ++ [name] ∈ nodes → nodes.lookup l = some .dir
  plain : ∀ l ∈ nodes, ∀ name ∈ l, Plain name

variable {α : Type*}

namespace Disk

def node (d : Disk α) (l : Location) : Option (Node α) := d.nodes.lookup l

def IsDir (d : Disk α) (l : Location) : Prop := d.node l = some .dir

instance (d : Disk α) (l : Location) : Decidable (d.IsDir l) :=
  match h : d.node l with
  | some .dir => isTrue h
  | some (.file _) => isFalse fun hdir => by simp [IsDir, h] at hdir
  | none => isFalse fun hdir => by simp [IsDir, h] at hdir

/-- The names in a directory. -/
def entries (d : Disk α) (l : Location) : List Part :=
  d.nodes.keys.filterMap fun key => if key.dropLast = l then key.getLast? else none

def fileAt (d : Disk α) (l : Location) : Option α :=
  match d.node l with
  | some (.file a) => some a
  | _ => none

variable {d d' : Disk α} {l k : Location} {name : Part} {a : α}

theorem node_parent (h : d.node (l ++ [name]) ≠ none) : d.node l = some .dir := by
  apply d.parent l name
  rwa [node, Ne, AList.lookup_eq_none, not_not] at h

theorem plain_of_node (h : d.node l ≠ none) : ∀ name ∈ l, Plain name := by
  apply d.plain
  rwa [node, Ne, AList.lookup_eq_none, not_not] at h

theorem mem_entries : name ∈ d.entries l ↔ d.node (l ++ [name]) ≠ none := by
  rw [node, Ne, AList.lookup_eq_none, not_not, AList.mem_keys]
  unfold entries
  rw [List.mem_filterMap]
  constructor
  · rintro ⟨key, hkey, hname⟩
    split_ifs at hname with hdir
    obtain ⟨front, rfl⟩ := List.getLast?_eq_some_iff.mp hname
    rw [List.dropLast_concat] at hdir
    rwa [← hdir]
  · intro hkey
    exact ⟨l ++ [name], hkey, by simp⟩

theorem entries_eq_nil_of_not_dir (h : ¬ d.IsDir l) : d.entries l = [] := by
  rw [List.eq_nil_iff_forall_not_mem]
  intro name hname
  exact h (node_parent (mem_entries.mp hname))

/-- What is on the disk lies in directories, all the way up. -/
theorem node_of_inside (hinside : Inside l k) (h : d.node k ≠ none) : d.node l = some .dir := by
  obtain ⟨⟨rest, rfl⟩, hne⟩ := hinside
  induction rest using List.reverseRecOn with
  | nil => exact absurd (List.append_nil l) hne
  | append_singleton rest name ih =>
    rw [← List.append_assoc] at h
    have hdir := node_parent h
    by_cases hrest : rest = []
    · rwa [hrest, List.append_nil] at hdir
    · exact ih (by rw [hdir]; exact Option.some_ne_none _) (by simpa using hrest)

/-- A directory without entries has nothing below it. -/
theorem node_eq_none_of_inside (hentries : d.entries l = []) (hinside : Inside l k) :
    d.node k = none := by
  obtain ⟨⟨rest, rfl⟩, hne⟩ := hinside
  cases rest with
  | nil => exact absurd (List.append_nil l) hne
  | cons name rest =>
    by_contra hsome
    have hname : d.node (l ++ [name]) ≠ none := by
      cases rest with
      | nil => exact hsome
      | cons second rest =>
        have hdir := node_of_inside (d := d) (l := l ++ [name])
          (k := l ++ name :: second :: rest) ⟨⟨second :: rest, by simp⟩, by simp⟩ hsome
        rw [hdir]
        exact Option.some_ne_none _
    have hmem := mem_entries.mpr hname
    rw [hentries] at hmem
    cases hmem

/-- What a walk over the tree below `top` visits, in its order: a directory comes before what it
holds, and the names in a directory are in lexical order. -/
def walk (d : Disk α) (top : Location) : List Location :=
  (d.nodes.keys.filter (top.isPrefixOf ·)).insertionSort (· ≤ ·)

theorem mem_walk {top : Location} : l ∈ d.walk top ↔ top <+: l ∧ d.node l ≠ none := by
  unfold walk
  rw [(List.perm_insertionSort _ _).mem_iff, List.mem_filter, List.isPrefixOf_iff_prefix,
    node, Ne, AList.lookup_eq_none, not_not, AList.mem_keys, and_comm]

theorem walk_nodup (d : Disk α) (top : Location) : (d.walk top).Nodup :=
  (List.perm_insertionSort _ _).nodup_iff.mpr (d.nodes.keys_nodup.filter _)

/-- A file, or a directory without entries, is taken off the disk. The root stays. -/
def remove (d : Disk α) (l : Location) : Option (Disk α) :=
  if h : l ≠ [] ∧ d.node l ≠ none ∧ d.entries l = [] then
    some
      { nodes := d.nodes.erase l
        root := by rw [AList.lookup_erase_ne h.1.symm, d.root]
        parent := by
          intro k name hkey
          rw [AList.mem_erase] at hkey
          have hne : k ≠ l := by
            rintro rfl
            have hname : name ∈ d.entries k := by
              rw [mem_entries, node, Ne, AList.lookup_eq_none, not_not]
              exact hkey.2
            rw [h.2.2] at hname
            cases hname
          rw [AList.lookup_erase_ne hne]
          exact d.parent k name hkey.2
        plain := fun k hkey => d.plain k (AList.mem_erase.mp hkey).2 }
  else none

/-- A node is put on the disk, in a directory; it takes the place of a file. -/
def put (d : Disk α) (l : Location) (n : Node α) : Option (Disk α) :=
  if h : (∀ name ∈ l, Plain name) ∧ l ≠ [] ∧ d.IsDir l.dropLast ∧ ¬ d.IsDir l then
    some
      { nodes := d.nodes.insert l n
        root := by rw [AList.lookup_insert_ne h.2.1.symm, d.root]
        parent := by
          intro k name hkey
          have hne : k ≠ l := by
            rintro rfl
            rcases (AList.mem_insert _).mp hkey with heq | hkey
            · exact absurd heq (by simp)
            · exact h.2.2.2 (d.parent k name hkey)
          rw [AList.lookup_insert_ne hne]
          rcases (AList.mem_insert _).mp hkey with heq | hkey
          · rw [← heq, List.dropLast_concat] at h
            exact h.2.2.1
          · exact d.parent k name hkey
        plain := by
          intro k hkey
          rcases (AList.mem_insert _).mp hkey with rfl | hkey
          · exact h.1
          · exact d.plain k hkey }
  else none

/-- The disk that holds nothing. -/
def empty : Disk α where
  nodes := AList.singleton [] .dir
  root := rfl
  parent l name hkey := by
    rw [AList.mem_keys, AList.keys_singleton, List.mem_singleton] at hkey
    simp at hkey
  plain l hkey := by
    rw [AList.mem_keys, AList.keys_singleton, List.mem_singleton] at hkey
    simp [hkey]

/-- The nodes are put on the disk one by one. -/
def ofList (nodes : List (Location × Node α)) : Disk α :=
  nodes.foldl (fun d entry => (d.put entry.1 entry.2).getD d) empty

theorem remove_isSome :
    (d.remove l).isSome = true ↔ l ≠ [] ∧ d.node l ≠ none ∧ d.entries l = [] := by
  unfold remove
  split_ifs with h
  · simpa using h
  · simpa using h

theorem put_isSome {n : Node α} :
    (d.put l n).isSome = true ↔
      (∀ name ∈ l, Plain name) ∧ l ≠ [] ∧ d.IsDir l.dropLast ∧ ¬ d.IsDir l := by
  unfold put
  split_ifs with h
  · simpa using h
  · simpa using h

theorem node_remove (h : d.remove l = some d') (k : Location) :
    d'.node k = if k = l then none else d.node k := by
  unfold remove at h
  split_ifs at h
  obtain rfl := Option.some.inj h
  unfold node
  split_ifs with hkey
  · rw [hkey]
    exact AList.lookup_erase l d.nodes
  · exact AList.lookup_erase_ne hkey

theorem node_put {n : Node α} (h : d.put l n = some d') (k : Location) :
    d'.node k = if k = l then some n else d.node k := by
  unfold put at h
  split_ifs at h
  obtain rfl := Option.some.inj h
  unfold node
  split_ifs with hkey
  · rw [hkey]
    exact AList.lookup_insert d.nodes
  · exact AList.lookup_insert_ne hkey

end Disk

end WhatsappGateway.Lib.FileTree

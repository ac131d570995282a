import WhatsappGateway.Lib.FileTree
import WhatsappGateway.Storage.Local

/-!
The file system that the local storage backend runs on: a disk of files, the working directory,
and what the system refuses for reasons that are not on the disk, such as permissions. The disk
is the state; the rest is fixed.
-/

namespace WhatsappGateway.Storage

open Lib FilePath FileTree

structure File where
  content : List UInt8
  modTime : Int
deriving DecidableEq, Repr

inductive Access where
  | read
  | create
  | delete
deriving DecidableEq, Repr

/-- `refuses` is the error of an access that the disk would allow, if it has one; `fault` is the
error of one that the disk does not allow. -/
structure Host where
  cwd : Location
  refuses : Access → Location → Option FsError
  fault : Access → Location → FsError

namespace Host

def locate (host : Host) (path : String) : Location := FileTree.locate host.cwd (parse path)

/-- `os.Stat`; `none` is an error for which `os.IsNotExist` holds. -/
def stat (host : Host) (disk : Disk File) (path : String) : Option (Node File) :=
  disk.node (host.locate path)

/-- The names that `os.ReadDir` returns; `none` is an error. -/
def readDir (host : Host) (disk : Disk File) (path : String) : Option (List Part) :=
  let l := host.locate path
  if disk.IsDir l ∧ host.refuses .read l = none then some (disk.entries l) else none

/-- `os.Remove`. The root, `.` and what ends in `..` cannot be removed. -/
def remove (host : Host) (disk : Disk File) (path : String) : Option (Disk File) :=
  let l := host.locate path
  if (parse path).names = [] ∨ host.refuses .delete l ≠ none then none else disk.remove l

variable {host : Host} {disk disk' : Disk File} {path : String} {names : List Part}

theorem readDir_eq_some :
    host.readDir disk path = some names ↔
      disk.IsDir (host.locate path) ∧ host.refuses .read (host.locate path) = none ∧
        disk.entries (host.locate path) = names := by
  unfold readDir
  simp only
  split_ifs with h
  · simp [h]
  · simp only [false_iff]
    rintro ⟨hdir, hread, _⟩
    exact h ⟨hdir, hread⟩

theorem remove_eq_some :
    host.remove disk path = some disk' ↔
      (parse path).names ≠ [] ∧ host.refuses .delete (host.locate path) = none ∧
        disk.remove (host.locate path) = some disk' := by
  unfold remove
  simp only
  split_ifs with h
  · rcases h with h | h <;> simp [h]
  · rw [not_or, not_not] at h
    simp [h]

/-- What has no name in its path stays. -/
theorem remove_eq_none (h : (parse path).names = []) : host.remove disk path = none :=
  if_pos (Or.inl h)

end Host

end WhatsappGateway.Storage

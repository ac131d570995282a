import WhatsappGateway.Lib.FilePath

/-!
The local storage backend: which paths its operations use. An operation is the
list of the calls that it makes on the file system, given the outcome of each
call, and what it returns. Of a file's information only the key is kept.
-/

namespace WhatsappGateway.Storage

open Lib FilePath

/-- The base path is checked when the storage is created. -/
structure LocalStorage where
  localPath : String
  healthy : Bool
  localPath_ne : localPath ≠ ""

def newLocalStorage (localPath : String) : Except String LocalStorage :=
  if h : localPath = "" then .error "local storage path is required" else .ok ⟨localPath, true, h⟩

inductive FsCall where
  | mkdirAll (path : String)
  | create (path : String)
  | copy (path : String)
  | chmod (path : String)
  | open (path : String)
  | stat (path : String)
  | remove (path : String)
  | walk (path : String)
deriving DecidableEq, Repr

structure FsError where
  text : String
  notExist : Bool
deriving DecidableEq, Repr

/-- The outcome of each call; `none` is a success. -/
abbrev FileSystem := FsCall → Option FsError

/-- The path of the object that a call is about. The directories that an upload makes for its
object are no objects. -/
def FsCall.target : FsCall → Option String
  | .mkdirAll _ => none
  | .create path | .copy path | .chmod path | .open path | .stat path | .remove path
  | .walk path => some path

namespace LocalStorage

def getFullPath (s : LocalStorage) (bucket key : String) : String :=
  if bucket ≠ "" then join [s.localPath, bucket, key] else join [s.localPath, key]

def unhealthy : String := "storage client is not healthy"

/-- A partly written file is removed; a failed `Chmod` is only logged. -/
def uploadFile (s : LocalStorage) (fs : FileSystem) (bucket key : String) :
    List FsCall × Except String String :=
  if !s.healthy then ([], .error unhealthy)
  else
    let fullPath := s.getFullPath bucket key
    match fs (.mkdirAll (dir fullPath)) with
    | some err => ([.mkdirAll (dir fullPath)], .error ("failed to create directory: " ++ err.text))
    | none =>
      match fs (.create fullPath) with
      | some err =>
        ([.mkdirAll (dir fullPath), .create fullPath],
          .error ("failed to create file: " ++ err.text))
      | none =>
        match fs (.copy fullPath) with
        | some err =>
          ([.mkdirAll (dir fullPath), .create fullPath, .copy fullPath, .remove fullPath],
            .error ("failed to write file: " ++ err.text))
        | none =>
          ([.mkdirAll (dir fullPath), .create fullPath, .copy fullPath, .chmod fullPath], .ok key)

def getFile (s : LocalStorage) (fs : FileSystem) (bucket key : String) :
    List FsCall × Except String String :=
  if !s.healthy then ([], .error unhealthy)
  else
    let fullPath := s.getFullPath bucket key
    match fs (.open fullPath) with
    | some err => ([.open fullPath], .error ("failed to open file: " ++ err.text))
    | none =>
      match fs (.stat fullPath) with
      | some err =>
        ([.open fullPath, .stat fullPath], .error ("failed to get file info: " ++ err.text))
      | none => ([.open fullPath, .stat fullPath], .ok key)

/-- Only a `Stat` that says that there is no such file ends the operation. -/
def deleteFile (s : LocalStorage) (fs : FileSystem) (bucket key : String) :
    List FsCall × Except String String :=
  if !s.healthy then ([], .error unhealthy)
  else
    let fullPath := s.getFullPath bucket key
    if (fs (.stat fullPath)).any FsError.notExist then
      ([.stat fullPath], .error ("file not found: " ++ key))
    else
      match fs (.remove fullPath) with
      | some err =>
        ([.stat fullPath, .remove fullPath], .error ("failed to delete file: " ++ err.text))
      | none => ([.stat fullPath, .remove fullPath], .ok key)

def listFiles (s : LocalStorage) (fs : FileSystem) (bucket keyPrefix : String) :
    List FsCall × Except String String :=
  if !s.healthy then ([], .error unhealthy)
  else
    let basePath := s.getFullPath bucket keyPrefix
    match fs (.walk basePath) with
    | some err => ([.walk basePath], .error ("failed to list files: " ++ err.text))
    | none => ([.walk basePath], .ok keyPrefix)

end LocalStorage

/-- The handler of the storage route. The key is what the wildcard matched; the status is that
of the response before the file is streamed. -/
def StorageHandler.getFile (s : LocalStorage) (fs : FileSystem) (key : String) :
    List FsCall × Nat :=
  if key = "" then ([], 400)
  else
    match s.getFile fs "" key with
    | (calls, .error _) => (calls, 404)
    | (calls, .ok _) => (calls, 200)

inductive Operation where
  | uploadFile
  | getFile
  | deleteFile
  | listFiles
deriving DecidableEq, Repr

namespace LocalStorage

def perform (s : LocalStorage) (fs : FileSystem) (bucket key : String) :
    Operation → List FsCall × Except String String
  | .uploadFile => s.uploadFile fs bucket key
  | .getFile => s.getFile fs bucket key
  | .deleteFile => s.deleteFile fs bucket key
  | .listFiles => s.listFiles fs bucket key

/-- The objects that an operation accesses. -/
def accesses (s : LocalStorage) (fs : FileSystem) (bucket key : String) (op : Operation) :
    List String :=
  (s.perform fs bucket key op).1.filterMap FsCall.target

/-- In clean form, the path is the configured one or lies below it. -/
def Contained (s : LocalStorage) (path : String) : Prop := (parse s.localPath).Below (parse path)

/-- The clean form of bucket and key, from wherever the storage is. -/
def relative (bucket key : String) : Path :=
  parse (if bucket ≠ "" then join [".", bucket, key] else join [".", key])

/-- Bucket and key come back through the directories that they climb out of: the last ones of
the configured path, or all of an absolute path that they climb past. -/
def ComesBack (s : LocalStorage) (bucket key : String) : Prop :=
  let base := parse s.localPath
  let rel := relative bucket key
  (base.rooted = true ∨ rel.ups ≤ base.names.length) ∧
    base.names.drop (base.names.length - rel.ups) <+: rel.names

variable {s : LocalStorage} {fs : FileSystem} {bucket key path : String} {op : Operation}

theorem parse_getFullPath :
    parse (s.getFullPath bucket key) = (parse s.localPath).resolve (relative bucket key) := by
  unfold getFullPath relative
  split_ifs
  · exact parse_join s.localPath_ne (by simp)
  · exact parse_join s.localPath_ne (by simp)

theorem render_parse_getFullPath :
    (parse (s.getFullPath bucket key)).render = s.getFullPath bucket key := by
  unfold getFullPath
  split_ifs
  · exact render_parse_join s.localPath_ne _
  · exact render_parse_join s.localPath_ne _

theorem getFullPath_contained_iff :
    s.Contained (s.getFullPath bucket key) ↔ s.ComesBack bucket key := by
  unfold Contained ComesBack
  rw [parse_getFullPath]
  exact Path.below_resolve_iff _ _

/-- A key that climbs out of nothing stays in the storage. -/
theorem comesBack_of_ups (h : (relative bucket key).ups = 0) : s.ComesBack bucket key := by
  simp [ComesBack, h]

/-- Every object that an operation accesses is at the full path of its bucket and key. -/
theorem eq_of_mem_accesses (h : path ∈ s.accesses fs bucket key op) :
    s.healthy = true ∧ path = s.getFullPath bucket key := by
  unfold accesses perform at h
  cases hhealthy : s.healthy with
  | false =>
    cases op <;>
      simp [uploadFile, getFile, deleteFile, listFiles, hhealthy] at h
  | true =>
    refine ⟨rfl, ?_⟩
    cases op with
    | uploadFile =>
      simp only [uploadFile, hhealthy, Bool.not_true, Bool.false_eq_true, if_false] at h
      split at h
      · simp [FsCall.target] at h
      · split at h
        · simpa [FsCall.target, eq_comm] using h
        · split at h
          · simpa [FsCall.target, eq_comm] using h
          · simpa [FsCall.target, eq_comm] using h
    | getFile =>
      simp only [getFile, hhealthy, Bool.not_true, Bool.false_eq_true, if_false] at h
      split at h
      · simpa [FsCall.target] using h
      · split at h
        · simpa [FsCall.target] using h
        · simpa [FsCall.target] using h
    | deleteFile =>
      simp only [deleteFile, hhealthy, Bool.not_true, Bool.false_eq_true, if_false] at h
      split at h
      · simpa [FsCall.target] using h
      · split at h
        · simpa [FsCall.target] using h
        · simpa [FsCall.target] using h
    | listFiles =>
      simp only [listFiles, hhealthy, Bool.not_true, Bool.false_eq_true, if_false] at h
      split at h
      · simpa [FsCall.target] using h
      · simpa [FsCall.target] using h

/-- On a file system where every call succeeds, an operation does access its full path. -/
theorem getFullPath_mem_accesses (hhealthy : s.healthy = true) (bucket key : String)
    (op : Operation) :
    s.getFullPath bucket key ∈ s.accesses (fun _ => none) bucket key op := by
  cases op <;>
    simp [accesses, perform, uploadFile, getFile, deleteFile, listFiles, hhealthy, FsCall.target]

/-- What the operations access lies in the configured path exactly when bucket and key come back
through the directories that they climb out of; nothing else is checked on the way. -/
theorem accesses_contained_iff (s : LocalStorage) (bucket key : String) (op : Operation) :
    (∀ fs, ∀ path ∈ s.accesses fs bucket key op, s.Contained path) ↔
      s.healthy = false ∨ s.ComesBack bucket key := by
  constructor
  · intro hcontained
    cases hhealthy : s.healthy with
    | false => exact Or.inl rfl
    | true =>
      have hmem := getFullPath_mem_accesses hhealthy bucket key op
      exact Or.inr (getFullPath_contained_iff.mp (hcontained _ _ hmem))
  · rintro hcondition fs path hmem
    obtain ⟨hhealthy, rfl⟩ := eq_of_mem_accesses hmem
    rcases hcondition with hunhealthy | hback
    · rw [hunhealthy] at hhealthy
      cases hhealthy
    · exact getFullPath_contained_iff.mpr hback

/-- The default storage, `./storage`. -/
def defaultStorage : LocalStorage := ⟨"./storage", true, by decide⟩

/-- A key that the storage route passes on reaches a file beside the storage directory. -/
theorem key_escapes :
    ¬ ∀ (s : LocalStorage) (bucket key : String) (op : Operation) (fs : FileSystem),
      ∀ path ∈ s.accesses fs bucket key op, s.Contained path := by
  intro hcontained
  have hescaped := hcontained defaultStorage "" "../.env" .getFile (fun _ => none) ".env"
    (by decide +kernel)
  have hnot : ¬ defaultStorage.Contained ".env" := by
    unfold Contained Path.Below
    decide +kernel
  exact hnot hescaped

/-- The route answers that key with the file. -/
example : StorageHandler.getFile defaultStorage (fun _ => none) "../.env" =
    ([.open ".env", .stat ".env"], 200) := by decide +kernel

end LocalStorage

end WhatsappGateway.Storage

import WhatsappGateway.Storage.CleanupEmptyDirs
import WhatsappGateway.Storage.ListThenGet
import WhatsappGateway.Storage.UploadAtomic

/-!
Runs of the local store: uploads, deletions and retention passes, one after the other, each of the
latter two with its walk over empty directories. A file stays as it was stored until an upload or
a deletion for its location, or until it expires; a retention pass removes what has expired and
nothing else.
-/

namespace WhatsappGateway.Storage

open Lib FilePath FileTree

namespace LocalStorage

inductive StoreCall where
  | upload (conditions : Conditions) (bucket key : String) (reader : Reader)
  | pass (pass : Pass)

/-- What a call leaves on the disk. A pass may end before its walk. -/
inductive Performs (s : LocalStorage) (host : Host) : StoreCall → Disk File → Disk File → Prop where
  | upload (conditions : Conditions) (bucket key : String) (reader : Reader) (disk : Disk File) :
      Performs s host (.upload conditions bucket key reader) disk
        (s.upload host conditions disk bucket key reader).1
  | stopped {pass : Pass} {disk : Disk File} : pass.reaches s host disk = none →
      Performs s host (.pass pass) disk disk
  | walked {pass : Pass} {disk reached : Disk File} {last : Climb} :
      pass.reaches s host disk = some reached →
      s.cleanupEmptyDirs host reached (pass.path s) last →
      Performs s host (.pass pass) disk last.disk

inductive StoreRun (s : LocalStorage) (host : Host) :
    List StoreCall → Disk File → Disk File → Prop where
  | nil (disk : Disk File) : StoreRun s host [] disk disk
  | cons {call : StoreCall} {calls : List StoreCall} {disk next last : Disk File} :
      Performs s host call disk next → StoreRun s host calls next last →
      StoreRun s host (call :: calls) disk last

/-- The file at a location is past the cutoff, and nothing keeps it from being removed. -/
def Expired (host : Host) (cutoff : Int) (l : Location) (file : File) : Prop :=
  (l.getLast?.bind List.head?) ≠ some '.' ∧ file.modTime < cutoff ∧ host.refuses .delete l = none

instance (host : Host) (cutoff : Int) (l : Location) (file : File) :
    Decidable (Expired host cutoff l file) :=
  inferInstanceAs (Decidable (_ ∧ _ ∧ _))

/-- A call that is about another location, or about files that are older. -/
def StoreCall.Spares (s : LocalStorage) (host : Host) (l : Location) (modTime : Int) :
    StoreCall → Prop
  | .upload _ bucket key _ | .pass (.deleteFile bucket key) =>
    host.locate (s.getFullPath bucket key) ≠ l
  | .pass (.performCleanup _ cutoff) => cutoff ≤ modTime

/-! ### What is served -/

/-- `filepath.Ext`. -/
def ext (path : String) : String :=
  let suffix := path.toList.reverse.takeWhile fun c => c ≠ '.' ∧ c ≠ '/'
  if (path.toList.reverse.drop suffix.length).head? = some '.' then
    String.ofList ('.' :: suffix.reverse)
  else ""

def getContentType (toLower : String → String) (ext : String) : String :=
  let ext := toLower ext
  if ext ∈ [".jpg", ".jpeg"] then "image/jpeg"
  else if ext = ".png" then "image/png"
  else if ext = ".gif" then "image/gif"
  else if ext = ".webp" then "image/webp"
  else if ext = ".pdf" then "application/pdf"
  else if ext ∈ [".txt", ".md"] then "text/plain; charset=utf-8"
  else if ext = ".json" then "application/json"
  else "application/octet-stream"

/-- What `GetFile` has opened. A directory can be opened, too. -/
inductive Opened where
  | file (info : FileInfo) (contentType : String) (content : List UInt8)
  | directory
deriving DecidableEq, Repr

def openFile (s : LocalStorage) (host : Host) (toLower : String → String) (disk : Disk File)
    (bucket key : String) : Except String Opened :=
  if !s.healthy then .error unhealthy
  else
    let l := host.locate (s.getFullPath bucket key)
    match disk.node l, host.refuses .read l with
    | none, _ => .error ("failed to open file: " ++ (host.fault .read l).text)
    | some _, some err => .error ("failed to open file: " ++ err.text)
    | some .dir, none => .ok .directory
    | some (.file file), none =>
      .ok (.file ⟨key, file.content.length, file.modTime, toString file.modTime⟩
        (getContentType toLower (ext key)) file.content)

/-- The response of the storage route: a status, or the file with its headers. -/
inductive StorageResponse where
  | status (code : Nat)
  | streamed (info : FileInfo) (contentType : String) (body : List UInt8)
deriving DecidableEq, Repr

/-- The handler; reading a directory fails. -/
def serveFile (s : LocalStorage) (host : Host) (toLower : String → String) (disk : Disk File)
    (key : String) : StorageResponse :=
  if key = "" then .status 400
  else
    match s.openFile host toLower disk "" key with
    | .error _ => .status 404
    | .ok .directory => .status 500
    | .ok (.file info contentType content) => .streamed info contentType content

variable {s : LocalStorage} {host : Host} {disk disk' : Disk File} {conditions : Conditions}
  {bucket key path : String} {reader : Reader} {l above : Location} {file : File}
  {names : List Part} {call : StoreCall} {calls : List StoreCall} {cutoff : Int}

/-! ### The files on a disk -/

theorem fileAt_put (hput : disk.put l (.file file) = some disk') (k : Location) :
    disk'.fileAt k = if k = l then some file else disk.fileAt k := by
  unfold Disk.fileAt
  rw [Disk.node_put hput]
  split_ifs <;> rfl

theorem fileAt_remove (hremove : disk.remove l = some disk') (k : Location) :
    disk'.fileAt k = if k = l then none else disk.fileAt k := by
  unfold Disk.fileAt
  rw [Disk.node_remove hremove]
  split_ifs <;> rfl

theorem fileAt_eq_some : disk.fileAt l = some file ↔ disk.node l = some (.file file) := by
  unfold Disk.fileAt
  cases disk.node l with
  | none => simp
  | some node => cases node <;> simp

/-- A file can always be taken off the disk. -/
theorem exists_remove (h : disk.node l = some (.file file)) :
    ∃ removed, disk.remove l = some removed := by
  rw [← Option.isSome_iff_exists, Disk.remove_isSome]
  refine ⟨?_, h ▸ Option.some_ne_none _, Disk.entries_eq_nil_of_not_dir ?_⟩
  · rintro rfl
    have hroot : disk.node [] = some .dir := disk.root
    rw [hroot] at h
    cases h
  · unfold Disk.IsDir
    rw [h]
    exact fun heq => nomatch Option.some.inj heq

/-- A directory that is made or removed is no file. -/
theorem fileAt_put_dir (hput : disk.put l .dir = some disk') (hnone : disk.node l = none)
    (k : Location) : disk'.fileAt k = disk.fileAt k := by
  unfold Disk.fileAt
  rw [Disk.node_put hput]
  split_ifs with hk
  · rw [hk, hnone]
  · rfl

theorem fileAt_mkdirAll : (host.mkdirAll disk above names).1.fileAt l = disk.fileAt l := by
  induction names generalizing disk above with
  | nil => rfl
  | cons name rest ih =>
    unfold Host.mkdirAll
    dsimp only
    split
    · exact ih
    · rfl
    · next hnone =>
      split
      · rfl
      · rfl
      · next made hmade => rw [ih, fileAt_put_dir hmade hnone]

/-! ### An upload -/

/-- An upload fails before it writes, or writes the file, and may fail then. -/
theorem upload_cases (s : LocalStorage) (host : Host) (conditions : Conditions)
    (disk : Disk File) (bucket key : String) (reader : Reader) :
    (∃ made err, s.upload host conditions disk bucket key reader = (made, .error err) ∧
      ∀ l, made.fileAt l = disk.fileAt l) ∨
    ∃ copied : Disk File,
      (∀ l, copied.fileAt l = if l = host.locate (s.getFullPath bucket key) then
        some ⟨(ioCopy reader conditions.full).1, conditions.now⟩ else disk.fileAt l) ∧
      (((ioCopy reader conditions.full).2 = none ∧
          s.upload host conditions disk bucket key reader = (copied, .ok key)) ∨
        ∃ err, s.upload host conditions disk bucket key reader =
          ((host.remove copied (s.getFullPath bucket key)).getD copied, .error err)) := by
  have hmade : ∀ l, (makeDir host disk (dir (s.getFullPath bucket key))).1.fileAt l =
      disk.fileAt l := fun l => fileAt_mkdirAll
  unfold upload
  cases s.healthy with
  | false => exact .inl ⟨disk, _, rfl, fun _ => rfl⟩
  | true =>
    simp only [Bool.not_true, Bool.false_eq_true, if_false]
    generalize makeDir host disk (dir (s.getFullPath bucket key)) = outcome at hmade ⊢
    obtain ⟨made, failed⟩ := outcome
    cases failed with
    | some err => exact .inl ⟨made, _, rfl, hmade⟩
    | none =>
      dsimp only at hmade ⊢
      cases hcreate : host.create conditions.now made (s.getFullPath bucket key) with
      | error err => exact .inl ⟨made, _, rfl, hmade⟩
      | ok created =>
        have hput := create_eq_ok hcreate
        obtain ⟨copied, hcopied⟩ := exists_put
          (n := .file ⟨(ioCopy reader conditions.full).1, conditions.now⟩) hput
          (fun heq => nomatch heq)
        refine .inr ⟨copied, ?_, ?_⟩
        · intro l
          rw [fileAt_put hcopied, fileAt_put hput, hmade]
          split_ifs <;> rfl
        · dsimp only
          rw [hcopied, Option.getD_some]
          cases (ioCopy reader conditions.full).2 with
          | none => exact .inl ⟨rfl, rfl⟩
          | some err => exact .inr ⟨_, rfl⟩

/-- An upload writes to no other location. -/
theorem fileAt_upload_of_ne (hother : host.locate (s.getFullPath bucket key) ≠ l) :
    (s.upload host conditions disk bucket key reader).1.fileAt l = disk.fileAt l := by
  rcases upload_cases s host conditions disk bucket key reader with
    ⟨made, err, hupload, hmade⟩ | ⟨copied, hcopied, ⟨-, hupload⟩ | ⟨err, hupload⟩⟩
  · rw [hupload, hmade]
  · rw [hupload, hcopied, if_neg hother.symm]
  · rw [hupload]
    dsimp only
    cases hremove : host.remove copied (s.getFullPath bucket key) with
    | none => rw [Option.getD_none, hcopied, if_neg hother.symm]
    | some removed =>
      rw [Option.getD_some, fileAt_remove (Host.remove_eq_some.mp hremove).2.2,
        if_neg hother.symm, hcopied, if_neg hother.symm]

/-- An upload that succeeds leaves what the reader gave. -/
theorem fileAt_upload_ok {stored : String}
    (hok : (s.upload host conditions disk bucket key reader).2 = .ok stored) :
    (s.upload host conditions disk bucket key reader).1.fileAt
      (host.locate (s.getFullPath bucket key)) = some ⟨reader.content, conditions.now⟩ := by
  rcases upload_cases s host conditions disk bucket key reader with
    ⟨made, err, hupload, -⟩ | ⟨copied, hcopied, ⟨hcopy, hupload⟩ | ⟨err, hupload⟩⟩
  · rw [hupload] at hok
    cases hok
  · have hwritten : (ioCopy reader conditions.full).1 = reader.content := by
      unfold ioCopy at hcopy ⊢
      split at hcopy
      · rfl
      · split_ifs at hcopy ⊢
        rfl
    rw [hupload, hcopied, if_pos rfl, hwritten]
  · rw [hupload] at hok
    cases hok

/-! ### A pass -/

/-- The walk over empty directories removes no file. -/
theorem fileAt_of_halts {c last : Climb} (h : Halts (s.cleanupTick host) c last) (l : Location) :
    last.disk.fileAt l = c.disk.fileAt l := by
  induction h with
  | ended => rfl
  | moved htick _ ih =>
    rw [ih]
    obtain ⟨-, -, hread, rfl⟩ := tick_cases htick
    dsimp only
    cases hremove : host.remove _ _ with
    | none => rfl
    | some removed =>
      rw [Option.getD_some, fileAt_remove (Host.remove_eq_some.mp hremove).2.2]
      split_ifs with hl
      · rw [hl, Disk.fileAt, (Host.readDir_eq_some.mp hread).1]
      · rfl

theorem filter_of_forall {α : Type} {o : Option α} {p : α → Bool}
    (h : ∀ a, o = some a → p a = true) : o.filter p = o := by
  cases o with
  | none => rfl
  | some a => rw [Option.filter_some, if_pos (h a rfl)]

/-- A pass comes to a location: it stops there, or goes on without the file if that has
expired. -/
theorem removeExpired_cons (host : Host) (cutoff : Int) (k : Location) (rest : List Location)
    (disk : Disk File) :
    (host.refuses .read k ≠ none ∧ removeExpired host cutoff (k :: rest) disk = disk) ∨
    ∃ next : Disk File,
      removeExpired host cutoff (k :: rest) disk = removeExpired host cutoff rest next ∧
      ∀ l, next.fileAt l =
        (disk.fileAt l).filter fun file => ¬(l = k ∧ Expired host cutoff l file) := by
  have hkeep (hk : ∀ file, disk.fileAt k = some file → ¬Expired host cutoff k file) (l : Location) :
      disk.fileAt l =
        (disk.fileAt l).filter fun file => ¬(l = k ∧ Expired host cutoff l file) := by
    symm
    refine filter_of_forall ?_
    intro file hfile
    rw [decide_eq_true_iff]
    rintro ⟨rfl, hexpired⟩
    exact hk file hfile hexpired
  rw [removeExpired]
  cases hnode : disk.node k with
  | none =>
    refine .inr ⟨disk, rfl, hkeep ?_⟩
    intro file hfile
    rw [fileAt_eq_some, hnode] at hfile
    cases hfile
  | some node =>
    cases node with
    | dir =>
      dsimp only
      by_cases hread : host.refuses .read k = none
      · rw [if_neg (not_not.mpr hread)]
        refine .inr ⟨disk, rfl, hkeep ?_⟩
        intro file hfile
        rw [fileAt_eq_some, hnode] at hfile
        cases hfile
      · exact .inl ⟨hread, if_pos hread⟩
    | file info =>
      have hinfo : disk.fileAt k = some info := fileAt_eq_some.mpr hnode
      dsimp only
      split_ifs with hdot hexpired
      · refine .inr ⟨disk, rfl, hkeep ?_⟩
        exact fun file _ hexpired => hexpired.1 hdot
      · obtain ⟨removed, hremove⟩ := exists_remove hnode
        rw [hremove, Option.getD_some]
        refine .inr ⟨removed, rfl, ?_⟩
        intro l
        rw [fileAt_remove hremove]
        split_ifs with hl
        · subst hl
          rw [hinfo, Option.filter_some, if_neg]
          rw [decide_eq_true_iff, not_not]
          exact ⟨rfl, hdot, hexpired⟩
        · symm
          refine filter_of_forall ?_
          intro file _
          rw [decide_eq_true_iff]
          exact fun h => hl h.1
      · refine .inr ⟨disk, rfl, hkeep ?_⟩
        intro file hfile hfileExpired
        rw [hinfo] at hfile
        obtain rfl := Option.some.inj hfile
        exact hexpired hfileExpired.2

/-- When nothing keeps the pass from reading a directory, it removes all that has expired. -/
theorem fileAt_removeExpired (hread : ∀ k, host.refuses .read k = none) (ls : List Location)
    (disk : Disk File) (l : Location) :
    (removeExpired host cutoff ls disk).fileAt l =
      (disk.fileAt l).filter fun file => ¬(l ∈ ls ∧ Expired host cutoff l file) := by
  induction ls generalizing disk with
  | nil =>
    symm
    refine filter_of_forall ?_
    intro file _
    simp
  | cons k rest ih =>
    rcases removeExpired_cons host cutoff k rest disk with ⟨hrefused, -⟩ | ⟨next, heq, hnext⟩
    · exact absurd (hread k) hrefused
    · rw [heq, ih, hnext, Option.filter_filter]
      congr 1
      funext file
      rw [← Bool.decide_and, decide_eq_decide, List.mem_cons]
      tauto

/-- Whatever a pass meets, it keeps what has not expired. -/
theorem fileAt_removeExpired_of_not_expired (hfile : disk.fileAt l = some file)
    (hlive : ¬Expired host cutoff l file) (ls : List Location) :
    (removeExpired host cutoff ls disk).fileAt l = some file := by
  induction ls generalizing disk with
  | nil => exact hfile
  | cons k rest ih =>
    rcases removeExpired_cons host cutoff k rest disk with ⟨-, heq⟩ | ⟨next, heq, hnext⟩
    · rw [heq, hfile]
    · rw [heq]
      refine ih ?_
      rw [hnext, hfile, Option.filter_some, if_pos]
      rw [decide_eq_true_iff]
      exact fun h => hlive h.2

/-- What a pass has removed when it comes to its walk. -/
theorem fileAt_deleteFile {reached : Disk File}
    (hreaches : (Pass.deleteFile bucket key).reaches s host disk = some reached) (l : Location) :
    reached.fileAt l =
      if l = host.locate (s.getFullPath bucket key) then none else disk.fileAt l := by
  unfold Pass.reaches at hreaches
  dsimp only at hreaches
  split at hreaches
  · cases hreaches
  · split at hreaches
    · cases hreaches
    · rw [fileAt_remove (Host.remove_eq_some.mp hreaches).2.2]

theorem performCleanup_reaches {retentionDays : Int} {reached : Disk File}
    (hreaches : (Pass.performCleanup retentionDays cutoff).reaches s host disk = some reached) :
    reached = removeExpired host cutoff (disk.walk (host.locate s.localPath)) disk := by
  unfold Pass.reaches at hreaches
  dsimp only at hreaches
  split_ifs at hreaches
  exact (Option.some.inj hreaches).symm

/-- A call keeps the file at a location that it spares. -/
theorem Performs.keeps (hcall : Performs s host call disk disk')
    (hfile : disk.fileAt l = some file) (hspares : call.Spares s host l file.modTime) :
    disk'.fileAt l = some file := by
  cases hcall with
  | upload conditions bucket key reader disk => rw [fileAt_upload_of_ne hspares, hfile]
  | stopped => exact hfile
  | @walked pass disk reached last hreaches hwalk =>
    rw [fileAt_of_halts hwalk]
    dsimp only
    cases pass with
    | deleteFile bucket key =>
      rw [fileAt_deleteFile hreaches, if_neg (Ne.symm hspares), hfile]
    | performCleanup retentionDays cutoff =>
      have hlive : ¬Expired host cutoff l file := fun h => not_lt.mpr hspares h.2.1
      rw [performCleanup_reaches hreaches]
      exact fileAt_removeExpired_of_not_expired hfile hlive _

theorem StoreRun.keeps (run : StoreRun s host calls disk disk')
    (hfile : disk.fileAt l = some file) (hspares : ∀ c ∈ calls, c.Spares s host l file.modTime) :
    disk'.fileAt l = some file := by
  induction run with
  | nil => exact hfile
  | cons hcall _ ih =>
    obtain ⟨hfirst, hrest⟩ := List.forall_mem_cons.mp hspares
    exact ih (hcall.keeps hfile hfirst) hrest

theorem healthy_of_upload_ok {stored : String}
    (hok : (s.upload host conditions disk bucket key reader).2 = .ok stored) :
    s.healthy = true := by
  cases hhealthy : s.healthy with
  | true => rfl
  | false => simp [upload, hhealthy] at hok

/-- The storage route answers the key of a file with the file. -/
theorem serveFile_of_fileAt (hkey : key ≠ "") (hhealthy : s.healthy = true)
    (hfile : disk.fileAt (host.locate (s.getFullPath "" key)) = some file)
    (hread : host.refuses .read (host.locate (s.getFullPath "" key)) = none)
    (toLower : String → String) :
    s.serveFile host toLower disk key =
      .streamed ⟨key, file.content.length, file.modTime, toString file.modTime⟩
        (getContentType toLower (ext key)) file.content := by
  simp [serveFile, openFile, hkey, hhealthy, fileAt_eq_some.mp hfile, hread]

/-- An object that was uploaded is served byte for byte, along every run that has no upload and
no deletion for its location and in which it does not expire. -/
theorem upload_served {stored : String} (hkey : key ≠ "")
    (hok : (s.upload host conditions disk "" key reader).2 = .ok stored)
    (run : StoreRun s host calls (s.upload host conditions disk "" key reader).1 disk')
    (hspares : ∀ c ∈ calls, c.Spares s host (host.locate (s.getFullPath "" key)) conditions.now)
    (hread : host.refuses .read (host.locate (s.getFullPath "" key)) = none)
    (toLower : String → String) :
    s.serveFile host toLower disk' key =
      .streamed ⟨key, reader.content.length, conditions.now, toString conditions.now⟩
        (getContentType toLower (ext key)) reader.content :=
  serveFile_of_fileAt hkey (healthy_of_upload_ok hok)
    (run.keeps (fileAt_upload_ok hok) hspares) hread toLower

/-- A host that refuses nothing. -/
def willing : Host := ⟨[], fun _ _ => none, fun _ _ => ⟨"", false⟩⟩

/-- The object outlives a retention pass that comes before its time. -/
theorem upload_served_after_pass :
    ∃ disk,
      StoreRun defaultStorage willing [.pass (.performCleanup 7 1)]
        (defaultStorage.upload willing ⟨1, none⟩ oneObjectDisk "" "b.png" ⟨[1, 2], none⟩).1 disk ∧
      defaultStorage.serveFile willing id disk "b.png" =
        .streamed ⟨"b.png", 2, 1, "1"⟩ "image/png" [1, 2] := by
  have run : StoreRun defaultStorage willing [.pass (.performCleanup 7 1)]
      (defaultStorage.upload willing ⟨1, none⟩ oneObjectDisk "" "b.png" ⟨[1, 2], none⟩).1 _ :=
    .cons (.walked rfl (.ended (by decide +kernel))) (.nil _)
  have hok : (defaultStorage.upload willing ⟨1, none⟩ oneObjectDisk "" "b.png"
      ⟨[1, 2], none⟩).2 = .ok "b.png" := by decide +kernel
  exact ⟨_, run, upload_served (by decide) hok run (by simp [StoreCall.Spares]) rfl id⟩

end LocalStorage

end WhatsappGateway.Storage

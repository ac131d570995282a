import WhatsappGateway.Storage.Host

/-!
The upload of an object on a disk, with each of its failures: a directory that cannot be made, a
file that cannot be created, a reader or a disk that fails somewhere in the copy. Creating the
file truncates the one that is there, so from then on a failure costs the object that had the
key.
-/

namespace WhatsappGateway.Storage

open Lib FilePath FileTree

/-- What a reader gives before it ends, or fails. -/
structure Reader where
  content : List UInt8
  err : Option FsError
deriving DecidableEq, Repr

/-- `io.Copy` to a file on a disk that takes `full` bytes, if that is a limit: what is written,
and the error. -/
def ioCopy (reader : Reader) (full : Option (Nat × FsError)) : List UInt8 × Option FsError :=
  match full with
  | none => (reader.content, reader.err)
  | some (room, err) =>
    if room < reader.content.length then (reader.content.take room, some err)
    else (reader.content, reader.err)

namespace Host

/-- `os.MkdirAll`, from `above` on down. What was made before a failure stays. -/
def mkdirAll (host : Host) (disk : Disk File) (above : Location) :
    List Part → Disk File × Option FsError
  | [] => (disk, none)
  | name :: rest =>
    let l := above ++ [name]
    match disk.node l with
    | some .dir => host.mkdirAll disk l rest
    | some (.file _) => (disk, some (host.fault .create l))
    | none =>
      match host.refuses .create l, disk.put l .dir with
      | some err, _ => (disk, some err)
      | none, none => (disk, some (host.fault .create l))
      | none, some made => host.mkdirAll made l rest

/-- `os.Create`. A file that is there is truncated. -/
def create (host : Host) (now : Int) (disk : Disk File) (path : String) :
    Except FsError (Disk File) :=
  let l := host.locate path
  match host.refuses .create l, disk.put l (.file ⟨[], now⟩) with
  | some err, _ => .error err
  | none, none => .error (host.fault .create l)
  | none, some created => .ok created

end Host

/-- What the system does to an upload: the time, and where the disk fills up. -/
structure Conditions where
  now : Int
  full : Option (Nat × FsError)

namespace LocalStorage

/-- The directories that the path names, made from the one that it starts in. -/
def makeDir (host : Host) (disk : Disk File) (path : String) : Disk File × Option FsError :=
  let p := parse path
  host.mkdirAll disk (FileTree.locate host.cwd { p with names := [] }) p.names

/-- `UploadFile`, with the disk that it leaves. The mode of a file is not kept, so there is
nothing to do for `Chmod`. -/
def upload (s : LocalStorage) (host : Host) (conditions : Conditions) (disk : Disk File)
    (bucket key : String) (reader : Reader) : Disk File × Except String String :=
  if !s.healthy then (disk, .error unhealthy)
  else
    let fullPath := s.getFullPath bucket key
    match makeDir host disk (dir fullPath) with
    | (made, some err) => (made, .error ("failed to create directory: " ++ err.text))
    | (made, none) =>
      match host.create conditions.now made fullPath with
      | .error err => (made, .error ("failed to create file: " ++ err.text))
      | .ok created =>
        let (written, failure) := ioCopy reader conditions.full
        let copied :=
          (created.put (host.locate fullPath) (.file ⟨written, conditions.now⟩)).getD created
        match failure with
        | some err =>
          ((host.remove copied fullPath).getD copied,
            .error ("failed to write file: " ++ err.text))
        | none => (copied, .ok key)

/-- The outcomes of the calls of an upload. -/
def uploadOutcomes (host : Host) (conditions : Conditions) (disk : Disk File)
    (reader : Reader) : FileSystem
  | .mkdirAll path => (makeDir host disk path).2
  | .create path =>
    match host.create conditions.now (makeDir host disk (dir path)).1 path with
    | .error err => some err
    | .ok _ => none
  | .copy _ => (ioCopy reader conditions.full).2
  | _ => none

/-- The content of the object at a location. -/
def content (disk : Disk File) (l : Location) : Option (List UInt8) :=
  match disk.node l with
  | some (.file info) => some info.content
  | _ => none

/-- A failed upload leaves every object as it was, and adds none. -/
def Atomic (s : LocalStorage) (host : Host) (conditions : Conditions) (disk : Disk File)
    (bucket key : String) (reader : Reader) : Prop :=
  (∃ err, (s.upload host conditions disk bucket key reader).2 = .error err) →
    ∀ l, content (s.upload host conditions disk bucket key reader).1 l = content disk l

/-- The upload gets as far as to truncate the file. -/
def Truncates (s : LocalStorage) (host : Host) (conditions : Conditions) (disk : Disk File)
    (bucket key : String) : Prop :=
  let fullPath := s.getFullPath bucket key
  let made := makeDir host disk (dir fullPath)
  s.healthy = true ∧ made.2 = none ∧
    (host.create conditions.now made.1 fullPath).toOption.isSome = true

/-- What a failed copy leaves at the path: nothing, if the file can be removed. -/
def leftover (host : Host) (conditions : Conditions) (path : String) (reader : Reader) :
    Option (List UInt8) :=
  if (parse path).names ≠ [] ∧ host.refuses .delete (host.locate path) = none then none
  else some (ioCopy reader conditions.full).1

variable {s : LocalStorage} {host : Host} {conditions : Conditions} {disk disk' : Disk File}
  {bucket key path : String} {reader : Reader} {l above : Location} {names : List Part}

/-- The upload on a disk is the upload of the call lists. -/
theorem upload_result :
    (s.upload host conditions disk bucket key reader).2 =
      (s.uploadFile (uploadOutcomes host conditions disk reader) bucket key).2 := by
  unfold upload uploadFile
  cases s.healthy with
  | false => rfl
  | true =>
    simp only [Bool.not_true, Bool.false_eq_true, if_false, uploadOutcomes]
    rcases makeDir host disk (dir (s.getFullPath bucket key)) with ⟨made, _ | err⟩
    · simp only
      cases host.create conditions.now made (s.getFullPath bucket key) with
      | error err => rfl
      | ok created =>
        rcases ioCopy reader conditions.full with ⟨written, _ | err⟩
        · rfl
        · rfl
    · rfl

/-- Making directories leaves the objects alone. -/
theorem content_mkdirAll : content (host.mkdirAll disk above names).1 l = content disk l := by
  induction names generalizing disk above with
  | nil => rfl
  | cons name rest ih =>
    unfold Host.mkdirAll
    simp only
    split
    · exact ih
    · rfl
    · next hnone =>
      split
      · rfl
      · rfl
      · next made hmade =>
        rw [ih]
        unfold content
        rw [Disk.node_put hmade]
        split_ifs with hl
        · rw [hl, hnone]
        · rfl

/-- An upload that does not get to the file leaves every object alone. -/
theorem content_upload_of_not_truncates (h : ¬ Truncates s host conditions disk bucket key) :
    content (s.upload host conditions disk bucket key reader).1 l = content disk l := by
  unfold upload
  cases hhealthy : s.healthy with
  | false => rfl
  | true =>
    have hmade : content (makeDir host disk (dir (s.getFullPath bucket key))).1 l =
        content disk l := content_mkdirAll
    have hstops : (makeDir host disk (dir (s.getFullPath bucket key))).2 = none →
        (host.create conditions.now (makeDir host disk (dir (s.getFullPath bucket key))).1
          (s.getFullPath bucket key)).toOption.isSome = true → False :=
      fun hdir hcreate => h ⟨hhealthy, hdir, hcreate⟩
    simp only [Bool.not_true, Bool.false_eq_true, if_false]
    generalize makeDir host disk (dir (s.getFullPath bucket key)) = outcome at *
    obtain ⟨made, failed⟩ := outcome
    cases failed with
    | some err => exact hmade
    | none =>
      cases hcreate : host.create conditions.now made (s.getFullPath bucket key) with
      | error err =>
        simp only [hcreate]
        exact hmade
      | ok created =>
        have hsome : (host.create conditions.now made
            (s.getFullPath bucket key)).toOption.isSome = true := by
          rw [hcreate]
          rfl
        exact (hstops rfl hsome).elim

theorem create_eq_ok {now : Int} (h : host.create now disk path = .ok disk') :
    disk.put (host.locate path) (.file ⟨[], now⟩) = some disk' := by
  unfold Host.create at h
  simp only at h
  split at h
  · cases h
  · cases h
  · next hput =>
    obtain rfl := Except.ok.inj h
    exact hput

/-- A file that was put on the disk can be written over. -/
theorem exists_put {m n : Node File} (hput : disk.put l m = some disk') (hfile : m ≠ .dir) :
    ∃ copied, disk'.put l n = some copied := by
  rw [← Option.isSome_iff_exists, Disk.put_isSome]
  obtain ⟨hplain, hroot, hdir, _⟩ := Disk.put_isSome.mp (Option.isSome_iff_exists.mpr ⟨disk', hput⟩)
  have hnode := Disk.node_put hput
  refine ⟨hplain, hroot, ?_, ?_⟩
  · have hne : l.dropLast ≠ l := by
      intro heq
      have hlength := congrArg List.length heq
      have hpos := List.length_pos_of_ne_nil hroot
      rw [List.length_dropLast] at hlength
      omega
    unfold Disk.IsDir
    rw [hnode, if_neg hne]
    exact hdir
  · unfold Disk.IsDir
    rw [hnode, if_pos rfl]
    exact fun heq => hfile (Option.some.inj heq)

theorem content_put {now : Int} {bytes : List UInt8}
    (hput : disk.put l (.file ⟨bytes, now⟩) = some disk') (k : Location) :
    content disk' k = if k = l then some bytes else content disk k := by
  unfold content
  rw [Disk.node_put hput]
  split_ifs <;> rfl

theorem content_remove (hremove : disk.remove l = some disk') (k : Location) :
    content disk' k = if k = l then none else content disk k := by
  unfold content
  rw [Disk.node_remove hremove]
  split_ifs <;> rfl

/-- A file at the path is removed, or stays, as the access is allowed or not. -/
theorem content_getD_remove {now : Int} {bytes : List UInt8}
    (hput : disk.put (host.locate path) (.file ⟨bytes, now⟩) = some disk') (k : Location) :
    content ((host.remove disk' path).getD disk') k =
      if k = host.locate path then
        if (parse path).names ≠ [] ∧ host.refuses .delete (host.locate path) = none then none
        else some bytes
      else content disk k := by
  have hroot := (Disk.put_isSome.mp (Option.isSome_iff_exists.mpr ⟨disk', hput⟩)).2.1
  have hnode := Disk.node_put hput (host.locate path)
  rw [if_pos rfl] at hnode
  by_cases hallowed :
      (parse path).names ≠ [] ∧ host.refuses .delete (host.locate path) = none
  · have hfile : ¬ disk'.IsDir (host.locate path) := by
      unfold Disk.IsDir
      rw [hnode]
      exact fun heq => nomatch Option.some.inj heq
    obtain ⟨removed, hremove⟩ := Option.isSome_iff_exists.mp
      (Disk.remove_isSome.mpr ⟨hroot, hnode ▸ Option.some_ne_none _,
        Disk.entries_eq_nil_of_not_dir hfile⟩)
    have hhost : host.remove disk' path = some removed :=
      Host.remove_eq_some.mpr ⟨hallowed.1, hallowed.2, hremove⟩
    rw [hhost, Option.getD_some, content_remove hremove, content_put hput, if_pos hallowed]
    split_ifs <;> rfl
  · have hhost : host.remove disk' path = none := by
      rw [Option.eq_none_iff_forall_ne_some]
      intro removed hremove
      obtain ⟨hnames, hdelete, _⟩ := Host.remove_eq_some.mp hremove
      exact hallowed ⟨hnames, hdelete⟩
    rw [hhost, Option.getD_none, content_put hput, if_neg hallowed]

/-- What an upload leaves that got to the file. -/
theorem upload_of_truncates (reader : Reader)
    (h : Truncates s host conditions disk bucket key) :
    let l := s.getFullPath bucket key
    match (ioCopy reader conditions.full).2 with
    | none => (s.upload host conditions disk bucket key reader).2 = .ok key
    | some err =>
      (s.upload host conditions disk bucket key reader).2 =
        .error ("failed to write file: " ++ err.text) ∧
      ∀ k, content (s.upload host conditions disk bucket key reader).1 k =
        if k = host.locate l then leftover host conditions l reader else content disk k := by
  obtain ⟨hhealthy, hdir, hsome⟩ := h
  have hcontent : ∀ k, content (makeDir host disk (dir (s.getFullPath bucket key))).1 k =
      content disk k := fun k => content_mkdirAll
  unfold upload leftover
  simp only [hhealthy, Bool.not_true, Bool.false_eq_true, if_false]
  generalize makeDir host disk (dir (s.getFullPath bucket key)) = outcome at *
  obtain ⟨made, failed⟩ := outcome
  obtain rfl : failed = none := hdir
  simp only at hsome hcontent ⊢
  cases hcreate : host.create conditions.now made (s.getFullPath bucket key) with
  | error err => simp [hcreate, Except.toOption] at hsome
  | ok created =>
    have hput := create_eq_ok hcreate
    rcases ioCopy reader conditions.full with ⟨written, _ | err⟩
    · rfl
    · refine ⟨rfl, ?_⟩
      intro k
      obtain ⟨copied, hcopied⟩ :=
        exists_put (n := .file ⟨written, conditions.now⟩) hput (fun heq => nomatch heq)
      simp only [hcopied, Option.getD_some]
      rw [content_getD_remove hcopied, content_put hput, hcontent]
      split_ifs <;> rfl

/-- A failed upload keeps every object exactly when it does not get to the file, or when what
it leaves at the path is what was there. -/
theorem upload_atomic_iff (s : LocalStorage) (host : Host) (conditions : Conditions)
    (disk : Disk File) (bucket key : String) (reader : Reader) :
    Atomic s host conditions disk bucket key reader ↔
      ¬ Truncates s host conditions disk bucket key ∨
        (ioCopy reader conditions.full).2 = none ∨
        leftover host conditions (s.getFullPath bucket key) reader =
          content disk (host.locate (s.getFullPath bucket key)) := by
  by_cases htruncates : Truncates s host conditions disk bucket key
  · have hspec := upload_of_truncates reader htruncates
    simp only at hspec
    cases hcopy : (ioCopy reader conditions.full).2 with
    | none =>
      rw [hcopy] at hspec
      have hatomic : Atomic s host conditions disk bucket key reader := by
        rintro ⟨err, herror⟩
        rw [show (s.upload host conditions disk bucket key reader).2 = .ok key from hspec] at herror
        cases herror
      simp [hatomic]
    | some err =>
      rw [hcopy] at hspec
      obtain ⟨herror, hcontent⟩ := hspec
      simp only [htruncates, not_true_eq_false, reduceCtorEq, false_or]
      constructor
      · intro hatomic
        have hkept := hatomic ⟨_, herror⟩ (host.locate (s.getFullPath bucket key))
        rw [hcontent, if_pos rfl] at hkept
        exact hkept
      · intro hleft _ k
        rw [hcontent]
        split_ifs with hk
        · rw [hk, hleft]
        · rfl
  · have hatomic : Atomic s host conditions disk bucket key reader :=
      fun _ l => content_upload_of_not_truncates htruncates
    simp [hatomic, htruncates]

/-- The default storage with an object `a.txt`. -/
def oneObjectDisk : Disk File :=
  Disk.ofList
    [(["storage".toList], .dir), (["storage".toList, "a.txt".toList], .file ⟨[104, 105], 0⟩)]

/-- A reader that fails before its first byte costs the object that had the key. -/
theorem failed_upload_loses_object :
    ¬ ∀ (s : LocalStorage) (host : Host) (conditions : Conditions) (disk : Disk File)
      (bucket key : String) (reader : Reader),
      Atomic s host conditions disk bucket key reader := by
  intro hatomic
  have hkept := hatomic defaultStorage ⟨[], fun _ _ => none, fun _ _ => ⟨"", false⟩⟩ ⟨1, none⟩
    oneObjectDisk "" "a.txt" ⟨[], some ⟨"unexpected EOF", false⟩⟩
    ⟨"failed to write file: unexpected EOF", by decide +kernel⟩
    ["storage".toList, "a.txt".toList]
  exact absurd hkept (by decide +kernel)

end LocalStorage

end WhatsappGateway.Storage

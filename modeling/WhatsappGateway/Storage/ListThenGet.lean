import WhatsappGateway.Lib.RelPath
import WhatsappGateway.Storage.Host

/-!
A listing and what its keys address. `ListFiles` makes a key of the way from the configured path
to the file; `GetFile` and `DeleteFile` go that way from the directory of the bucket. The two
meet when the bucket's directory and the configured one agree above the levels that the key goes
up.
-/

namespace WhatsappGateway.Storage

open Lib FilePath FileTree

structure FileInfo where
  key : String
  size : Nat
  lastModified : Int
  eTag : String
deriving DecidableEq, Repr

namespace Host

/-- No directory from `top` down to `l` refuses to be read. -/
def readableFrom (host : Host) (top l : Location) : Bool :=
  (List.range (l.length - top.length)).all fun n =>
    host.refuses .read (l.take (top.length + n)) = none

/-- What a walk over the tree at a path visits. What a directory holds is passed over when it
cannot be read. -/
def visited (host : Host) (disk : Disk File) (root : Path) : List (Path × Node File) :=
  let top := FileTree.locate host.cwd root
  (disk.walk top).filterMap fun l =>
    if host.readableFrom top l then
      (disk.node l).map fun node =>
        ({ root with names := root.names ++ l.drop top.length }, node)
    else none

end Host

namespace LocalStorage

/-- The function that `ListFiles` walks with. It ends the walk when there are enough files. -/
def listLoop (s : LocalStorage) (basePath : String) (limit : Int) :
    List (Path × Node File) → List FileInfo → List FileInfo
  | [], files => files
  | (path, node) :: rest, files =>
    if path.render = basePath then s.listLoop basePath limit rest files
    else
      match node with
      | .dir => s.listLoop basePath limit rest files
      | .file info =>
        match rel s.localPath path.render with
        | none => s.listLoop basePath limit rest files
        | some relPath =>
          let files :=
            files ++ [⟨relPath, info.content.length, info.modTime, toString info.modTime⟩]
          if limit > 0 ∧ files.length ≥ limit then files
          else s.listLoop basePath limit rest files

/-- `ListFiles`, with what it returns of each file. -/
def list (s : LocalStorage) (host : Host) (disk : Disk File) (bucket keyPrefix : String)
    (limit : Int) : Except String (List FileInfo) :=
  if !s.healthy then .error unhealthy
  else
    let basePath := s.getFullPath bucket keyPrefix
    let limit := if limit ≤ 0 then 100 else limit
    .ok (s.listLoop basePath limit (host.visited disk (parse basePath)) [])

/-- Where a key leads from the configured path: the file that is listed under it. -/
def listedAt (s : LocalStorage) (host : Host) (info : FileInfo) : Location :=
  host.locate (s.getFullPath "" info.key)

/-- The regular files below a location. -/
def filesBelow (disk : Disk File) (top : Location) : List Location :=
  (disk.walk top).filter fun l => l ≠ top ∧ (disk.fileAt l).isSome

/-- What a listing and its keys should be: the entries describe files below the prefix, with the
same bucket a key addresses the file that is listed, and with a limit that is high enough each
file is listed once. -/
structure ListsThenGets (s : LocalStorage) (host : Host) (disk : Disk File)
    (bucket keyPrefix : String) (limit : Int) (files : List FileInfo) : Prop where
  describes : ∀ info ∈ files,
    Inside (host.locate (s.getFullPath bucket keyPrefix)) (s.listedAt host info) ∧
      ∃ file, disk.fileAt (s.listedAt host info) = some file ∧ info.size = file.content.length ∧
        info.lastModified = file.modTime
  addresses : ∀ info ∈ files,
    host.locate (s.getFullPath bucket info.key) = s.listedAt host info
  once : ((filesBelow disk (host.locate (s.getFullPath bucket keyPrefix))).length : Int) ≤ limit →
    ∀ l ∈ filesBelow disk (host.locate (s.getFullPath bucket keyPrefix)),
      (files.map (s.listedAt host)).count l = 1

/-- Above the levels that the way to `path` goes up, the directory of the bucket and the
configured one are the same. -/
def Aligned (s : LocalStorage) (host : Host) (bucket : String) (path : Path) : Prop :=
  let base := host.locate s.localPath
  let dir := host.locate (s.getFullPath bucket "")
  let up := ascent (parse s.localPath) path
  dir.take (dir.length - up) = base.take (base.length - up)

/-- The path of a file below the tree of a path. -/
def pathOf (host : Host) (root : Path) (l : Location) : Path :=
  { root with names := root.names ++ l.drop (FileTree.locate host.cwd root).length }

/-- The files that the walk gets to, in its order. -/
def readableBelow (host : Host) (disk : Disk File) (root : Path) : List Location :=
  (filesBelow disk (FileTree.locate host.cwd root)).filter
    (host.readableFrom (FileTree.locate host.cwd root))

variable {s : LocalStorage} {host : Host} {disk : Disk File} {bucket key keyPrefix : String}
  {root : Path} {l : Location}

/-! ### What a key addresses -/

/-- A key is a step from the directory of the bucket. -/
theorem parse_getFullPath_key (s : LocalStorage) (bucket key : String) :
    parse (s.getFullPath bucket key) =
      (parse (s.getFullPath bucket "")).resolve (parse (join [".", key])) := by
  have hkey : parse (join [".", key]) = (split key).foldl Path.enter (start false) := by
    rw [parse_join_foldl (by decide) (by simp), String.intercalate_singleton]
    rfl
  have hstep : ∀ last : String, parse (s.getFullPath bucket last) =
      (split last).foldl Path.enter
        (if bucket = "" then parse s.localPath
        else (split bucket).foldl Path.enter (parse s.localPath)) := by
    intro last
    unfold getFullPath
    by_cases hbucket : bucket = ""
    · rw [if_neg (not_not.mpr hbucket), if_pos hbucket, parse_join_foldl s.localPath_ne (by simp),
        String.intercalate_singleton]
    · rw [if_pos hbucket, if_neg hbucket, parse_join_foldl s.localPath_ne (by simp),
        String.intercalate_cons_of_ne_nil (by simp),
        String.intercalate_singleton, split, String.toList_append, String.toList_append,
        List.append_assoc]
      change (List.splitOn '/' (bucket.toList ++ '/' :: last.toList)).foldl _ _ = _
      rw [List.splitOn_append_cons_self, List.foldl_append]
      rfl
  rw [hstep key, hstep "", hkey, Path.foldl_enter]
  rfl

theorem parse_getFullPath_nil (s : LocalStorage) :
    parse (s.getFullPath "" "") = parse s.localPath := by
  unfold getFullPath
  rw [if_neg (by simp), parse_join_foldl s.localPath_ne (by simp)]
  rfl

theorem listedAt_eq (s : LocalStorage) (host : Host) (info : FileInfo) :
    s.listedAt host info =
      FileTree.locate host.cwd ((parse s.localPath).resolve (parse (join [".", info.key]))) := by
  unfold listedAt Host.locate
  rw [parse_getFullPath_key, parse_getFullPath_nil]

/-- A key with the bucket addresses what it is listed for when the directories agree above the
levels that it goes up. -/
theorem locate_key_iff (s : LocalStorage) (host : Host) (bucket : String) (info : FileInfo) :
    host.locate (s.getFullPath bucket info.key) = s.listedAt host info ↔
      let up := (parse (join [".", info.key])).ups
      let base := host.locate s.localPath
      let dir := host.locate (s.getFullPath bucket "")
      dir.take (dir.length - up) = base.take (base.length - up) := by
  rw [listedAt_eq]
  unfold Host.locate
  rw [parse_getFullPath_key s bucket info.key, locate_resolve, locate_resolve,
    List.append_left_inj]

/-! ### What is listed -/

theorem locate_pathOf (h : FileTree.locate host.cwd root <+: l) :
    FileTree.locate host.cwd (pathOf host root l) = l := by
  rw [pathOf, locate_append]
  obtain ⟨rest, rfl⟩ := h
  rw [List.drop_left]

/-- The entry of a file: the way to it from the configured path. -/
def entry (s : LocalStorage) (host : Host) (disk : Disk File) (root : Path) (l : Location) :
    FileInfo :=
  let key := (rel s.localPath (pathOf host root l).render).getD ""
  match disk.fileAt l with
  | some file => ⟨key, file.content.length, file.modTime, toString file.modTime⟩
  | none => ⟨key, 0, 0, ""⟩

theorem pathOf_valid (hvalid : root.Valid) (hsome : disk.node l ≠ none) :
    (pathOf host root l).Valid := by
  refine ⟨?_, hvalid.rooted_ups⟩
  intro name hname
  rcases List.mem_append.mp hname with hold | hnew
  · exact hvalid.plain name hold
  · exact Disk.plain_of_node hsome name (List.mem_of_mem_drop hnew)

theorem entry_key (h : rel s.localPath (pathOf host root l).render = some key) :
    (s.entry host disk root l).key = key := by
  unfold entry
  rw [h]
  cases disk.fileAt l with
  | none => rfl
  | some file => rfl

/-- Below the prefix of a request there is a way to every file. -/
theorem rel_pathOf (hroot : root = parse (s.getFullPath bucket keyPrefix))
    (hl : l ∈ filesBelow disk (FileTree.locate host.cwd root)) :
    ∃ key, rel s.localPath (pathOf host root l).render = some key ∧
      (parse s.localPath).resolve (parse (join [".", key])) = pathOf host root l ∧
      (parse (join [".", key])).ups = ascent (parse s.localPath) (pathOf host root l) := by
  obtain ⟨_, hsome⟩ := Disk.mem_walk.mp (List.mem_filter.mp hl).1
  have hpath : (pathOf host root l).Valid := pathOf_valid (hroot ▸ parse_valid _) hsome
  have hbase : (pathOf host root l).rooted = (parse s.localPath).rooted ∧
      (parse s.localPath).ups ≤ (pathOf host root l).ups := by
    change root.rooted = _ ∧ _ ≤ root.ups
    rw [hroot, parse_getFullPath]
    refine ⟨rfl, ?_⟩
    unfold Path.resolve
    split_ifs
    · exact Nat.le_refl _
    · exact Nat.le_add_right _ _
  have hspec := rel_spec s.localPath (pathOf host root l).render
  rw [parse_render hpath] at hspec
  exact hspec hbase.1 hbase.2

/-- What the function of the walk makes of one visit. -/
def describe (s : LocalStorage) (basePath : String) : Path × Node File → Option FileInfo
  | (path, .file info) =>
    if path.render = basePath then none
    else
      (rel s.localPath path.render).map fun key =>
        ⟨key, info.content.length, info.modTime, toString info.modTime⟩
  | (_, .dir) => none

/-- The walk ends with the limit. -/
theorem listLoop_eq {basePath : String} {limit : Int} {visits : List (Path × Node File)}
    {files : List FileInfo} (h : (files.length : Int) < limit) :
    s.listLoop basePath limit visits files =
      files ++ (visits.filterMap (s.describe basePath)).take (limit.toNat - files.length) := by
  induction visits generalizing files with
  | nil => simp [listLoop]
  | cons visit rest ih =>
    obtain ⟨path, node⟩ := visit
    unfold listLoop
    by_cases hbase : path.render = basePath
    · have hnone : s.describe basePath (path, node) = none := by
        cases node <;> simp [describe, hbase]
      rw [if_pos hbase, ih h, List.filterMap_cons_none hnone]
    · rw [if_neg hbase]
      cases node with
      | dir =>
        have hnone : s.describe basePath (path, .dir) = none := rfl
        rw [List.filterMap_cons_none hnone]
        exact ih h
      | file info =>
        cases hrel : rel s.localPath path.render with
        | none =>
          have hnone : s.describe basePath (path, .file info) = none := by
            simp [describe, hrel]
          rw [List.filterMap_cons_none hnone]
          exact ih h
        | some key =>
          set one : FileInfo :=
            ⟨key, info.content.length, info.modTime, toString info.modTime⟩ with hone
          have hsome : s.describe basePath (path, .file info) = some one := by
            simp [describe, hbase, hrel, hone]
          obtain ⟨n, hn⟩ : ∃ n, limit.toNat - files.length = n + 1 :=
            ⟨limit.toNat - files.length - 1, by omega⟩
          rw [List.filterMap_cons_some hsome, hn, List.take_succ_cons]
          simp only
          have hlength : (files ++ [one]).length = files.length + 1 := by simp
          by_cases hfull : limit ≤ ((files ++ [one]).length : Int)
          · rw [if_pos ⟨by omega, hfull⟩]
            obtain rfl : n = 0 := by omega
            rw [List.take_zero]
          · have hmore : ((files ++ [one]).length : Int) < limit := by omega
            rw [if_neg fun hstop => hfull hstop.2, ih hmore]
            have hrest : limit.toNat - (files ++ [one]).length = n := by omega
            rw [hrest, List.append_assoc, List.singleton_append]

/-- A visit below the prefix gives an entry when it is one of a file. -/
theorem describe_visit (hroot : root = parse (s.getFullPath bucket keyPrefix))
    {node : Node File} (hwalk : l ∈ disk.walk (FileTree.locate host.cwd root))
    (hnode : disk.node l = some node) :
    s.describe (s.getFullPath bucket keyPrefix) (pathOf host root l, node) =
      if l ∈ filesBelow disk (FileTree.locate host.cwd root) then some (s.entry host disk root l)
      else none := by
  obtain ⟨hbelow, hsome⟩ := Disk.mem_walk.mp hwalk
  have hvalid : root.Valid := hroot ▸ parse_valid _
  have hrender : root.render = s.getFullPath bucket keyPrefix := by
    rw [hroot, render_parse_getFullPath]
  cases node with
  | dir =>
    rw [if_neg]
    · rfl
    · intro hfile
      have hsome := (List.mem_filter.mp hfile).2
      simp [Disk.fileAt, hnode] at hsome
  | file info =>
    have hat : disk.fileAt l = some info := by simp [Disk.fileAt, hnode]
    by_cases htop : l = FileTree.locate host.cwd root
    · have hself : pathOf host root l = root := by simp [pathOf, htop]
      have hnot : l ∉ filesBelow disk (FileTree.locate host.cwd root) := by
        simp [filesBelow, htop]
      rw [if_neg hnot, hself]
      exact if_pos hrender
    · have hmem : l ∈ filesBelow disk (FileTree.locate host.cwd root) := by
        rw [filesBelow, List.mem_filter]
        exact ⟨hwalk, by simp [htop, hat]⟩
      obtain ⟨key, hkey, _, _⟩ := rel_pathOf hroot hmem
      have hother : (pathOf host root l).render ≠ s.getFullPath bucket keyPrefix := by
        intro heq
        rw [← hrender] at heq
        have hself := congrArg parse heq
        rw [parse_render (pathOf_valid hvalid hsome), parse_render hvalid] at hself
        apply htop
        rw [← locate_pathOf hbelow, hself]
      rw [if_pos hmem]
      simp [describe, entry, hother, hkey, hat]

/-- Without a limit, what is listed are the files that the walk gets to. -/
theorem visited_describe (hroot : root = parse (s.getFullPath bucket keyPrefix)) :
    (host.visited disk root).filterMap (s.describe (s.getFullPath bucket keyPrefix)) =
      (readableBelow host disk root).map (s.entry host disk root) := by
  unfold Host.visited readableBelow
  simp only
  have hall : ∀ ls : List Location, (∀ l ∈ ls, l ∈ disk.walk (FileTree.locate host.cwd root)) →
      (ls.filterMap fun l =>
          if host.readableFrom (FileTree.locate host.cwd root) l then
            (disk.node l).map fun node => (pathOf host root l, node)
          else none).filterMap (s.describe (s.getFullPath bucket keyPrefix)) =
        ((ls.filter fun l => l ∈ filesBelow disk (FileTree.locate host.cwd root)).filter
          (host.readableFrom (FileTree.locate host.cwd root))).map (s.entry host disk root) := by
    intro ls
    induction ls with
    | nil => exact fun _ => rfl
    | cons l rest ih =>
      intro hwalk
      have hrest := ih fun k hk => hwalk k (List.mem_cons_of_mem _ hk)
      have hmem := hwalk l List.mem_cons_self
      obtain ⟨node, hnode⟩ := Option.ne_none_iff_exists'.mp (Disk.mem_walk.mp hmem).2
      have hvisit := describe_visit hroot hmem hnode
      by_cases hreadable : host.readableFrom (FileTree.locate host.cwd root) l = true
      · by_cases hfile : l ∈ filesBelow disk (FileTree.locate host.cwd root)
        · rw [if_pos hfile] at hvisit
          simp [hreadable, hnode, hvisit, hfile, hrest]
        · rw [if_neg hfile] at hvisit
          simp [hreadable, hnode, hvisit, hfile, hrest]
      · by_cases hfile : l ∈ filesBelow disk (FileTree.locate host.cwd root)
        · simp [hreadable, hfile, hrest]
        · simp [hreadable, hfile, hrest]
  have hfiles : (disk.walk (FileTree.locate host.cwd root)).filter
        (fun l => l ∈ filesBelow disk (FileTree.locate host.cwd root)) =
      filesBelow disk (FileTree.locate host.cwd root) := by
    rw [filesBelow]
    apply List.filter_congr
    intro l hl
    simp [hl]
  rw [← hfiles]
  exact hall _ fun l hl => hl

theorem list_eq (host : Host) (disk : Disk File) (bucket keyPrefix : String)
    (hhealthy : s.healthy = true) (limit : Int) :
    s.list host disk bucket keyPrefix limit =
      .ok (((readableBelow host disk (parse (s.getFullPath bucket keyPrefix))).take
        (if limit ≤ 0 then 100 else limit).toNat).map
          (s.entry host disk (parse (s.getFullPath bucket keyPrefix)))) := by
  have hlimit : (([] : List FileInfo).length : Int) < (if limit ≤ 0 then 100 else limit) := by
    rw [List.length_nil]
    split_ifs <;> omega
  unfold list
  simp only [hhealthy, Bool.not_true, Bool.false_eq_true, if_false]
  rw [listLoop_eq hlimit, visited_describe rfl]
  simp [List.map_take]

/-! ### Listing, then getting -/

section

variable (hroot : root = parse (s.getFullPath bucket keyPrefix))
  (hl : l ∈ filesBelow disk (FileTree.locate host.cwd root))

include hroot hl

theorem listedAt_entry : s.listedAt host (s.entry host disk root l) = l := by
  obtain ⟨key, hkey, hresolve, _⟩ := rel_pathOf hroot hl
  obtain ⟨hbelow, _⟩ := Disk.mem_walk.mp (List.mem_filter.mp hl).1
  have hentry : (s.entry host disk root l).key = key := entry_key hkey
  rw [listedAt_eq, hentry, hresolve, locate_pathOf hbelow]

/-- The entry of a file describes it. -/
theorem entry_describes :
    Inside (FileTree.locate host.cwd root) (s.listedAt host (s.entry host disk root l)) ∧
      ∃ file, disk.fileAt (s.listedAt host (s.entry host disk root l)) = some file ∧
        (s.entry host disk root l).size = file.content.length ∧
        (s.entry host disk root l).lastModified = file.modTime := by
  rw [listedAt_entry hroot hl]
  obtain ⟨hwalk, hfile⟩ := List.mem_filter.mp hl
  simp only [ne_eq, Bool.decide_and, Bool.and_eq_true, decide_eq_true_eq] at hfile
  obtain ⟨file, hat⟩ := Option.isSome_iff_exists.mp hfile.2
  refine ⟨⟨(Disk.mem_walk.mp hwalk).1, hfile.1⟩, file, hat, ?_⟩
  simp [entry, hat]

theorem entry_addresses_iff :
    host.locate (s.getFullPath bucket (s.entry host disk root l).key) =
        s.listedAt host (s.entry host disk root l) ↔
      s.Aligned host bucket (pathOf host root l) := by
  obtain ⟨key, hkey, _, hups⟩ := rel_pathOf hroot hl
  have hentry : (s.entry host disk root l).key = key := entry_key hkey
  rw [locate_key_iff, hentry, hups]
  rfl

end

theorem filesBelow_nodup (disk : Disk File) (top : Location) : (filesBelow disk top).Nodup :=
  (disk.walk_nodup top).filter _

/-- A listing is what it should be exactly when each file that it names is aligned with the
bucket, and, if the limit is high enough for all files, no directory refuses to be read. -/
theorem lists_then_gets_iff (s : LocalStorage) (host : Host) (disk : Disk File)
    (bucket keyPrefix : String) (limit : Int) :
    (∀ files, s.list host disk bucket keyPrefix limit = .ok files →
        ListsThenGets s host disk bucket keyPrefix limit files) ↔
      (s.healthy = true →
        let root := parse (s.getFullPath bucket keyPrefix)
        let top := host.locate (s.getFullPath bucket keyPrefix)
        (∀ l ∈ (readableBelow host disk root).take
            (if limit ≤ 0 then 100 else limit).toNat,
          s.Aligned host bucket (pathOf host root l)) ∧
        (((filesBelow disk top).length : Int) ≤ limit →
          ∀ l ∈ filesBelow disk top, host.readableFrom top l = true)) := by
  cases hhealthy : s.healthy with
  | false =>
    have herror : s.list host disk bucket keyPrefix limit = .error unhealthy := by
      simp [list, hhealthy]
    simp [herror]
  | true =>
    set root := parse (s.getFullPath bucket keyPrefix) with hroot
    set n := (if limit ≤ 0 then 100 else limit).toNat with hn
    have hlist := list_eq host disk bucket keyPrefix hhealthy limit
    rw [← hroot, ← hn] at hlist
    have hfile : ∀ l ∈ (readableBelow host disk root).take n,
        l ∈ filesBelow disk (FileTree.locate host.cwd root) :=
      fun l hl => (List.mem_filter.mp (List.mem_of_mem_take hl)).1
    have hlisted : (((readableBelow host disk root).take n).map (s.entry host disk root)).map
        (s.listedAt host) = (readableBelow host disk root).take n := by
      rw [List.map_map]
      conv_rhs => rw [← List.map_id ((readableBelow host disk root).take n)]
      apply List.map_congr_left
      intro l hl
      exact listedAt_entry hroot (hfile l hl)
    have honce : ∀ l ∈ filesBelow disk (FileTree.locate host.cwd root),
        ((filesBelow disk (FileTree.locate host.cwd root)).length : Int) ≤ limit →
        (((readableBelow host disk root).take n).count l = 1 ↔
          host.readableFrom (FileTree.locate host.cwd root) l = true) := by
      intro l hl hlimit
      have hpos := List.length_pos_of_mem hl
      have hlength := List.length_filter_le
        (host.readableFrom (FileTree.locate host.cwd root))
        (filesBelow disk (FileTree.locate host.cwd root))
      have hall : (readableBelow host disk root).take n = readableBelow host disk root := by
        apply List.take_of_length_le
        rw [hn, if_neg (by omega), readableBelow]
        omega
      have hnodup : (readableBelow host disk root).Nodup :=
        (filesBelow_nodup disk _).filter _
      rw [hall, hnodup.count]
      simp [readableBelow, hl]
    rw [hlist]
    constructor
    · intro hholds _
      have hlisting := hholds _ rfl
      refine ⟨?_, ?_⟩
      · intro l hl
        rw [← entry_addresses_iff hroot (hfile l hl)]
        exact hlisting.addresses _ (List.mem_map_of_mem hl)
      · intro hlimit l hl
        apply (honce l hl hlimit).mp
        rw [← hlisted]
        exact hlisting.once hlimit l hl
    · intro hcondition files hfiles
      obtain ⟨haligned, hreadable⟩ := hcondition rfl
      obtain rfl := Except.ok.inj hfiles
      refine ⟨?_, ?_, ?_⟩
      · intro info hinfo
        obtain ⟨l, hl, rfl⟩ := List.mem_map.mp hinfo
        exact entry_describes hroot (hfile l hl)
      · intro info hinfo
        obtain ⟨l, hl, rfl⟩ := List.mem_map.mp hinfo
        exact (entry_addresses_iff hroot (hfile l hl)).mpr (haligned l hl)
      · intro hlimit l hl
        rw [hlisted]
        exact (honce l hl hlimit).mpr (hreadable hlimit l hl)

/-- Without a bucket, and for a bucket whose directory is the configured one, every file is
aligned. -/
theorem aligned_of_same (path : Path)
    (h : host.locate (s.getFullPath bucket "") = host.locate s.localPath) :
    s.Aligned host bucket path := by
  unfold Aligned
  rw [h]

/-- In the default storage, `media/a.txt`. -/
def mediaDisk : Disk File :=
  Disk.ofList
    [(["storage".toList], .dir), (["storage".toList, "media".toList], .dir),
      (["storage".toList, "media".toList, "a.txt".toList], .file ⟨[], 0⟩)]

/-- The key that is listed for the bucket `media` is `media/a.txt`, and that is what is looked
for in the bucket. -/
theorem bucket_listed_twice :
    ¬ ∀ (s : LocalStorage) (host : Host) (disk : Disk File) (bucket keyPrefix : String)
      (limit : Int) (files : List FileInfo),
      s.list host disk bucket keyPrefix limit = .ok files →
        ListsThenGets s host disk bucket keyPrefix limit files := by
  intro hlists
  have hlisting := hlists defaultStorage ⟨[], fun _ _ => none, fun _ _ => ⟨"", false⟩⟩ mediaDisk
    "media" "" 100 [⟨"media/a.txt", 0, 0, "0"⟩] (by decide +kernel)
  have haddress := hlisting.addresses _ List.mem_cons_self
  exact absurd haddress (by decide +kernel)

end LocalStorage

end WhatsappGateway.Storage

import Mathlib.Data.List.Dedup
import Mathlib.Data.List.Sort
import WhatsappGateway.Storage.S3Policy

/-!
What setting the access of a folder does to the reads that its bucket's policy grants. The
pattern of a prefix has no slash between the bucket and the prefix, so that it names another
bucket than the one the objects are in; and of the resources only an array is edited.
-/

namespace WhatsappGateway.Storage

open Lib Json

namespace S3Storage

/-- `*` stands for any text. -/
def patternGlob (pattern : String) : Glob Char :=
  pattern.toList.map fun c => if c = '*' then .many else .lit c

/-- The resource name of an object. -/
def arn (bucket key : String) : String := "arn:aws:s3:::" ++ bucket ++ "/" ++ key

def grants (pattern resource : String) : Bool := (patternGlob pattern).accepts resource.toList

/-- The pattern that making a folder public adds. -/
def folderPattern (bucket pre : String) : String := resourcePattern bucket (ensureSlash pre)

/-- `q` is the folder `p` or lies below it. Everything lies below the folder without a name. -/
def SubPrefix (p q : String) : Prop :=
  p = "" ∨ (ensureSlash p).toList <+: (ensureSlash q).toList

/-- Every object whose key starts with the prefix is granted. -/
def Opened (bucket pre : String) (policy : Object) : Prop :=
  ∀ key : String, pre.toList <+: key.toList →
    ∃ pattern ∈ publicPatterns policy, grants pattern (arn bucket key) = true

/-- No pattern that was added for the prefix, or for one below it, is left. -/
def Closed (bucket pre : String) (policy : Object) : Prop :=
  ∀ q, SubPrefix pre q → folderPattern bucket q ∉ publicPatterns policy

def TakesEffect (bucket pre : String) (isPublic : Bool) (policy : Object) : Prop :=
  if isPublic then Opened bucket pre policy else Closed bucket pre policy

/-- A key that the added pattern does not match is matched by one that was in the array of
resources. -/
def CanOpen (bucket pre : String) (policy : Object) : Prop :=
  ∀ key : String, pre.toList <+: key.toList →
    grants (folderPattern bucket pre) (arn bucket key) = false →
    ∃ pattern ∈ arrayPatterns policy, grants pattern (arn bucket key) = true

/-- The patterns that have to go are in an array, and start as the folder does. -/
def CanClose (bucket pre : String) (policy : Object) : Prop :=
  ∀ q, SubPrefix pre q → folderPattern bucket q ∈ publicPatterns policy →
    ((publicRead policy).bind resourceArray).isSome = true ∧
      (ensureSlash pre).toList <+: (ensureSlash q).toList

def CanTakeEffect (bucket pre : String) (isPublic : Bool) (policy : Object) : Prop :=
  if isPublic then CanOpen bucket pre policy else CanClose bucket pre policy

variable {set : StringSet} {s : S3Storage} {client : PolicyClient} {stored stored' : Option Object}
  {policy policy' : Object} {bucket pre p q key : String} {isPublic : Bool}

/-! ### Folder patterns -/

theorem ensureSlash_suffix (pre : String) : ['/'] <:+ (ensureSlash pre).toList := by
  unfold ensureSlash
  split_ifs with hsuffix
  · exact List.isSuffixOf_iff_suffix.mp hsuffix
  · rw [String.toList_append]
    exact List.suffix_append _ _

/-- The pattern of a folder starts as another folder's does when it lies in that folder. -/
theorem hasPrefix_folderPattern :
    hasPrefix (folderPattern bucket q) (resourceStart bucket (ensureSlash p)) = true ↔
      (ensureSlash p).toList <+: (ensureSlash q).toList := by
  unfold hasPrefix folderPattern resourcePattern resourceStart
  rw [List.isPrefixOf_iff_prefix]
  simp only [String.toList_append, List.append_assoc, List.prefix_append_right_inj]
  constructor
  · intro h
    have hlast : "*".toList = ['*'] := rfl
    rw [hlast] at h
    rcases List.prefix_concat_iff.mp h with heq | hpre
    · obtain ⟨front, hfront⟩ := ensureSlash_suffix p
      rw [heq] at hfront
      have hchar := (List.append_inj' hfront rfl).2
      exact absurd hchar (by decide)
    · exact hpre
  · intro h
    exact h.trans (List.prefix_append _ _)

theorem patternGlob_literal {chars : List Char} (h : '*' ∉ chars) :
    (chars.map fun c => if c = '*' then GlobToken.many else .lit c) = Glob.literal chars := by
  unfold Glob.literal
  apply List.map_congr_left
  intro c hc
  have hne : c ≠ '*' := by
    rintro rfl
    exact h hc
  exact if_neg hne

theorem not_mem_ensureSlash (h : '*' ∉ pre.toList) : '*' ∉ (ensureSlash pre).toList := by
  unfold ensureSlash
  split_ifs
  · exact h
  · rw [String.toList_append, List.mem_append, not_or]
    exact ⟨h, by decide⟩

/-- Without a wildcard in the names, the pattern of a folder matches what starts with the bucket
and, right after it, the folder. -/
theorem grants_folderPattern_iff (hbucket : '*' ∉ bucket.toList) (hpre : '*' ∉ pre.toList) :
    grants (folderPattern bucket pre) (arn bucket key) = true ↔
      (ensureSlash pre).toList <+: '/' :: key.toList := by
  have hstart : '*' ∉ (resourceStart bucket (ensureSlash pre)).toList := by
    unfold resourceStart
    rw [String.toList_append, String.toList_append, List.mem_append, List.mem_append, not_or,
      not_or]
    exact ⟨⟨by decide, hbucket⟩, not_mem_ensureSlash hpre⟩
  have hglob : patternGlob (folderPattern bucket pre) =
      Glob.literal (resourceStart bucket (ensureSlash pre)).toList ++ [.many] := by
    unfold patternGlob folderPattern resourcePattern
    rw [String.toList_append, List.map_append, patternGlob_literal hstart]
    rfl
  unfold grants
  rw [hglob, Glob.accepts_prefix]
  unfold resourceStart arn
  simp only [String.toList_append, List.append_assoc, List.prefix_append_right_inj]
  rfl

theorem forall_eq_of_prefix_cons {chars : List Char} {c : Char} (h : chars <+: c :: chars) :
    ∀ x ∈ chars, x = c := by
  induction chars generalizing c with
  | nil => simp
  | cons first rest ih =>
    obtain ⟨rfl, hrest⟩ := List.cons_prefix_cons.mp h
    intro x hx
    rcases List.mem_cons.mp hx with rfl | hmem
    · rfl
    · exact ih hrest x hmem

theorem prefix_cons_of_forall_eq {chars : List Char} {c : Char} (h : ∀ x ∈ chars, x = c) :
    chars <+: c :: chars := by
  rw [List.eq_replicate_of_mem h, ← List.replicate_succ, List.replicate_succ']
  exact List.prefix_append _ _

/-- So it opens its folder only when that is the bucket itself, or named by slashes. -/
theorem folderPattern_opens_iff (bucket pre : String) (hbucket : '*' ∉ bucket.toList)
    (hpre : '*' ∉ pre.toList) :
    (∀ key : String, pre.toList <+: key.toList →
      grants (folderPattern bucket pre) (arn bucket key) = true) ↔
      ∀ c ∈ pre.toList, c = '/' := by
  have hsplit : (ensureSlash pre).toList = pre.toList ∧ ['/'] <:+ pre.toList ∨
      (ensureSlash pre).toList = pre.toList ++ ['/'] ∧ ¬ ['/'] <:+ pre.toList := by
    unfold ensureSlash
    split_ifs with hsuffix
    · exact Or.inl ⟨rfl, List.isSuffixOf_iff_suffix.mp hsuffix⟩
    · rw [List.isSuffixOf_iff_suffix] at hsuffix
      exact Or.inr ⟨String.toList_append, hsuffix⟩
  constructor
  · intro hopens
    have hself := (grants_folderPattern_iff hbucket hpre).mp (hopens pre (List.prefix_refl _))
    apply forall_eq_of_prefix_cons
    rcases hsplit with ⟨heq, _⟩ | ⟨heq, _⟩
    · rwa [heq] at hself
    · rw [heq] at hself
      exact (List.prefix_append _ _).trans hself
  · intro hslashes key hkey
    rw [grants_folderPattern_iff hbucket hpre]
    rcases hsplit with ⟨heq, _⟩ | ⟨heq, hnot⟩
    · rw [heq]
      exact (prefix_cons_of_forall_eq hslashes).trans (List.cons_prefix_cons.mpr ⟨rfl, hkey⟩)
    · -- A name of slashes that does not end with one is empty.
      rcases List.eq_nil_or_concat pre.toList with hnil | ⟨front, last, hconcat⟩
      · rw [heq, hnil]
        exact List.cons_prefix_cons.mpr ⟨rfl, List.nil_prefix⟩
      · rw [List.concat_eq_append] at hconcat
        have hlast : last = '/' := hslashes last (by simp [hconcat])
        apply absurd _ hnot
        rw [hconcat, hlast]
        exact List.suffix_append _ _

/-! ### The access that is set -/

theorem opened_iff
    (h : statementsOf policy' = addPrefix set bucket (ensureSlash pre) (statementsOf policy)) :
    Opened bucket pre policy' ↔ CanOpen bucket pre policy := by
  unfold Opened CanOpen
  apply forall₂_congr
  intro key _
  constructor
  · rintro ⟨pattern, hmem, hgrants⟩ hnot
    rcases (mem_publicPatterns_of_add h).mp hmem with rfl | harray
    · rw [folderPattern, hgrants] at hnot
      cases hnot
    · exact ⟨pattern, harray, hgrants⟩
  · intro hold
    cases hnew : grants (folderPattern bucket pre) (arn bucket key) with
    | true => exact ⟨_, (mem_publicPatterns_of_add h).mpr (Or.inl rfl), hnew⟩
    | false =>
      obtain ⟨pattern, harray, hgrants⟩ := hold hnew
      exact ⟨pattern, (mem_publicPatterns_of_add h).mpr (Or.inr harray), hgrants⟩

theorem closed_iff (hsid : findPublicRead (otherStatements policy) = none)
    (h : statementsOf policy' = removePrefix bucket (ensureSlash pre) (statementsOf policy)) :
    Closed bucket pre policy' ↔ CanClose bucket pre policy := by
  unfold Closed CanClose
  apply forall₂_congr
  intro q _
  rw [mem_publicPatterns_of_remove hsid h, not_and, ← hasPrefix_folderPattern]
  apply forall_congr'
  intro _
  rw [Classical.not_imp, Bool.not_eq_false]

/-- A sorted slice without repetitions. -/
def sortedSet : StringSet where
  toSlice added := added.dedup.insertionSort (· ≤ ·)
  mem_toSlice added text := by
    rw [(List.perm_insertionSort _ _).mem_iff, List.mem_dedup]

def assets : S3Storage := ⟨"assets", true⟩

def openClient : PolicyClient := ⟨none, fun _ => none⟩

end S3Storage

end WhatsappGateway.Storage

import WhatsappGateway.Storage.FolderAccess

/-!
What setting the access of a folder leaves as it was. The other statements stay, and so does
every resource of an array that does not start as the folder's pattern does. A resource that is
a text is lost when a folder is made public, and what starts as the pattern is lost on the way
back.
-/

namespace WhatsappGateway.Storage

open Lib Json

namespace S3Storage

/-- The same statement, or none: the resources are compared as sets. -/
def SameStatement : Option Object → Option Object → Prop
  | none, none => True
  | some stmt, some stmt' =>
    (∀ name, name ≠ "Resource" → stmt'.lookup name = stmt.lookup name) ∧
      ∀ text, text ∈ patterns stmt' ↔ text ∈ patterns stmt
  | _, _ => False

/-- The same statements. -/
def Equivalent (policy policy' : Object) : Prop :=
  otherStatements policy' = otherStatements policy ∧
    SameStatement (publicRead policy) (publicRead policy')

/-- What making a prefix public should keep. -/
def PublicKeeps (policy policy' : Object) : Prop :=
  otherStatements policy' = otherStatements policy ∧
    ∀ text ∈ publicPatterns policy, text ∈ publicPatterns policy'

/-- What making a prefix private should keep. -/
def PrivateKeeps (bucket pre : String) (policy policy' : Object) : Prop :=
  otherStatements policy' = otherStatements policy ∧
    ∀ q, ¬ SubPrefix pre q → folderPattern bucket q ∈ publicPatterns policy →
      folderPattern bucket q ∈ publicPatterns policy'

/-- What making a prefix public and private again should give back. -/
def ThereAndBack (bucket pre : String) (policy policy' : Object) : Prop :=
  (∀ q, SubPrefix pre q → folderPattern bucket q ∉ publicPatterns policy) →
    Equivalent policy policy'

/-- The resource is the folder's pattern, or an array. In the array either the folder or one
below it is public already, or nothing starts as the folder's pattern does. -/
def Kept (bucket pre : String) (stmt : Object) : Prop :=
  match resourceArray stmt with
  | none => stmt.lookup "Resource" = some (.str (folderPattern bucket pre))
  | some resources =>
    (∃ q, SubPrefix pre q ∧ folderPattern bucket q ∈ strings resources) ∨
      ∀ text ∈ strings resources, hasPrefix text (resourceStart bucket (ensureSlash pre)) = false

variable {set : StringSet} {s : S3Storage} {client₁ client₂ client₃ : PolicyClient}
  {stored stored₁ stored₂ stored₃ : Option Object} {policy policy₁ policy₂ policy₃ : Object}
  {stmt : Object} {bucket pre q text name : String}

/-! ### The statement, there and back -/

theorem subPrefix_refl (pre : String) : SubPrefix pre pre := Or.inr (List.prefix_refl _)

theorem resourceArray_addResource :
    (resourceArray (addResource set text stmt)).isSome = true := by
  unfold addResource
  simp only
  split_ifs with hmem
  · cases harray : resourceArray stmt with
    | none =>
      rw [harray] at hmem
      cases hmem
    | some resources => rfl
  · rw [resourceArray_setField]
    rfl

theorem lookup_addResource (hname : name ≠ "Resource") :
    (addResource set text stmt).lookup name = stmt.lookup name := by
  unfold addResource
  simp only
  split_ifs
  · rfl
  · exact lookup_setField_ne hname

theorem lookup_removeResource {left : Object} (hname : name ≠ "Resource")
    (h : removeResource bucket pre stmt = some left) : left.lookup name = stmt.lookup name := by
  unfold removeResource at h
  split at h
  · rw [Option.some.inj h]
  · simp only at h
    split_ifs at h
    rw [← Option.some.inj h]
    exact lookup_setField_ne hname

/-- What the statement grants after its pattern was added and removed. -/
theorem mem_patterns_there_and_back :
    text ∈ (removeResource bucket (ensureSlash pre)
        (addResource set (folderPattern bucket pre) stmt)).elim [] patterns ↔
      text ∈ strings ((resourceArray stmt).getD []) ∧
        hasPrefix text (resourceStart bucket (ensureSlash pre)) = false := by
  have hself : hasPrefix (folderPattern bucket pre) (resourceStart bucket (ensureSlash pre)) =
      true := hasPrefix_folderPattern.mpr (List.prefix_refl _)
  rw [mem_patterns_removeResource, mem_patterns_addResource, resourceArray_addResource]
  simp only [forall_const, and_congr_left_iff, or_iff_right_iff_imp]
  rintro hnot rfl
  rw [hself] at hnot
  cases hnot

theorem patterns_ne_nil_of_removeResource {left : Object}
    (harray : (resourceArray stmt).isSome = true)
    (h : removeResource bucket pre stmt = some left) : patterns left ≠ [] := by
  unfold removeResource at h
  split at h
  · next hnone =>
    rw [hnone] at harray
    cases harray
  · simp only at h
    split_ifs at h with hnew
    rw [← Option.some.inj h, patterns_of_array (resourceArray_setField _), strings_map_str]
    exact hnew

/-- A statement which had no array, such as a new one, is gone again. -/
theorem removeResource_new (h : strings ((resourceArray stmt).getD []) = []) :
    removeResource bucket (ensureSlash pre)
      (addResource set (folderPattern bucket pre) stmt) = none := by
  have hmem := @mem_patterns_there_and_back set stmt bucket pre
  rw [h] at hmem
  cases hleft : removeResource bucket (ensureSlash pre)
      (addResource set (folderPattern bucket pre) stmt) with
  | none => rfl
  | some left =>
    rw [hleft] at hmem
    obtain ⟨text, htext⟩ := List.exists_mem_of_ne_nil _
      (patterns_ne_nil_of_removeResource resourceArray_addResource hleft)
    exact absurd (hmem.mp htext).1 (List.not_mem_nil)

/-- A statement with an array comes back exactly when nothing in the array starts as the added
pattern does. -/
theorem sameStatement_iff {texts : List String} (hsome : texts ≠ [])
    (harray : resourceArray stmt = some (texts.map .str)) :
    SameStatement (some stmt)
        (removeResource bucket (ensureSlash pre)
          (addResource set (folderPattern bucket pre) stmt)) ↔
      ∀ text ∈ texts, hasPrefix text (resourceStart bucket (ensureSlash pre)) = false := by
  have hmem := @mem_patterns_there_and_back set stmt bucket pre
  rw [harray, Option.getD_some, strings_map_str] at hmem
  have hpatterns : patterns stmt = texts := by
    rw [patterns_of_array harray, strings_map_str]
  cases hleft : removeResource bucket (ensureSlash pre)
      (addResource set (folderPattern bucket pre) stmt) with
  | none =>
    rw [hleft] at hmem
    obtain ⟨text, htext⟩ := List.exists_mem_of_ne_nil texts hsome
    constructor
    · exact False.elim
    · intro hnone
      exact absurd (hmem.mpr ⟨htext, hnone text htext⟩) (List.not_mem_nil)
  | some left =>
    rw [hleft] at hmem
    constructor
    · rintro ⟨_, hsame⟩ text htext
      rw [← hpatterns, ← hsame] at htext
      exact (hmem.mp htext).2
    · intro hnone
      refine ⟨?_, ?_⟩
      · intro name hname
        rw [lookup_removeResource hname hleft, lookup_addResource hname]
      · intro text
        rw [hpatterns]
        constructor
        · intro htext
          exact (hmem.mp htext).1
        · intro htext
          exact hmem.mpr ⟨htext, hnone text htext⟩

/-! ### The edits -/

section

variable
  (hpublic : statementsOf policy₁ = addPrefix set bucket (ensureSlash pre) (statementsOf policy))
  (hprivate : statementsOf policy₂ = removePrefix bucket (ensureSlash pre) (statementsOf policy))
  (hback : statementsOf policy₃ = removePrefix bucket (ensureSlash pre) (statementsOf policy₁))

include hprivate in
/-- Making a prefix private keeps what it should. -/
theorem privateKeeps (hsid : findPublicRead (otherStatements policy) = none) :
    PrivateKeeps bucket pre policy policy₂ := by
  refine ⟨(publicRead_of_remove hsid hprivate).2, ?_⟩
  intro q hother hmem
  rw [mem_publicPatterns_of_remove hsid hprivate]
  refine ⟨hmem, fun _ => ?_⟩
  rw [← Bool.not_eq_true, hasPrefix_folderPattern]
  exact fun hpre => hother (Or.inr hpre)

include hpublic in
theorem publicKeeps_iff :
    PublicKeeps policy policy₁ ↔
      ∀ text ∈ publicPatterns policy,
        text = folderPattern bucket pre ∨ text ∈ arrayPatterns policy := by
  have hothers := (publicRead_of_add hpublic).2
  unfold PublicKeeps
  simp only [hothers, true_and, mem_publicPatterns_of_add hpublic]
  rfl

include hpublic hback in
theorem equivalent_iff (hsid : findPublicRead (otherStatements policy) = none) :
    Equivalent policy policy₃ ↔
      SameStatement (publicRead policy)
        (removeResource bucket (ensureSlash pre)
          (addResource set (folderPattern bucket pre)
            ((publicRead policy).getD newPublicRead))) := by
  obtain ⟨hread₁, hothers₁⟩ := publicRead_of_add hpublic
  rw [← hothers₁] at hsid
  obtain ⟨hread₃, hothers₃⟩ := publicRead_of_remove hsid hback
  unfold Equivalent
  rw [hothers₃, hothers₁, hread₃, hread₁]
  simp only [true_and]
  rfl

include hpublic hprivate hback in
/-- The edits keep what they should exactly when the statement, if there is one, is such that
they do. -/
theorem edits_iff (hwf : WellFormed policy) :
    PublicKeeps policy policy₁ ∧ PrivateKeeps bucket pre policy policy₂ ∧
        ThereAndBack bucket pre policy policy₃ ↔
      ∀ stmt ∈ publicRead policy, Kept bucket pre stmt := by
  have hequivalent := equivalent_iff hpublic hback hwf.sid
  have hkeeps := publicKeeps_iff hpublic
  simp only [privateKeeps hprivate hwf.sid, true_and]
  unfold ThereAndBack
  rw [hequivalent, hkeeps]
  unfold publicPatterns arrayPatterns
  cases hread : publicRead policy with
  | none =>
    have hnew : removeResource bucket (ensureSlash pre)
        (addResource set (folderPattern bucket pre) newPublicRead) = none :=
      removeResource_new rfl
    simp only [Option.elim_none, Option.getD_none, hnew]
    simp [SameStatement]
  | some stmt =>
    simp only [Option.elim_some, Option.getD_some, Option.mem_some_iff, forall_eq']
    rcases hwf.resource stmt hread with ⟨text, hresource⟩ | ⟨texts, hsome, hresource⟩
    · -- A text: it is lost, unless it is the pattern itself.
      have hnone : resourceArray stmt = none := by
        unfold resourceArray
        rw [hresource]
      have hpatterns : patterns stmt = [text] := by
        unfold patterns
        rw [hresource]
      unfold Kept
      rw [hnone, hpatterns, hresource]
      simp only [List.mem_singleton, forall_eq, Option.some.injEq, Json.str.injEq]
      constructor
      · rintro ⟨hkept, _⟩
        exact hkept.resolve_right (List.not_mem_nil)
      · rintro rfl
        refine ⟨Or.inl rfl, ?_⟩
        intro hnot
        exact absurd rfl (hnot pre (subPrefix_refl pre))
    · have harray : resourceArray stmt = some (texts.map .str) := by
        unfold resourceArray
        rw [hresource]
      have hpatterns : patterns stmt = texts := by
        rw [patterns_of_array harray, strings_map_str]
      unfold Kept
      rw [harray, hpatterns, sameStatement_iff hsome harray]
      simp only [Option.getD_some, strings_map_str]
      constructor
      · rintro ⟨_, hback⟩
        by_cases hpublic : ∃ q, SubPrefix pre q ∧ folderPattern bucket q ∈ texts
        · exact Or.inl hpublic
        · refine Or.inr (hback ?_)
          intro q hq hmem
          exact hpublic ⟨q, hq, hmem⟩
      · intro hkept
        refine ⟨fun text htext => Or.inr htext, ?_⟩
        intro hnot
        rcases hkept with ⟨q, hq, hmem⟩ | hnone
        · exact absurd hmem (hnot q hq)
        · exact hnone

end

/-- A policy with one statement, for public reads. -/
def onePolicy (resource : Json) : Object :=
  [("Version", .str "2012-10-17"),
    ("Statement", .arr [.obj [("Sid", .str publicReadSid), ("Resource", resource)]])]

def setAssets (stored : Option Object) (pre : String) (isPublic : Bool) : Option Object :=
  (assets.setFolderAccess sortedSet openClient stored "" pre isPublic).1

theorem setAssets_ok (stored : Option Object) (pre : String) (isPublic : Bool) :
    assets.setFolderAccess sortedSet openClient stored "" pre isPublic =
      (setAssets stored pre isPublic, .ok ()) :=
  setFolderAccess_of_client rfl rfl fun _ => rfl

def docsPolicy : Option Object := some (onePolicy (.arr [.str "arn:aws:s3:::assetsdocs/*"]))

def logoPolicy : Option Object := some (onePolicy (.str "arn:aws:s3:::assets/logo.png"))

end S3Storage

end WhatsappGateway.Storage

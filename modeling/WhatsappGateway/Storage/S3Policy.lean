import Mathlib.Data.List.Infix
import WhatsappGateway.Lib.Glob
import WhatsappGateway.Lib.Json

/-!
The bucket policy that grants public reads of a folder, and how the S3 backend edits it. The
policy is an untyped document, of which the edit reads and writes one statement.
-/

namespace WhatsappGateway.Storage

open Lib Json

structure S3Storage where
  bucket : String
  healthy : Bool
deriving DecidableEq, Repr

/-- The string set of the client library, as far as it is used: a slice of what was added. -/
structure StringSet where
  toSlice : List String → List String
  mem_toSlice : ∀ added text, text ∈ toSlice added ↔ text ∈ added

/-- What the storage service answers when it refuses. That there is no policy is no refusal. -/
structure PolicyClient where
  getError : Option String
  setError : Object → Option String

namespace S3Storage

/-! ### The statement -/

def publicReadSid : String := "PublicReadGetObject"

def isPublicRead (stmt : Object) : Bool :=
  match stmt.lookup "Sid" with
  | some (.str sid) => sid = publicReadSid
  | _ => false

/-- The type assertion on a statement, and the comparison of its identifier. -/
def asPublicRead : Json → Option Object
  | .obj stmt => if isPublicRead stmt then some stmt else none
  | _ => none

/-- The first statement with the identifier, with the statements before and after it. -/
def findPublicRead : List Json → Option (List Json × Object × List Json)
  | [] => none
  | statement :: rest =>
    match asPublicRead statement with
    | some stmt => some ([], stmt, rest)
    | none => (findPublicRead rest).map fun found => (statement :: found.1, found.2)

def newPublicRead : Object :=
  [("Sid", .str publicReadSid), ("Effect", .str "Allow"), ("Principal", .obj [("AWS", .str "*")]),
    ("Action", .arr [.str "s3:GetObject"]), ("Resource", .arr [])]

/-- The type assertion on the resources of a statement: only an array passes. -/
def resourceArray (stmt : Object) : Option (List Json) :=
  match stmt.lookup "Resource" with
  | some (.arr resources) => some resources
  | _ => none

/-- What the resource pattern of a prefix starts with. -/
def resourceStart (bucket pre : String) : String := "arn:aws:s3:::" ++ bucket ++ pre

def resourcePattern (bucket pre : String) : String := resourceStart bucket pre ++ "*"

/-! ### The edit -/

def addResource (set : StringSet) (pattern : String) (stmt : Object) : Object :=
  let resourceSet := strings ((resourceArray stmt).getD [])
  if pattern ∈ resourceSet then stmt
  else setField "Resource" (.arr ((set.toSlice (resourceSet ++ [pattern])).map .str)) stmt

def addPrefix (set : StringSet) (bucket pre : String) (statements : List Json) : List Json :=
  match findPublicRead statements with
  | some (before, stmt, after) =>
    before ++ .obj (addResource set (resourcePattern bucket pre) stmt) :: after
  | none => statements ++ [.obj (addResource set (resourcePattern bucket pre) newPublicRead)]

/-- `strings.HasPrefix`. -/
def hasPrefix (text pre : String) : Bool := pre.toList.isPrefixOf text.toList

def removePrefix (bucket pre : String) (statements : List Json) : List Json :=
  match findPublicRead statements with
  | none => statements
  | some (before, stmt, after) =>
    match resourceArray stmt with
    | none => statements
    | some resources =>
      let newResources :=
        (strings resources).filter fun rs => !hasPrefix rs (resourceStart bucket pre)
      if newResources ≠ [] then
        before ++ .obj (setField "Resource" (.arr (newResources.map .str)) stmt) :: after
      else before ++ after

def statementsOf (policy : Object) : List Json :=
  match policy.lookup "Statement" with
  | some (.arr statements) => statements
  | _ => []

/-- The default policy, and the one that clears a policy. -/
def emptyPolicy : Object := [("Version", .str "2012-10-17"), ("Statement", .arr [])]

/-- Of the stored policy and the service's answers, the new stored policy and the error. -/
def setPrefixPolicy (set : StringSet) (client : PolicyClient) (stored : Option Object)
    (bucket pre : String) (add : Bool) : Option Object × Except String Unit :=
  match client.getError with
  | some err => (stored, .error err)
  | none =>
    let policy := stored.getD emptyPolicy
    let statements :=
      if add then addPrefix set bucket pre (statementsOf policy)
      else removePrefix bucket pre (statementsOf policy)
    if statements.isEmpty then
      match client.setError emptyPolicy with
      | some err => (stored, .error ("failed to clear bucket policy: " ++ err))
      | none => (some emptyPolicy, .ok ())
    else
      let policy := setField "Statement" (.arr statements) policy
      match client.setError policy with
      | some err => (stored, .error ("failed to set bucket policy: " ++ err))
      | none => (some policy, .ok ())

/-- A folder's prefix ends with a slash. -/
def ensureSlash (pre : String) : String :=
  if ['/'].isSuffixOf pre.toList then pre else pre ++ "/"

def bucketOr (s : S3Storage) (bucket : String) : String :=
  if bucket = "" then s.bucket else bucket

def setFolderAccess (set : StringSet) (s : S3Storage) (client : PolicyClient)
    (stored : Option Object) (bucket pre : String) (isPublic : Bool) :
    Option Object × Except String Unit :=
  if !s.healthy then (stored, .error "storage client is not healthy")
  else
    match setPrefixPolicy set client stored (s.bucketOr bucket) (ensureSlash pre) isPublic with
    | (stored, .ok ()) => (stored, .ok ())
    | (stored, .error err) =>
      (stored, .error ((if isPublic then "failed to set folder public: "
        else "failed to set folder private: ") ++ err))

/-! ### What a policy grants -/

/-- The patterns of a statement, whose resource is a text or an array. -/
def patterns (stmt : Object) : List String :=
  match stmt.lookup "Resource" with
  | some (.str resource) => [resource]
  | some (.arr resources) => strings resources
  | _ => []

def publicRead (policy : Object) : Option Object :=
  (findPublicRead (statementsOf policy)).map (·.2.1)

def publicPatterns (policy : Object) : List String := (publicRead policy).elim [] patterns

def otherStatements (policy : Object) : List Json :=
  match findPublicRead (statementsOf policy) with
  | some (before, _, after) => before ++ after
  | none => statementsOf policy

/-- The statements are an array, the identifier is that of one of them at most, and the resource
of that one is a text or an array of texts, which is not empty. -/
structure WellFormed (policy : Object) : Prop where
  statements : ∃ statements, policy.lookup "Statement" = some (.arr statements)
  sid : findPublicRead (otherStatements policy) = none
  resource : ∀ stmt ∈ publicRead policy,
    (∃ text, stmt.lookup "Resource" = some (.str text)) ∨
      ∃ texts, texts ≠ [] ∧ stmt.lookup "Resource" = some (.arr (texts.map .str))

variable {set : StringSet} {s : S3Storage} {client : PolicyClient} {stored stored' : Option Object}
  {policy stmt : Object} {statements before after : List Json} {bucket pre text : String}
  {isPublic : Bool}

/-! ### The statement in the list -/

theorem asPublicRead_eq_some {statement : Json} :
    asPublicRead statement = some stmt ↔ statement = .obj stmt ∧ isPublicRead stmt = true := by
  cases statement with
  | obj fields =>
    rw [asPublicRead]
    constructor
    · intro h
      split_ifs at h with hpublic
      obtain rfl := Option.some.inj h
      exact ⟨rfl, hpublic⟩
    · rintro ⟨heq, hpublic⟩
      obtain rfl := Json.obj.inj heq
      exact if_pos hpublic
  | _ => simp [asPublicRead]

theorem findPublicRead_eq_some (h : findPublicRead statements = some (before, stmt, after)) :
    statements = before ++ .obj stmt :: after ∧ isPublicRead stmt = true ∧
      findPublicRead before = none := by
  induction statements generalizing before with
  | nil => cases h
  | cons statement rest ih =>
    unfold findPublicRead at h
    cases hstatement : asPublicRead statement with
    | some fields =>
      rw [hstatement] at h
      simp only [Option.some.injEq, Prod.mk.injEq] at h
      obtain ⟨rfl, rfl, rfl⟩ := h
      obtain ⟨rfl, hpublic⟩ := asPublicRead_eq_some.mp hstatement
      exact ⟨rfl, hpublic, rfl⟩
    | none =>
      rw [hstatement] at h
      simp only [Option.map_eq_some_iff, Prod.exists, Prod.mk.injEq] at h
      obtain ⟨front, fields, tail, hfound, rfl, rfl, rfl⟩ := h
      obtain ⟨rfl, hpublic, hnone⟩ := ih hfound
      refine ⟨rfl, hpublic, ?_⟩
      rw [findPublicRead, hstatement, hnone]
      rfl

theorem findPublicRead_append (h : findPublicRead before = none) (statements : List Json) :
    findPublicRead (before ++ statements) =
      (findPublicRead statements).map fun found => (before ++ found.1, found.2) := by
  induction before with
  | nil => simp
  | cons statement rest ih =>
    unfold findPublicRead at h
    cases hstatement : asPublicRead statement with
    | some fields => simp [hstatement] at h
    | none =>
      rw [hstatement] at h
      have hrest := ih (by simpa using h)
      rw [List.cons_append, findPublicRead, hstatement, hrest]
      simp [Function.comp_def]

/-- The statement is found where it is put. -/
theorem findPublicRead_of_public (after : List Json) (hbefore : findPublicRead before = none)
    (hstmt : isPublicRead stmt = true) :
    findPublicRead (before ++ .obj stmt :: after) = some (before, stmt, after) := by
  have hstatement : asPublicRead (.obj stmt) = some stmt := if_pos hstmt
  rw [findPublicRead_append hbefore, findPublicRead, hstatement]
  simp

theorem isPublicRead_setField (value : Json) :
    isPublicRead (setField "Resource" value stmt) = isPublicRead stmt := by
  unfold isPublicRead
  rw [lookup_setField_ne (by decide)]

theorem isPublicRead_addResource :
    isPublicRead (addResource set text stmt) = isPublicRead stmt := by
  unfold addResource
  simp only
  split_ifs
  · rfl
  · exact isPublicRead_setField _

/-! ### The resources of the statement -/

/-- The texts in the resources, when these are an array. -/
def arrayPatterns (policy : Object) : List String :=
  (publicRead policy).elim [] fun stmt => strings ((resourceArray stmt).getD [])

theorem resourceArray_setField (texts : List String) :
    resourceArray (setField "Resource" (.arr (texts.map .str)) stmt) = some (texts.map .str) := by
  unfold resourceArray
  rw [lookup_setField_self]

theorem patterns_of_array {resources : List Json} (h : resourceArray stmt = some resources) :
    patterns stmt = strings resources := by
  unfold resourceArray at h
  unfold patterns
  split at h
  · next heq =>
    obtain rfl := Option.some.inj h
    rw [heq]
  · cases h

theorem mem_patterns_addResource {pattern : String} :
    text ∈ patterns (addResource set pattern stmt) ↔
      text = pattern ∨ text ∈ strings ((resourceArray stmt).getD []) := by
  unfold addResource
  simp only
  split_ifs with hmem
  · cases harray : resourceArray stmt with
    | none =>
      rw [harray] at hmem
      cases hmem
    | some resources =>
      rw [harray] at hmem
      rw [patterns_of_array harray]
      constructor
      · exact Or.inr
      · rintro (rfl | htext)
        · exact hmem
        · exact htext
  · rw [patterns_of_array (resourceArray_setField _), strings_map_str, set.mem_toSlice,
      List.mem_append, List.mem_singleton, or_comm]

/-! ### The edits of a policy -/

theorem statementsOf_setField :
    statementsOf (setField "Statement" (.arr statements) policy) = statements := by
  unfold statementsOf
  rw [lookup_setField_self]

/-- The statements after an edit. -/
def edited (set : StringSet) (bucket pre : String) (add : Bool) (policy : Object) : List Json :=
  if add then addPrefix set bucket pre (statementsOf policy)
  else removePrefix bucket pre (statementsOf policy)

theorem setPrefixPolicy_ok {add : Bool}
    (h : setPrefixPolicy set client stored bucket pre add = (stored', .ok ())) :
    ∃ policy, stored' = some policy ∧
      statementsOf policy = edited set bucket pre add (stored.getD emptyPolicy) := by
  unfold setPrefixPolicy at h
  cases hget : client.getError with
  | some err => simp [hget] at h
  | none =>
    simp only [hget] at h
    rw [show (if add then addPrefix set bucket pre (statementsOf (stored.getD emptyPolicy))
      else removePrefix bucket pre (statementsOf (stored.getD emptyPolicy))) =
        edited set bucket pre add (stored.getD emptyPolicy) from rfl] at h
    generalize edited set bucket pre add (stored.getD emptyPolicy) = statements at *
    cases statements with
    | nil =>
      simp only [List.isEmpty_nil, if_true] at h
      split at h
      · simp at h
      · obtain ⟨rfl, _⟩ := Prod.mk.inj h
        exact ⟨emptyPolicy, rfl, rfl⟩
    | cons statement rest =>
      simp only [List.isEmpty_cons, Bool.false_eq_true, if_false] at h
      split at h
      · simp at h
      · obtain ⟨rfl, _⟩ := Prod.mk.inj h
        exact ⟨_, rfl, statementsOf_setField⟩

/-- A folder access that is set leaves a policy with the edited statements. -/
theorem setFolderAccess_ok
    (h : s.setFolderAccess set client stored bucket pre isPublic = (stored', .ok ())) :
    ∃ policy, stored' = some policy ∧
      statementsOf policy = edited set (s.bucketOr bucket) (ensureSlash pre) isPublic
        (stored.getD emptyPolicy) := by
  unfold setFolderAccess at h
  cases hhealthy : s.healthy with
  | false => simp [hhealthy] at h
  | true =>
    simp only [hhealthy, Bool.not_true, Bool.false_eq_true, if_false] at h
    split at h
    · next hok =>
      obtain ⟨rfl, _⟩ := Prod.mk.inj h
      exact setPrefixPolicy_ok hok
    · simp at h

/-- A service that refuses nothing lets every access be set. -/
theorem setFolderAccess_of_client (hhealthy : s.healthy = true) (hget : client.getError = none)
    (hset : ∀ policy, client.setError policy = none) :
    s.setFolderAccess set client stored bucket pre isPublic =
      ((s.setFolderAccess set client stored bucket pre isPublic).1, .ok ()) := by
  have hpre : ∀ bucket pre add,
      ∃ after, setPrefixPolicy set client stored bucket pre add = (after, .ok ()) := by
    intro bucket pre add
    unfold setPrefixPolicy
    simp only [hget, hset]
    generalize (if add then addPrefix set bucket pre (statementsOf (stored.getD emptyPolicy))
      else removePrefix bucket pre (statementsOf (stored.getD emptyPolicy))) = statements
    cases statements with
    | nil => exact ⟨_, rfl⟩
    | cons statement rest => exact ⟨_, rfl⟩
  obtain ⟨after, hafter⟩ := hpre (s.bucketOr bucket) (ensureSlash pre) isPublic
  unfold setFolderAccess
  simp only [hhealthy, Bool.not_true, Bool.false_eq_true, if_false, hafter]

section

variable {policy' : Object}

theorem publicRead_eq (h : findPublicRead (statementsOf policy) = some (before, stmt, after)) :
    publicRead policy = some stmt ∧ otherStatements policy = before ++ after := by
  unfold publicRead otherStatements
  rw [h]
  exact ⟨rfl, rfl⟩

theorem publicRead_eq_none (h : findPublicRead (statementsOf policy) = none) :
    publicRead policy = none ∧ otherStatements policy = statementsOf policy := by
  unfold publicRead otherStatements
  rw [h]
  exact ⟨rfl, rfl⟩

/-- A prefix that is added: the statement has its pattern, the others are as they were. -/
theorem publicRead_of_add
    (h : statementsOf policy' = addPrefix set bucket pre (statementsOf policy)) :
    publicRead policy' = some
        (addResource set (resourcePattern bucket pre) ((publicRead policy).getD newPublicRead)) ∧
      otherStatements policy' = otherStatements policy := by
  unfold addPrefix at h
  cases hfind : findPublicRead (statementsOf policy) with
  | none =>
    simp only [hfind] at h
    obtain ⟨hread, hothers⟩ := publicRead_eq_none hfind
    have hnew : isPublicRead (addResource set (resourcePattern bucket pre) newPublicRead) = true :=
      isPublicRead_addResource
    have hfound := findPublicRead_of_public [] hfind hnew
    rw [← h] at hfound
    obtain ⟨hread', hothers'⟩ := publicRead_eq hfound
    rw [hread', hothers', hread, hothers, List.append_nil]
    exact ⟨rfl, rfl⟩
  | some found =>
    obtain ⟨before, stmt, after⟩ := found
    simp only [hfind] at h
    obtain ⟨hread, hothers⟩ := publicRead_eq hfind
    obtain ⟨_, hpublic, hbefore⟩ := findPublicRead_eq_some hfind
    have hnew : isPublicRead (addResource set (resourcePattern bucket pre) stmt) = true :=
      isPublicRead_addResource.trans hpublic
    have hfound := findPublicRead_of_public after hbefore hnew
    rw [← h] at hfound
    obtain ⟨hread', hothers'⟩ := publicRead_eq hfound
    rw [hread', hothers', hread, hothers]
    exact ⟨rfl, rfl⟩

theorem mem_publicPatterns_of_add
    (h : statementsOf policy' = addPrefix set bucket pre (statementsOf policy)) :
    text ∈ publicPatterns policy' ↔
      text = resourcePattern bucket pre ∨ text ∈ arrayPatterns policy := by
  unfold publicPatterns arrayPatterns
  rw [(publicRead_of_add h).1]
  change text ∈ patterns (addResource _ _ _) ↔ _
  rw [mem_patterns_addResource]
  cases publicRead policy with
  | none => rfl
  | some stmt => rfl

/-- What is left of the statement when a prefix is removed from it. -/
def removeResource (bucket pre : String) (stmt : Object) : Option Object :=
  match resourceArray stmt with
  | none => some stmt
  | some resources =>
    let newResources :=
      (strings resources).filter fun rs => !hasPrefix rs (resourceStart bucket pre)
    if newResources ≠ [] then some (setField "Resource" (.arr (newResources.map .str)) stmt)
    else none

theorem removePrefix_of_find (h : findPublicRead statements = some (before, stmt, after)) :
    removePrefix bucket pre statements =
      match removeResource bucket pre stmt with
      | some stmt => before ++ .obj stmt :: after
      | none => before ++ after := by
  unfold removePrefix removeResource
  rw [h]
  simp only
  cases harray : resourceArray stmt with
  | none => exact (findPublicRead_eq_some h).1
  | some resources =>
    simp only
    split_ifs <;> rfl

theorem isPublicRead_removeResource {left : Object}
    (h : removeResource bucket pre stmt = some left) : isPublicRead left = isPublicRead stmt := by
  unfold removeResource at h
  split at h
  · rw [Option.some.inj h]
  · simp only at h
    split_ifs at h
    rw [← Option.some.inj h]
    exact isPublicRead_setField _

/-- A prefix that is removed: the others are as they were. -/
theorem publicRead_of_remove (hsid : findPublicRead (otherStatements policy) = none)
    (h : statementsOf policy' = removePrefix bucket pre (statementsOf policy)) :
    publicRead policy' = (publicRead policy).bind (removeResource bucket pre) ∧
      otherStatements policy' = otherStatements policy := by
  cases hfind : findPublicRead (statementsOf policy) with
  | none =>
    unfold removePrefix at h
    rw [hfind] at h
    obtain ⟨hread, hothers⟩ := publicRead_eq_none hfind
    have hfind' : findPublicRead (statementsOf policy') = none := h ▸ hfind
    obtain ⟨hread', hothers'⟩ := publicRead_eq_none hfind'
    rw [hread', hothers', hread, hothers, h]
    exact ⟨rfl, rfl⟩
  | some found =>
    obtain ⟨before, stmt, after⟩ := found
    obtain ⟨hread, hothers⟩ := publicRead_eq hfind
    obtain ⟨_, hpublic, hbefore⟩ := findPublicRead_eq_some hfind
    rw [removePrefix_of_find hfind] at h
    rw [hread, hothers, Option.bind_some]
    cases hleft : removeResource bucket pre stmt with
    | some left =>
      simp only [hleft] at h
      have hnew := (isPublicRead_removeResource hleft).trans hpublic
      have hfound := findPublicRead_of_public after hbefore hnew
      rw [← h] at hfound
      exact publicRead_eq hfound
    | none =>
      simp only [hleft] at h
      have hnone : findPublicRead (statementsOf policy') = none := by
        rw [h, ← hothers]
        exact hsid
      obtain ⟨hread', hothers'⟩ := publicRead_eq_none hnone
      exact ⟨hread', hothers'.trans h⟩

theorem mem_patterns_removeResource :
    text ∈ (removeResource bucket pre stmt).elim [] patterns ↔
      text ∈ patterns stmt ∧ ((resourceArray stmt).isSome = true →
        hasPrefix text (resourceStart bucket pre) = false) := by
  unfold removeResource
  cases harray : resourceArray stmt with
  | none => simp
  | some resources =>
    rw [patterns_of_array harray]
    simp only [Option.isSome_some, forall_const]
    split_ifs with hnew
    · rw [Option.elim_some, patterns_of_array (resourceArray_setField _), strings_map_str,
        List.mem_filter, Bool.not_eq_true']
    · rw [not_not] at hnew
      have hmem : text ∈ (strings resources).filter
          (fun rs => !hasPrefix rs (resourceStart bucket pre)) ↔ text ∈ ([] : List String) := by
        rw [hnew]
      rw [List.mem_filter, Bool.not_eq_true'] at hmem
      exact hmem.symm

theorem mem_publicPatterns_of_remove (hsid : findPublicRead (otherStatements policy) = none)
    (h : statementsOf policy' = removePrefix bucket pre (statementsOf policy)) :
    text ∈ publicPatterns policy' ↔
      text ∈ publicPatterns policy ∧
        (((publicRead policy).bind resourceArray).isSome = true →
          hasPrefix text (resourceStart bucket pre) = false) := by
  unfold publicPatterns
  rw [(publicRead_of_remove hsid h).1]
  cases publicRead policy with
  | none => simp
  | some stmt => exact mem_patterns_removeResource

end

end S3Storage

end WhatsappGateway.Storage

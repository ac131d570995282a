import Mathlib.Data.List.Nodup
import WhatsappGateway.Lib.Fields
import WhatsappGateway.Lib.Strings
import WhatsappGateway.Queue.EventHandlers

/-!
The data source name of a SQLite database, completed with default pragmas. What is added is
recognized in the result, so that the second pass has nothing left to add.
-/

namespace WhatsappGateway.Database

open Lib Strings Events

/-- A default pragma. -/
structure Pragma where
  name : List Char
  value : List Char
deriving DecidableEq, Repr

def sqliteDefaultPragmas : List Pragma :=
  [⟨"journal_mode".toList, "WAL".toList⟩,
    ⟨"busy_timeout".toList, "5000".toList⟩,
    ⟨"synchronous".toList, "NORMAL".toList⟩]

def pragmaKey : List Char := "_pragma=".toList

/-- A pragma as a parameter of the query. -/
def Pragma.param (p : Pragma) : List Char := pragmaKey ++ p.name ++ '(' :: p.value ++ [')']

/-- The name in a parameter that starts as a pragma does. -/
def pragmaName (param : List Char) : Option (List Char) :=
  (cutPrefix param pragmaKey).map fun value =>
    (trimSpace (value.takeWhile (· ≠ '('))).map toLower

def existingPragmaNames (query : List Char) : List (List Char) :=
  (query.splitOn '&').filterMap pragmaName

/-- What comes after the first `?`. -/
def dsnQuery (uri : List Char) : List Char := (uri.dropWhile (· ≠ '?')).tail

/-- A bare path gets the scheme, so that parameters are valid. -/
def attachScheme (base : List Char) : List Char :=
  if !"file:".toList.isPrefixOf base && base ≠ ":memory:".toList then "file:".toList ++ base
  else base

def dsnBase (uri : List Char) : List Char := attachScheme (uri.takeWhile (· ≠ '?'))

/-- The default pragmas that the query does not have. -/
def missingPragmas (query : List Char) : List Pragma :=
  sqliteDefaultPragmas.filter fun p => !(existingPragmaNames query).contains p.name

/-- The user's query, and the defaults that it lacks. -/
def dsnParams (query : List Char) : List (List Char) :=
  (if query ≠ [] then [query] else []) ++ (missingPragmas query).map Pragma.param

def normalizeSQLiteDSN (uri : List Char) : List Char :=
  let params := dsnParams (dsnQuery uri)
  if params = [] then dsnBase uri
  else dsnBase uri ++ '?' :: ['&'].intercalate params

example : normalizeSQLiteDSN "x.db?_pragma=BUSY_TIMEOUT(1)".toList =
    "file:x.db?_pragma=BUSY_TIMEOUT(1)&_pragma=journal_mode(WAL)&_pragma=synchronous(NORMAL)".toList
      := by
  decide +kernel

variable {uri query param : List Char} {p : Pragma}

/-! ### What is added -/

theorem pragmaName_param (hp : p ∈ sqliteDefaultPragmas) : pragmaName p.param = some p.name := by
  have hall : ∀ p ∈ sqliteDefaultPragmas, pragmaName p.param = some p.name := by decide +kernel
  exact hall p hp

theorem splitOn_param (hp : p ∈ sqliteDefaultPragmas) : p.param.splitOn '&' = [p.param] := by
  have hall : ∀ p ∈ sqliteDefaultPragmas, '&' ∉ p.param := by decide +kernel
  exact List.splitOn_eq_singleton (hall p hp)

theorem mem_missingPragmas :
    p ∈ missingPragmas query ↔ p ∈ sqliteDefaultPragmas ∧ p.name ∉ existingPragmaNames query := by
  simp [missingPragmas]

theorem mem_existingPragmaNames {name : List Char} :
    name ∈ existingPragmaNames query ↔
      ∃ param ∈ query.splitOn '&', pragmaName param = some name :=
  List.mem_filterMap

/-- The empty query has no pragma, so that there is always something to append. -/
theorem dsnParams_ne_nil : dsnParams query ≠ [] := by
  by_cases hquery : query = []
  · subst hquery
    decide +kernel
  · unfold dsnParams
    rw [if_pos hquery]
    exact List.cons_ne_nil _ _

theorem normalizeSQLiteDSN_eq :
    normalizeSQLiteDSN uri =
      dsnBase uri ++ '?' :: ['&'].intercalate (dsnParams (dsnQuery uri)) :=
  if_neg dsnParams_ne_nil

/-- The parameters of the result: those of the user, and then the added ones. -/
theorem splitOn_dsnParams :
    (['&'].intercalate (dsnParams query)).splitOn '&' =
      (if query ≠ [] then query.splitOn '&' else []) ++
        (missingPragmas query).map Pragma.param := by
  have hadded : ((missingPragmas query).map Pragma.param).flatMap (List.splitOn '&') =
      (missingPragmas query).map Pragma.param := by
    rw [List.flatMap_map, List.map_eq_flatMap]
    apply List.flatMap_congr
    intro p hp
    exact splitOn_param (mem_missingPragmas.mp hp).1
  rw [splitOn_intercalate_flatMap dsnParams_ne_nil, dsnParams, List.flatMap_append, hadded]
  split_ifs
  · rw [List.flatMap_singleton]
  · rfl

/-- No default is missing in the result. -/
theorem missingPragmas_dsnParams :
    missingPragmas (['&'].intercalate (dsnParams query)) = [] := by
  rw [List.eq_nil_iff_forall_not_mem]
  intro p hmissing
  obtain ⟨hp, hnone⟩ := mem_missingPragmas.mp hmissing
  apply hnone
  rw [mem_existingPragmaNames, splitOn_dsnParams]
  by_cases hexists : p.name ∈ existingPragmaNames query
  · obtain ⟨param, hparam, hname⟩ := mem_existingPragmaNames.mp hexists
    have hquery : query ≠ [] := by
      rintro rfl
      obtain rfl := List.mem_singleton.mp hparam
      cases hname
    exact ⟨param, List.mem_append_left _ (by rwa [if_pos hquery]), hname⟩
  · have hadded : p.param ∈ (missingPragmas query).map Pragma.param :=
      List.mem_map_of_mem (mem_missingPragmas.mpr ⟨hp, hexists⟩)
    exact ⟨p.param, List.mem_append_right _ hadded, pragmaName_param hp⟩

/-! ### The second pass -/

theorem question_not_mem_dsnBase : '?' ∉ dsnBase uri := by
  have hbase : '?' ∉ uri.takeWhile (· ≠ '?') := by
    intro hmem
    simpa using List.mem_takeWhile_imp hmem
  have hscheme : '?' ∉ "file:".toList := by decide
  unfold dsnBase attachScheme
  split_ifs
  · exact fun hmem => (List.mem_append.mp hmem).elim hscheme hbase
  · exact hbase

theorem dsnQuery_normalizeSQLiteDSN :
    dsnQuery (normalizeSQLiteDSN uri) = ['&'].intercalate (dsnParams (dsnQuery uri)) := by
  rw [normalizeSQLiteDSN_eq, dsnQuery, dropWhile_append_sep question_not_mem_dsnBase,
    List.tail_cons]

/-- A base that has the scheme, or needs none, stays. -/
theorem attachScheme_attachScheme (base : List Char) :
    attachScheme (attachScheme base) = attachScheme base := by
  apply if_neg
  unfold attachScheme
  split_ifs with h
  · simp
  · exact h

theorem dsnBase_normalizeSQLiteDSN : dsnBase (normalizeSQLiteDSN uri) = dsnBase uri := by
  rw [normalizeSQLiteDSN_eq]
  conv_lhs => rw [dsnBase, takeWhile_append_sep question_not_mem_dsnBase]
  exact attachScheme_attachScheme _

/-- The second pass has only the query that the first one made. -/
theorem dsnParams_normalizeSQLiteDSN :
    dsnParams (dsnQuery (normalizeSQLiteDSN uri)) = [dsnQuery (normalizeSQLiteDSN uri)] := by
  have hmissing : missingPragmas (dsnQuery (normalizeSQLiteDSN uri)) = [] := by
    rw [dsnQuery_normalizeSQLiteDSN, missingPragmas_dsnParams]
  have hquery : dsnQuery (normalizeSQLiteDSN uri) ≠ [] := by
    intro hnil
    rw [hnil] at hmissing
    exact absurd hmissing (by decide +kernel)
  rw [dsnParams, hmissing, if_pos hquery]
  rfl

theorem normalizeSQLiteDSN_twice :
    normalizeSQLiteDSN (normalizeSQLiteDSN uri) = normalizeSQLiteDSN uri := by
  calc normalizeSQLiteDSN (normalizeSQLiteDSN uri)
      = dsnBase uri ++ '?' :: dsnQuery (normalizeSQLiteDSN uri) := by
        rw [normalizeSQLiteDSN_eq, dsnBase_normalizeSQLiteDSN, dsnParams_normalizeSQLiteDSN,
          List.intercalate_singleton]
    _ = normalizeSQLiteDSN uri := by
        rw [dsnQuery_normalizeSQLiteDSN, normalizeSQLiteDSN_eq]

theorem dsnQuery_prefix (hquery : dsnQuery uri ≠ []) :
    dsnQuery uri <+: dsnQuery (normalizeSQLiteDSN uri) := by
  rw [dsnQuery_normalizeSQLiteDSN, dsnParams, if_pos hquery]
  cases (missingPragmas (dsnQuery uri)).map Pragma.param with
  | nil => exact List.intercalate_singleton.symm ▸ List.prefix_rfl
  | cons param more =>
    rw [List.singleton_append, List.intercalate_cons_cons, List.append_assoc]
    exact List.prefix_append _ _

/-- A default that is missing is added once: the names of the defaults differ. -/
theorem countP_missingPragmas (hp : p ∈ missingPragmas query) :
    ((missingPragmas query).map Pragma.param).countP
      (fun param => pragmaName param = some p.name) = 1 := by
  have hnodup : (missingPragmas query).Nodup := List.Nodup.filter _ (by decide +kernel)
  have hnames : ∀ r ∈ sqliteDefaultPragmas, ∀ r' ∈ sqliteDefaultPragmas,
      r.name = r'.name → r = r' := by
    decide +kernel
  rw [List.countP_map, ← List.count_eq_one_of_mem hnodup hp, List.count]
  apply List.countP_congr
  intro r hr
  have hdefault := (mem_missingPragmas.mp hr).1
  simp only [Function.comp_apply, pragmaName_param hdefault, Option.some.injEq,
    decide_eq_true_eq, beq_iff_eq]
  constructor
  · exact hnames r hdefault p (mem_missingPragmas.mp hp).1
  · rintro rfl
    rfl

/-- The normal form is its own normal form, it begins with the query of the user, and each
default pragma that the query does not have is in it once. -/
theorem normalize_idempotent_conservative (uri : List Char) :
    normalizeSQLiteDSN (normalizeSQLiteDSN uri) = normalizeSQLiteDSN uri ∧
      (dsnQuery uri ≠ [] → dsnQuery uri <+: dsnQuery (normalizeSQLiteDSN uri)) ∧
      ∀ p ∈ sqliteDefaultPragmas, p.name ∉ existingPragmaNames (dsnQuery uri) →
        p.param ∈ (dsnQuery (normalizeSQLiteDSN uri)).splitOn '&' ∧
        ((dsnQuery (normalizeSQLiteDSN uri)).splitOn '&').countP
          (fun param => pragmaName param = some p.name) = 1 := by
  refine ⟨normalizeSQLiteDSN_twice, dsnQuery_prefix, ?_⟩
  intro p hp hnone
  have hmissing : p ∈ missingPragmas (dsnQuery uri) := mem_missingPragmas.mpr ⟨hp, hnone⟩
  rw [dsnQuery_normalizeSQLiteDSN, splitOn_dsnParams]
  constructor
  · exact List.mem_append_right _ (List.mem_map_of_mem hmissing)
  · have huser : (if dsnQuery uri ≠ [] then (dsnQuery uri).splitOn '&' else []).countP
        (fun param => pragmaName param = some p.name) = 0 := by
      rw [List.countP_eq_zero]
      intro param hparam hname
      split_ifs at hparam with hquery
      · exact hnone (mem_existingPragmaNames.mpr ⟨param, hparam, of_decide_eq_true hname⟩)
      · cases hparam
    rw [List.countP_append, huser, countP_missingPragmas hmissing]

end WhatsappGateway.Database

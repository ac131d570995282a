import WhatsappGateway.Database.SqliteDSN
import WhatsappGateway.Lib.Query
import WhatsappGateway.Lib.Trim

/-!
What the driver makes of a data source name: the `_pragma` parameters of the decoded query, each
a statement, in order. The detection of existing pragmas reads the query as it is written.
-/

namespace WhatsappGateway.Database

open Lib Strings Events Query

/-! ### The driver -/

def byte (c : Char) : UInt8 := UInt8.ofNat c.toNat

/-- White space of a statement. -/
def statementSpace (b : UInt8) : Bool := b == 32 || b == 9 || b == 10 || b == 12 || b == 13

/-- A name is read without its letter case. -/
def foldCase (b : UInt8) : UInt8 := if byte 'A' ≤ b ∧ b ≤ byte 'Z' then b + 32 else b

structure Setting where
  name : Bytes
  value : Bytes
deriving DecidableEq, Repr

/-- `PRAGMA name(value)`, or `PRAGMA name = value`. Without a value nothing is set. -/
def pragmaSetting (statement : Bytes) : Option Setting :=
  let text := trim statementSpace statement
  let name := (trim statementSpace
    (text.takeWhile fun b => b ≠ byte '(' ∧ b ≠ byte '=')).map foldCase
  match text.dropWhile fun b => b ≠ byte '(' ∧ b ≠ byte '=' with
  | [] => none
  | opening :: rest =>
    let value :=
      if opening = byte '=' then trim statementSpace rest
      else if rest.getLast? = some (byte ')') then trim statementSpace rest.dropLast
      else []
    if value = [] then none else some ⟨name, value⟩

def pragmaOf (pair : Pair) : Option Setting :=
  if pair.key = utf8 "_pragma".toList then pragmaSetting pair.value else none

/-- The settings that the driver makes, in order. It makes none when the query does not parse. -/
def executed (query : List Char) : List Setting :=
  ((parseQuery query).getD []).filterMap pragmaOf

/-- The values that a pragma is set to, the effective one last. -/
def valuesOf (query name : List Char) : List Bytes :=
  ((executed query).filter fun setting => setting.name = utf8 name).map Setting.value

/-- A pragma that the user sets gets the user's values only. -/
def NeverOverrides (uri : List Char) : Prop :=
  ∀ p ∈ sqliteDefaultPragmas, valuesOf (dsnQuery uri) p.name ≠ [] →
    valuesOf (dsnQuery (normalizeSQLiteDSN uri)) p.name = valuesOf (dsnQuery uri) p.name

/-- The parameter is written as `_pragma=` and the name, without codes, in any letter case and
with white space around it. Then it ends, or a parenthesis follows. -/
def Spells (param name : List Char) : Prop :=
  ∃ left written right rest, param = pragmaKey ++ (left ++ written ++ right ++ rest) ∧
    (∀ c ∈ left, isSpace c = true) ∧ (∀ c ∈ right, isSpace c = true) ∧
    written.map toLower = name ∧ (rest = [] ∨ rest.head? = some '(')

variable {uri query param name : List Char} {p r : Pragma}

/-! ### The added parameters -/

def Pragma.setting (p : Pragma) : Setting := ⟨utf8 p.name, utf8 p.value⟩

theorem parseQuery_param (hp : p ∈ sqliteDefaultPragmas) :
    ∃ pair, parseQuery p.param = some [pair] ∧ pragmaOf pair = some p.setting := by
  have hall : ∀ p ∈ sqliteDefaultPragmas, p.param ≠ [] ∧ '&' ∉ p.param ∧
      (parseParam p.param).bind pragmaOf = some p.setting := by
    decide +kernel
  obtain ⟨hne, hsep, hparse⟩ := hall p hp
  obtain ⟨pair, hpair, hsetting⟩ := Option.bind_eq_some_iff.mp hparse
  exact ⟨pair, parseQuery_of_not_mem hne hsep hpair, hsetting⟩

theorem executed_param (hp : p ∈ sqliteDefaultPragmas) : executed p.param = [p.setting] := by
  obtain ⟨pair, hparse, hsetting⟩ := parseQuery_param hp
  rw [executed, hparse, Option.getD_some, List.filterMap_cons_some hsetting, List.filterMap_nil]

/-- The driver executes the statements of the user, and then the added ones. -/
theorem executed_dsnParams (hquery : (parseQuery query).isSome = true) :
    executed (['&'].intercalate (dsnParams query)) =
      executed query ++ (missingPragmas query).map Pragma.setting := by
  have hparts : ∀ part ∈ dsnParams query, parseQuery part = some ((parseQuery part).getD []) := by
    intro part hpart
    rcases List.mem_append.mp hpart with huser | hadded
    · split_ifs at huser
      · obtain rfl := List.mem_singleton.mp huser
        obtain ⟨pairs, hpairs⟩ := Option.isSome_iff_exists.mp hquery
        rw [hpairs, Option.getD_some]
      · cases huser
    · obtain ⟨p, hp, rfl⟩ := List.mem_map.mp hadded
      obtain ⟨pair, hpair, _⟩ := parseQuery_param (mem_missingPragmas.mp hp).1
      rw [hpair, Option.getD_some]
  have huser : (if query ≠ [] then [query] else []).flatMap executed = executed query := by
    split_ifs with hne
    · rw [List.flatMap_singleton]
    · rw [not_ne_iff.mp hne]
      rfl
  have hadded : ((missingPragmas query).map Pragma.param).flatMap executed =
      (missingPragmas query).map Pragma.setting := by
    rw [List.flatMap_map, List.map_eq_flatMap]
    apply List.flatMap_congr
    intro p hp
    exact executed_param (mem_missingPragmas.mp hp).1
  calc executed (['&'].intercalate (dsnParams query))
      = (dsnParams query).flatMap executed := by
        rw [executed, parseQuery_intercalate dsnParams_ne_nil hparts, Option.getD_some,
          List.filterMap_flatMap]
        rfl
    _ = executed query ++ (missingPragmas query).map Pragma.setting := by
        rw [dsnParams, List.flatMap_append, huser, hadded]

theorem utf8_name_inj (hp : p ∈ sqliteDefaultPragmas) (hr : r ∈ sqliteDefaultPragmas) :
    utf8 r.name = utf8 p.name ↔ r = p := by
  have hall : ∀ p ∈ sqliteDefaultPragmas, ∀ r ∈ sqliteDefaultPragmas,
      utf8 r.name = utf8 p.name ↔ r = p := by
    decide +kernel
  exact hall p hp r hr

/-- A default pragma gets its own value exactly when it is missing. -/
theorem valuesOf_normalizeSQLiteDSN (hp : p ∈ sqliteDefaultPragmas)
    (hquery : (parseQuery (dsnQuery uri)).isSome = true) :
    valuesOf (dsnQuery (normalizeSQLiteDSN uri)) p.name =
      valuesOf (dsnQuery uri) p.name ++
        if p ∈ missingPragmas (dsnQuery uri) then [utf8 p.value] else [] := by
  have hadded : ((missingPragmas (dsnQuery uri)).map Pragma.setting).filter
      (fun setting => setting.name = utf8 p.name) =
        if p ∈ missingPragmas (dsnQuery uri) then [p.setting] else [] := by
    have hnodup : (missingPragmas (dsnQuery uri)).Nodup :=
      List.Nodup.filter _ (by decide +kernel)
    have hsame : (missingPragmas (dsnQuery uri)).filter
        (fun r => utf8 r.name = utf8 p.name) =
          (missingPragmas (dsnQuery uri)).filter (· == p) := by
      apply List.filter_congr
      intro r hr
      rw [decide_eq_decide.mpr (utf8_name_inj hp (mem_missingPragmas.mp hr).1)]
      rfl
    rw [List.filter_map]
    change ((missingPragmas (dsnQuery uri)).filter
      (fun r => utf8 r.name = utf8 p.name)).map Pragma.setting = _
    rw [hsame, List.filter_beq, hnodup.count]
    split_ifs <;> rfl
  rw [valuesOf, dsnQuery_normalizeSQLiteDSN, executed_dsnParams hquery, List.filter_append,
    hadded, List.map_append, ← valuesOf]
  split_ifs <;> rfl

/-! ### The detection -/

theorem toLower_of_isSpace {c : Char} (h : isSpace c = true) : toLower c = c := by
  have hupper : ¬ (c.val ≥ 'A'.val ∧ c.val ≤ 'Z'.val) := by
    simp only [ge_iff_le, UInt32.le_iff_toNat_le]
    change ¬ (65 ≤ c.toNat ∧ c.toNat ≤ 90)
    simp only [isSpace, Bool.or_eq_true, Bool.and_eq_true, decide_eq_true_eq, beq_iff_eq] at h
    omega
  unfold toLower
  split_ifs with hdotted hkelvin
  · subst hdotted
    exact absurd h (by decide)
  · subst hkelvin
    exact absurd h (by decide)
  · exact dif_neg hupper

/-- The characters of a name in any letter case: no white space, and no parenthesis. -/
theorem plain_of_toLower (hp : p ∈ sqliteDefaultPragmas) {written : List Char}
    (hwritten : written.map toLower = p.name) :
    ∀ c ∈ written, isSpace c = false ∧ c ≠ '(' := by
  have hall : (sqliteDefaultPragmas.all fun p =>
      p.name.all fun c => !isSpace c && c != '(') = true := by
    decide +kernel
  intro c hc
  have hplain : isSpace (toLower c) = false ∧ toLower c ≠ '(' := by
    have hname := List.all_eq_true.mp (List.all_eq_true.mp hall p hp) (toLower c)
      (hwritten ▸ List.mem_map_of_mem hc)
    simpa using hname
  constructor
  · cases hspace : isSpace c with
    | false => rfl
    | true =>
      rw [toLower_of_isSpace hspace, hspace] at hplain
      cases hplain.1
  · rintro rfl
    exact hplain.2 (by decide)

theorem spells_of_pragmaName (h : pragmaName param = some name) : Spells param name := by
  obtain ⟨value, hcut, hname⟩ := Option.map_eq_some_iff.mp h
  obtain ⟨left, right, hfield, hleft, hright⟩ :=
    exists_append_trim isSpace (value.takeWhile (· ≠ '('))
  refine ⟨left, trim isSpace (value.takeWhile (· ≠ '(')), right, value.dropWhile (· ≠ '('),
    ?_, hleft, hright, hname, ?_⟩
  · rw [← hfield, List.takeWhile_append_dropWhile]
    exact cutPrefix_eq_some.mp hcut
  · cases hrest : value.dropWhile (· ≠ '(') with
    | nil => exact .inl rfl
    | cons c rest =>
      have hhead := List.head?_dropWhile_not (· ≠ '(') value
      rw [hrest] at hhead
      right
      simpa using hhead

theorem pragmaName_of_spells (hp : p ∈ sqliteDefaultPragmas) (h : Spells param p.name) :
    pragmaName param = some p.name := by
  obtain ⟨left, written, right, rest, rfl, hleft, hright, hwritten, hrest⟩ := h
  have hplain := plain_of_toLower hp hwritten
  have hspace : ∀ c, isSpace c = true → c ≠ '(' := by
    rintro c hc rfl
    exact absurd hc (by decide)
  have hnone : '(' ∉ left ++ written ++ right := by
    intro hmem
    rcases List.mem_append.mp hmem with hmem | hmem
    · rcases List.mem_append.mp hmem with hmem | hmem
      · exact hspace _ (hleft _ hmem) rfl
      · exact (hplain _ hmem).2 rfl
    · exact hspace _ (hright _ hmem) rfl
  have hfield : (left ++ written ++ right ++ rest).takeWhile (· ≠ '(') =
      left ++ written ++ right := by
    cases rest with
    | nil => rw [List.append_nil, takeWhile_field hnone]
    | cons c rest =>
      have hparenthesis : c = '(' := by simpa using hrest
      rw [hparenthesis, takeWhile_append_sep hnone]
  have htrim : trim isSpace (left ++ written ++ right) = written := by
    rw [trim_append_right hright, trim_append_left hleft]
    apply trim_eq_self
    · exact fun c hc => (hplain c (List.mem_of_mem_head? hc)).1
    · exact fun c hc => (hplain c (List.mem_of_mem_getLast? hc)).1
  rw [pragmaName, cutPrefix_eq_some.mpr rfl, Option.map_some, hfield]
  change some ((trim isSpace (left ++ written ++ right)).map toLower) = _
  rw [htrim, hwritten]

theorem pragmaName_iff_spells (hp : p ∈ sqliteDefaultPragmas) :
    pragmaName param = some p.name ↔ Spells param p.name :=
  ⟨spells_of_pragmaName, pragmaName_of_spells hp⟩

end WhatsappGateway.Database

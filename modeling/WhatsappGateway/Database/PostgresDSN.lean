import Mathlib.Data.List.Nodup
import WhatsappGateway.Database.KeywordDSN
import WhatsappGateway.Lib.Fields
import WhatsappGateway.Lib.Query
import WhatsappGateway.Lib.Strings

/-!
The data source name of a Postgres database, completed with parameters that detect a dead
connection. Which form it has, and which parameters are there, is read off its text: off a `://`
anywhere, and off the words between white space.
-/

namespace WhatsappGateway.Database

open Lib Strings Events Query

def postgresKeepaliveParams : List Param :=
  [⟨"connect_timeout".toList, "10".toList⟩,
    ⟨"keepalives".toList, "1".toList⟩,
    ⟨"keepalives_idle".toList, "30".toList⟩,
    ⟨"keepalives_interval".toList, "10".toList⟩,
    ⟨"keepalives_count".toList, "5".toList⟩]

/-- The ones that the client consumes in a URL. -/
def urlKeepaliveParams : List Param := [⟨"connect_timeout".toList, "10".toList⟩]

/-- How `net/url` takes a URL apart, into its raw query and the rest, and puts it together. -/
structure NetURL where
  Rest : Type
  parse : List Char → Option (List Char × Rest)
  render : List Char → Rest → List Char

def setMissing (query : List Pair) (p : Param) : List Pair :=
  if get query (utf8 p.key) = [] then set query (utf8 p.key) (utf8 p.value) else query

/-- The URL form. A text that does not parse is left to the driver. -/
def normalizeURL (net : NetURL) (dsn : List Char) : List Char :=
  match net.parse dsn with
  | none => dsn
  | some (rawQuery, rest) =>
    net.render (encode (urlKeepaliveParams.foldl setMissing (queryPairs rawQuery))) rest

/-- `strings.Fields`. -/
def words (text : List Char) : List (List Char) := (text.splitOnP isSpace).filter (· ≠ [])

/-- The lower case of what precedes `=` in each word that has one. -/
def wordKeys (dsn : List Char) : List (List Char) :=
  ((words dsn).filter ('=' ∈ ·)).map fun word => (word.takeWhile (· ≠ '=')).map toLower

def missingParams (dsn : List Char) : List Param :=
  postgresKeepaliveParams.filter fun p => p.key ∉ wordKeys dsn

/-- A parameter as it is appended. -/
def Param.appended (p : Param) : List Char := ' ' :: p.key ++ '=' :: p.value

def normalizePostgresDSN (net : NetURL) (dsn : List Char) : List Char :=
  if "://".toList <:+: dsn then normalizeURL net dsn
  else dsn ++ (missingParams dsn).flatMap Param.appended

/-! ### What the driver reads -/

/-- The driver takes the text as keywords and values. -/
structure KeywordForm (dsn : List Char) (user : List Param) : Prop where
  notURL : ¬ "postgres://".toList <+: dsn ∧ ¬ "postgresql://".toList <+: dsn
  parses : parseOpts dsn = some user

/-- The driver still reads the values that the user gave, and each default is added exactly when
the user did not give its key. -/
def Respects (net : NetURL) (dsn : List Char) (user : List Param) : Prop :=
  ∃ after, parseOpts (normalizePostgresDSN net dsn) = some after ∧
    (∀ key ∈ keys user, valueOf after key = valueOf user key) ∧
    ∀ p ∈ postgresKeepaliveParams,
      after.count p = user.count p + if p.key ∈ keys user then 0 else 1

/-- A word of the text begins with the key, in any letter case, and `=`. -/
def WordFor (dsn key : List Char) : Prop :=
  ∃ word ∈ words dsn, ∃ written rest, word = written ++ '=' :: rest ∧ written.map toLower = key

/-- The text ends after `=`, where a value was to come. -/
def EndsInAssignment (dsn : List Char) : Prop :=
  ∃ made key, scan .gap dsn = some (made, .assigned key)

def GivesAll (user : List Param) : Prop := ∀ p ∈ postgresKeepaliveParams, p.key ∈ keys user

/-- Every default is found exactly when it is given, and what is appended does not become a
value. Where the text holds `://`, it is left as it is, and every default is given. -/
def FormRead (net : NetURL) (dsn : List Char) (user : List Param) : Prop :=
  ("://".toList <:+: dsn → net.parse dsn = none ∧ GivesAll user) ∧
    (¬ "://".toList <:+: dsn →
      (∀ p ∈ postgresKeepaliveParams, WordFor dsn p.key ↔ p.key ∈ keys user) ∧
        (EndsInAssignment dsn → GivesAll user))

variable {net : NetURL} {dsn text key value : List Char} {user made ps : List Param} {p : Param}
  {phase : Phase}

/-! ### Words -/

theorem mem_wordKeys (hp : p ∈ postgresKeepaliveParams) :
    p.key ∈ wordKeys dsn ↔ WordFor dsn p.key := by
  have hkeys : ∀ p ∈ postgresKeepaliveParams, '=' ∉ p.key := by decide +kernel
  unfold wordKeys
  rw [List.mem_map]
  constructor
  · rintro ⟨word, hword, hkey⟩
    obtain ⟨hword, hequals⟩ := List.mem_filter.mp hword
    obtain ⟨written, rest, rfl, hwritten⟩ :=
      List.eq_append_cons_of_mem (of_decide_eq_true hequals)
    rw [takeWhile_append_sep hwritten] at hkey
    exact ⟨_, hword, written, rest, rfl, hkey⟩
  · rintro ⟨word, hword, written, rest, rfl, hkey⟩
    have hwritten : '=' ∉ written := by
      intro hmem
      have hlower : toLower '=' ∈ p.key := hkey ▸ List.mem_map_of_mem hmem
      exact hkeys p hp hlower
    refine ⟨written ++ '=' :: rest, List.mem_filter.mpr ⟨hword, ?_⟩, ?_⟩
    · exact decide_eq_true (List.mem_append_right _ List.mem_cons_self)
    · rw [takeWhile_append_sep hwritten, hkey]

theorem mem_missingParams :
    p ∈ missingParams dsn ↔ p ∈ postgresKeepaliveParams ∧ ¬ WordFor dsn p.key := by
  unfold missingParams
  rw [List.mem_filter, decide_eq_true_eq]
  exact and_congr_right fun hp => not_congr (mem_wordKeys hp)

theorem missingParams_subset : missingParams dsn ⊆ postgresKeepaliveParams :=
  fun _ hp => (mem_missingParams.mp hp).1

/-! ### What is appended -/

theorem scan_param (hp : p ∈ postgresKeepaliveParams) :
    scan .gap (p.key ++ '=' :: p.value) = some ([], .bare p.key p.value) := by
  have hall : ∀ p ∈ postgresKeepaliveParams,
      scan .gap (p.key ++ '=' :: p.value) = some ([], .bare p.key p.value) := by
    decide +kernel
  exact hall p hp

/-- Between parameters, or at the end of a bare value, an appended parameter is read as such. -/
theorem scan_appended {next : Phase} {final : List Param} (hp : p ∈ postgresKeepaliveParams)
    (hend : scanEnd next = some final) (hnext : ∀ key, next ≠ .assigned key) :
    scan next p.appended = some (final, .bare p.key p.value) := by
  cases next with
  | gap =>
    obtain rfl := Option.some.inj hend
    rw [Param.appended, List.cons_append, scan, scanChar, if_pos (by decide)]
    dsimp only
    rw [scan_param hp]
    rfl
  | bare key value =>
    obtain rfl := Option.some.inj hend
    rw [Param.appended, List.cons_append, scan, scanChar, if_pos (by decide)]
    dsimp only
    rw [scan_param hp]
    rfl
  | assigned key => exact absurd rfl (hnext key)
  | key | named | bareEscape | quoted | quotedEscape => cases hend

theorem parseFrom_appended {next : Phase} {final : List Param}
    (hps : ps ⊆ postgresKeepaliveParams) (hend : scanEnd next = some final)
    (hnext : ∀ key, next ≠ .assigned key) :
    parseFrom next (ps.flatMap Param.appended) = some (final ++ ps) := by
  induction ps generalizing next final with
  | nil =>
    rw [List.append_nil]
    simp [parseFrom, scan, hend]
  | cons p ps ih =>
    have hscan := scan_appended (hps List.mem_cons_self) hend hnext
    have hrest := ih (fun q hq => hps (List.mem_cons_of_mem p hq))
      (show scanEnd (.bare p.key p.value) = some [⟨p.key, p.value⟩] from rfl)
      (fun _ => Phase.noConfusion)
    rw [List.flatMap_cons, parseFrom_append hscan, hrest]
    rfl

theorem scan_assigned (hp : p ∈ postgresKeepaliveParams) :
    scan (.assigned key) p.appended = some ([], .bare key (p.key ++ '=' :: p.value)) := by
  have hall : (postgresKeepaliveParams.all fun p => (p.key ++ '=' :: p.value).all fun c =>
      !isSpace c && c != '\\' && c != '\'') = true := by
    decide +kernel
  have hplain : ∀ c ∈ p.key ++ '=' :: p.value, (isSpace c = false ∧ c ≠ '\\') ∧ c ≠ '\'' := by
    intro c hc
    have hchar := List.all_eq_true.mp (List.all_eq_true.mp hall p hp) c hc
    simpa using hchar
  obtain ⟨c, rest, htext⟩ := List.exists_cons_of_ne_nil
    (List.append_ne_nil_of_right_ne_nil p.key (List.cons_ne_nil '=' p.value))
  rw [htext] at hplain
  obtain ⟨⟨hspace, hbackslash⟩, hquote⟩ := hplain c List.mem_cons_self
  have hrest : ∀ d ∈ rest, isSpace d = false ∧ d ≠ '\\' :=
    fun d hd => (hplain d (List.mem_cons_of_mem c hd)).1
  rw [Param.appended, List.cons_append, htext, scan, scanChar, if_pos (by decide)]
  dsimp only
  rw [scan, scanChar, if_neg (hspace ▸ Bool.false_ne_true), if_neg hquote, if_neg hbackslash]
  dsimp only
  rw [scan_bare hrest]
  rfl

/-- After `=` the first appended parameter becomes the value. -/
theorem parseFrom_assigned (hp : p ∈ postgresKeepaliveParams) (hps : ps ⊆ postgresKeepaliveParams) :
    parseFrom (.assigned key) ((p :: ps).flatMap Param.appended) =
      some (⟨key, p.key ++ '=' :: p.value⟩ :: ps) := by
  have hrest := parseFrom_appended hps
    (show scanEnd (.bare key (p.key ++ '=' :: p.value)) = some [⟨key, p.key ++ '=' :: p.value⟩]
      from rfl) (fun _ => Phase.noConfusion)
  rw [List.flatMap_cons, parseFrom_append (scan_assigned hp), hrest]
  rfl

/-! ### What the driver reads after -/

theorem added_iff (hp : p ∈ postgresKeepaliveParams) :
    (user ++ missingParams dsn).count p = user.count p + (if p.key ∈ keys user then 0 else 1) ↔
      (WordFor dsn p.key ↔ p.key ∈ keys user) := by
  have hnodup : (missingParams dsn).Nodup := List.Nodup.filter _ (by decide +kernel)
  have hmissing : p ∈ missingParams dsn ↔ ¬ WordFor dsn p.key := by
    rw [mem_missingParams]
    exact and_iff_right hp
  rw [List.count_append, Nat.add_left_cancel_iff, hnodup.count]
  by_cases hword : WordFor dsn p.key
  · rw [if_neg (by rwa [hmissing, not_not])]
    by_cases hgiven : p.key ∈ keys user
    · simp [hword, hgiven]
    · simp [hword, hgiven]
  · rw [if_pos (hmissing.mpr hword)]
    by_cases hgiven : p.key ∈ keys user
    · simp [hword, hgiven]
    · simp [hword, hgiven]

/-- Where nothing is taken for a value, what is added is what the words lack. -/
theorem respects_iff_of_added (hform : ¬ "://".toList <:+: dsn)
    (hafter : parseOpts (dsn ++ (missingParams dsn).flatMap Param.appended) =
      some (user ++ missingParams dsn)) :
    Respects net dsn user ↔
      ∀ p ∈ postgresKeepaliveParams, WordFor dsn p.key ↔ p.key ∈ keys user := by
  have hnormal : parseOpts (normalizePostgresDSN net dsn) = some (user ++ missingParams dsn) := by
    rw [normalizePostgresDSN, if_neg hform, hafter]
  constructor
  · rintro ⟨after, hparse, -, hadds⟩ p hp
    obtain rfl := Option.some.inj (hnormal.symm.trans hparse)
    exact (added_iff hp).mp (hadds p hp)
  · intro hwords
    refine ⟨_, hnormal, ?_, fun p hp => (added_iff hp).mpr (hwords p hp)⟩
    intro key hkey
    apply valueOf_append_of_not_mem
    intro hmem
    obtain ⟨p, hp, rfl⟩ := List.mem_map.mp hmem
    obtain ⟨hdefault, hword⟩ := mem_missingParams.mp hp
    exact hword ((hwords p hdefault).mpr hkey)

/-- A text that ends in an assignment gets a value for it. -/
theorem not_respects_of_assigned {made : List Param} (hform : ¬ "://".toList <:+: dsn)
    (hscan : scan .gap dsn = some (made, .assigned key)) (huser : parseOpts dsn = some user)
    (hmissing : missingParams dsn ≠ []) : ¬ Respects net dsn user := by
  obtain ⟨p, ps, hps⟩ := List.exists_cons_of_ne_nil hmissing
  have hsubset : p :: ps ⊆ postgresKeepaliveParams := hps ▸ missingParams_subset
  rintro ⟨after, hparse, hkept, -⟩
  have hafter : after = made ++ ⟨key, p.key ++ '=' :: p.value⟩ :: ps := by
    rw [normalizePostgresDSN, if_neg hform, hps, parseOpts, parseFrom_append hscan,
      parseFrom_assigned (hsubset List.mem_cons_self)
        (fun q hq => hsubset (List.mem_cons_of_mem p hq))] at hparse
    exact (Option.some.inj hparse).symm
  have hfrom : user = made ++ [⟨key, []⟩] := by
    rw [parseOpts, parseFrom, hscan] at huser
    exact (Option.some.inj huser).symm
  have hempty : valueOf user key = some [] := by
    rw [hfrom, valueOf, List.reverse_append]
    simp
  obtain ⟨q, hq, hvalue⟩ := valueOf_append_of_mem made
    (show key ∈ keys (⟨key, p.key ++ '=' :: p.value⟩ :: ps) from List.mem_cons_self)
  have hkey := hkept key (by rw [hfrom]; simp [keys])
  rw [hempty, hafter, hvalue] at hkey
  have hnonempty : q.value ≠ [] := by
    rcases List.mem_cons.mp hq with rfl | hq
    · exact List.append_ne_nil_of_right_ne_nil _ (List.cons_ne_nil _ _)
    · have hall : ∀ p ∈ postgresKeepaliveParams, p.value ≠ [] := by decide +kernel
      exact hall q (hsubset (List.mem_cons_of_mem p hq))
  exact hnonempty (Option.some.inj hkey)

/-- Left as it is, the text gives what the user gave. -/
theorem respects_iff_of_same (hsame : normalizePostgresDSN net dsn = dsn)
    (huser : parseOpts dsn = some user) : Respects net dsn user ↔ GivesAll user := by
  constructor
  · rintro ⟨after, hparse, -, hadds⟩ p hp
    rw [hsame, huser] at hparse
    obtain rfl := Option.some.inj hparse
    have hadd := hadds p hp
    by_contra habsent
    rw [if_neg habsent] at hadd
    omega
  · intro hall
    refine ⟨user, by rw [hsame, huser], fun _ _ => rfl, ?_⟩
    intro p hp
    rw [if_pos (hall p hp), Nat.add_zero]

theorem respects_iff_of_keywords (net : NetURL) (hform : ¬ "://".toList <:+: dsn)
    (huser : parseOpts dsn = some user) :
    Respects net dsn user ↔
      (∀ p ∈ postgresKeepaliveParams, WordFor dsn p.key ↔ p.key ∈ keys user) ∧
        (EndsInAssignment dsn → GivesAll user) := by
  by_cases hmissing : missingParams dsn = []
  · have hwords : ∀ p ∈ postgresKeepaliveParams, WordFor dsn p.key := by
      intro p hp
      by_contra hword
      have hmem := mem_missingParams.mpr ⟨hp, hword⟩
      rw [hmissing] at hmem
      cases hmem
    have hsame : normalizePostgresDSN net dsn = dsn := by
      rw [normalizePostgresDSN, if_neg hform, hmissing, List.flatMap_nil, List.append_nil]
    rw [respects_iff_of_same hsame huser]
    constructor
    · exact fun hall => ⟨fun p hp => iff_of_true (hwords p hp) (hall p hp), fun _ => hall⟩
    · exact fun hread p hp => (hread.1 p hp).mp (hwords p hp)
  · by_cases hends : EndsInAssignment dsn
    · obtain ⟨made, key, hscan⟩ := hends
      refine iff_of_false (not_respects_of_assigned hform hscan huser hmissing) ?_
      rintro ⟨hwords, hall⟩
      obtain ⟨p, hp⟩ := List.exists_mem_of_ne_nil _ hmissing
      obtain ⟨hdefault, hword⟩ := mem_missingParams.mp hp
      exact hword ((hwords p hdefault).mpr (hall ⟨made, key, hscan⟩ p hdefault))
    · obtain ⟨made, next, final, hscan, hend, rfl⟩ := parseFrom_eq_some huser
      have hnext : ∀ key, next ≠ .assigned key := by
        rintro key rfl
        exact hends ⟨made, key, hscan⟩
      have hafter : parseOpts (dsn ++ (missingParams dsn).flatMap Param.appended) =
          some ((made ++ final) ++ missingParams dsn) := by
        rw [parseOpts, parseFrom_append hscan,
          parseFrom_appended missingParams_subset hend hnext, Option.map_some,
          List.append_assoc]
      rw [respects_iff_of_added hform hafter]
      exact (and_iff_left fun h => absurd h hends).symm

/-- The driver reads what the user gave and the missing defaults when the form and the words of
the text are what they seem, and, unless `net/url` takes the text for a URL, only then. -/
theorem respects_of_formRead (net : NetURL) (dsn : List Char) (user : List Param)
    (hform : KeywordForm dsn user) :
    (FormRead net dsn user → Respects net dsn user) ∧
      (Respects net dsn user →
        FormRead net dsn user ∨ ("://".toList <:+: dsn ∧ (net.parse dsn).isSome = true)) := by
  by_cases hscheme : "://".toList <:+: dsn
  · have hsame (hnone : net.parse dsn = none) : normalizePostgresDSN net dsn = dsn := by
      rw [normalizePostgresDSN, if_pos hscheme, normalizeURL, hnone]
    constructor
    · intro hread
      obtain ⟨hnone, hall⟩ := hread.1 hscheme
      exact (respects_iff_of_same (hsame hnone) hform.parses).mpr hall
    · intro hrespects
      cases hparse : net.parse dsn with
      | some parts => exact .inr ⟨hscheme, rfl⟩
      | none =>
        have hall := (respects_iff_of_same (hsame hparse) hform.parses).mp hrespects
        exact .inl ⟨fun _ => ⟨hparse, hall⟩, fun hnot => absurd hscheme hnot⟩
  · have hiff := respects_iff_of_keywords net hscheme hform.parses
    constructor
    · exact fun hread => hiff.mpr (hread.2 hscheme)
    · exact fun hrespects => .inl ⟨fun h => absurd h hscheme, fun _ => hiff.mp hrespects⟩

/-- A URL that is a path and a query. -/
def pathURL : NetURL where
  Rest := List Char
  parse text := some ((text.dropWhile (· ≠ '?')).tail, text.takeWhile (· ≠ '?'))
  render query path := path ++ '?' :: query

theorem respects_quoted :
    Respects pathURL "user='a b' connect_timeout=3".toList
      [⟨"user".toList, "a b".toList⟩, ⟨"connect_timeout".toList, "3".toList⟩] := by
  have hwords : ∀ p ∈ postgresKeepaliveParams,
      p.key ∈ wordKeys "user='a b' connect_timeout=3".toList ↔
        p.key ∈ keys [⟨"user".toList, "a b".toList⟩, ⟨"connect_timeout".toList, "3".toList⟩] := by
    decide +kernel
  have hscan : (scan .gap "user='a b' connect_timeout=3".toList).map Prod.snd =
      some (.bare "connect_timeout".toList "3".toList) := by
    decide +kernel
  refine (respects_of_formRead pathURL _ _ ⟨by decide +kernel, by decide +kernel⟩).1
    ⟨fun h => absurd h (by decide +kernel), fun _ => ⟨?_, ?_⟩⟩
  · exact fun p hp => (mem_wordKeys hp).symm.trans (hwords p hp)
  · rintro ⟨made, key, hends⟩
    rw [hends] at hscan
    cases hscan

/-- With spaces around `=` a parameter is not found, and the default overrides it. -/
theorem spaced_parameter_overridden :
    ¬ ∀ (net : NetURL) (dsn : List Char) (user : List Param),
      KeywordForm dsn user → Respects net dsn user := by
  intro hall
  obtain ⟨after, hparse, hkept, -⟩ := hall pathURL "host=db connect_timeout = 3".toList
    [⟨"host".toList, "db".toList⟩, ⟨"connect_timeout".toList, "3".toList⟩]
    ⟨by decide +kernel, by decide +kernel⟩
  have hvalue : (parseOpts (normalizePostgresDSN pathURL
      "host=db connect_timeout = 3".toList)).map (valueOf · "connect_timeout".toList) =
        some (some "10".toList) := by
    decide +kernel
  rw [hparse, Option.map_some, hkept "connect_timeout".toList (by decide +kernel)] at hvalue
  exact absurd hvalue (by decide +kernel)

end WhatsappGateway.Database

import WhatsappGateway.Queue.EventHandlers

/-!
Connection strings of keywords and values, as lib/pq scans them: pairs around `=`, with white
space between and around its parts, a backslash before a character of a value, and values in
quotes. The scan goes one character at a time, so that it goes on where a text is continued.
-/

namespace WhatsappGateway.Database

open Events

structure Param where
  key : List Char
  value : List Char
deriving DecidableEq, Repr

/-- Where the scan is. -/
inductive Phase where
  /-- before a key -/
  | gap
  | key (key : List Char)
  /-- after a key, before its `=` -/
  | named (key : List Char)
  /-- after `=`, before the value -/
  | assigned (key : List Char)
  | bare (key value : List Char)
  /-- after a backslash -/
  | bareEscape (key value : List Char)
  | quoted (key value : List Char)
  | quotedEscape (key value : List Char)
deriving DecidableEq, Repr

/-- One character: the parameter that it completes, and the next phase. -/
def scanChar : Phase → Char → Option (List Param × Phase)
  | .gap, c =>
    if isSpace c then some ([], .gap)
    else if c = '=' then some ([], .assigned [])
    else some ([], .key [c])
  | .key key, c =>
    if c = '=' then some ([], .assigned key)
    else if isSpace c then some ([], .named key)
    else some ([], .key (key ++ [c]))
  | .named key, c =>
    if isSpace c then some ([], .named key)
    else if c = '=' then some ([], .assigned key)
    -- missing "=" after the key
    else none
  | .assigned key, c =>
    if isSpace c then some ([], .assigned key)
    else if c = '\'' then some ([], .quoted key [])
    else if c = '\\' then some ([], .bareEscape key [])
    else some ([], .bare key [c])
  | .bare key value, c =>
    if isSpace c then some ([⟨key, value⟩], .gap)
    else if c = '\\' then some ([], .bareEscape key value)
    else some ([], .bare key (value ++ [c]))
  | .bareEscape key value, c => some ([], .bare key (value ++ [c]))
  | .quoted key value, c =>
    if c = '\'' then some ([⟨key, value⟩], .gap)
    else if c = '\\' then some ([], .quotedEscape key value)
    else some ([], .quoted key (value ++ [c]))
  | .quotedEscape key value, c => some ([], .quoted key (value ++ [c]))

def scan : Phase → List Char → Option (List Param × Phase)
  | phase, [] => some ([], phase)
  | phase, c :: text =>
    match scanChar phase c with
    | none => none
    | some (made, next) => (scan next text).map fun rest => (made ++ rest.1, rest.2)

/-- The end of the text. After `=` the last value is empty. -/
def scanEnd : Phase → Option (List Param)
  | .gap => some []
  | .assigned key => some [⟨key, []⟩]
  | .bare key value => some [⟨key, value⟩]
  | .key _ | .named _ | .bareEscape _ _ | .quoted _ _ | .quotedEscape _ _ => none

/-- What the text holds from a phase on. -/
def parseFrom (phase : Phase) (text : List Char) : Option (List Param) :=
  (scan phase text).bind fun scanned => (scanEnd scanned.2).map (scanned.1 ++ ·)

/-- The parameters of a connection string, in order. -/
def parseOpts (dsn : List Char) : Option (List Param) := parseFrom .gap dsn

example : parseOpts "user = 'a b' password=x\\ y ".toList =
    some [⟨"user".toList, "a b".toList⟩, ⟨"password".toList, "x y".toList⟩] := by
  decide +kernel

def keys (params : List Param) : List (List Char) := params.map Param.key

/-- A later parameter overrides an earlier one of its key. -/
def valueOf (params : List Param) (key : List Char) : Option (List Char) :=
  (params.reverse.find? fun p => p.key = key).map Param.value

variable {phase next : Phase} {text rest : List Char} {made params more : List Param}
  {key : List Char}

theorem scan_append (hscan : scan phase text = some (made, next)) :
    scan phase (text ++ rest) = (scan next rest).map fun scanned => (made ++ scanned.1, scanned.2) := by
  induction text generalizing phase made with
  | nil =>
    obtain ⟨rfl, rfl⟩ := Prod.mk.inj (Option.some.inj hscan)
    simp
  | cons c text ih =>
    rw [scan] at hscan
    rw [List.cons_append, scan]
    cases hstep : scanChar phase c with
    | none =>
      rw [hstep] at hscan
      cases hscan
    | some step =>
      obtain ⟨first, middle⟩ := step
      rw [hstep] at hscan
      obtain ⟨⟨later, last⟩, htext, heq⟩ := Option.map_eq_some_iff.mp hscan
      obtain ⟨rfl, rfl⟩ := Prod.mk.inj heq
      dsimp only
      rw [ih htext, Option.map_map]
      congr 1
      funext scanned
      simp

/-- A text is read on from where its beginning leads. -/
theorem parseFrom_append (hscan : scan phase text = some (made, next)) :
    parseFrom phase (text ++ rest) = (parseFrom next rest).map (made ++ ·) := by
  unfold parseFrom
  rw [scan_append hscan]
  cases scan next rest with
  | none => rfl
  | some scanned =>
    obtain ⟨later, last⟩ := scanned
    cases hend : scanEnd last with
    | none => simp [hend]
    | some final => simp [hend]

theorem parseFrom_eq_some (h : parseFrom phase text = some params) :
    ∃ made next final, scan phase text = some (made, next) ∧ scanEnd next = some final ∧
      params = made ++ final := by
  obtain ⟨⟨made, next⟩, hscan, hend⟩ := Option.bind_eq_some_iff.mp h
  obtain ⟨final, hfinal, heq⟩ := Option.map_eq_some_iff.mp hend
  exact ⟨made, next, final, hscan, hfinal, heq.symm⟩

/-- A value goes on with characters that are neither white space nor a backslash. -/
theorem scan_bare {value : List Char} (hplain : ∀ c ∈ text, isSpace c = false ∧ c ≠ '\\') :
    scan (.bare key value) text = some ([], .bare key (value ++ text)) := by
  induction text generalizing value with
  | nil => rw [scan, List.append_nil]
  | cons c text ih =>
    obtain ⟨hspace, hbackslash⟩ := hplain c List.mem_cons_self
    rw [scan, scanChar, if_neg (hspace ▸ Bool.false_ne_true), if_neg hbackslash]
    dsimp only
    rw [ih fun d hd => hplain d (List.mem_cons_of_mem c hd), Option.map_some, List.append_assoc]
    rfl

/-! ### Values -/

theorem valueOf_append_of_not_mem (hkey : key ∉ keys more) :
    valueOf (params ++ more) key = valueOf params key := by
  have hnone : more.reverse.find? (fun p => p.key = key) = none := by
    rw [List.find?_eq_none]
    intro p hp heq
    exact hkey (List.mem_map.mpr ⟨p, List.mem_reverse.mp hp, of_decide_eq_true heq⟩)
  rw [valueOf, List.reverse_append, List.find?_append, hnone, Option.none_or, ← valueOf]

theorem valueOf_append_of_mem (params : List Param) (hkey : key ∈ keys more) :
    ∃ p ∈ more, valueOf (params ++ more) key = some p.value := by
  have hfound : (more.reverse.find? fun p => p.key = key).isSome = true := by
    obtain ⟨p, hp, hpkey⟩ := List.mem_map.mp hkey
    rw [List.find?_isSome]
    exact ⟨p, List.mem_reverse.mpr hp, decide_eq_true hpkey⟩
  obtain ⟨p, hp⟩ := Option.isSome_iff_exists.mp hfound
  refine ⟨p, List.mem_reverse.mp (List.mem_of_find?_eq_some hp), ?_⟩
  rw [valueOf, List.reverse_append, List.find?_append, hp, Option.some_or, Option.map_some]

end WhatsappGateway.Database

import Mathlib.Data.List.TakeWhile

/-!
Query strings, as Go's `net/url` reads them: parameters between `&`, a key and a value around
the first `=`, and both with `%` and a code for a byte, and `+` for a space.
-/

namespace WhatsappGateway.Lib.Query

abbrev Bytes := List UInt8

def utf8 (text : List Char) : Bytes := text.flatMap String.utf8EncodeChar

def hexValue (c : Char) : Option Nat :=
  if '0' ≤ c ∧ c ≤ '9' then some (c.toNat - 48)
  else if 'a' ≤ c ∧ c ≤ 'f' then some (c.toNat - 87)
  else if 'A' ≤ c ∧ c ≤ 'F' then some (c.toNat - 55)
  else none

/-- `QueryUnescape`. -/
def unescape : List Char → Option Bytes
  | [] => some []
  | '%' :: high :: low :: rest =>
    match hexValue high, hexValue low with
    | some high, some low => (unescape rest).map (UInt8.ofNat (16 * high + low) :: ·)
    | _, _ => none
  | '%' :: _ => none
  | '+' :: rest => (unescape rest).map (32 :: ·)
  | c :: rest => (unescape rest).map (String.utf8EncodeChar c ++ ·)

structure Pair where
  key : Bytes
  value : Bytes
deriving DecidableEq, Repr

/-- The parameters of a query; empty ones are passed over. -/
def params (query : List Char) : List (List Char) :=
  (query.splitOn '&').filter (· ≠ [])

/-- One parameter. A semicolon is no separator and must be escaped. -/
def parseParam (param : List Char) : Option Pair :=
  if ';' ∈ param then none
  else
    match unescape (param.takeWhile (· ≠ '=')), unescape (param.dropWhile (· ≠ '=')).tail with
    | some key, some value => some ⟨key, value⟩
    | _, _ => none

/-- `ParseQuery`, for a caller that gives up at an error. -/
def parseQuery (query : List Char) : Option (List Pair) := (params query).mapM parseParam

/-- `URL.Query`: what does not parse is left out. -/
def queryPairs (query : List Char) : List Pair := (params query).filterMap parseParam

/-- `Values.Get`: the first value of the key, or an empty one. -/
def get (pairs : List Pair) (key : Bytes) : Bytes :=
  ((pairs.find? fun pair => pair.key = key).map Pair.value).getD []

/-- `Values.Set`. -/
def set (pairs : List Pair) (key value : Bytes) : List Pair :=
  (pairs.filter fun pair => pair.key ≠ key) ++ [⟨key, value⟩]

def hexDigit (n : Nat) : Char := Char.ofNat (if n < 10 then 48 + n else 55 + n)

/-- `QueryEscape`. -/
def escape (text : Bytes) : List Char :=
  text.flatMap fun b =>
    let c := Char.ofNat b.toNat
    if (b < 128 && c.isAlphanum) || c = '-' || c = '_' || c = '.' || c = '~' then [c]
    else if c = ' ' then ['+']
    else ['%', hexDigit (b.toNat / 16), hexDigit (b.toNat % 16)]

/-- The order of keys, byte by byte. -/
def precedes : Bytes → Bytes → Bool
  | [], _ => true
  | _ :: _, [] => false
  | a :: as, b :: bs => a < b || (a == b && precedes as bs)

/-- `Values.Encode`: sorted by key, the values of a key in order. -/
def encode (pairs : List Pair) : List Char :=
  ['&'].intercalate ((pairs.mergeSort fun a b => precedes a.key b.key).map fun pair =>
    escape pair.key ++ '=' :: escape pair.value)

theorem params_append (query rest : List Char) :
    params (query ++ '&' :: rest) = params query ++ params rest := by
  rw [params, List.splitOn_append_cons_self, List.filter_append, ← params, ← params]

theorem parseQuery_append {query rest : List Char} {pairs more : List Pair}
    (hquery : parseQuery query = some pairs) (hrest : parseQuery rest = some more) :
    parseQuery (query ++ '&' :: rest) = some (pairs ++ more) := by
  unfold parseQuery at hquery hrest ⊢
  rw [params_append, List.mapM_append, hquery, hrest]
  rfl

theorem params_of_not_mem {param : List Char} (hne : param ≠ []) (hsep : '&' ∉ param) :
    params param = [param] := by
  rw [params, List.splitOn_eq_singleton hsep, List.filter_cons_of_pos (by simpa using hne),
    List.filter_nil]

theorem parseQuery_of_not_mem {param : List Char} {pair : Pair} (hne : param ≠ [])
    (hsep : '&' ∉ param) (hpair : parseParam param = some pair) :
    parseQuery param = some [pair] := by
  rw [parseQuery, params_of_not_mem hne hsep, List.mapM_cons, hpair, List.mapM_nil]
  rfl

/-- Queries that parse are joined to one that does. -/
theorem parseQuery_intercalate {parts : List (List Char)} {pairs : List Char → List Pair}
    (hne : parts ≠ []) (hparts : ∀ part ∈ parts, parseQuery part = some (pairs part)) :
    parseQuery (['&'].intercalate parts) = some (parts.flatMap pairs) := by
  induction parts with
  | nil => exact absurd rfl hne
  | cons part parts ih =>
    have hpart := hparts part List.mem_cons_self
    cases parts with
    | nil => rw [List.intercalate_singleton, hpart, List.flatMap_singleton]
    | cons next parts =>
      have hrest := ih (List.cons_ne_nil next parts)
        (fun other hother => hparts other (List.mem_cons_of_mem part hother))
      rw [List.intercalate_cons_cons, List.append_assoc, List.singleton_append,
        parseQuery_append hpart hrest]
      rfl

theorem get_cons_self (key value : Bytes) (pairs : List Pair) :
    get (⟨key, value⟩ :: pairs) key = value := by
  simp only [get, List.find?_cons, decide_true, Option.map_some, Option.getD_some]

theorem get_cons_of_ne {key key' : Bytes} (hkey : key' ≠ key) (value : Bytes)
    (pairs : List Pair) : get (⟨key', value⟩ :: pairs) key = get pairs key := by
  simp only [get, List.find?_cons, hkey, decide_false]

/-! ### What is escaped is read back -/

theorem hexValue_hexDigit {n : Nat} (h : n < 16) : hexValue (hexDigit n) = some n := by
  have hall : ∀ n < 16, hexValue (hexDigit n) = some n := by decide
  exact hall n h

theorem utf8EncodeChar_ascii {n : Nat} (h : n < 128) :
    String.utf8EncodeChar (Char.ofNat n) = [UInt8.ofNat n] := by
  have hall : ∀ n < 128, String.utf8EncodeChar (Char.ofNat n) = [UInt8.ofNat n] := by decide
  exact hall n h

theorem toNat_byteChar (b : UInt8) : (Char.ofNat b.toNat).toNat = b.toNat := by
  have hb : b.toNat < 256 := b.toNat_lt
  have hvalid : b.toNat.isValidChar := .inl (by omega)
  rw [Char.ofNat, dif_pos hvalid]
  rfl

/-- A byte behind a `%`. -/
def percent (b : UInt8) : List Char := ['%', hexDigit (b.toNat / 16), hexDigit (b.toNat % 16)]

theorem unescape_percent (b : UInt8) (rest : List Char) :
    unescape (percent b ++ rest) = (unescape rest).map (b :: ·) := by
  have hb : b.toNat < 256 := b.toNat_lt
  have hbyte : UInt8.ofNat (16 * (b.toNat / 16) + b.toNat % 16) = b := by
    rw [Nat.div_add_mod, UInt8.ofNat_toNat]
  rw [percent, List.cons_append, List.cons_append, List.cons_append, List.nil_append, unescape]
  rw [hexValue_hexDigit (by omega), hexValue_hexDigit (by omega)]
  dsimp only
  rw [hbyte]

/-- A byte that is kept as it is. -/
theorem unescape_literal {b : UInt8} (hascii : b < 128) (hpercent : Char.ofNat b.toNat ≠ '%')
    (hplus : Char.ofNat b.toNat ≠ '+') (rest : List Char) :
    unescape ([Char.ofNat b.toNat] ++ rest) = (unescape rest).map (b :: ·) := by
  have hn : b.toNat < 128 := UInt8.lt_iff_toNat_lt.mp hascii
  rw [List.singleton_append, unescape, utf8EncodeChar_ascii hn, UInt8.ofNat_toNat]
  · rfl
  · rintro high low rest' heq
    exact absurd heq hpercent
  · exact hpercent
  · exact hplus

/-- A byte of `kept`, or a letter or a digit. -/
theorem unescape_kept {b : UInt8} (kept : List Char)
    (hkept : ∀ c ∈ kept, c.toNat < 128 ∧ c ≠ '%' ∧ c ≠ '+')
    (h : (b < 128 ∧ (Char.ofNat b.toNat).isAlphanum = true) ∨ Char.ofNat b.toNat ∈ kept)
    (rest : List Char) :
    unescape ([Char.ofNat b.toNat] ++ rest) = (unescape rest).map (b :: ·) := by
  rcases h with ⟨hascii, halnum⟩ | hmem
  · refine unescape_literal hascii ?_ ?_ rest
    · rintro heq
      rw [heq] at halnum
      exact absurd halnum (by decide)
    · rintro heq
      rw [heq] at halnum
      exact absurd halnum (by decide)
  · obtain ⟨hascii, hpercent, hplus⟩ := hkept _ hmem
    rw [toNat_byteChar] at hascii
    exact unescape_literal (UInt8.lt_iff_toNat_lt.mpr hascii) hpercent hplus rest

theorem mem_percent {b : UInt8} {c : Char} (h : c ∈ percent b) : c ≠ '&' ∧ c ≠ ';' := by
  have hdigit : ∀ n < 16, hexDigit n ≠ '&' ∧ hexDigit n ≠ ';' := by decide
  have hlt : b.toNat < 256 := b.toNat_lt
  simp only [percent, List.mem_cons, List.not_mem_nil, or_false] at h
  rcases h with rfl | rfl | rfl
  · decide
  · exact hdigit _ (by omega)
  · exact hdigit _ (by omega)

/-- A code for each byte that is read back, and in which no parameter ends. -/
structure Codes (code : UInt8 → List Char) : Prop where
  unescape_append : ∀ b rest, unescape (code b ++ rest) = (unescape rest).map (b :: ·)
  inside : ∀ b, ∀ c ∈ code b, c ≠ '&' ∧ c ≠ ';'

theorem Codes.unescape_flatMap {code : UInt8 → List Char} (h : Codes code) (text : Bytes) :
    unescape (text.flatMap code) = some text := by
  induction text with
  | nil => rfl
  | cons b text ih => rw [List.flatMap_cons, h.unescape_append, ih, Option.map_some]

/-- A parameter with an escaped value is read back. -/
theorem Codes.parseQuery_param {code : UInt8 → List Char} (h : Codes code) (name : List Char)
    {key : Bytes} (hkey : unescape name = some key)
    (hname : ∀ c ∈ name, c ≠ '&' ∧ c ≠ ';' ∧ c ≠ '=') (value : Bytes) :
    parseQuery (name ++ '=' :: value.flatMap code) = some [⟨key, value⟩] := by
  have hinside : ∀ c ∈ name ++ '=' :: value.flatMap code, c ≠ '&' ∧ c ≠ ';' := by
    intro c hc
    rw [List.mem_append, List.mem_cons, List.mem_flatMap] at hc
    rcases hc with hc | rfl | ⟨b, -, hc⟩
    · exact ⟨(hname c hc).1, (hname c hc).2.1⟩
    · decide
    · exact h.inside b c hc
  refine parseQuery_of_not_mem ?_ (fun hamp => (hinside _ hamp).1 rfl) ?_
  · simp
  · have heq : ∀ c ∈ name, decide (c ≠ '=') = true := fun c hc => decide_eq_true (hname c hc).2.2
    rw [parseParam, if_neg fun hsemi => (hinside _ hsemi).2 rfl,
      List.takeWhile_append_of_pos heq, List.dropWhile_append_of_pos heq,
      List.takeWhile_cons_of_neg (by decide), List.dropWhile_cons_of_neg (by decide),
      List.append_nil, List.tail_cons, hkey, h.unescape_flatMap]

/-- A byte of `escape`. -/
def escapeByte (b : UInt8) : List Char :=
  let c := Char.ofNat b.toNat
  if (b < 128 && c.isAlphanum) || c = '-' || c = '_' || c = '.' || c = '~' then [c]
  else if c = ' ' then ['+']
  else percent b

theorem escapeByte_codes : Codes escapeByte where
  unescape_append b rest := by
    unfold escapeByte
    dsimp only
    split
    next hkeep =>
      refine unescape_kept ['-', '_', '.', '~'] (by simp) ?_ rest
      simpa [or_assoc] using hkeep
    next =>
      split
      next hspace =>
        have hbyte : b = 32 := by
          rw [← UInt8.toNat_inj, ← toNat_byteChar, hspace]
          rfl
        rw [hbyte, List.singleton_append, unescape]
      next => exact unescape_percent b rest
  inside b c hc := by
    unfold escapeByte at hc
    dsimp only at hc
    split at hc
    next hkeep =>
      rw [← List.mem_singleton.mp hc] at hkeep
      constructor <;>
      · rintro rfl
        simp at hkeep
    next =>
      split at hc
      next => rw [List.mem_singleton.mp hc]; decide
      next => exact mem_percent hc

/-- `encodeURIComponent` of a browser; the byte 39 is an apostrophe. -/
def uriByte (b : UInt8) : List Char :=
  let c := Char.ofNat b.toNat
  if (b < 128 && c.isAlphanum) || c ∈ ['-', '_', '.', '!', '~', '*', Char.ofNat 39, '(', ')'] then [c]
  else percent b

theorem uriByte_codes : Codes uriByte where
  unescape_append b rest := by
    unfold uriByte
    dsimp only
    split
    next hkeep =>
      refine unescape_kept ['-', '_', '.', '!', '~', '*', Char.ofNat 39, '(', ')']
        (by simp) ?_ rest
      simpa only [Bool.or_eq_true, Bool.and_eq_true, decide_eq_true_eq] using hkeep
    next => exact unescape_percent b rest
  inside b c hc := by
    unfold uriByte at hc
    dsimp only at hc
    split at hc
    next hkeep =>
      rw [← List.mem_singleton.mp hc] at hkeep
      constructor <;>
      · rintro rfl
        simp at hkeep
    next => exact mem_percent hc

end WhatsappGateway.Lib.Query

import Mathlib
import WhatsappGateway.Lib.Fields
import WhatsappGateway.Lib.Tally

/-!
Labelled samples as text: a line `name{label="value",...} number` for each, and comments that start
with `#`. Values are quoted with escapes. What is written is read back, sample by sample.
-/

namespace WhatsappGateway.Lib.Exposition

/-! ### Quoted texts -/

section Quote

variable (graphic : Char → Bool)

/-- `graphic` tells of the characters beyond the first 128. -/
def isPrint (c : Char) : Bool :=
  if c.toNat < 128 then 32 ≤ c.toNat && c.toNat < 127 else graphic c

def hexPad (width n : Nat) : List Char :=
  let digits := Nat.toDigits 16 n
  List.replicate (width - digits.length) '0' ++ digits

/-- The control characters that have an escape of their own. -/
def controlLetters : List (Char × Char) :=
  [('\x07', 'a'), ('\x08', 'b'), ('\x0c', 'f'), ('\n', 'n'), ('\r', 'r'), ('\t', 't'),
    ('\x0b', 'v')]

def quoteChar (c : Char) : List Char :=
  if c = '"' ∨ c = '\\' then ['\\', c]
  else if isPrint graphic c then [c]
  else match controlLetters.lookup c with
    | some letter => ['\\', letter]
    | none =>
      if c.toNat < 32 ∨ c.toNat = 127 then '\\' :: 'x' :: hexPad 2 c.toNat
      else if c.toNat < 65536 then '\\' :: 'u' :: hexPad 4 c.toNat
      else '\\' :: 'U' :: hexPad 8 c.toNat

def quote (s : String) : String :=
  String.ofList ('"' :: s.toList.flatMap (quoteChar graphic) ++ ['"'])

/-- Of the escapes, only those of the quote, the backslash and the newline are needed. -/
def Printable (s : String) : Prop := ∀ c ∈ s.toList, isPrint graphic c = true ∨ c = '\n'

end Quote

/-- What is before the closing quote, and what is after it. -/
def readValue : List Char → Option (List Char × List Char)
  | [] => none
  | '"' :: rest => some ([], rest)
  | '\\' :: '\\' :: rest => (readValue rest).map fun read => ('\\' :: read.1, read.2)
  | '\\' :: '"' :: rest => (readValue rest).map fun read => ('"' :: read.1, read.2)
  | '\\' :: 'n' :: rest => (readValue rest).map fun read => ('\n' :: read.1, read.2)
  | '\\' :: _ => none
  | c :: rest => (readValue rest).map fun read => (c :: read.1, read.2)

variable {graphic : Char → Bool}

theorem readValue_cons {c : Char} (hquote : c ≠ '"') (hback : c ≠ '\\') (rest : List Char) :
    readValue (c :: rest) = (readValue rest).map fun read => (c :: read.1, read.2) := by
  rw [readValue.eq_def]
  split <;> simp_all

theorem readValue_quoted {value rest : List Char}
    (hprintable : ∀ c ∈ value, isPrint graphic c = true ∨ c = '\n') :
    readValue (value.flatMap (quoteChar graphic) ++ '"' :: rest) = some (value, rest) := by
  induction value with
  | nil => rfl
  | cons c value ih =>
    have hrest := ih fun d hd => hprintable d (List.mem_cons_of_mem c hd)
    rw [List.flatMap_cons, List.append_assoc]
    by_cases hescaped : c = '"' ∨ c = '\\'
    · rw [quoteChar, if_pos hescaped]
      rcases hescaped with rfl | rfl
      · simp [readValue, hrest]
      · simp [readValue, hrest]
    · rw [not_or] at hescaped
      rcases hprintable c List.mem_cons_self with hprint | rfl
      · rw [quoteChar, if_neg (not_or.mpr hescaped), if_pos hprint, List.singleton_append,
          readValue_cons hescaped.1 hescaped.2, hrest]
        rfl
      · have hnewline : quoteChar graphic '\n' = ['\\', 'n'] := rfl
        simp [hnewline, readValue, hrest]

/-! ### Samples -/

structure Sample where
  name : String
  labels : List (String × String)
  value : Int
deriving DecidableEq, Repr

section Text

variable (graphic : Char → Bool)

def labelText (label : String × String) : String := label.1 ++ "=" ++ quote graphic label.2

def labelsText (labels : List (String × String)) : String :=
  "\x7b" ++ ",".intercalate (labels.map (labelText graphic)) ++ "\x7d"

def Sample.text (s : Sample) : String :=
  s.name ++ labelsText graphic s.labels ++ " " ++ toString s.value

inductive Line where
  | comment (text : String)
  | sample (s : Sample)

def Line.text : Line → String
  | .comment text => "# " ++ text
  | .sample s => s.text graphic

def Line.sample? : Line → Option Sample
  | .comment _ => none
  | .sample s => some s

/-- What a reader of labels relies on. -/
structure Labels (labels : List (String × String)) : Prop where
  nonempty : labels ≠ []
  names : ∀ label ∈ labels, '=' ∉ label.1.toList ∧ '\n' ∉ label.1.toList
  values : ∀ label ∈ labels, Printable graphic label.2

structure Sample.WellFormed (s : Sample) : Prop where
  name : ∀ c ∈ s.name.toList, c ≠ '{' ∧ c ≠ '\n' ∧ c ≠ '#'
  labels : Labels graphic s.labels

def Line.WellFormed : Line → Prop
  | .comment text => '\n' ∉ text.toList
  | .sample s => s.WellFormed graphic

end Text

/-- The labels up to the closing brace, and what is after it. -/
def readLabels : Nat → List Char → Option (List (String × String) × List Char)
  | 0, _ => none
  | fuel + 1, text =>
    match text.dropWhile (· ≠ '=') with
    | '=' :: '"' :: quoted => do
      let (value, rest) ← readValue quoted
      let label := (String.ofList (text.takeWhile (· ≠ '=')), String.ofList value)
      match rest with
      | ',' :: rest => (readLabels fuel rest).map fun read => (label :: read.1, read.2)
      | '}' :: rest => some ([label], rest)
      | _ => none
    | _ => none

def readSample (line : List Char) : Option Sample :=
  match line.dropWhile (· ≠ '{') with
  | '{' :: rest => do
    let (labels, rest) ← readLabels rest.length rest
    match rest with
    | ' ' :: number => (String.ofList number).toInt?.map fun value =>
      ⟨String.ofList (line.takeWhile (· ≠ '{')), labels, value⟩
    | _ => none
  | _ => none

def isSample (line : List Char) : Bool := line ≠ [] && line.head? ≠ some '#'

def readSamples (text : String) : Option (List Sample) :=
  ((text.toList.splitOn '\n').filter isSample).mapM readSample

/-- The value of a series. -/
def valueOf (samples : List Sample) (name : String) (labels : List (String × String)) :
    Option Int :=
  (samples.find? fun s => s.name = name ∧ s.labels = labels).map Sample.value

variable {label : String × String} {labels : List (String × String)} {rest : List Char} {fuel : Nat}

theorem toList_labelText : (labelText graphic label).toList =
    label.1.toList ++ '=' :: '"' :: (label.2.toList.flatMap (quoteChar graphic) ++ ['"']) := by
  simp [labelText, quote]

/-- A label is read. -/
theorem readLabels_label (hname : '=' ∉ label.1.toList) (hprintable : Printable graphic label.2) :
    readLabels (fuel + 1) ((labelText graphic label).toList ++ rest) =
      match rest with
      | ',' :: rest => (readLabels fuel rest).map fun read => (label :: read.1, read.2)
      | '}' :: rest => some ([label], rest)
      | _ => none := by
  rw [readLabels, toList_labelText, List.append_assoc, List.cons_append, List.cons_append,
    List.append_assoc, dropWhile_append_sep hname, takeWhile_append_sep hname]
  have hread : readValue (_ ++ '"' :: rest) = some (label.2.toList, rest) :=
    readValue_quoted hprintable
  simp only [List.singleton_append, hread, Option.bind_eq_bind, Option.bind_some,
    String.ofList_toList]

theorem readLabels_labels (hne : labels ≠ []) (hnames : ∀ label ∈ labels, '=' ∉ label.1.toList)
    (hprintable : ∀ label ∈ labels, Printable graphic label.2) (hfuel : labels.length ≤ fuel) :
    readLabels fuel ((",".intercalate (labels.map (labelText graphic))).toList ++ '}' :: rest) =
      some (labels, rest) := by
  induction labels generalizing fuel with
  | nil => exact absurd rfl hne
  | cons label labels ih =>
    obtain ⟨fuel, rfl⟩ := Nat.exists_eq_add_one_of_ne_zero (Nat.ne_zero_of_lt hfuel)
    have hlabel := hnames label List.mem_cons_self
    have hvalue := hprintable label List.mem_cons_self
    cases labels with
    | nil =>
      rw [List.map_cons, List.map_nil, String.intercalate_singleton,
        readLabels_label hlabel hvalue]
      rfl
    | cons next labels =>
      have hmore := ih (List.cons_ne_nil next labels)
        (fun label hmem => hnames label (List.mem_cons_of_mem _ hmem))
        (fun label hmem => hprintable label (List.mem_cons_of_mem _ hmem))
        (Nat.le_of_succ_le_succ hfuel)
      rw [List.map_cons, List.map_cons, String.intercalate_cons_cons, ← List.map_cons,
        String.toList_append, String.toList_append, List.append_assoc, List.append_assoc,
        readLabels_label hlabel hvalue]
      exact congrArg (Option.map fun read => (label :: read.1, read.2)) hmore

/-! ### Lines -/

variable {s : Sample} {lines : List Line} {line : Line}

theorem Labels.read (h : Labels graphic labels) (hfuel : labels.length ≤ fuel) :
    readLabels fuel ((",".intercalate (labels.map (labelText graphic))).toList ++ '}' :: rest) =
      some (labels, rest) :=
  readLabels_labels h.nonempty (fun label hmem => (h.names label hmem).1) h.values hfuel

theorem toList_labelsText : (labelsText graphic labels).toList =
    '{' :: ((",".intercalate (labels.map (labelText graphic))).toList ++ ['}']) := by
  simp [labelsText]

theorem length_le_labelsText : labels.length ≤
    (",".intercalate (labels.map (labelText graphic))).toList.length := by
  induction labels with
  | nil => exact Nat.zero_le _
  | cons label labels ih =>
    have hlabel : 1 ≤ (labelText graphic label).toList.length := by
      rw [toList_labelText, List.length_append, List.length_cons]
      omega
    cases labels with
    | nil => simpa using hlabel
    | cons next labels =>
      rw [List.map_cons] at ih
      rw [List.map_cons, List.map_cons, String.intercalate_cons_cons, String.toList_append,
        String.toList_append, List.length_append, List.length_append, List.length_cons]
      omega

theorem readSample_text (h : s.WellFormed graphic) :
    readSample (s.text graphic).toList = some s := by
  have hname : '{' ∉ s.name.toList := fun hmem => (h.name _ hmem).1 rfl
  generalize hbody : (",".intercalate (s.labels.map (labelText graphic))).toList = body
  have htext : (s.text graphic).toList =
      s.name.toList ++ '{' :: (body ++ '}' :: ' ' :: (toString s.value).toList) := by
    simp [Sample.text, toList_labelsText, hbody]
  have hfuel : s.labels.length ≤ (body ++ '}' :: ' ' :: (toString s.value).toList).length := by
    rw [← hbody, List.length_append]
    exact Nat.le_add_right_of_le length_le_labelsText
  have hlabels : readLabels _ (_ ++ '}' :: ' ' :: (toString s.value).toList) = _ :=
    h.labels.read hfuel
  rw [hbody] at hlabels
  rw [readSample, htext, dropWhile_append_sep hname, takeWhile_append_sep hname]
  simp only [hlabels, Option.bind_eq_bind, Option.bind_some, String.ofList_toList]
  rw [Int.toString_eq_repr, Int.toInt?_repr]
  rfl

theorem newline_not_mem_quoteChar {c : Char} (hprintable : isPrint graphic c = true ∨ c = '\n') :
    '\n' ∉ quoteChar graphic c := by
  rcases hprintable with hprint | rfl
  · have hne : c ≠ '\n' := by
      rintro rfl
      cases hprint
    unfold quoteChar
    split
    · simp [hne.symm]
    · simpa [hprint] using hne.symm
  · rw [show quoteChar graphic '\n' = ['\\', 'n'] from rfl]
    decide

theorem newline_not_mem_labelText (hname : '\n' ∉ label.1.toList)
    (hprintable : Printable graphic label.2) : '\n' ∉ (labelText graphic label).toList := by
  have hvalue : '\n' ∉ label.2.toList.flatMap (quoteChar graphic) := by
    intro hmem
    obtain ⟨c, hc, hquoted⟩ := List.mem_flatMap.mp hmem
    exact newline_not_mem_quoteChar (hprintable c hc) hquoted
  rw [toList_labelText]
  simp [hname, hvalue]

theorem newline_not_mem_number (n : Int) : '\n' ∉ (toString n).toList := by
  have hdigits (n : Nat) : '\n' ∉ Nat.toDigits 10 n := by
    intro hmem
    exact absurd (Nat.isDigit_of_mem_toDigits (by decide) (by decide) hmem) (by decide)
  rw [Int.toString_eq_repr, Int.repr_eq_if]
  split <;> simp [hdigits]

theorem not_mem_intercalate {c : Char} {texts : List String} (hsep : c ≠ ',')
    (h : ∀ text ∈ texts, c ∉ text.toList) : c ∉ (",".intercalate texts).toList := by
  induction texts with
  | nil => simp
  | cons text texts ih =>
    have htext := h text List.mem_cons_self
    have hrest := ih fun other hmem => h other (List.mem_cons_of_mem text hmem)
    cases texts with
    | nil => simpa using htext
    | cons next texts =>
      have hcomma : ("," : String).toList = [','] := rfl
      rw [String.intercalate_cons_cons, String.toList_append, String.toList_append, hcomma]
      simp only [List.mem_append, List.mem_singleton, not_or]
      exact ⟨⟨htext, hsep⟩, hrest⟩

theorem newline_not_mem_text (h : line.WellFormed graphic) : '\n' ∉ (line.text graphic).toList := by
  cases line with
  | comment text =>
    have htext : '\n' ∉ text.toList := h
    simp [Line.text, htext]
  | sample s =>
    have hname : '\n' ∉ s.name.toList := fun hmem => (h.name _ hmem).2.1 rfl
    have hlabels : '\n' ∉ (",".intercalate (s.labels.map (labelText graphic))).toList := by
      refine not_mem_intercalate (by decide) fun text hmem => ?_
      obtain ⟨label, hlabel, rfl⟩ := List.mem_map.mp hmem
      exact newline_not_mem_labelText (h.labels.names label hlabel).2 (h.labels.values label hlabel)
    have hnumber := newline_not_mem_number s.value
    rw [Line.text, Sample.text, String.toList_append, String.toList_append, String.toList_append,
      toList_labelsText]
    simp only [List.mem_append, List.mem_cons, not_or]
    exact ⟨⟨⟨hname, by decide, hlabels, by decide⟩, by decide⟩, hnumber⟩

theorem isSample_text (h : line.WellFormed graphic) :
    isSample (line.text graphic).toList = line.sample?.isSome := by
  cases line with
  | comment text => simp [Line.text, Line.sample?, isSample]
  | sample s =>
    have hname : ∀ c ∈ s.name.toList, c ≠ '#' := fun c hmem => (h.name c hmem).2.2
    rw [Line.text, Sample.text, Line.sample?, Option.isSome_some, isSample]
    cases hlist : s.name.toList with
    | nil => simp [toList_labelsText, hlist]
    | cons c cs => simp [hlist, hname c (by simp [hlist])]

/-- What is written line by line is read back. -/
theorem readSamples_lines (h : ∀ line ∈ lines, line.WellFormed graphic) :
    readSamples (String.join (lines.map fun line => line.text graphic ++ "\n")) =
      some (lines.filterMap Line.sample?) := by
  induction lines with
  | nil => rfl
  | cons line lines ih =>
    have hline := h line List.mem_cons_self
    have hrest := ih fun other hmem => h other (List.mem_cons_of_mem line hmem)
    have hnewline : ("\n" : String).toList = ['\n'] := rfl
    rw [readSamples] at hrest ⊢
    rw [List.map_cons, String.join_cons, String.toList_append, String.toList_append, hnewline,
      List.append_assoc, List.singleton_append,
      List.splitOn_append_cons_self_of_not_mem (newline_not_mem_text hline)]
    cases line with
    | comment text =>
      rw [List.filter_cons_of_neg (by rw [isSample_text hline]; exact Bool.false_ne_true), hrest]
      rfl
    | sample s =>
      rw [List.filter_cons_of_pos (isSample_text hline), List.mapM_cons, hrest]
      rw [Line.text, readSample_text hline]
      rfl

/-! ### The values that are read -/

section Values

variable {κ : Type*} {samples more : List Sample} {name : String} {keys : List κ}
  {labelsOf : κ → List (String × String)} {value : κ → Int} {key : κ}

theorem valueOf_append_left (h : valueOf samples name labels = none) :
    valueOf (samples ++ more) name labels = valueOf more name labels := by
  rw [valueOf, Option.map_eq_none_iff] at h
  rw [valueOf, List.find?_append, h, Option.none_or, valueOf]

theorem valueOf_append_right (h : valueOf more name labels = none) :
    valueOf (samples ++ more) name labels = valueOf samples name labels := by
  rw [valueOf, Option.map_eq_none_iff] at h
  rw [valueOf, List.find?_append, h, Option.or_none, valueOf]

theorem valueOf_other_name (h : ∀ s ∈ samples, s.name ≠ name) :
    valueOf samples name labels = none := by
  rw [valueOf, Option.map_eq_none_iff, List.find?_eq_none]
  intro s hs
  simp [h s hs]

theorem valueOf_absent (h : ∀ key ∈ keys, labelsOf key ≠ labels) :
    valueOf (keys.map fun key => ⟨name, labelsOf key, value key⟩) name labels = none := by
  rw [valueOf, Option.map_eq_none_iff, List.find?_eq_none]
  intro s hs
  obtain ⟨key, hkey, rfl⟩ := List.mem_map.mp hs
  simp [h key hkey]

theorem valueOf_present (hkey : key ∈ keys)
    (hinj : ∀ other ∈ keys, labelsOf other = labelsOf key → other = key) :
    valueOf (keys.map fun key => ⟨name, labelsOf key, value key⟩) name (labelsOf key) =
      some (value key) := by
  induction keys with
  | nil => cases hkey
  | cons other keys ih =>
    rw [valueOf, List.map_cons, List.find?_cons]
    by_cases hsame : labelsOf other = labelsOf key
    · rw [hinj other List.mem_cons_self hsame]
      simp
    · have hmem : key ∈ keys := by
        rcases List.mem_cons.mp hkey with rfl | hmem
        · exact absurd rfl hsame
        · exact hmem
      have hrest := ih hmem fun other hother => hinj other (List.mem_cons_of_mem _ hother)
      rw [valueOf] at hrest
      simpa [hsame] using hrest

end Values

/-! ### Counters by the text of their labels -/

section Counters

/-- The labels that a text of labels stands for. -/
def keyLabels (key : String) : List (String × String) :=
  ((readLabels key.toList.length key.toList.tail).map Prod.fst).getD []

theorem keyLabels_labelsText (h : Labels graphic labels) :
    keyLabels (labelsText graphic labels) = labels := by
  have hfuel : labels.length ≤ (labelsText graphic labels).toList.length := by
    rw [toList_labelsText, List.length_cons, List.length_append]
    exact Nat.le_add_right_of_le (Nat.le_add_right_of_le length_le_labelsText)
  have hread : readLabels _ (_ ++ '}' :: []) = _ := h.read hfuel
  rw [keyLabels, toList_labelsText, List.tail_cons, ← toList_labelsText, hread]
  rfl

variable {t : Tally String} {recorded : List (List (String × String))} {keys : List String}
  {name : String}

theorem count_labelsText (hformed : ∀ labels ∈ recorded, Labels graphic labels)
    (hmem : labels ∈ recorded) :
    (recorded.map (labelsText graphic)).count (labelsText graphic labels) =
      recorded.count labels := by
  rw [List.count, List.countP_map, List.count]
  refine List.countP_congr fun other hother => ?_
  rw [Function.comp_apply, beq_iff_eq, beq_iff_eq]
  constructor
  · intro hsame
    rw [← keyLabels_labelsText (hformed other hother), hsame,
      keyLabels_labelsText (hformed labels hmem)]
  · rintro rfl
    rfl

theorem exists_labels {key : String} (hcounts : t.Counts (recorded.map (labelsText graphic)))
    (hformed : ∀ labels ∈ recorded, Labels graphic labels) (hkey : key ∈ t.keys) :
    ∃ labels ∈ recorded, labelsText graphic labels = key ∧ keyLabels key = labels := by
  obtain ⟨labels, hmem, rfl⟩ := List.mem_map.mp (hcounts.mem_keys.mp hkey)
  exact ⟨labels, hmem, rfl, keyLabels_labelsText (hformed labels hmem)⟩

/-- A counter for each text of labels that was recorded. -/
theorem valueOf_counter (hcounts : t.Counts (recorded.map (labelsText graphic)))
    (hkeys : ∀ key, key ∈ keys ↔ key ∈ t.keys)
    (hformed : ∀ labels ∈ recorded, Labels graphic labels) :
    valueOf (keys.map fun key => ⟨name, keyLabels key, (t.lookup key).getD 0⟩) name labels =
      shown (recorded.count labels) := by
  by_cases hmem : labels ∈ recorded
  · have hlabels := keyLabels_labelsText (hformed labels hmem)
    have hkey : labelsText graphic labels ∈ keys :=
      (hkeys _).mpr (hcounts.mem_keys.mpr (List.mem_map_of_mem hmem))
    have hpresent : valueOf (keys.map fun key => ⟨name, keyLabels key, (t.lookup key).getD 0⟩)
        name (keyLabels (labelsText graphic labels)) =
          some ((t.lookup (labelsText graphic labels)).getD 0) := by
      refine valueOf_present hkey fun other hother hsame => ?_
      obtain ⟨labels', -, rfl, hlabels'⟩ := exists_labels hcounts hformed ((hkeys other).mp hother)
      rw [← hlabels', hsame, hlabels]
    rw [hlabels] at hpresent
    rw [hpresent, hcounts.lookup, count_labelsText hformed hmem, shown,
      if_neg (List.count_pos_iff.mpr hmem).ne', Option.getD_some]
  · rw [List.count_eq_zero_of_not_mem hmem]
    refine valueOf_absent fun key hkey hsame => ?_
    obtain ⟨labels', hmem', -, hlabels'⟩ := exists_labels hcounts hformed ((hkeys key).mp hkey)
    exact hmem (by rwa [← hsame, hlabels'])

end Counters

end WhatsappGateway.Lib.Exposition

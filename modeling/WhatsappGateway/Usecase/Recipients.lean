import WhatsappGateway.Lib.Fields
import WhatsappGateway.Lib.Trim
import WhatsappGateway.Usecase.RecipientCap

/-!
The normal form of a recipient. A bare number and a JID, with or without a device, in any letter
case and in white space, meet in one string, so what is keyed by the recipient is keyed once.
-/

namespace WhatsappGateway.SendMessage

open Lib Ratelimiter

/-- What may stand in a phone number after its plus sign. -/
def phoneChar (c : Char) : Bool := c.isDigit || c == ' ' || c == '-'

/-- A device as `strconv.ParseUint` takes it, in 16 bits. -/
def isDevice (device : String) : Bool :=
  isAllDigits device && Nat.ofDigitChars 10 device.toList 0 < 2 ^ 16

/-- What the libraries document: `types.ParseJID` splits a JID into its user, its device and its
server, and `strings.ToLower` maps the letters of ASCII. -/
structure DocumentedEnv (env : Env) : Prop where
  parse_user : ∀ user server, isAllDigits user = true → '@' ∉ server.toList →
    env.parseJID (user ++ "@" ++ server) = .ok ⟨user, server⟩
  parse_device : ∀ user device server, isAllDigits user = true → isDevice device = true →
    '@' ∉ server.toList → env.parseJID (user ++ ":" ++ device ++ "@" ++ server) = .ok ⟨user, server⟩
  lower_ascii : ∀ s : String, (∀ c ∈ s.toList, c.toNat < 128) → env.toLower s = s.toLower

/-- The ways to write the recipient with this user and server. -/
inductive Spelling (user : String) : (server v : String) → Prop where
  | bare {v : String} (hchars : ∀ c ∈ v.toList, phoneChar c = true ∨ c = '+')
      (hdigits : v.toList.filter Char.isDigit = user.toList) : Spelling user "s.whatsapp.net" v
  | jid {server written : String} (hcase : written.toLower = server) :
      Spelling user server (user ++ "@" ++ written)
  | device {server written device : String} (hdevice : isDevice device = true)
      (hcase : written.toLower = server) :
      Spelling user server (user ++ ":" ++ device ++ "@" ++ written)
  | padded {server v left right : String} (hleft : ∀ c ∈ left.toList, Events.isSpace c = true)
      (hright : ∀ c ∈ right.toList, Events.isSpace c = true) (inner : Spelling user server v) :
      Spelling user server (left ++ v ++ right)

variable {env : Env} {chat msisdn user server written v : String} {c : Char}

/-! ### Characters -/

theorem isSpace_digit (h : c.isDigit = true) : Events.isSpace c = false := by
  simp only [Char.isDigit, Bool.and_eq_true, decide_eq_true_eq, ge_iff_le,
    UInt32.le_iff_toNat_le] at h
  have hrange : 48 ≤ c.toNat ∧ c.toNat ≤ 57 := h
  simp only [Events.isSpace, Bool.or_eq_false_iff, Bool.and_eq_false_iff, decide_eq_false_iff_not,
    beq_eq_false_iff_ne]
  omega

theorem jid_toList (user server : String) :
    (user ++ "@" ++ server).toList = user.toList ++ '@' :: server.toList := by
  simp [String.toList_append]

/-- The plain characters of a server: none of them ends the user or is trimmed. -/
def PlainChar (c : Char) : Prop := c ≠ '@' ∧ Events.isSpace c = false ∧ c.toNat < 128

theorem plainChar_upper (h : c.isUpper = true) : PlainChar c := by
  have hrange : 65 ≤ c.toNat ∧ c.toNat ≤ 90 := of_decide_eq_true h
  have hspace : Events.isSpace c = false ∧ c.toNat < 128 ∧ c.toNat ≠ 64 := by
    simp only [Events.isSpace, Bool.or_eq_false_iff, Bool.and_eq_false_iff,
      decide_eq_false_iff_not, beq_eq_false_iff_ne]
    omega
  refine ⟨?_, hspace.1, hspace.2.1⟩
  rintro rfl
  exact hspace.2.2 rfl

theorem plainChar_server (hserver : server ∈ validJIDServers) (hc : c ∈ server.toList) :
    PlainChar c := by
  have hall : (validJIDServers.all fun s => s.toList.all fun c =>
      c != '@' && !Events.isSpace c && decide (c.toNat < 128)) = true := by decide
  have hplain := List.all_eq_true.mp (List.all_eq_true.mp hall server hserver) c hc
  simpa [PlainChar, and_assoc] using hplain

theorem toLower_of_not_upper (h : ¬ c.isUpper = true) : c.toLower = c := by
  have hrange : ¬ (c.val ≥ 'A'.val ∧ c.val ≤ 'Z'.val) := fun hupper => h (decide_eq_true hupper)
  exact dif_neg hrange

theorem toLower_toList (s : String) : s.toLower.toList = s.toList.map Char.toLower :=
  String.toList_map

/-- Whatever its letter case, a server is written in plain characters. -/
theorem plainChar_written (hserver : server ∈ validJIDServers) (hcase : written.toLower = server)
    (hc : c ∈ written.toList) : PlainChar c := by
  by_cases hupper : c.isUpper = true
  · exact plainChar_upper hupper
  · apply plainChar_server hserver
    rw [← hcase, toLower_toList, ← toLower_of_not_upper hupper]
    exact List.mem_map_of_mem hc

/-! ### Trimming -/

theorem trimSpace_eq_self (hhead : ∀ c ∈ v.toList.head?, Events.isSpace c = false)
    (hlast : ∀ c ∈ v.toList.getLast?, Events.isSpace c = false) : trimSpace v = v := by
  have htrim : Events.trimSpace v.toList = v.toList := trim_eq_self hhead hlast
  rw [trimSpace, htrim, String.ofList_toList]

theorem trimSpace_padded {left right : String}
    (hleft : ∀ c ∈ left.toList, Events.isSpace c = true)
    (hright : ∀ c ∈ right.toList, Events.isSpace c = true) :
    trimSpace (left ++ v ++ right) = trimSpace v := by
  have htrim : Events.trimSpace (left ++ v ++ right).toList = Events.trimSpace v.toList := by
    rw [String.toList_append, String.toList_append]
    exact (trim_append_right hright).trans (trim_append_left hleft)
  rw [trimSpace, htrim, ← trimSpace]

/-- Trimming takes no digits away. -/
theorem filter_trimSpace (v : String) :
    (trimSpace v).toList.filter Char.isDigit = v.toList.filter Char.isDigit := by
  rw [trimSpace, String.toList_ofList]
  exact filter_trim fun _ => isSpace_digit

theorem mem_of_mem_trimSpace (h : c ∈ (trimSpace v).toList) : c ∈ v.toList := by
  rw [trimSpace, String.toList_ofList] at h
  exact trim_subset h

/-- A user, more digits or not, and a server: nothing of it is white space. -/
theorem trimSpace_jid (middle : String) (huser : isAllDigits user = true)
    (hserver : server ∈ validJIDServers) (hcase : written.toLower = server) :
    trimSpace (user ++ middle ++ written) = user ++ middle ++ written := by
  have hsome : written.toList ≠ [] := by
    intro hnil
    have hempty : server.toList = "".toList := by
      rw [← hcase, toLower_toList, hnil]
      rfl
    rw [String.toList_inj.mp hempty] at hserver
    exact absurd hserver (by decide)
  obtain ⟨c, cs, hcs⟩ : ∃ c cs, user.toList = c :: cs := by
    cases huser' : user.toList with
    | nil =>
      obtain rfl : user = "" := String.toList_inj.mp huser'
      exact absurd huser (by decide)
    | cons c cs => exact ⟨c, cs, rfl⟩
  apply trimSpace_eq_self
  · intro d hd
    rw [String.toList_append, String.toList_append, hcs] at hd
    obtain rfl : c = d := Option.some.inj hd
    simp only [isAllDigits, Bool.and_eq_true, List.all_eq_true] at huser
    exact isSpace_digit (huser.2 c (hcs ▸ List.mem_cons_self))
  · intro d hd
    rw [String.toList_append, List.getLast?_append, List.getLast?_eq_some_getLast hsome] at hd
    obtain rfl : written.toList.getLast hsome = d := Option.some.inj hd
    exact (plainChar_written hserver hcase (List.getLast_mem hsome)).2.1

/-! ### Resolving -/

theorem resolveChat_chat (h : trimSpace chat ≠ "") :
    resolveChat env chat msisdn = canonicalRecipient env (trimSpace chat) := by
  simp only [resolveChat, if_neg h]

theorem resolveChat_msisdn (hchat : trimSpace chat = "") (h : trimSpace msisdn ≠ "") :
    resolveChat env chat msisdn = canonicalRecipient env (trimSpace msisdn) := by
  simp only [resolveChat, if_pos hchat, if_neg h]

/-- The plus sign is not a digit. -/
theorem filter_trimPlus (v : String) :
    (trimPlus v).filter Char.isDigit = v.toList.filter Char.isDigit := by
  unfold trimPlus
  split
  next cs heq =>
    rw [heq]
    rfl
  · rfl

theorem canonicalRecipient_bare (hat : '@' ∉ v.toList) :
    canonicalRecipient env v =
      if v.toList.filter Char.isDigit = [] then .error (invalidRecipient env v)
      else .ok (String.ofList (v.toList.filter Char.isDigit) ++ "@" ++ "s.whatsapp.net") := by
  simp only [canonicalRecipient, if_neg hat, filter_trimPlus, String.ofList_eq_empty_iff]

theorem canonicalRecipient_jid (hat : '@' ∈ v.toList) (hparse : env.parseJID v = .ok ⟨user, written⟩)
    (hlower : env.toLower written = server) (huser : isAllDigits user = true)
    (hserver : server ∈ validJIDServers) :
    canonicalRecipient env v = .ok (user ++ "@" ++ server) := by
  simp only [canonicalRecipient, if_pos hat, hparse, hlower]
  rw [if_pos ⟨huser, hserver⟩]

/-- The text names the recipient: by itself it resolves to it. -/
def Names (env : Env) (v recipient : String) : Prop :=
  trimSpace v ≠ "" ∧ canonicalRecipient env (trimSpace v) = .ok recipient

theorem Names.resolveChat (h : Names env v user) (other : String) :
    resolveChat env v other = .ok user :=
  (resolveChat_chat h.1).trans h.2

theorem names_jid (hdocs : DocumentedEnv env) (huser : isAllDigits user = true)
    (hserver : server ∈ validJIDServers) (hcase : written.toLower = server)
    {middle : String} (hat : '@' ∈ middle.toList)
    (hparse : env.parseJID (user ++ middle ++ written) = .ok ⟨user, written⟩) :
    Names env (user ++ middle ++ written) (user ++ "@" ++ server) := by
  have hlower : env.toLower written = server := by
    rw [hdocs.lower_ascii written fun c hc => (plainChar_written hserver hcase hc).2.2, hcase]
  have hmem : '@' ∈ (user ++ middle ++ written).toList := by
    simp [String.toList_append, hat]
  rw [Names, trimSpace_jid middle huser hserver hcase]
  refine ⟨?_, canonicalRecipient_jid hmem hparse hlower huser hserver⟩
  intro hempty
  rw [hempty] at hmem
  cases hmem

/-- Every spelling of a recipient names it. -/
theorem Spelling.names (hdocs : DocumentedEnv env) (huser : isAllDigits user = true)
    (hserver : server ∈ validJIDServers) (spelling : Spelling user server v) :
    Names env v (user ++ "@" ++ server) := by
  induction spelling with
  | @bare v hchars hdigits =>
    have hfilter : (trimSpace v).toList.filter Char.isDigit = user.toList :=
      (filter_trimSpace v).trans hdigits
    have hsome : user.toList ≠ [] := by
      intro hnil
      obtain rfl : user = "" := String.toList_inj.mp hnil
      exact absurd huser (by decide)
    have hat : '@' ∉ (trimSpace v).toList := by
      intro hmem
      rcases hchars '@' (mem_of_mem_trimSpace hmem) with hphone | hplus
      · exact absurd hphone (by decide)
      · exact absurd hplus (by decide)
    constructor
    · intro hempty
      rw [hempty] at hfilter
      exact hsome hfilter.symm
    · rw [canonicalRecipient_bare hat, hfilter, if_neg hsome, String.ofList_toList]
  | @jid server written hcase =>
    have hat : '@' ∉ written.toList := fun hmem => (plainChar_written hserver hcase hmem).1 rfl
    exact names_jid hdocs huser hserver hcase (by decide) (hdocs.parse_user user written huser hat)
  | @device server written device hdevice hcase =>
    have hat : '@' ∉ written.toList := fun hmem => (plainChar_written hserver hcase hmem).1 rfl
    have hparse := hdocs.parse_device user device written huser hdevice hat
    have hmiddle : user ++ ":" ++ device ++ "@" ++ written =
        user ++ (":" ++ device ++ "@") ++ written := by simp only [String.append_assoc]
    rw [hmiddle] at hparse ⊢
    exact names_jid hdocs huser hserver hcase (by simp [String.toList_append]) hparse
  | padded hleft hright inner ih =>
    obtain ⟨hsome, hresolves⟩ := ih hserver
    rw [Names, trimSpace_padded hleft hright]
    exact ⟨hsome, hresolves⟩

/-- What is accepted is its own spelling. -/
theorem spelling_self (hserver : server ∈ validJIDServers) :
    Spelling user server (user ++ "@" ++ server) := by
  have hcase : ∀ s ∈ validJIDServers, s.toLower = s := by
    intro s hs
    simp only [validJIDServers, List.mem_cons, List.not_mem_nil, or_false] at hs
    obtain rfl | rfl | rfl := hs <;>
      exact String.toList_inj.mp (by rw [toLower_toList]; decide)
  exact .jid (hcase server hserver)

/-- A text gets its sends to the recipient: it resolves to it in either field, and they are
counted by the pacer under the recipient's key. -/
structure Reaches (env : Env) (v recipient : String) : Prop where
  chat : ∀ other, resolveChat env v other = .ok recipient
  msisdn : ∀ blank, trimSpace blank = "" → resolveChat env blank v = .ok recipient
  counted : ∀ (p : Pacer) (limiter : MemoryLimiter), p.recipient = some limiter →
    ∀ other target, resolveChat env v other = .ok target → ∀ phone n windows now later,
      (p.countRecipient phone target n windows now later).1 =
        (limiter.allowN windows (phone ++ ":" ++ recipient) n now later).1

theorem Names.reaches {recipient : String} (h : Names env v recipient) (hsome : recipient ≠ "") :
    Reaches env v recipient where
  chat := h.resolveChat
  msisdn := fun _ hblank => (resolveChat_msisdn hblank h.1).trans h.2
  counted := by
    intro p limiter hp other target htarget phone n windows now later
    obtain rfl : recipient = target :=
      Except.ok.inj ((h.resolveChat other).symm.trans htarget)
    simp only [Pacer.countRecipient, hp, if_neg hsome]

/-- The recipients that `resolveChat` accepts have a normal form, which all spellings share. -/
structure NormalForm (env : Env) : Prop where
  canonical : ∀ chat msisdn recipient, resolveChat env chat msisdn = .ok recipient →
    Canonical recipient
  idempotent : ∀ chat msisdn recipient, resolveChat env chat msisdn = .ok recipient →
    ∀ other, resolveChat env recipient other = .ok recipient
  chat_first : ∀ chat msisdn, trimSpace chat ≠ "" →
    resolveChat env chat msisdn = resolveChat env chat ""
  spellings : ∀ user server v, isAllDigits user = true → server ∈ validJIDServers →
    Spelling user server v → Reaches env v (user ++ "@" ++ server)

/-- `resolveChat` is canonical and idempotent, and the spellings of one recipient meet. -/
theorem resolveChat_normalForm (hdocs : DocumentedEnv env) : NormalForm env where
  canonical := fun _ _ _ h => resolveChat_canonical h
  idempotent := by
    intro chat msisdn recipient h other
    obtain ⟨user, server, huser, hserver, rfl⟩ := resolveChat_canonical h
    exact ((spelling_self hserver).names hdocs huser hserver).resolveChat other
  chat_first := fun _ _ hchat => (resolveChat_chat hchat).trans (resolveChat_chat hchat).symm
  spellings := by
    intro user server v huser hserver spelling
    apply (spelling.names hdocs huser hserver).reaches
    exact Usecase.canonical_ne_empty ⟨user, server, huser, hserver, rfl⟩

/-! ### The libraries -/

/-- `types.ParseJID` on what has at most a device. -/
def splitJID (v : String) : Except String JID :=
  let user := v.toList.takeWhile (· ≠ '@')
  let server := (v.toList.dropWhile (· ≠ '@')).drop 1
  let jid : JID := ⟨String.ofList (user.takeWhile (· ≠ ':')), String.ofList server⟩
  match user.dropWhile (· ≠ ':') with
  | [] => .ok jid
  | _ :: device =>
    if isDevice (String.ofList device) then .ok jid
    else .error "failed to parse device from JID"

def libraries : Env where
  maxUploadBytes := 1024
  parseJID := splitJID
  toLower := String.toLower
  quote := fun s => "\"" ++ s ++ "\""
  detectContentType := fun _ => "application/octet-stream"

theorem libraries_documented : DocumentedEnv libraries where
  parse_user := by
    intro user server huser hserver
    have hat : '@' ∉ user.toList := not_mem_digits huser rfl
    have hcolon : ':' ∉ user.toList := not_mem_digits huser rfl
    change splitJID _ = _
    rw [splitJID, jid_toList, takeWhile_append_sep hat, dropWhile_append_sep hat,
      takeWhile_field hcolon, dropWhile_field hcolon, List.drop_one, List.tail_cons,
      String.ofList_toList, String.ofList_toList]
  parse_device := by
    intro user device server huser hdevice hserver
    have hdigits : isAllDigits device = true := (Bool.and_eq_true_iff.mp hdevice).1
    have hcolon : ':' ∉ user.toList := not_mem_digits huser rfl
    have hat : '@' ∉ user.toList ++ ':' :: device.toList := by
      simp [not_mem_digits huser (c := '@') rfl, not_mem_digits hdigits (c := '@') rfl]
    have hlist : (user ++ ":" ++ device ++ "@" ++ server).toList =
        (user.toList ++ ':' :: device.toList) ++ '@' :: server.toList := by
      rw [jid_toList]
      simp [String.toList_append]
    change splitJID _ = _
    rw [splitJID, hlist, takeWhile_append_sep hat, dropWhile_append_sep hat,
      takeWhile_append_sep hcolon, dropWhile_append_sep hcolon]
    simp only
    rw [String.ofList_toList, if_pos hdevice, List.drop_one, List.tail_cons, String.ofList_toList,
      String.ofList_toList]
  lower_ascii := fun _ _ => rfl

theorem resolveChat_normalForm_libraries : NormalForm libraries :=
  resolveChat_normalForm libraries_documented

end WhatsappGateway.SendMessage

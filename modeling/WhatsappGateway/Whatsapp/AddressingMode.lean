import WhatsappGateway.Lib.Fields
import WhatsappGateway.Whatsapp.WebhookPayload

/-!
The addressing mode of an incoming message, over JIDs in their parts. The mode "pn" promises an
address that can be called, which the default of `convertJIDToNonADLID` does not have.
-/

namespace WhatsappGateway.Whatsapp

open Lib

/-- A part of a JID, which contains none of the separators. -/
abbrev JIDPart := { s : String // '@' ∉ s.toList ∧ ':' ∉ s.toList }

/-- The JIDs: a server by itself, or a user of one, with its agent if it has one, and with or
without a device. -/
inductive ParsedJID where
  | ofServer (server : JIDPart)
  | ofUser (user : JIDPart) (device : Option Nat) (server : JIDPart)

namespace ParsedJID

def server : ParsedJID → JIDPart
  | .ofServer server => server
  | .ofUser _ _ server => server

/-- `JID.String`. -/
def string : ParsedJID → String
  | .ofServer server => server
  | .ofUser user none server => user ++ "@" ++ server
  | .ofUser user (some device) server => user ++ ":" ++ toString device ++ "@" ++ server

/-- What the code asks of it. A JID is empty when its server is. -/
def jid (p : ParsedJID) : JID := ⟨p.string, p.server.val = ""⟩

/-- A user at the server of this name. -/
def At (p : ParsedJID) (name : String) : Prop :=
  ∃ user device server, p = .ofUser user device server ∧ server.val = name

/-! ### The strings -/

/-- What precedes the server in the string of a user. -/
def front (user : JIDPart) : Option Nat → List Char
  | none => user.val.toList
  | some device => user.val.toList ++ ':' :: (toString device).toList

theorem front_no_at (user : JIDPart) (device : Option Nat) : '@' ∉ front user device := by
  cases device with
  | none => exact user.2.1
  | some device =>
    have hdevice : '@' ∉ (toString device).toList := by
      intro hmem
      rw [Nat.toString_eq_ofList_toDigits, String.toList_ofList] at hmem
      exact absurd (Nat.isDigit_of_mem_toDigits (by decide) (by decide) hmem) (by decide)
    rw [front, List.mem_append, List.mem_cons]
    rintro (huser | hcolon | hmem)
    · exact user.2.1 huser
    · cases hcolon
    · exact hdevice hmem

theorem string_user (user : JIDPart) (device : Option Nat) (server : JIDPart) :
    (ParsedJID.ofUser user device server).string.toList =
      front user device ++ '@' :: server.val.toList := by
  cases device <;> simp [string, front, String.toList_append]

/-- The suffix tests of the code find the users of a server. -/
theorem hasSuffix_iff (p : ParsedJID) {name : String} (hname : '@' ∉ name.toList) :
    hasSuffix p.string ("@" ++ name) = true ↔ p.At name := by
  have hsuffix : ("@" ++ name).toList = '@' :: name.toList := by simp [String.toList_append]
  rw [hasSuffix, List.isSuffixOf_iff_suffix, hsuffix]
  cases p with
  | ofServer server =>
    constructor
    · intro hmem
      exact absurd (hmem.subset List.mem_cons_self) server.2.1
    · rintro ⟨_, _, _, heq, -⟩
      cases heq
  | ofUser user device server =>
    rw [string_user]
    constructor
    · rintro ⟨before, hbefore⟩
      have hparts := split_last_inj hname server.2.1 hbefore
      exact ⟨user, device, server, rfl, String.toList_inj.mp hparts.2.symm⟩
    · rintro ⟨_, _, _, heq, rfl⟩
      cases heq
      exact ⟨_, rfl⟩

/-- The device is stripped, and nothing else. -/
theorem strip_user (user : JIDPart) (device : Option Nat) (server : JIDPart) :
    stripDeviceIDFromJID (ParsedJID.ofUser user device server).string =
      (ParsedJID.ofUser user none server).string := by
  have hat := front_no_at user device
  have hcut : (front user device).takeWhile (· ≠ ':') = user.val.toList := by
    cases device with
    | none => exact takeWhile_field user.2.2
    | some device => exact takeWhile_append_sep user.2.2
  apply String.toList_inj.mp
  unfold stripDeviceIDFromJID
  simp only [string_user, takeWhile_append_sep hat, dropWhile_append_sep hat, hcut,
    if_neg (List.cons_ne_nil _ _)]
  split
  next hcolon =>
    rw [takeWhile_field hcolon] at hcut
    rw [string_user, hcut, front]
  · rw [String.toList_ofList, front]

theorem strip_server (server : JIDPart) :
    stripDeviceIDFromJID (ParsedJID.ofServer server).string =
      (ParsedJID.ofServer server).string := by
  have hserver : '@' ∉ (ParsedJID.ofServer server).string.toList := server.2.1
  simp only [stripDeviceIDFromJID, dropWhile_field hserver, if_pos]

theorem hasSuffix_pn (p : ParsedJID) :
    hasSuffix p.string pnSuffix = true ↔ p.At "s.whatsapp.net" := by
  have hname : pnSuffix = "@" ++ "s.whatsapp.net" := by decide
  rw [hname]
  exact p.hasSuffix_iff (by decide)

theorem hasSuffix_lid (p : ParsedJID) : hasSuffix p.string "@lid" = true ↔ p.At "lid" := by
  have hname : "@lid" = "@" ++ "lid" := by decide
  rw [hname]
  exact p.hasSuffix_iff (by decide)

/-- The addresses that a message can be sent to: a phone number's, without a device. -/
def Callable (address : String) : Prop :=
  ∃ user : JIDPart, address = (ParsedJID.ofUser user none ⟨"s.whatsapp.net", by decide⟩).string

theorem callable_strip_iff (p : ParsedJID) :
    Callable (stripDeviceIDFromJID p.string) ↔ p.At "s.whatsapp.net" := by
  cases p with
  | ofServer server =>
    rw [strip_server]
    constructor
    · rintro ⟨user, haddress⟩
      have hlist := congrArg String.toList haddress
      rw [string_user] at hlist
      have hmem : '@' ∈ server.val.toList := by
        rw [show server.val.toList = _ from hlist]
        simp
      exact absurd hmem server.2.1
    · rintro ⟨_, _, _, heq, -⟩
      cases heq
  | ofUser user device server =>
    rw [strip_user]
    constructor
    · rintro ⟨user', haddress⟩
      have hlist := congrArg String.toList haddress
      rw [string_user, string_user] at hlist
      have hparts := split_last_inj server.2.1 (by decide) hlist
      exact ⟨user, device, server, rfl, String.toList_inj.mp hparts.2⟩
    · rintro ⟨_, _, server, heq, hserver⟩
      cases heq
      exact ⟨user, by rw [show server = ⟨"s.whatsapp.net", by decide⟩ from Subtype.ext hserver]⟩

/-- What the suffix test lets through is callable once it is stripped. -/
theorem callable_of_hasSuffix (p : ParsedJID) (h : hasSuffix p.string pnSuffix = true) :
    Callable (stripDeviceIDFromJID p.string) :=
  p.callable_strip_iff.mpr (p.hasSuffix_pn.mp h)

end ParsedJID

/-! ### The mode -/

open ParsedJID

/-- The mapping knows a JID for the sender. -/
def Gives (client : Option Client) (sender p : ParsedJID) : Prop :=
  ∃ getPNForLID, (client.bind Client.store).bind DeviceStore.getPNForLID = some getPNForLID ∧
    getPNForLID sender.jid = .ok p.jid

/-- What the mapping answers are JIDs. -/
def AnswersJIDs (client : Option Client) : Prop :=
  ∀ getPNForLID, (client.bind Client.store).bind DeviceStore.getPNForLID = some getPNForLID →
    ∀ sender jid, getPNForLID sender = .ok jid → ∃ p : ParsedJID, jid = p.jid

/-- An address and its mode tell the truth about the message. -/
structure Truthful (sender senderAlt chat : ParsedJID) (client : Option Client)
    (answer : String × String) : Prop where
  pn : answer.2 = "pn" → Callable answer.1
  lid : answer.2 = "lid" → sender.At "lid" ∧ ¬ senderAlt.At "s.whatsapp.net" ∧
    (∀ p, Gives client sender p → ¬ p.At "s.whatsapp.net") ∧ ¬ chat.At "s.whatsapp.net"

variable {sender senderAlt chat : ParsedJID} {client : Option Client} {jid : JID}
  {address : String}

theorem resolveLID_some (hclient : AnswersJIDs client)
    (h : resolveLID client sender.jid = some jid) : Callable (stripDeviceIDFromJID jid.string) := by
  unfold resolveLID at h
  split at h
  · cases h
  next getPNForLID hmapping =>
    split at h
    · cases h
    next resolved hresolved =>
      split at h
      next hpn =>
        obtain rfl : resolved = jid := Option.some.inj h
        obtain ⟨p, rfl⟩ := hclient getPNForLID hmapping _ _ hresolved
        rw [Bool.and_eq_true] at hpn
        exact p.callable_of_hasSuffix hpn.2
      · cases h

theorem resolveLID_none (h : resolveLID client sender.jid = none) (p : ParsedJID)
    (hgives : Gives client sender p) : ¬ p.At "s.whatsapp.net" := by
  obtain ⟨getPNForLID, hmapping, hresolved⟩ := hgives
  intro hat
  have hserver : p.jid.isEmpty = false := by
    obtain ⟨user, device, server, rfl, hserver⟩ := hat
    simp [ParsedJID.jid, ParsedJID.server, hserver]
  have hpn : hasSuffix p.jid.string pnSuffix = true := p.hasSuffix_pn.mpr hat
  simp [resolveLID, hmapping, hresolved, hserver, hpn] at h

theorem truthful_pn (h : Callable address) :
    Truthful sender senderAlt chat client (address, "pn") :=
  ⟨fun _ => h, fun (hlid : "pn" = "lid") => absurd hlid (by decide)⟩

theorem truthful_lid (hsender : sender.At "lid") (halt : ¬ senderAlt.At "s.whatsapp.net")
    (hmapping : resolveLID client sender.jid = none) (hchat : ¬ chat.At "s.whatsapp.net") :
    Truthful sender senderAlt chat client (address, "lid") :=
  ⟨fun (hpn : "lid" = "pn") => absurd hpn (by decide),
    fun _ => ⟨hsender, halt, resolveLID_none hmapping, hchat⟩⟩

/-- The mode is truthful for the senders that are phone numbers or LIDs, and for no other: the
default reports "pn" for an address of any server. -/
theorem convertJIDToNonADLID_truthful_iff (sender senderAlt chat : ParsedJID)
    (client : Option Client) (hclient : AnswersJIDs client) :
    Truthful sender senderAlt chat client
        (convertJIDToNonADLID sender.jid senderAlt.jid chat.jid client) ↔
      sender.At "s.whatsapp.net" ∨ sender.At "lid" := by
  constructor
  · intro htruthful
    by_contra hother
    rw [not_or, ← hasSuffix_pn, ← hasSuffix_lid] at hother
    have hdefault : convertJIDToNonADLID sender.jid senderAlt.jid chat.jid client =
        (stripDeviceIDFromJID sender.string, "pn") := by
      unfold convertJIDToNonADLID
      exact (if_neg hother.1).trans (if_neg hother.2)
    rw [hdefault] at htruthful
    exact hother.1 (sender.hasSuffix_pn.mpr (sender.callable_strip_iff.mp (htruthful.pn rfl)))
  · intro hsender
    unfold convertJIDToNonADLID
    split
    next hpn => exact truthful_pn (sender.callable_of_hasSuffix hpn)
    next hpn =>
    split
    next hlid =>
      split
      next halt => exact truthful_pn (senderAlt.callable_of_hasSuffix halt)
      next halt =>
        split
        next resolved hresolved => exact truthful_pn (resolveLID_some hclient hresolved)
        next hnone =>
          split
          next hchat => exact truthful_pn (chat.callable_of_hasSuffix hchat)
          next hchat =>
            exact truthful_lid (sender.hasSuffix_lid.mp hlid) (mt senderAlt.hasSuffix_pn.mpr halt)
              hnone (mt chat.hasSuffix_pn.mpr hchat)
    next hlid =>
      rcases hsender with hsender | hsender
      · exact absurd (sender.hasSuffix_pn.mpr hsender) hpn
      · exact absurd (sender.hasSuffix_lid.mpr hsender) hlid

/-! ### A channel -/

def channel : ParsedJID :=
  .ofUser ⟨"120363025246125486", by decide⟩ none ⟨"newsletter", by decide⟩

/-- A member of a group that is known by its LID. -/
def hiddenMember : ParsedJID := .ofUser ⟨"12345", by decide⟩ (some 7) ⟨"lid", by decide⟩

def memberNumber : ParsedJID := .ofUser ⟨"628222", by decide⟩ none ⟨"s.whatsapp.net", by decide⟩

/-- A store that knows the number of every LID. -/
def knowing : Client := ⟨some ⟨some fun _ => .ok memberNumber.jid⟩⟩

theorem convertJIDToNonADLID_truthful_member :
    Truthful hiddenMember channel channel knowing
        (convertJIDToNonADLID hiddenMember.jid channel.jid channel.jid knowing) ↔
      hiddenMember.At "s.whatsapp.net" ∨ hiddenMember.At "lid" := by
  apply convertJIDToNonADLID_truthful_iff
  rintro getPNForLID ⟨⟩ sender jid ⟨⟩
  exact ⟨memberNumber, rfl⟩

/-- What a channel posts is reported to come from a phone number. -/
theorem convertJIDToNonADLID_channel :
    convertJIDToNonADLID channel.jid (ParsedJID.ofServer ⟨"", by decide⟩).jid channel.jid none =
        ("120363025246125486@newsletter", "pn") ∧
      ¬ Truthful channel (.ofServer ⟨"", by decide⟩) channel none
        (convertJIDToNonADLID channel.jid (ParsedJID.ofServer ⟨"", by decide⟩).jid channel.jid
          none) := by
  have hanswer : convertJIDToNonADLID channel.jid (ParsedJID.ofServer ⟨"", by decide⟩).jid
      channel.jid none = ("120363025246125486@newsletter", "pn") := by decide +kernel
  refine ⟨hanswer, ?_⟩
  rw [hanswer]
  intro htruthful
  have hstrip : stripDeviceIDFromJID channel.string = "120363025246125486@newsletter" := by
    decide +kernel
  have hcallable := htruthful.pn rfl
  rw [← hstrip, callable_strip_iff] at hcallable
  obtain ⟨_, _, _, heq, hserver⟩ := hcallable
  cases heq
  exact absurd hserver (by decide)

end WhatsappGateway.Whatsapp

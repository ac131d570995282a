import WhatsappGateway.Lib.Distinct
import WhatsappGateway.Lib.Fields
import WhatsappGateway.Usecase.Outbound
import WhatsappGateway.Usecase.Recipients

/-!
The participants of a request to a group. `resolveParticipants` resolves them one after the
other and keeps what it has not seen; the cap is on what it keeps.
-/

namespace WhatsappGateway.Usecase

open Lib SendMessage

def IsGroup (jid : String) : Prop := ∃ user, jid = user ++ "@g.us"

/-- The account itself, in any of the address spaces. -/
def IsOwn (ownPhone jid : String) : Prop :=
  ∃ server ∈ validJIDServers, jid = ownPhone ++ "@" ++ server

/-- What a participant may not resolve to. -/
def Refused (ownPhone : String) (selfGuard : Bool) (jid : String) : Prop :=
  IsGroup jid ∨ selfGuard = true ∧ IsOwn ownPhone jid

/-- The inputs' canonical JIDs. -/
def canonicalJIDs (env : Env) (list : List String) : List String :=
  list.filterMap fun p => (resolveChat env p "").toOption

variable {env : Env} {cfg : GroupConfig} {ownPhone p jid : String} {selfGuard allowEmpty : Bool}
  {list out jids : List String}

/-! ### One participant -/

theorem hasGroupServer_iff : hasGroupServer jid = true ↔ IsGroup jid := by
  rw [hasGroupServer, List.isSuffixOf_iff_suffix]
  constructor
  · rintro ⟨front, hfront⟩
    refine ⟨String.ofList front, String.toList_inj.mp ?_⟩
    rw [String.toList_append, String.toList_ofList, hfront]
  · rintro ⟨user, rfl⟩
    rw [String.toList_append]
    exact List.suffix_append _ _

theorem server_no_at {server : String} (h : server ∈ validJIDServers) : '@' ∉ server.toList :=
  fun hmem => (plainChar_server h hmem).1 rfl

/-- The user part of a canonical JID is the account's phone number only if the JID is its own. -/
theorem isOwn_iff (h : Canonical jid) :
    String.ofList (jid.toList.takeWhile (· ≠ '@')) = ownPhone ↔ IsOwn ownPhone jid := by
  obtain ⟨user, server, huser, hserver, rfl⟩ := h
  rw [jid_toList, takeWhile_append_sep (not_mem_digits huser rfl), String.ofList_toList]
  constructor
  · rintro rfl
    exact ⟨server, hserver, rfl⟩
  · rintro ⟨server', hserver', heq⟩
    have hsplit : user.toList ++ '@' :: server.toList =
        ownPhone.toList ++ '@' :: server'.toList := by
      rw [← jid_toList, heq, jid_toList]
    have hparts := split_last_inj (server_no_at hserver) (server_no_at hserver') hsplit
    exact String.toList_inj.mp hparts.1

theorem reject_eq_ok {invalid : Prop} [Decidable invalid] {err : Fault} {u : Unit} :
    reject invalid err = .ok u ↔ ¬ invalid := by
  unfold reject
  split
  next h => exact ⟨nofun, fun hvalid => absurd h hvalid⟩
  next h => exact ⟨fun _ => h, fun _ => rfl⟩

theorem resolveTarget_eq_ok : resolveTarget env p "" = .ok jid ↔ resolveChat env p "" = .ok jid := by
  unfold resolveTarget
  cases resolveChat env p "" with
  | error err => exact ⟨nofun, nofun⟩
  | ok _ => simp [Except.mapError]

theorem resolveParticipant_eq_ok :
    resolveParticipant env ownPhone selfGuard p = .ok jid ↔
      resolveChat env p "" = .ok jid ∧ ¬ Refused ownPhone selfGuard jid := by
  simp only [resolveParticipant, bind_eq_ok, resolveTarget_eq_ok, reject_eq_ok, pure, Except.pure,
    Except.ok.injEq]
  constructor
  · rintro ⟨jid, hresolve, -, hgroup, -, hown, rfl⟩
    refine ⟨hresolve, ?_⟩
    rw [Refused, ← hasGroupServer_iff, ← isOwn_iff (resolveChat_canonical hresolve)]
    exact not_or.mpr ⟨hgroup, hown⟩
  · rintro ⟨hresolve, hrefused⟩
    rw [Refused, ← hasGroupServer_iff, ← isOwn_iff (resolveChat_canonical hresolve),
      not_or] at hrefused
    exact ⟨jid, hresolve, (), hrefused.1, (), hrefused.2, rfl⟩

/-! ### The list -/

/-- The participant is resolved, and may be one. -/
def Admitted (env : Env) (ownPhone : String) (selfGuard : Bool) (p : String) : Prop :=
  ∃ jid, resolveChat env p "" = .ok jid ∧ ¬ Refused ownPhone selfGuard jid

theorem canonicalJIDs_eq (h : ∀ p ∈ list, Admitted env ownPhone selfGuard p) :
    (list.filterMap fun p => (resolveParticipant env ownPhone selfGuard p).toOption) =
      canonicalJIDs env list := by
  apply List.filterMap_congr
  intro p hp
  obtain ⟨jid, hadmitted⟩ := h p hp
  rw [resolveParticipant_eq_ok.mpr hadmitted, hadmitted.1]
  rfl

theorem resolveParticipants_eq_ok :
    resolveParticipants env cfg list ownPhone allowEmpty selfGuard = .ok out ↔
      (∀ p ∈ list, Admitted env ownPhone selfGuard p) ∧
        out = (canonicalJIDs env list).foldl collect [] ∧
        ¬ (out = [] ∧ allowEmpty = false) ∧
        ¬ (cfg.groupMaxParticipantsPerRequest > 0 ∧
          out.length > cfg.groupMaxParticipantsPerRequest) := by
  have hloop : resolveParticipants env cfg list ownPhone allowEmpty selfGuard = (do
      let out ← list.foldlM (collectM (resolveParticipant env ownPhone selfGuard)) []
      reject (out = [] ∧ allowEmpty = false) (badArgument "participants is required")
      reject (cfg.groupMaxParticipantsPerRequest > 0 ∧
          out.length > cfg.groupMaxParticipantsPerRequest)
        (badArgument ("too many participants (max " ++
          toString cfg.groupMaxParticipantsPerRequest ++ ")"))
      return out) := rfl
  rw [hloop]
  simp only [bind_eq_ok, foldlM_collectM, resolveParticipant_eq_ok, reject_eq_ok, pure,
    Except.pure, Except.ok.injEq]
  constructor
  · rintro ⟨out, ⟨hadmitted, hout⟩, -, hsome, -, hcap, rfl⟩
    rw [canonicalJIDs_eq hadmitted] at hout
    exact ⟨hadmitted, hout, hsome, hcap⟩
  · rintro ⟨hadmitted, hout, hsome, hcap⟩
    rw [← canonicalJIDs_eq hadmitted] at hout
    exact ⟨out, ⟨hadmitted, hout⟩, (), hsome, (), hcap, rfl⟩

/-- What `resolveParticipants` returns. -/
structure Roster (env : Env) (cfg : GroupConfig) (ownPhone : String) (selfGuard : Bool)
    (list out : List String) : Prop where
  resolved : ∀ p ∈ list, ∃ jid, resolveChat env p "" = .ok jid
  firstOccurrences : FirstOccurrences (canonicalJIDs env list) out
  nodup : out.Nodup
  users : ∀ jid ∈ out, ¬ IsGroup jid
  others : selfGuard = true → ∀ jid ∈ out, ¬ IsOwn ownPhone jid
  capped : cfg.groupMaxParticipantsPerRequest > 0 →
    out.length ≤ cfg.groupMaxParticipantsPerRequest

/-- The number of the distinct participants. -/
def distinctCount (env : Env) (list : List String) : Nat := (canonicalJIDs env list).toFinset.card

/-- Why `resolveParticipants` fails. -/
inductive Fails (env : Env) (cfg : GroupConfig) (ownPhone : String) (allowEmpty selfGuard : Bool)
    (list : List String) : Prop
  | rejected (p : String) (hp : p ∈ list) (err : DomainError)
      (herr : resolveChat env p "" = .error err)
  | refused (p : String) (hp : p ∈ list) (jid : String) (hjid : resolveChat env p "" = .ok jid)
      (h : Refused ownPhone selfGuard jid)
  | empty (hnone : distinctCount env list = 0) (hallow : allowEmpty = false)
  | tooMany (hcap : cfg.groupMaxParticipantsPerRequest > 0)
      (h : distinctCount env list > cfg.groupMaxParticipantsPerRequest)

theorem resolveParticipants_roster
    (h : resolveParticipants env cfg list ownPhone allowEmpty selfGuard = .ok out) :
    Roster env cfg ownPhone selfGuard list out := by
  obtain ⟨hadmitted, rfl, -, hcap⟩ := resolveParticipants_eq_ok.mp h
  have hfirst := FirstOccurrences.foldl_collect (canonicalJIDs env list)
  have hallowed : ∀ jid ∈ (canonicalJIDs env list).foldl collect [],
      ¬ Refused ownPhone selfGuard jid := by
    intro jid hjid
    obtain ⟨p, hp, hsome⟩ := List.mem_filterMap.mp ((hfirst.mem_iff jid).mp hjid)
    obtain ⟨jid', hresolve, hadmit⟩ := hadmitted p hp
    rw [hresolve] at hsome
    obtain rfl : jid' = jid := Option.some.inj hsome
    exact hadmit
  refine ⟨fun p hp => (hadmitted p hp).imp fun _ h => h.1, hfirst, hfirst.nodup, ?_, ?_, ?_⟩
  · intro jid hjid hgroup
    exact hallowed jid hjid (.inl hgroup)
  · intro hguard jid hjid hown
    exact hallowed jid hjid (.inr ⟨hguard, hown⟩)
  · intro hpos
    exact not_lt.mp fun hlong => hcap ⟨hpos, hlong⟩

theorem not_admitted_fails (hp : p ∈ list) (h : ¬ Admitted env ownPhone selfGuard p) :
    Fails env cfg ownPhone allowEmpty selfGuard list := by
  cases hresolve : resolveChat env p "" with
  | error err => exact .rejected p hp err hresolve
  | ok jid =>
    refine .refused p hp jid hresolve ?_
    exact not_not.mp fun hadmit => h ⟨jid, hresolve, hadmit⟩

theorem resolveParticipants_fails_iff :
    (∃ err, resolveParticipants env cfg list ownPhone allowEmpty selfGuard = .error err) ↔
      Fails env cfg ownPhone allowEmpty selfGuard list := by
  have hfirst := FirstOccurrences.foldl_collect (canonicalJIDs env list)
  have hcount := hfirst.length_eq
  have herror : (∃ err, resolveParticipants env cfg list ownPhone allowEmpty selfGuard =
      .error err) ↔
      ¬ ∃ out, resolveParticipants env cfg list ownPhone allowEmpty selfGuard = .ok out := by
    cases resolveParticipants env cfg list ownPhone allowEmpty selfGuard <;> simp
  rw [herror]
  simp only [resolveParticipants_eq_ok]
  constructor
  · intro hnone
    by_contra hfails
    apply hnone
    refine ⟨_, ?_, rfl, ?_, ?_⟩
    · intro p hp
      exact not_not.mp fun hadmit => hfails (not_admitted_fails hp hadmit)
    · rintro ⟨hempty, hallow⟩
      rw [hempty] at hcount
      exact hfails (.empty hcount.symm hallow)
    · rintro ⟨hcap, hlong⟩
      rw [hcount] at hlong
      exact hfails (.tooMany hcap hlong)
  · rintro hfails ⟨out, hadmitted, rfl, hsome, hcap⟩
    cases hfails with
    | rejected p hp err herr =>
      obtain ⟨jid, hresolve, -⟩ := hadmitted p hp
      rw [herr] at hresolve
      cases hresolve
    | refused p hp jid hjid h =>
      obtain ⟨jid', hresolve, hadmit⟩ := hadmitted p hp
      rw [hjid] at hresolve
      obtain rfl : jid = jid' := Except.ok.inj hresolve
      exact hadmit h
    | empty hnone hallow =>
      rw [distinctCount, ← hcount] at hnone
      exact hsome ⟨List.length_eq_zero_iff.mp hnone, hallow⟩
    | tooMany hpos h =>
      rw [distinctCount, ← hcount] at h
      exact hcap ⟨hpos, h⟩

/-- The participants are the distinct canonical JIDs of the list, each where it first occurs,
unless one of them is refused or there are none, or too many, of them. -/
theorem resolveParticipants_spec (env : Env) (cfg : GroupConfig) (list : List String)
    (ownPhone : String) (allowEmpty selfGuard : Bool) :
    (∀ out, resolveParticipants env cfg list ownPhone allowEmpty selfGuard = .ok out →
      Roster env cfg ownPhone selfGuard list out) ∧
    ((∃ err, resolveParticipants env cfg list ownPhone allowEmpty selfGuard = .error err) ↔
      Fails env cfg ownPhone allowEmpty selfGuard list) :=
  ⟨fun _ => resolveParticipants_roster, resolveParticipants_fails_iff⟩

end WhatsappGateway.Usecase

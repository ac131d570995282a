import WhatsappGateway.Lib.Fields
import WhatsappGateway.Usecase.ReadCache

/-!
Which accounts may share a cached response. A key names the kind of the read, the phone
number of the account, and what is asked. Targets have no colon, so they can be split off
the key whatever the phone number is; invite codes may have one.
-/

namespace WhatsappGateway.Usecase

open Lib SendMessage

/-- The first part of the key. -/
def Query.kind : Query → String
  | .listGroups => "groups"
  | .getGroupInfo _ => "groupinfo"
  | .listSubGroups _ => "subgroups"
  | .listCommunityParticipants _ => "communityparts"
  | .getContactInfo .. => "contactinfo"
  | .getAvatar .. => "avatar"
  | .getGroupInviteInfo _ => "inviteinfo"
  | .listJoinRequests .. => "joinreqs"

/-- The number of fields that follow the phone number. -/
def fieldCount (kind : String) : Nat :=
  if kind = "groups" then 0 else if kind = "avatar" then 2 else 1

/-- The code of an invite preview that gets as far as the cache. -/
def Query.invite (cfg : GroupConfig) : Query → Option String
  | .getGroupInviteInfo code => (inviteCode cfg code).toOption
  | _ => none

/-- What a key is made of, for a read other than an invite preview. -/
structure PlainKey (phoneNumber : String) (query : Query) (key : String) : Prop where
  kind : query.kind ≠ "inviteinfo"
  parts : ∃ parts : List (List Char),
    key.toList = query.kind.toList ++ ':' :: (phoneNumber.toList ++ fields ':' parts) ∧
      parts.length = fieldCount query.kind ∧ ∀ part ∈ parts, ':' ∉ part

/-- What the key of an invite preview is made of. -/
structure InviteKey (cfg : GroupConfig) (phoneNumber : String) (query : Query) (key : String) :
    Prop where
  kind : query.kind = "inviteinfo"
  code : ∃ code, query.invite cfg = some code ∧
    key = "inviteinfo:" ++ (phoneNumber ++ ":" ++ code)

section Keys

variable {env : Env} {cfg : GroupConfig} {phoneNumber key target : String} {query : Query}

theorem PlainKey.of_target (hkind : query.kind ≠ "inviteinfo") (hcanonical : Canonical target)
    (hcount : fieldCount query.kind = 1)
    (hkey : key.toList = query.kind.toList ++ ':' :: (phoneNumber.toList ++ ':' :: target.toList)) :
    PlainKey phoneNumber query key where
  kind := hkind
  parts := ⟨[target.toList], by simp [hkey, fields], hcount.symm, by
    simpa using canonical_no_colon hcanonical⟩

theorem bool_no_colon (b : Bool) : ':' ∉ (toString b).toList := by
  cases b <;> decide

theorem cacheKey_cases (h : query.cacheKey env cfg phoneNumber = .ok (some key)) :
    PlainKey phoneNumber query key ∨ InviteKey cfg phoneNumber query key := by
  cases query with
  | listGroups =>
    obtain rfl := Option.some.inj (Except.ok.inj h)
    exact .inl ⟨by decide, [], by simp [Query.kind, fields], rfl, by simp⟩
  | getGroupInfo chat | listSubGroups chat | listCommunityParticipants chat =>
    obtain ⟨target, htarget, hkey⟩ := bind_eq_ok.mp h
    obtain rfl := Option.some.inj (Except.ok.inj hkey)
    exact .inl (.of_target (by simp [Query.kind]) (resolveGroupJID_canonical htarget) rfl
      (by simp [Query.kind]))
  | getContactInfo chat msisdn =>
    obtain ⟨target, htarget, hkey⟩ := bind_eq_ok.mp h
    split at hkey
    · cases hkey
    · obtain rfl := Option.some.inj (Except.ok.inj hkey)
      exact .inl (.of_target (by simp [Query.kind]) (resolveTarget_canonical htarget) rfl
        (by simp [Query.kind]))
  | getAvatar chat msisdn preview existingID =>
    obtain ⟨target, htarget, hkey⟩ := bind_eq_ok.mp h
    split at hkey
    · cases hkey
    · obtain rfl := Option.some.inj (Except.ok.inj hkey)
      have hcolon := canonical_no_colon (resolveTarget_canonical htarget)
      refine .inl ⟨by simp [Query.kind], [target.toList, (toString preview).toList], ?_, rfl, ?_⟩
      · simp [Query.kind, fields]
      · simp [hcolon, bool_no_colon]
  | getGroupInviteInfo code =>
    obtain ⟨trimmed, hcode, hkey⟩ := bind_eq_ok.mp h
    obtain rfl := Option.some.inj (Except.ok.inj hkey)
    refine .inr ⟨rfl, trimmed, ?_, ?_⟩
    · simp [Query.invite, hcode, Except.toOption]
    · simp [String.append_assoc]
  | listJoinRequests chat msisdn =>
    obtain ⟨_, -, hrest⟩ := bind_eq_ok.mp h
    obtain ⟨target, htarget, hkey⟩ := bind_eq_ok.mp hrest
    obtain rfl := Option.some.inj (Except.ok.inj hkey)
    exact .inl (.of_target (by simp [Query.kind]) (resolveGroupJID_canonical htarget) rfl
      (by simp [Query.kind]))

end Keys

/-- Two invite previews of different accounts that are cached under the same key. -/
def Collide (cfg : GroupConfig) (p q : Account) (query query' : Query) : Prop :=
  p ≠ q ∧ ∃ code code', query.invite cfg = some code ∧ query'.invite cfg = some code' ∧
    p.1 ++ ":" ++ code = q.1 ++ ":" ++ code'

section Sharing

variable {env : Env} {cfg : GroupConfig} {p q : Account} {query query' : Query} {key : String}

/-- A plain key determines the account, whoever asks. -/
theorem PlainKey.account (h : PlainKey p.1 query key) (h' : PlainKey q.1 query' key) : p = q := by
  obtain ⟨parts, hkey, hlength, hparts⟩ := h.parts
  obtain ⟨parts', hkey', hlength', hparts'⟩ := h'.parts
  have hcolon : ∀ query : Query, ':' ∉ query.kind.toList := by
    intro query
    cases query <;> simp [Query.kind]
  obtain ⟨hkind, hrest⟩ := split_first_inj (hcolon _) (hcolon _) (hkey.symm.trans hkey')
  have hcount : parts.length = parts'.length := by
    rw [hlength, hlength', String.toList_injective hkind]
  obtain ⟨hphone, -⟩ := fields_inj hcount hparts hparts' hrest
  exact Subtype.ext (String.toList_injective hphone)

/-- Keys of different kinds differ. -/
theorem PlainKey.not_invite (h : PlainKey p.1 query key) (h' : InviteKey cfg q.1 query' key) :
    False := by
  obtain ⟨parts, hkey, -, -⟩ := h.parts
  obtain ⟨code, -, rfl⟩ := h'.code
  have hcolon : ':' ∉ query.kind.toList := by
    cases query <;> simp [Query.kind]
  have hsplit : query.kind.toList ++ ':' :: (p.1.toList ++ fields ':' parts) =
      "inviteinfo".toList ++ ':' :: (q.1 ++ ":" ++ code).toList := by
    rw [← hkey]
    simp
  have hkind := (split_first_inj hcolon (by simp) hsplit).1
  exact h.kind (String.toList_injective hkind)

/-- Reads that share a key are of one account, or collide. -/
theorem key_account (h : query.cacheKey env cfg p.1 = .ok (some key))
    (h' : query'.cacheKey env cfg q.1 = .ok (some key)) : p = q ∨ Collide cfg p q query query' := by
  obtain hplain | hinvite := cacheKey_cases h
  · obtain hplain' | hinvite' := cacheKey_cases h'
    · exact .inl (hplain.account hplain')
    · exact absurd hinvite' hplain.not_invite
  · obtain hplain' | hinvite' := cacheKey_cases h'
    · exact absurd hinvite hplain'.not_invite
    · obtain ⟨code, hcode, hkey⟩ := hinvite.code
      obtain ⟨code', hcode', hkey'⟩ := hinvite'.code
      have htext : p.1 ++ ":" ++ code = q.1 ++ ":" ++ code' :=
        (String.append_right_inj _).mp (hkey.symm.trans hkey')
      by_cases hsame : p = q
      · exact .inl hsame
      · exact .inr ⟨hsame, code, code', hcode, hcode', htext⟩

end Sharing

/-- The key that a read in progress is about. -/
def ReadPhase.key {V : Type} : ReadPhase V → Option String
  | .missed key | .allowed key => key
  | .fetched key _ => some key
  | .cached .. | .fresh _ | .failed _ => none

/-- A read has returned a response that a read of another account cached. -/
def ReadPhase.LeakedTo {V : Type} (account : Account) : ReadPhase V → Prop
  | .cached _ cachedBy => cachedBy ≠ account
  | _ => False

/-- No read has returned a response that a read of another account cached. -/
def Isolated {V : Type} (s : ReadState V) : Prop :=
  ∀ i read, s.reads i = some read → ¬ read.phase.LeakedTo read.account

/-- The reads of a run are among those that are asked. -/
def Asks {V : Type} (asked : Account → Query → Prop) (_ : ReadState V) : ReadAction V → Prop
  | .lookUp _ account query _ => asked account query
  | _ => True

/-- No two of the asked reads collide. -/
def PreviewsApart (cfg : GroupConfig) (asked : Account → Query → Prop) : Prop :=
  ∀ p q query query', asked p query → asked q query' → ¬ Collide cfg p q query query'

/-- Each entry is cached under the key of an asked read of its account, and each read in
progress is about its own key. -/
structure Keyed {V : Type} (env : Env) (cfg : GroupConfig) (asked : Account → Query → Prop)
    (s : ReadState V) : Prop where
  entries : ∀ key entry, s.cache key = some entry → ∃ query, asked entry.cachedBy query ∧
    query.cacheKey env cfg entry.cachedBy.1 = .ok (some key)
  asked : ∀ i read, s.reads i = some read → asked read.account read.query
  keys : ∀ i read key, s.reads i = some read → read.phase.key = some key →
    read.query.cacheKey env cfg read.account.1 = .ok (some key)

section Step

variable {V : Type} {env : Env} {cfg : GroupConfig} {ttl : Int} {s t : ReadState V}
  {a : ReadAction V} {asked : Account → Query → Prop} {account : Account} {query : Query}
  {key : String} {now : Int}

theorem lookUp_key (h : (lookUp env cfg s.cache account query now).key = some key) :
    query.cacheKey env cfg account.1 = .ok (some key) := by
  unfold lookUp at h
  split at h
  · cases h
  · cases h
  next found hkey =>
  split at h
  · rwa [← h]
  · split at h
    · cases h
    · rwa [← h]

/-- A read that is served from the cache has found an entry under its own key. -/
theorem lookUp_leaked (h : (lookUp env cfg s.cache account query now).LeakedTo account) :
    ∃ key entry, query.cacheKey env cfg account.1 = .ok (some key) ∧
      s.cache key = some entry ∧ entry.cachedBy ≠ account := by
  unfold lookUp at h
  split at h
  · exact h.elim
  · exact h.elim
  next found hkey =>
  split at h
  · exact h.elim
  next entry hentry =>
  split at h
  · exact ⟨found, entry, hkey, (Option.filter_eq_some_iff.mp hentry).1, h⟩
  · exact h.elim

/-- What one step does: a read begins, goes on, or caches what it has fetched. -/
theorem readStep_cases (h : readStep env cfg ttl s a = some t) :
    ∃ i read, t.reads = Function.update s.reads i (some read) ∧
      ((∃ account query now, a = .lookUp i account query now ∧ t.cache = s.cache ∧
          read = ⟨account, query, lookUp env cfg s.cache account query now⟩) ∨
        ∃ old, s.reads i = some old ∧ read.account = old.account ∧ read.query = old.query ∧
          (∀ key, read.phase.key = some key → old.phase.key = some key) ∧
          (¬ read.phase.LeakedTo read.account) ∧
          (t.cache = s.cache ∨ ∃ key entry, old.phase.key = some key ∧
            entry.cachedBy = old.account ∧ t.cache = s.cache.set key entry)) := by
  cases a with
  | lookUp i account query now =>
    simp only [readStep] at h
    split at h
    · cases h
    · obtain rfl := Option.some.inj h
      exact ⟨i, _, rfl, .inl ⟨account, query, now, rfl, rfl, rfl⟩⟩
  | spend i res =>
    simp only [readStep] at h
    split at h
    next account query key hread =>
      split at h
      · obtain rfl := Option.some.inj h
        exact ⟨i, _, rfl, .inr ⟨_, hread, rfl, rfl, fun _ h => h, not_false, .inl rfl⟩⟩
      · obtain rfl := Option.some.inj h
        exact ⟨i, _, rfl, .inr ⟨_, hread, rfl, rfl, nofun, not_false, .inl rfl⟩⟩
    · cases h
  | call i res =>
    simp only [readStep] at h
    split at h
    next account query key hread =>
      split at h
      · obtain rfl := Option.some.inj h
        exact ⟨i, _, rfl, .inr ⟨_, hread, rfl, rfl, nofun, not_false, .inl rfl⟩⟩
      · obtain rfl := Option.some.inj h
        exact ⟨i, _, rfl, .inr ⟨_, hread, rfl, rfl, nofun, not_false, .inl rfl⟩⟩
      · obtain rfl := Option.some.inj h
        exact ⟨i, _, rfl, .inr ⟨_, hread, rfl, rfl, fun _ h => h, not_false, .inl rfl⟩⟩
    · cases h
  | store i now =>
    simp only [readStep] at h
    split at h
    next account query key val hread =>
      obtain rfl := Option.some.inj h
      exact ⟨i, _, rfl, .inr ⟨_, hread, rfl, rfl, nofun, not_false,
        .inr ⟨key, _, rfl, rfl, rfl⟩⟩⟩
    · cases h

theorem Keyed.step (hkeyed : Keyed env cfg asked s) (hasks : Asks asked s a)
    (h : readStep env cfg ttl s a = some t) : Keyed env cfg asked t := by
  obtain ⟨i, read, hreads, hcase⟩ := readStep_cases h
  have hread : asked read.account read.query ∧ ∀ key, read.phase.key = some key →
      read.query.cacheKey env cfg read.account.1 = .ok (some key) := by
    obtain ⟨account, query, now, rfl, -, rfl⟩ | ⟨old, hold, haccount, hquery, hphase, -⟩ := hcase
    · exact ⟨hasks, fun key hkey => lookUp_key hkey⟩
    · rw [haccount, hquery]
      exact ⟨hkeyed.asked i old hold, fun key hkey => hkeyed.keys i old key hold (hphase key hkey)⟩
  have hat : ∀ j other, t.reads j = some other → other = read ∨ s.reads j = some other := by
    intro j other hother
    rw [hreads] at hother
    by_cases hj : j = i
    · subst hj
      rw [Function.update_self] at hother
      exact .inl (Option.some.inj hother).symm
    · rw [Function.update_of_ne hj] at hother
      exact .inr hother
  refine ⟨?_, ?_, ?_⟩
  · intro key entry hentry
    obtain ⟨account, query, now, -, hcache, -⟩ | ⟨old, hold, -, -, -, -, hcache | hstored⟩ := hcase
    · exact hkeyed.entries key entry (by rwa [hcache] at hentry)
    · exact hkeyed.entries key entry (by rwa [hcache] at hentry)
    · obtain ⟨stored, new, hkey, howner, hcache⟩ := hstored
      rw [hcache, TTLCache.set] at hentry
      by_cases hsame : key = stored
      · subst hsame
        rw [Function.update_self] at hentry
        obtain rfl := Option.some.inj hentry
        rw [howner]
        exact ⟨old.query, hkeyed.asked i old hold, hkeyed.keys i old key hold hkey⟩
      · rw [Function.update_of_ne hsame] at hentry
        exact hkeyed.entries key entry hentry
  · intro j other hother
    obtain rfl | hbefore := hat j other hother
    · exact hread.1
    · exact hkeyed.asked j other hbefore
  · intro j other key hother hkey
    obtain rfl | hbefore := hat j other hother
    · exact hread.2 key hkey
    · exact hkeyed.keys j other key hbefore hkey

/-- A lookup that finds an entry under its own key finds one of its own account. -/
theorem Isolated.step (hapart : PreviewsApart cfg asked) (hkeyed : Keyed env cfg asked s)
    (hisolated : Isolated s) (hasks : Asks asked s a) (h : readStep env cfg ttl s a = some t) :
    Isolated t := by
  obtain ⟨i, read, hreads, hcase⟩ := readStep_cases h
  intro j other hother
  rw [hreads] at hother
  by_cases hj : j = i
  · subst hj
    rw [Function.update_self] at hother
    obtain rfl := Option.some.inj hother
    obtain ⟨account, query, now, rfl, -, rfl⟩ | ⟨old, -, -, -, -, hfresh, -⟩ := hcase
    · intro hleaked
      obtain ⟨key, entry, hkey, hentry, hforeign⟩ := lookUp_leaked hleaked
      obtain ⟨query', hasked, hkey'⟩ := hkeyed.entries key entry hentry
      obtain hsame | hcollide := key_account hkey' hkey
      · exact hforeign hsame
      · exact hapart _ _ _ _ hasked hasks hcollide
    · exact hfresh
  · rw [Function.update_of_ne hj] at hother
    exact hisolated j other hother

theorem init_keyed : Keyed env cfg asked (ReadState.init V) where
  entries _ _ hentry := nomatch (hentry : none = some _)
  asked _ _ hread := nomatch (hread : none = some _)
  keys _ _ _ hread := nomatch (hread : none = some _)

theorem init_isolated : Isolated (ReadState.init V) :=
  fun _ _ hread => nomatch (hread : none = some _)

/-- Reads that do not collide are isolated in every run. -/
theorem run_isolated {as : List (ReadAction V)} (hapart : PreviewsApart cfg asked)
    (run : Run (readStep env cfg ttl) (Asks asked) (ReadState.init V) as t) : Isolated t := by
  have hboth : Keyed env cfg asked t ∧ Isolated t := by
    apply run.invariant
    · exact ⟨init_keyed, init_isolated⟩
    · rintro s a t hasks hstep ⟨hkeyed, hisolated⟩
      exact ⟨hkeyed.step hasks hstep, hisolated.step hapart hkeyed hasks hstep⟩
  exact hboth.2

end Step

/-- One account previews an invite, and then the other one does. -/
def previews (V : Type) [Inhabited V] (p q : Account) (query query' : Query) :
    List (ReadAction V) :=
  [.lookUp 0 p query 0, .spend 0 (.ok { allowed := true }), .call 0 (.ok default), .store 0 0,
    .lookUp 1 q query' 0]

theorem invite_cacheKey {env : Env} {cfg : GroupConfig} {query : Query} {phoneNumber code : String}
    (h : query.invite cfg = some code) :
    query.cacheKey env cfg phoneNumber = .ok (some ("inviteinfo:" ++ phoneNumber ++ ":" ++ code)) ∧
      query.responseType = .groupInfo := by
  cases query with
  | getGroupInviteInfo given =>
    simp only [Query.invite] at h
    cases hcode : inviteCode cfg given with
    | error err =>
      rw [hcode] at h
      cases h
    | ok trimmed =>
      rw [hcode] at h
      obtain rfl := Option.some.inj h
      exact ⟨by simp [Query.cacheKey, hcode, bind, Except.bind, pure, Except.pure], rfl⟩
  | _ => cases h

/-- If they collide, the second one is served the response of the first. -/
theorem previews_leak (V : Type) [Inhabited V] (env : Env) {cfg : GroupConfig} (ttl : Int)
    {p q : Account} {query query' : Query} (h : Collide cfg p q query query') :
    ∃ t, exec (readStep env cfg ttl) (ReadState.init V) (previews V p q query query') = some t ∧
      ¬ Isolated t := by
  obtain ⟨hdistinct, code, code', hcode, hcode', htext⟩ := h
  obtain ⟨hkey, htype⟩ := @invite_cacheKey env cfg query p.1 code hcode
  obtain ⟨hkey', htype'⟩ := @invite_cacheKey env cfg query' q.1 code' hcode'
  have hsame : "inviteinfo:" ++ q.1 ++ ":" ++ code' = "inviteinfo:" ++ p.1 ++ ":" ++ code := by
    simpa [String.append_assoc] using congrArg ("inviteinfo:" ++ ·) htext.symm
  rw [hsame] at hkey'
  have hmiss : lookUp (V := V) env cfg (fun _ => none) p query 0 =
      .missed (some ("inviteinfo:" ++ p.1 ++ ":" ++ code)) := by
    simp [lookUp, hkey, TTLCache.get]
  have hhit : lookUp env cfg (TTLCache.set (fun _ => none) ("inviteinfo:" ++ p.1 ++ ":" ++ code)
      ⟨(default : V), query.responseType, newTTL ttl, p⟩) q query' 0 = .cached default p := by
    have hfresh : 0 ≤ newTTL ttl := by
      unfold newTTL
      split
      · decide
      · omega
    simp [lookUp, hkey', TTLCache.get, TTLCache.set, Option.filter, htype, htype', hfresh]
  refine ⟨{
      cache := TTLCache.set (fun _ => none) ("inviteinfo:" ++ p.1 ++ ":" ++ code)
        ⟨default, query.responseType, newTTL ttl, p⟩
      reads := Function.update
        (Function.update (fun _ => none) 0 (some ⟨p, query, .fresh default⟩)) 1
        (some ⟨q, query', .cached default p⟩) }, ?_, ?_⟩
  · simp [previews, exec, readStep, hmiss, ReadState.init, ReadState.setRead, spendReadBudget, hhit]
  · intro hisolated
    exact hisolated 1 ⟨q, query', .cached default p⟩ (by simp) hdistinct

/-- The reads of the gateway are isolated, in every run, exactly when no two of the invite
previews that are asked collide. -/
theorem reads_isolated_iff (V : Type) [Inhabited V] (env : Env) (cfg : GroupConfig) (ttl : Int)
    (asked : Account → Query → Prop) :
    (∀ as t, Run (readStep env cfg ttl) (Asks asked) (ReadState.init V) as t → Isolated t) ↔
      PreviewsApart cfg asked := by
  constructor
  · intro hall p q query query' hasked hasked' hcollide
    obtain ⟨t, hexec, hleak⟩ := previews_leak V env ttl hcollide
    have hguard : Guarded (readStep env cfg ttl) (Asks asked) (ReadState.init V)
        (previews V p q query query') := by
      simp [previews, Guarded, Asks, hasked, hasked']
    exact hleak (hall _ t (Run.of_exec hexec hguard))
  · intro hapart as t run
    exact run_isolated hapart run

/-- Phone numbers without a colon, as the registration means them to be, keep all reads
apart. -/
theorem previewsApart_of_no_colon {cfg : GroupConfig} {asked : Account → Query → Prop}
    (h : ∀ p query, asked p query → ':' ∉ p.1.toList) : PreviewsApart cfg asked := by
  rintro p q query query' hasked hasked' ⟨hdistinct, code, code', -, -, htext⟩
  have hsplit : p.1.toList ++ ':' :: code.toList = q.1.toList ++ ':' :: code'.toList := by
    simpa using congrArg String.toList htext
  have hphone := (split_first_inj (h p query hasked) (h q query' hasked') hsplit).1
  exact hdistinct (Subtype.ext (String.toList_injective hphone))

/-- The reads of the gateway are isolated in every run, whatever is asked. -/
def ReadsIsolated : Prop :=
  ∀ env cfg ttl as t, Run (readStep env cfg ttl) (Asks fun _ _ => True)
    (ReadState.init String) as t → Isolated t

def sampleAccount : Account := ⟨"628111", (accepted_iff _).mpr (by decide)⟩

/-- An account whose phone number ends with the scheme of an invite link. -/
def schemeAccount : Account := ⟨"628111:https", (accepted_iff _).mpr (by decide)⟩

/-- The libraries, of which an invite preview uses nothing. -/
def libraryEnv : Env where
  maxUploadBytes := 0
  parseJID := fun _ => .error "no server"
  toLower := id
  quote := id
  detectContentType := fun _ => "application/octet-stream"

theorem invite_link_leaks : ¬ ReadsIsolated := by
  intro hall
  have hcollide : Collide {} sampleAccount schemeAccount
      (.getGroupInviteInfo "https://chat.whatsapp.com/AbCdEf")
      (.getGroupInviteInfo "//chat.whatsapp.com/AbCdEf") := by
    refine ⟨by decide, "https://chat.whatsapp.com/AbCdEf", "//chat.whatsapp.com/AbCdEf", ?_, ?_, ?_⟩
    all_goals decide +kernel
  obtain ⟨t, hexec, hleak⟩ := previews_leak String libraryEnv 0 hcollide
  have hguard : Guarded (readStep libraryEnv {} 0) (Asks fun _ _ => True) (ReadState.init String)
      (previews String sampleAccount schemeAccount
        (.getGroupInviteInfo "https://chat.whatsapp.com/AbCdEf")
        (.getGroupInviteInfo "//chat.whatsapp.com/AbCdEf")) := by
    simp [previews, Guarded, Asks]
  exact hleak (hall libraryEnv {} 0 _ t (Run.of_exec hexec hguard))

end WhatsappGateway.Usecase

import Mathlib.Data.List.Nodup
import WhatsappGateway.Cipherx.Cipher

/-!
The migration that seeds the webhook subscriptions from the legacy webhooks, once,
and the key that the webhook sender signs with. Each statement of the migration may
fail; a statement that fails has changed nothing.
-/

namespace WhatsappGateway.Backfill

open Cipherx

structure LegacyWebhook where
  jid : String
  url : String
  secret : String
deriving DecidableEq, Repr

structure Subscription where
  hmacSecret : String
  events : String
deriving DecidableEq, Repr

/-- The subscriptions, by `(jid, url)`. -/
abbrev Subscriptions := String × String → Option Subscription

/-- The tables of the migration; `jid` is the primary key of `device_webhooks`. -/
structure Tables where
  deviceWebhooks : List LegacyWebhook
  subscriptions : Subscriptions
  seeded : Bool
  jid_nodup : (deviceWebhooks.map LegacyWebhook.jid).Nodup

inductive DbCall where
  | createTables
  | countMarkers
  | selectLegacy
  | scan (l : LegacyWebhook)
  | rowsErr
  | insert (l : LegacyWebhook)
  | insertMarker
deriving DecidableEq, Repr

/-- The error of each statement; `none` is a success. -/
abbrev Db := DbCall → Option String

inductive Completion where
  | returned
  | failed (err : String)
  | panicked
deriving DecidableEq, Repr

/-- A secret that decrypts to nothing is stored as none; so is one that does not decrypt. -/
def normalize (crypto : Crypto) (cipher : Option Cipher) (l : LegacyWebhook) :
    Except Failure LegacyWebhook :=
  match cipher with
  | none => .ok l
  | some c =>
    if l.secret = "" then .ok l
    else
      match c.decrypt crypto l.secret with
      | .ok plain => .ok (if plain = [] then { l with secret := "" } else l)
      | .error (.failed _) => .ok { l with secret := "" }
      | .error .panicked => .error .panicked

/-- The rows that are to be inserted. -/
def readLegacy (db : Db) (crypto : Crypto) (cipher : Option Cipher) :
    List LegacyWebhook → Except Failure (List LegacyWebhook)
  | [] => .ok []
  | l :: rows =>
    match db (.scan l) with
    | some err => .error (.failed err)
    | none => do
      let pending ← normalize crypto cipher l
      let rest ← readLegacy db crypto cipher rows
      pure (pending :: rest)

/-- `INSERT ... ON CONFLICT (jid, url) DO NOTHING`. -/
def insertSubscription (subscriptions : Subscriptions) (l : LegacyWebhook) : Subscriptions :=
  fun key =>
    if key = (l.jid, l.url) then (subscriptions key).or (some ⟨l.secret, ""⟩)
    else subscriptions key

def insertPending (db : Db) (subscriptions : Subscriptions) :
    List LegacyWebhook → Subscriptions × Completion
  | [] => (subscriptions, .returned)
  | l :: pending =>
    match db (.insert l) with
    | some err => (subscriptions, .failed err)
    | none => insertPending db (insertSubscription subscriptions l) pending

def runDeviceWebhookSubscriptionsMigrations (db : Db) (crypto : Crypto) (cipher : Option Cipher)
    (t : Tables) : Tables × Completion :=
  match db .createTables with
  | some err => (t, .failed err)
  | none =>
    match db .countMarkers with
    | some err => (t, .failed err)
    | none =>
      if t.seeded then (t, .returned)
      else
        match db .selectLegacy with
        | some err => (t, .failed err)
        | none =>
          match readLegacy db crypto cipher t.deviceWebhooks with
          | .error (.failed err) => (t, .failed err)
          | .error .panicked => (t, .panicked)
          | .ok pending =>
            match db .rowsErr with
            | some err => (t, .failed err)
            | none =>
              match insertPending db t.subscriptions pending with
              | (subscriptions, .returned) =>
                match db .insertMarker with
                | some err => ({ t with subscriptions }, .failed err)
                | none => ({ t with subscriptions, seeded := true }, .returned)
              | (subscriptions, completion) => ({ t with subscriptions }, completion)

/-- The key that `Send` signs a webhook with. A subscription without a stored secret is signed
with the empty key. -/
def signingKey (crypto : Crypto) (cipher : Cipher) (encryptedHmacSecret : String) :
    Except Failure Bytes :=
  if encryptedHmacSecret = "" then .ok []
  else (cipher.decrypt crypto encryptedHmacSecret).mapError
    (Failure.wrap "failed to decrypt HMAC secret: ")

/-- The subscription has lost its secret only if there was none, and a secret that could not be
decrypted is not replaced by the empty key, whoever sends. -/
structure SecretKept (crypto : Crypto) (cipher : Option Cipher) (l : LegacyWebhook)
    (sub : Subscription) : Prop where
  empty_only : sub.hmacSecret = "" →
    l.secret = "" ∨ ∃ c, cipher = some c ∧ c.decrypt crypto l.secret = .ok []
  not_unsigned : ∀ c err, cipher = some c → l.secret ≠ "" →
    c.decrypt crypto l.secret = .error err → ∀ sender, signingKey crypto sender sub.hmacSecret ≠ .ok []

/-- There is nothing to decrypt, or it decrypts. -/
def Decrypts (crypto : Crypto) (cipher : Option Cipher) (l : LegacyWebhook) : Prop :=
  ∀ c, cipher = some c → l.secret ≠ "" → ∃ plain, c.decrypt crypto l.secret = .ok plain

variable {db : Db} {crypto : Crypto} {cipher : Option Cipher} {t : Tables}
  {l other : LegacyWebhook} {rows pending : List LegacyWebhook} {subscriptions after : Subscriptions}
  {key : String × String} {sub : Subscription}

theorem signingKey_empty (sender : Cipher) : signingKey crypto sender "" = .ok [] := rfl

/-- Once the marker is there, the migration changes nothing, whatever the key is. -/
theorem seeded_unchanged (hseeded : t.seeded = true) :
    (runDeviceWebhookSubscriptionsMigrations db crypto cipher t).1 = t := by
  unfold runDeviceWebhookSubscriptionsMigrations
  rw [hseeded]
  cases db .createTables with
  | some err => rfl
  | none =>
    cases db .countMarkers with
    | some err => rfl
    | none => rfl

theorem normalize_key (h : normalize crypto cipher l = .ok other) :
    other.jid = l.jid ∧ other.url = l.url := by
  unfold normalize at h
  grind

theorem readLegacy_forall₂ (h : readLegacy db crypto cipher rows = .ok pending) :
    List.Forall₂ (fun l other => normalize crypto cipher l = .ok other) rows pending := by
  induction rows generalizing pending with
  | nil =>
    cases h
    exact .nil
  | cons l rows ih =>
    unfold readLegacy at h
    split at h
    · cases h
    · cases hnormal : normalize crypto cipher l with
      | error err =>
        rw [hnormal] at h
        cases h
      | ok other =>
        cases hrest : readLegacy db crypto cipher rows with
        | error err =>
          rw [hnormal, hrest] at h
          cases h
        | ok rest =>
          rw [hnormal, hrest] at h
          cases h
          exact .cons hnormal (ih hrest)

theorem forall₂_jids
    (h : List.Forall₂ (fun l other => normalize crypto cipher l = .ok other) rows pending) :
    pending.map LegacyWebhook.jid = rows.map LegacyWebhook.jid := by
  induction h with
  | nil => rfl
  | cons hnormal _ ih => rw [List.map_cons, List.map_cons, ih, (normalize_key hnormal).1]

theorem exists_pending
    (h : List.Forall₂ (fun l other => normalize crypto cipher l = .ok other) rows pending)
    (hmem : l ∈ rows) : ∃ other ∈ pending, normalize crypto cipher l = .ok other := by
  induction h with
  | nil => cases hmem
  | cons hnormal _ ih =>
    rcases List.mem_cons.mp hmem with rfl | hrest
    · exact ⟨_, List.mem_cons_self, hnormal⟩
    · obtain ⟨other, hother, hl⟩ := ih hrest
      exact ⟨other, List.mem_cons_of_mem _ hother, hl⟩

theorem insertPending_returned
    (h : insertPending db subscriptions pending = (after, .returned)) :
    after = pending.foldl insertSubscription subscriptions := by
  induction pending generalizing subscriptions with
  | nil =>
    cases h
    rfl
  | cons l pending ih =>
    unfold insertPending at h
    split at h
    · cases h
    · exact ih h

/-- A row that is there stays as it is. -/
theorem foldl_insert_some (h : subscriptions key = some sub) :
    pending.foldl insertSubscription subscriptions key = some sub := by
  induction pending generalizing subscriptions with
  | nil => exact h
  | cons l pending ih =>
    rw [List.foldl_cons]
    apply ih
    unfold insertSubscription
    split
    · rw [h]
      rfl
    · exact h

/-- Each pending row that was not there is inserted as it is. -/
theorem foldl_insert_mem (hnodup : (pending.map LegacyWebhook.jid).Nodup) (hmem : l ∈ pending)
    (habsent : subscriptions (l.jid, l.url) = none) :
    pending.foldl insertSubscription subscriptions (l.jid, l.url) = some ⟨l.secret, ""⟩ := by
  induction pending generalizing subscriptions with
  | nil => cases hmem
  | cons first pending ih =>
    rw [List.map_cons, List.nodup_cons] at hnodup
    rw [List.foldl_cons]
    rcases List.mem_cons.mp hmem with rfl | hrest
    · apply foldl_insert_some
      simp [insertSubscription, habsent]
    · apply ih hnodup.2 hrest
      have hjid : l.jid ≠ first.jid := by
        intro heq
        apply hnodup.1
        rw [← heq]
        exact List.mem_map_of_mem hrest
      simp [insertSubscription, hjid, habsent]

/-- A migration that completes a backfill has gone through all of its steps. -/
theorem completed_cases (hfresh : t.seeded = false)
    (hcompleted : (runDeviceWebhookSubscriptionsMigrations db crypto cipher t).2 = .returned) :
    ∃ pending, readLegacy db crypto cipher t.deviceWebhooks = .ok pending ∧
      (runDeviceWebhookSubscriptionsMigrations db crypto cipher t).1 =
        { t with
          subscriptions := pending.foldl insertSubscription t.subscriptions
          seeded := true } := by
  unfold runDeviceWebhookSubscriptionsMigrations at hcompleted ⊢
  cases hcreate : db .createTables with
  | some err => simp [hcreate] at hcompleted
  | none =>
  cases hcount : db .countMarkers with
  | some err => simp [hcreate, hcount] at hcompleted
  | none =>
  cases hselect : db .selectLegacy with
  | some err => simp [hcreate, hcount, hselect, hfresh] at hcompleted
  | none =>
  cases hread : readLegacy db crypto cipher t.deviceWebhooks with
  | error failure =>
    cases failure with
    | failed err => simp [hcreate, hcount, hselect, hfresh, hread] at hcompleted
    | panicked => simp [hcreate, hcount, hselect, hfresh, hread] at hcompleted
  | ok pending =>
  cases hrows : db .rowsErr with
  | some err => simp [hcreate, hcount, hselect, hfresh, hread, hrows] at hcompleted
  | none =>
  refine ⟨pending, rfl, ?_⟩
  cases hinsert : insertPending db t.subscriptions pending with
  | mk subscriptions completion =>
  simp only [hcreate, hcount, hselect, hfresh, hread, hrows, hinsert] at hcompleted ⊢
  cases completion with
  | failed err => simp at hcompleted
  | panicked => simp at hcompleted
  | returned =>
    cases hmarker : db .insertMarker with
    | some err => simp [hmarker] at hcompleted
    | none =>
      rw [← insertPending_returned hinsert]
      simp

/-- What the normalised row stores keeps the secret exactly when the row decrypts. -/
theorem normalize_kept_iff (h : normalize crypto cipher l = .ok other) :
    SecretKept crypto cipher l ⟨other.secret, ""⟩ ↔ Decrypts crypto cipher l := by
  constructor
  · intro hkept c hcipher hsecret
    cases hdecrypt : c.decrypt crypto l.secret with
    | ok plain => exact ⟨plain, rfl⟩
    | error failure =>
      exfalso
      apply hkept.not_unsigned c failure hcipher hsecret hdecrypt c
      subst hcipher
      cases failure with
      | panicked => simp [normalize, hsecret, hdecrypt] at h
      | failed err =>
        simp only [normalize, hsecret, if_false, hdecrypt, Except.ok.injEq] at h
        subst h
        exact signingKey_empty c
  · intro hdecrypts
    refine ⟨?_, ?_⟩
    · intro hempty
      by_cases hsecret : l.secret = ""
      · exact Or.inl hsecret
      · right
        cases hcipher : cipher with
        | none =>
          simp only [normalize, hcipher, Except.ok.injEq] at h
          rw [h] at hsecret
          exact absurd hempty hsecret
        | some c =>
          obtain ⟨plain, hplain⟩ := hdecrypts c hcipher hsecret
          refine ⟨c, rfl, ?_⟩
          simp only [normalize, hcipher, hsecret, if_false, hplain, Except.ok.injEq] at h
          split at h
          · next hnothing =>
            rw [hplain, hnothing]
          · rw [h] at hsecret
            exact absurd hempty hsecret
    · intro c failure hcipher hsecret hdecrypt
      obtain ⟨plain, hplain⟩ := hdecrypts c hcipher hsecret
      rw [hplain] at hdecrypt
      cases hdecrypt

/-- A completed backfill keeps the secret of a legacy webhook exactly when there is no cipher,
no secret, or a secret that decrypts. -/
theorem backfill_keeps_secret_iff (hfresh : t.seeded = false)
    (hcompleted : (runDeviceWebhookSubscriptionsMigrations db crypto cipher t).2 = .returned)
    (hmem : l ∈ t.deviceWebhooks) (habsent : t.subscriptions (l.jid, l.url) = none) :
    ∃ sub, (runDeviceWebhookSubscriptionsMigrations db crypto cipher t).1.subscriptions
        (l.jid, l.url) = some sub ∧
      (SecretKept crypto cipher l sub ↔ Decrypts crypto cipher l) := by
  obtain ⟨pending, hread, hafter⟩ := completed_cases hfresh hcompleted
  have hrows := readLegacy_forall₂ hread
  obtain ⟨other, hother, hnormal⟩ := exists_pending hrows hmem
  obtain ⟨hjid, hurl⟩ := normalize_key hnormal
  have hnodup : (pending.map LegacyWebhook.jid).Nodup := by
    rw [forall₂_jids hrows]
    exact t.jid_nodup
  rw [← hjid, ← hurl] at habsent ⊢
  refine ⟨⟨other.secret, ""⟩, ?_, normalize_kept_iff hnormal⟩
  rw [hafter]
  exact foldl_insert_mem hnodup hother habsent

/-- A blob of four times twelve zero bytes; no key opens so short a ciphertext. -/
def unopened : LegacyWebhook :=
  ⟨"628111@s.whatsapp.net", "https://example.com/hook",
    "1:AAAAAAAAAAAAAAAA:AAAAAAAAAAAAAAAA:AAAAAAAAAAAAAAAA:AAAAAAAAAAAAAAAA"⟩

def unopenedCrypto : Crypto where
  decodeString _ := .ok (List.replicate 12 0)
  gcmOpen _ _ _ := .error "cipher: message authentication failed"

def someKey : Cipher := ⟨List.replicate 32 107⟩

def unopenedTables : Tables := ⟨[unopened], fun _ => none, false, by decide⟩

/-- Without a cipher the blob is kept as it is. -/
theorem backfill_keeps_secret_iff_unopened :
    ∃ sub, (runDeviceWebhookSubscriptionsMigrations (fun _ => none) unopenedCrypto none
        unopenedTables).1.subscriptions (unopened.jid, unopened.url) = some sub ∧
      (SecretKept unopenedCrypto none unopened sub ↔ Decrypts unopenedCrypto none unopened) :=
  backfill_keeps_secret_iff rfl (by decide) (by decide) rfl

/-- With a key that does not open it, the blob becomes the empty secret. By `signingKey_empty` and
`seeded_unchanged` every sender then signs with the empty key, and no later migration changes it. -/
theorem backfill_drops_secret :
    ¬ ∀ (db : Db) (crypto : Crypto) (cipher : Option Cipher) (t : Tables) (l : LegacyWebhook)
      (sub : Subscription), t.seeded = false →
      (runDeviceWebhookSubscriptionsMigrations db crypto cipher t).2 = .returned →
      l ∈ t.deviceWebhooks → t.subscriptions (l.jid, l.url) = none →
      (runDeviceWebhookSubscriptionsMigrations db crypto cipher t).1.subscriptions
        (l.jid, l.url) = some sub → SecretKept crypto cipher l sub := by
  intro hkept
  have hunopened := hkept (fun _ => none) unopenedCrypto (some someKey) unopenedTables unopened
    ⟨"", ""⟩ rfl (by decide +kernel) (by decide) rfl (by decide +kernel)
  have hfailed : someKey.decrypt unopenedCrypto unopened.secret =
      .error (.failed "failed to decrypt DEK: cipher: message authentication failed") := by
    decide +kernel
  exact hunopened.not_unsigned someKey _ rfl (by decide) hfailed someKey (signingKey_empty someKey)

end WhatsappGateway.Backfill

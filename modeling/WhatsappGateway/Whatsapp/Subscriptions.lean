import Mathlib.Data.Prod.Lex
import WhatsappGateway.Cipherx.RoundTrip
import WhatsappGateway.Lib.Query
import WhatsappGateway.Lib.Sorted
import WhatsappGateway.Whatsapp.BackfillRerun
import WhatsappGateway.Whatsapp.EventFilter

/-!
The table of the webhook subscriptions, as the manager edits it and the sender reads it. The
secrets in it are encrypted; a subscription that is set again keeps its place in the listing.

What an account has configured is a list of its own here: each webhook with its secret in plain.
The table lists the same webhooks in the same order, and what the sender decrypts is the secret.
-/

namespace WhatsappGateway.Whatsapp

open Lib Events Cipherx

/-- A row of `device_webhook_subscriptions`. -/
structure SubscriptionRow where
  jid : String
  url : String
  hmacSecret : String
  events : String
  createdAt : Int
  updatedAt : Int
deriving DecidableEq, Repr

/-- What the manager hands over to the repository. -/
structure NewSubscription where
  jid : String
  url : String
  hmacSecret : String
  events : String
deriving DecidableEq, Repr

def SubscriptionRow.key (row : SubscriptionRow) : String × String := (row.jid, row.url)

/-- `ORDER BY created_at, url`. -/
def SubscriptionRow.place (row : SubscriptionRow) : Int ×ₗ String := toLex (row.createdAt, row.url)

def SubscriptionRow.subscription (row : SubscriptionRow) : WebhookSubscription :=
  ⟨row.url, row.hmacSecret, row.events⟩

/-- `ON CONFLICT (jid, url) DO UPDATE`: the row keeps its `created_at`. -/
def NewSubscription.overwrite (now : Int) (n : NewSubscription) (row : SubscriptionRow) :
    SubscriptionRow :=
  if row.key = (n.jid, n.url) then
    { row with hmacSecret := n.hmacSecret, events := n.events, updatedAt := now }
  else row

def upsertSubscription (now : Int) (n : NewSubscription) (rows : List SubscriptionRow) :
    List SubscriptionRow :=
  if ∃ row ∈ rows, row.key = (n.jid, n.url) then rows.map (n.overwrite now)
  else rows ++ [⟨n.jid, n.url, n.hmacSecret, n.events, now, now⟩]

def getWebhookSubscriptions (rows : List SubscriptionRow) (jid : String) :
    List WebhookSubscription :=
  (sortOn SubscriptionRow.place (rows.filter fun row => row.jid = jid)).map
    SubscriptionRow.subscription

/-- `SetWebhookSubscription` of the manager, up to the statement. -/
def acceptSubscription (env : SetEnv) (webhook : Webhook) : Except SetError NewSubscription := do
  webhookLoginGate env
  checkEvents webhook.events
  match env.validateURL webhook.url with
  | some err => .error (.domain ⟨.badRequest, err⟩)
  | none =>
    let hmacSecret ← encryptSecret env webhook.hmacSecret
    match env.client with
    | none => .error (.domain ⟨.notFound, .new errClientNotFound⟩)
    | some jid =>
      match env.exec with
      | some err => .error (.domain ⟨.internalFailure, err⟩)
      | none => .ok ⟨jid, webhook.url, hmacSecret, ",".intercalate webhook.events⟩

/-- `DeleteWebhookSubscription` and `DeleteAllWebhookSubscriptions` of the manager, up to the
statement: the JID whose rows are deleted. -/
def acceptDelete (env : SetEnv) : Except SetError String := do
  webhookLoginGate env
  match env.client with
  | none => .error (.domain ⟨.notFound, .new errClientNotFound⟩)
  | some jid =>
    match env.exec with
    | some err => .error (.domain ⟨.internalFailure, err⟩)
    | none => .ok jid

/-- A call of the manager, with what it comes upon. -/
inductive SubscriptionCall where
  | set (env : SetEnv) (now : Int) (webhook : Webhook)
  | delete (env : SetEnv) (url : String)
  | deleteAll (env : SetEnv)

/-- The rows after a call; one that fails leaves them as they are. -/
def SubscriptionCall.apply (rows : List SubscriptionRow) : SubscriptionCall → List SubscriptionRow
  | .set env now webhook =>
    match acceptSubscription env webhook with
    | .ok n => upsertSubscription now n rows
    | .error _ => rows
  | .delete env url =>
    match acceptDelete env with
    | .ok jid => rows.filter fun row => row.key ≠ (jid, url)
    | .error _ => rows
  | .deleteAll env =>
    match acceptDelete env with
    | .ok jid => rows.filter fun row => row.jid ≠ jid
    | .error _ => rows

/-! ### What the accounts have configured -/

structure ConfiguredWebhook where
  url : String
  secret : Bytes
  events : String
  createdAt : Int
deriving DecidableEq, Repr

def ConfiguredWebhook.place (w : ConfiguredWebhook) : Int ×ₗ String := toLex (w.createdAt, w.url)

/-- A webhook that is configured again stays where it is. -/
def configure (w : ConfiguredWebhook) (ws : List ConfiguredWebhook) : List ConfiguredWebhook :=
  if ∃ old ∈ ws, old.url = w.url then
    ws.map fun old => if old.url = w.url then { w with createdAt := old.createdAt } else old
  else ws.orderedInsert (fun a b => a.place ≤ b.place) w

/-- The webhooks by JID after a call. The secret is the one that the caller has given. -/
def SubscriptionCall.configures (configured : String → List ConfiguredWebhook) :
    SubscriptionCall → String → List ConfiguredWebhook
  | .set env now webhook =>
    match acceptSubscription env webhook with
    | .ok n => Function.update configured n.jid
        (configure ⟨n.url, Query.utf8 webhook.hmacSecret.toList, n.events, now⟩ (configured n.jid))
    | .error _ => configured
  | .delete env url =>
    match acceptDelete env with
    | .ok jid => Function.update configured jid
        ((configured jid).filter fun w => w.url ≠ url)
    | .error _ => configured
  | .deleteAll env =>
    match acceptDelete env with
    | .ok jid => Function.update configured jid []
    | .error _ => configured

/-- What is sent for a subscription is what was configured: it goes to the URL for the events,
and is signed with the secret. The listing tells whether there is one. -/
structure Serves (crypto : Crypto) (c : Cipher) (sub : WebhookSubscription)
    (w : ConfiguredWebhook) : Prop where
  url : sub.url = w.url
  events : sub.events = w.events
  signed : Backfill.signingKey crypto c sub.hmacSecret = .ok w.secret
  has_hmac : sub.hmacSecret ≠ "" ↔ w.secret ≠ []

/-- The manager encrypts with the cipher. -/
def EncryptsWith (crypto : Sealing) (c : Cipher) (env : SetEnv) : Prop :=
  ∀ plain blob, env.encrypt plain = .ok blob →
    ∃ draws, c.encrypt crypto draws (Query.utf8 plain.toList) = .ok blob

def SubscriptionCall.EncryptsWith (crypto : Sealing) (c : Cipher) : SubscriptionCall → Prop
  | .set env _ _ => Whatsapp.EncryptsWith crypto c env
  | .delete _ _ | .deleteAll _ => True

variable {crypto : Sealing} {c : Cipher} {env : SetEnv} {webhook : Webhook} {now : Int}
  {n : NewSubscription} {rows : List SubscriptionRow} {ws : List ConfiguredWebhook} {jid : String}

/-! ### What is accepted -/

/-- The table is edited as the one without an order is. -/
theorem setWebhookSubscription_eq (env : SetEnv) (subs : Backfill.Subscriptions)
    (webhook : Webhook) :
    setWebhookSubscription env subs webhook = (acceptSubscription env webhook).map fun n =>
      Backfill.setWebhookSubscription subs n.jid n.url n.hmacSecret n.events := by
  unfold setWebhookSubscription acceptSubscription
  cases webhookLoginGate env with
  | error err => rfl
  | ok _ =>
    cases checkEvents webhook.events with
    | error err => rfl
    | ok _ =>
      simp only [ok_bind]
      cases env.validateURL webhook.url with
      | some err => rfl
      | none =>
        dsimp only
        cases encryptSecret env webhook.hmacSecret with
        | error err => rfl
        | ok hmacSecret =>
          simp only [ok_bind, clientSetSubscription]
          cases env.client with
          | none => rfl
          | some jid =>
            dsimp only
            cases env.exec with
            | some err => rfl
            | none => rfl

theorem acceptSubscription_ok (h : acceptSubscription env webhook = .ok n) :
    n.url = webhook.url ∧ encryptSecret env webhook.hmacSecret = .ok n.hmacSecret := by
  unfold acceptSubscription at h
  obtain ⟨-, -, h⟩ := bind_eq_ok.mp h
  obtain ⟨-, -, h⟩ := bind_eq_ok.mp h
  split at h
  · cases h
  · obtain ⟨hmacSecret, hsecret, h⟩ := bind_eq_ok.mp h
    split at h
    · cases h
    · split at h
      · cases h
      · cases h
        exact ⟨rfl, hsecret⟩

theorem encrypt_joined {draws : Draws} {plain : Bytes} {blob : String}
    (h : c.encrypt crypto draws plain = .ok blob) :
    c.masterKey.length = 32 ∧ ∃ dek nonceData nonceDEK : Bytes,
      dek.length = 32 ∧ nonceData.length = nonceSize ∧ nonceDEK.length = nonceSize ∧
        blob = ":".intercalate [version, crypto.encodeToString nonceDEK,
          crypto.encodeToString (crypto.gcmSeal c.masterKey nonceDEK dek),
          crypto.encodeToString nonceData,
          crypto.encodeToString (crypto.gcmSeal dek nonceData plain)] := by
  unfold Cipher.encrypt at h
  split at h
  · cases h
  · rename_i hlength
    have hkey : c.masterKey.length = 32 := not_not.mp hlength
    obtain ⟨dek, -, h⟩ := bind_eq_ok.mp h
    have hdek : dek.val.length = 32 := dek.2
    obtain ⟨⟨nonceData, encData⟩, hdata, h⟩ := bind_eq_ok.mp h
    obtain ⟨⟨nonceDEK, encDEK⟩, hkeys, h⟩ := bind_eq_ok.mp h
    rw [aesGCMEncrypt, if_neg (by simp [hdek])] at hdata
    rw [aesGCMEncrypt, if_neg (by simp [hkey])] at hkeys
    obtain ⟨nonce₁, -, hdata⟩ := bind_eq_ok.mp hdata
    obtain ⟨nonce₂, -, hkeys⟩ := bind_eq_ok.mp hkeys
    cases hdata
    cases hkeys
    cases h
    exact ⟨hkey, dek, nonce₁, nonce₂, hdek, nonce₁.2, nonce₂.2, rfl⟩

/-- Whatever was drawn for it, a blob decrypts to what was encrypted, and is not empty. -/
theorem decrypt_of_encrypt (hlawful : Lawful crypto) {draws : Draws} {plain : Bytes}
    {blob : String} (h : c.encrypt crypto draws plain = .ok blob) :
    c.decrypt crypto.toCrypto blob = .ok plain ∧ blob ≠ "" := by
  obtain ⟨hkey, dek, nonceData, nonceDEK, hdek, hdata, hnonce, hblob⟩ := encrypt_joined h
  constructor
  · rw [decrypt_joined hlawful (by decide) hblob, Cipher.openParts,
      aesGCMDecrypt_ok hkey hnonce, hlawful.open_seal _ _ _ hkey hnonce]
    simp only [Except.mapError, bind, Except.bind, aesGCMDecrypt_ok hdek hdata,
      hlawful.open_seal _ _ _ hdek hdata]
  · rintro rfl
    have hlist := congrArg String.toList hblob
    rw [String.toList_intercalate] at hlist
    simp [version, List.intercalate] at hlist

theorem utf8_eq_nil {text : List Char} : Query.utf8 text = [] ↔ text = [] := by
  constructor
  · intro h
    cases text with
    | nil => rfl
    | cons ch text =>
      rw [Query.utf8, List.flatMap_cons, List.append_eq_nil_iff] at h
      have hlength := congrArg List.length h.1
      rw [String.length_utf8EncodeChar] at hlength
      exact absurd hlength (Nat.pos_iff_ne_zero.mp (Char.utf8Size_pos ch))
  · rintro rfl
    rfl

/-- The stored secret is read back as the one that was given. -/
theorem signingKey_stored (hlawful : Lawful crypto) (hencrypts : EncryptsWith crypto c env)
    {hmacSecret stored : String} (h : encryptSecret env hmacSecret = .ok stored) :
    Backfill.signingKey crypto.toCrypto c stored = .ok (Query.utf8 hmacSecret.toList) ∧
      (stored ≠ "" ↔ Query.utf8 hmacSecret.toList ≠ []) := by
  unfold encryptSecret at h
  split at h
  next hsecret =>
    obtain ⟨draws, hblob⟩ := hencrypts hmacSecret stored (mapError_eq_ok h)
    obtain ⟨hdecrypt, hne⟩ := decrypt_of_encrypt hlawful hblob
    have hbytes : Query.utf8 hmacSecret.toList ≠ [] := by
      rw [Ne, utf8_eq_nil, String.toList_eq_nil_iff]
      exact hsecret
    refine ⟨?_, iff_of_true hne hbytes⟩
    rw [Backfill.signingKey, if_neg hne, hdecrypt]
    rfl
  next hempty =>
    obtain rfl : hmacSecret = "" := not_not.mp hempty
    obtain rfl : "" = stored := Except.ok.inj h
    exact ⟨rfl, iff_of_false (fun hne => hne rfl) (fun hne => hne rfl)⟩

/-! ### The table keeps what was configured -/

theorem key_eq_iff (row : SubscriptionRow) (jid url : String) :
    row.key = (jid, url) ↔ row.jid = jid ∧ row.url = url := Prod.mk_inj

/-- A row, and the webhook it was written for. -/
structure Holds (crypto : Crypto) (c : Cipher) (row : SubscriptionRow) (w : ConfiguredWebhook) :
    Prop where
  serves : Serves crypto c row.subscription w
  createdAt : row.createdAt = w.createdAt

theorem Holds.place_eq {row : SubscriptionRow} {w : ConfiguredWebhook}
    (h : Holds crypto.toCrypto c row w) : row.place = w.place := by
  rw [SubscriptionRow.place, ConfiguredWebhook.place, h.createdAt, ← h.serves.url]
  rfl

/-- The rows of a JID in the order of the listing. -/
def listed (rows : List SubscriptionRow) (jid : String) : List SubscriptionRow :=
  sortOn SubscriptionRow.place (rows.filter fun row => row.jid = jid)

/-- The table, and what the accounts have configured. -/
structure Configured (crypto : Crypto) (c : Cipher) (rows : List SubscriptionRow)
    (configured : String → List ConfiguredWebhook) : Prop where
  keys : (rows.map SubscriptionRow.key).Nodup
  listed : ∀ jid, List.Forall₂ (Holds crypto c) (listed rows jid) (configured jid)

theorem places_nodup (hkeys : (rows.map SubscriptionRow.key).Nodup) (jid : String) :
    ((rows.filter fun row => row.jid = jid).map SubscriptionRow.place).Nodup := by
  refine List.Nodup.map_on ?_ (List.filter_sublist.nodup (List.Nodup.of_map _ hkeys))
  intro a ha b hb hplace
  obtain ⟨ha, hajid⟩ := List.mem_filter.mp ha
  obtain ⟨hb, hbjid⟩ := List.mem_filter.mp hb
  have hurl : a.url = b.url := congrArg (fun p => (ofLex p).2) hplace
  have hjid : a.jid = b.jid := (of_decide_eq_true hajid).trans (of_decide_eq_true hbjid).symm
  exact List.inj_on_of_nodup_map hkeys ha hb (Prod.ext hjid hurl)

theorem mem_listed {row : SubscriptionRow} : row ∈ listed rows jid ↔ row ∈ rows ∧ row.jid = jid := by
  rw [listed, (sortOn_perm _ _).mem_iff, List.mem_filter, decide_eq_true_iff]

@[simp] theorem overwrite_key (now : Int) (n : NewSubscription) (row : SubscriptionRow) :
    (n.overwrite now row).key = row.key := by
  unfold NewSubscription.overwrite
  split <;> rfl

@[simp] theorem overwrite_jid (now : Int) (n : NewSubscription) (row : SubscriptionRow) :
    (n.overwrite now row).jid = row.jid :=
  congrArg Prod.fst (overwrite_key now n row)

@[simp] theorem overwrite_place (now : Int) (n : NewSubscription) (row : SubscriptionRow) :
    (n.overwrite now row).place = row.place := by
  unfold NewSubscription.overwrite
  split <;> rfl

theorem overwrite_of_jid_ne {row : SubscriptionRow} (hjid : row.jid ≠ n.jid) :
    n.overwrite now row = row :=
  if_neg fun hkey => hjid ((key_eq_iff row n.jid n.url).mp hkey).1

/-- The listing is overwritten in place. -/
theorem listed_overwrite (now : Int) (n : NewSubscription) (rows : List SubscriptionRow)
    (jid : String) :
    listed (rows.map (n.overwrite now)) jid = (listed rows jid).map (n.overwrite now) := by
  have hjid : ((fun row : SubscriptionRow => decide (row.jid = jid)) ∘ n.overwrite now) =
      fun row : SubscriptionRow => decide (row.jid = jid) := by
    funext row
    rw [Function.comp_apply, overwrite_jid]
  have hplace : ∀ row ∈ rows.filter fun row => row.jid = jid,
      (n.overwrite now row).place = row.place := fun row _ => overwrite_place now n row
  rw [listed, List.filter_map, hjid, sortOn_map (n.overwrite now) hplace]
  rfl

namespace Configured

variable {configured : String → List ConfiguredWebhook}

theorem init (crypto : Crypto) (c : Cipher) : Configured crypto c [] fun _ => [] where
  keys := List.nodup_nil
  listed := fun _ => .nil

/-- Some rows are deleted, and the webhooks they hold. -/
theorem delete (h : Configured crypto.toCrypto c rows configured) {p : SubscriptionRow → Bool}
    {q : ConfiguredWebhook → Bool} (hkeep : ∀ row ∈ rows, row.jid ≠ jid → p row = true)
    (hpq : ∀ row w, row.jid = jid → Holds crypto.toCrypto c row w → p row = q w) :
    Configured crypto.toCrypto c (rows.filter p)
      (Function.update configured jid ((configured jid).filter q)) where
  keys := (List.filter_sublist.map _).nodup h.keys
  listed other := by
    have hlisted : Whatsapp.listed (rows.filter p) other = (Whatsapp.listed rows other).filter p := by
      rw [Whatsapp.listed, List.filter_comm, sortOn_filter (places_nodup h.keys other)]
      rfl
    rw [hlisted]
    by_cases hother : other = jid
    · subst hother
      rw [Function.update_self]
      refine forall₂_filter (h.listed other) ?_
      intro row hrow w hholds
      exact hpq row w (mem_listed.mp hrow).2 hholds
    · rw [Function.update_of_ne hother]
      have hsame : (Whatsapp.listed rows other).filter p = Whatsapp.listed rows other := by
        refine List.filter_eq_self.mpr ?_
        intro row hrow
        obtain ⟨hmem, hjid⟩ := mem_listed.mp hrow
        exact hkeep row hmem (hjid ▸ hother)
      rw [hsame]
      exact h.listed other

/-- A row for the URL is there as long as the webhook is. -/
theorem exists_row_iff (h : Configured crypto.toCrypto c rows configured) (jid url : String) :
    (∃ row ∈ rows, row.key = (jid, url)) ↔ ∃ old ∈ configured jid, old.url = url := by
  constructor
  · rintro ⟨row, hrow, hkey⟩
    obtain ⟨hjid, hurl⟩ := (key_eq_iff row jid url).mp hkey
    obtain ⟨w, hw, hholds⟩ := forall₂_exists_right (h.listed jid) (mem_listed.mpr ⟨hrow, hjid⟩)
    exact ⟨w, hw, hholds.serves.url.symm.trans hurl⟩
  · rintro ⟨w, hw, hurl⟩
    obtain ⟨row, hrow, hholds⟩ := forall₂_exists_left (h.listed jid) hw
    obtain ⟨hmem, hjid⟩ := mem_listed.mp hrow
    exact ⟨row, hmem, (key_eq_iff row jid url).mpr ⟨hjid, hholds.serves.url.trans hurl⟩⟩

/-- A webhook that is there is configured again. -/
theorem set_again (h : Configured crypto.toCrypto c rows configured) {w : ConfiguredWebhook}
    (hserves : Serves crypto.toCrypto c ⟨n.url, n.hmacSecret, n.events⟩ w) (now : Int) :
    Configured crypto.toCrypto c (rows.map (n.overwrite now))
      (Function.update configured n.jid ((configured n.jid).map fun old =>
        if old.url = w.url then { w with createdAt := old.createdAt } else old)) where
  keys := by
    have hkeys : SubscriptionRow.key ∘ n.overwrite now = SubscriptionRow.key :=
      funext (overwrite_key now n)
    rw [List.map_map, hkeys]
    exact h.keys
  listed other := by
    rw [listed_overwrite]
    by_cases hother : other = n.jid
    · subst hother
      rw [Function.update_self]
      refine forall₂_map (h.listed n.jid) ?_
      intro row hrow old hholds
      have hurl : n.url = w.url := hserves.url
      have hsame : row.key = (n.jid, n.url) ↔ old.url = w.url := by
        rw [key_eq_iff, and_iff_right (mem_listed.mp hrow).2, hurl, ← hholds.serves.url]
        rfl
      rw [NewSubscription.overwrite]
      by_cases hset : row.key = (n.jid, n.url)
      · rw [if_pos hset, if_pos (hsame.mp hset)]
        exact ⟨⟨((key_eq_iff row _ _).mp hset).2.trans hurl, hserves.events, hserves.signed,
          hserves.has_hmac⟩, hholds.createdAt⟩
      · rw [if_neg hset, if_neg (mt hsame.mpr hset)]
        exact hholds
    · have hsame : (Whatsapp.listed rows other).map (n.overwrite now) =
          Whatsapp.listed rows other := by
        refine List.map_congr_left (g := id) ?_ |>.trans (List.map_id _)
        intro row hrow
        exact overwrite_of_jid_ne ((mem_listed.mp hrow).2 ▸ hother)
      rw [hsame, Function.update_of_ne hother]
      exact h.listed other

/-- A webhook comes in at its place among those of the account. -/
theorem set_new (h : Configured crypto.toCrypto c rows configured) {w : ConfiguredWebhook}
    (hserves : Serves crypto.toCrypto c ⟨n.url, n.hmacSecret, n.events⟩ w)
    (hnow : now = w.createdAt) (hnew : ¬∃ row ∈ rows, row.key = (n.jid, n.url)) :
    Configured crypto.toCrypto c (rows ++ [⟨n.jid, n.url, n.hmacSecret, n.events, now, now⟩])
      (Function.update configured n.jid
        ((configured n.jid).orderedInsert (fun a b => a.place ≤ b.place) w)) := by
  set row : SubscriptionRow := ⟨n.jid, n.url, n.hmacSecret, n.events, now, now⟩ with hrow
  have hkeys : ((rows ++ [row]).map SubscriptionRow.key).Nodup := by
    rw [List.map_append, List.map_singleton, List.nodup_append]
    refine ⟨h.keys, List.nodup_singleton _, ?_⟩
    rintro key hkey _ hmem rfl
    obtain ⟨old, hold, hkey⟩ := List.mem_map.mp hkey
    exact hnew ⟨old, hold, hkey.trans (List.mem_singleton.mp hmem)⟩
  refine ⟨hkeys, fun other => ?_⟩
  rw [Whatsapp.listed, List.filter_append]
  by_cases hother : other = n.jid
  · subst hother
    have hone : [row].filter (fun row => row.jid = n.jid) = [row] :=
      List.filter_cons_of_pos (decide_eq_true rfl)
    rw [hone, Function.update_self, sortOn_concat]
    · refine forall₂_orderedInsert (h.listed n.jid) ⟨hserves, hnow⟩ ?_
      intro a b hholds
      exact hholds.place_eq
    · have hplaces := places_nodup hkeys n.jid
      rwa [List.filter_append, hone] at hplaces
  · have hnone : [row].filter (fun row => row.jid = other) = [] :=
      List.filter_cons_of_neg (by rw [decide_eq_true_iff]; exact fun hjid => hother hjid.symm)
    rw [hnone, List.append_nil, Function.update_of_ne hother]
    exact h.listed other

/-- A subscription is set for a webhook that it serves. -/
theorem upsert (h : Configured crypto.toCrypto c rows configured) {w : ConfiguredWebhook}
    (hserves : Serves crypto.toCrypto c ⟨n.url, n.hmacSecret, n.events⟩ w)
    (hnow : now = w.createdAt) :
    Configured crypto.toCrypto c (upsertSubscription now n rows)
      (Function.update configured n.jid (configure w (configured n.jid))) := by
  have hurl : n.url = w.url := hserves.url
  have hiff := h.exists_row_iff n.jid n.url
  rw [hurl] at hiff
  rw [upsertSubscription, configure, hurl]
  by_cases hthere : ∃ row ∈ rows, row.key = (n.jid, w.url)
  · rw [if_pos hthere, if_pos (hiff.mp hthere)]
    exact h.set_again hserves now
  · rw [if_neg hthere, if_neg (mt hiff.mpr hthere), ← hurl]
    exact h.set_new hserves hnow (hurl ▸ hthere)

/-- What a call accepts is configured, and what it rejects is not. -/
theorem apply (hlawful : Lawful crypto) (h : Configured crypto.toCrypto c rows configured)
    (call : SubscriptionCall) (hencrypts : call.EncryptsWith crypto c) :
    Configured crypto.toCrypto c (call.apply rows) (call.configures configured) := by
  cases call with
  | set env now webhook =>
    rw [SubscriptionCall.apply, SubscriptionCall.configures]
    cases haccept : acceptSubscription env webhook with
    | error err => exact h
    | ok n =>
      obtain ⟨-, hsecret⟩ := acceptSubscription_ok haccept
      obtain ⟨hsigned, hhmac⟩ := signingKey_stored hlawful hencrypts hsecret
      exact h.upsert ⟨rfl, rfl, hsigned, hhmac⟩ rfl
  | delete env url =>
    rw [SubscriptionCall.apply, SubscriptionCall.configures]
    cases acceptDelete env with
    | error err => exact h
    | ok jid =>
      refine h.delete ?_ ?_
      · intro row _ hjid
        rw [decide_eq_true_iff, Ne, key_eq_iff]
        exact fun hkey => hjid hkey.1
      · intro row w hjid hholds
        rw [decide_eq_decide, Ne, key_eq_iff, and_iff_right hjid]
        exact not_congr (Eq.congr_left hholds.serves.url)
  | deleteAll env =>
    rw [SubscriptionCall.apply, SubscriptionCall.configures]
    cases acceptDelete env with
    | error err => exact h
    | ok jid =>
      have hothers : ∀ row ∈ rows, row.jid ≠ jid → decide (row.jid ≠ jid) = true :=
        fun row _ hjid => decide_eq_true hjid
      have hown : ∀ row w, row.jid = jid → Holds crypto.toCrypto c row w →
          decide (row.jid ≠ jid) = false := fun row _ hjid _ => decide_eq_false (not_not.mpr hjid)
      have hall := h.delete hothers hown
      rwa [List.filter_false] at hall

/-- A step at a time, so every run of calls. -/
theorem calls (hlawful : Lawful crypto) (h : Configured crypto.toCrypto c rows configured)
    {calls : List SubscriptionCall} (hencrypts : ∀ call ∈ calls, call.EncryptsWith crypto c) :
    Configured crypto.toCrypto c (calls.foldl SubscriptionCall.apply rows)
      (calls.foldl SubscriptionCall.configures configured) := by
  induction calls generalizing rows configured with
  | nil => exact h
  | cons call calls ih =>
    obtain ⟨hcall, hcalls⟩ := List.forall_mem_cons.mp hencrypts
    exact ih (h.apply hlawful call hcall) hcalls

end Configured

section Sample

def sampleDraws : Draws := ⟨.ok ⟨zeros 32, rfl⟩, .ok ⟨zeros 12, rfl⟩, .ok ⟨zeros 12, rfl⟩⟩

/-- A logged-in account whose secrets are encrypted with the sample cipher. -/
def sampleEnv : SetEnv where
  loginStatus := .ok true
  validateURL _ := none
  encrypt plain :=
    ((Cipher.mk (zeros 32)).encrypt sampleSealing sampleDraws (Query.utf8 plain.toList)).mapError
      fun _ => .new "failed to encrypt"
  client := some "4915112345678:7@s.whatsapp.net"
  exec := none

theorem sampleEnv_encryptsWith : EncryptsWith sampleSealing (Cipher.mk (zeros 32)) sampleEnv := by
  intro plain blob h
  exact ⟨sampleDraws, mapError_eq_ok (g := fun _ => GoError.new "failed to encrypt") h⟩

end Sample

end WhatsappGateway.Whatsapp

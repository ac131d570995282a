import WhatsappGateway.Lib.Run
import WhatsappGateway.Whatsapp.WebhookBackfill

/-!
Histories of the backfill: the migration runs at each start of the process, may stop at any
of its statements, and is run again; the subscriptions are edited in between, once a run has
completed. The legacy webhooks do not change any more.
-/

namespace WhatsappGateway.Backfill

open Lib Cipherx

/-- Upserts the subscription of `(jid, url)`. -/
def setWebhookSubscription (subscriptions : Subscriptions) (jid url hmacSecret events : String) :
    Subscriptions :=
  Function.update subscriptions (jid, url) (some ⟨hmacSecret, events⟩)

def deleteWebhookSubscription (subscriptions : Subscriptions) (jid url : String) :
    Subscriptions :=
  Function.update subscriptions (jid, url) none

def deleteAllWebhookSubscriptions (subscriptions : Subscriptions) (jid : String) :
    Subscriptions :=
  fun key => if key.1 = jid then none else subscriptions key

/-- The tables, and whether a run of the migration has returned without an error. -/
structure History where
  tables : Tables
  completed : Bool

/-- A run of the migration, or an edit. A run that is `killed` has carried out its last statement
and does not get to report it. -/
inductive HistoryAction where
  | migrate (db : Db) (crypto : Crypto) (cipher : Option Cipher) (killed : Bool)
  | set (jid url hmacSecret events : String)
  | delete (jid url : String)
  | deleteAll (jid : String)

namespace History

/-- The state after a run of the migration. -/
def migrate (s : History) (db : Db) (crypto : Crypto) (cipher : Option Cipher) (killed : Bool) :
    History where
  tables := (runDeviceWebhookSubscriptionsMigrations db crypto cipher s.tables).1
  completed := s.completed || (!killed &&
    (runDeviceWebhookSubscriptionsMigrations db crypto cipher s.tables).2 = .returned)

def edit (s : History) (subscriptions : Subscriptions) : History :=
  { s with tables := { s.tables with subscriptions } }

def step (s : History) : HistoryAction → Option History
  | .migrate db crypto cipher killed => some (s.migrate db crypto cipher killed)
  | .set jid url hmacSecret events =>
    some (s.edit (setWebhookSubscription s.tables.subscriptions jid url hmacSecret events))
  | .delete jid url => some (s.edit (deleteWebhookSubscription s.tables.subscriptions jid url))
  | .deleteAll jid => some (s.edit (deleteAllWebhookSubscriptions s.tables.subscriptions jid))

/-- The subscriptions are edited only after a run has completed. -/
def EditsLater (s : History) : HistoryAction → Prop
  | .migrate .. => True
  | .set .. | .delete .. | .deleteAll .. => s.completed = true

instance (s : History) : ∀ a, Decidable (s.EditsLater a)
  | .migrate .. => inferInstanceAs (Decidable True)
  | .set .. | .delete .. | .deleteAll .. => inferInstanceAs (Decidable (s.completed = true))

end History

/-- Every subscription of `before` is there as it was. -/
def Keeps (before after : Subscriptions) : Prop :=
  ∀ key sub, before key = some sub → after key = some sub

/-- What a run of the migration may do to the tables, and how it ends. -/
inductive Migrated (t : Tables) : Tables → Completion → Prop where
  | untouched (completion : Completion) (hseeded : completion = .returned → t.seeded = true) :
      Migrated t t completion
  | aborted (subscriptions : Subscriptions) (completion : Completion) (hfresh : t.seeded = false)
      (hkept : Keeps t.subscriptions subscriptions) (hfailed : completion ≠ .returned) :
      Migrated t { t with subscriptions } completion
  | seeds (subscriptions : Subscriptions) (hfresh : t.seeded = false)
      (hkept : Keeps t.subscriptions subscriptions) :
      Migrated t { t with subscriptions, seeded := true } .returned

section Migration

variable {db : Db} {crypto : Crypto} {cipher : Option Cipher} {t t' : Tables}
  {completion : Completion} {l : LegacyWebhook} {pending : List LegacyWebhook}
  {subscriptions : Subscriptions}

/-- A row that is there is not inserted again. -/
theorem insertSubscription_keeps : Keeps subscriptions (insertSubscription subscriptions l) := by
  intro key sub hsub
  unfold insertSubscription
  split
  · rw [hsub]
    rfl
  · exact hsub

theorem insertPending_keeps : Keeps subscriptions (insertPending db subscriptions pending).1 := by
  induction pending generalizing subscriptions with
  | nil =>
    intro key sub hsub
    exact hsub
  | cons l pending ih =>
    intro key sub hsub
    unfold insertPending
    split
    · exact hsub
    · exact ih key sub (insertSubscription_keeps key sub hsub)

theorem failed_ne_returned (err : String) : Completion.failed err ≠ .returned := by
  intro h
  cases h

theorem panicked_ne_returned : Completion.panicked ≠ .returned := by
  intro h
  cases h

theorem migrated : Migrated t (runDeviceWebhookSubscriptionsMigrations db crypto cipher t).1
    (runDeviceWebhookSubscriptionsMigrations db crypto cipher t).2 := by
  unfold runDeviceWebhookSubscriptionsMigrations
  cases db .createTables with
  | some err => exact .untouched _ fun h => absurd h (failed_ne_returned err)
  | none =>
  cases db .countMarkers with
  | some err => exact .untouched _ fun h => absurd h (failed_ne_returned err)
  | none =>
  dsimp only
  split
  next hseeded => exact .untouched _ fun _ => hseeded
  next hunmarked =>
  have hfresh : t.seeded = false := by simpa using hunmarked
  cases db .selectLegacy with
  | some err => exact .untouched _ fun h => absurd h (failed_ne_returned err)
  | none =>
  cases readLegacy db crypto cipher t.deviceWebhooks with
  | error failure =>
    cases failure with
    | failed err => exact .untouched _ fun h => absurd h (failed_ne_returned err)
    | panicked => exact .untouched _ fun h => absurd h panicked_ne_returned
  | ok pending =>
  cases db .rowsErr with
  | some err => exact .untouched _ fun h => absurd h (failed_ne_returned err)
  | none =>
  have hkept : Keeps t.subscriptions (insertPending db t.subscriptions pending).1 :=
    insertPending_keeps
  dsimp only
  cases hinsert : insertPending db t.subscriptions pending with
  | mk subscriptions completion =>
  rw [hinsert] at hkept
  cases completion with
  | failed err => exact .aborted subscriptions _ hfresh hkept (failed_ne_returned err)
  | panicked => exact .aborted subscriptions _ hfresh hkept panicked_ne_returned
  | returned =>
    dsimp only
    cases db .insertMarker with
    | some err => exact .aborted subscriptions _ hfresh hkept (failed_ne_returned err)
    | none => exact .seeds subscriptions hfresh hkept

theorem Migrated.legacy (h : Migrated t t' completion) : t'.deviceWebhooks = t.deviceWebhooks := by
  cases h <;> rfl

theorem Migrated.keeps (h : Migrated t t' completion) :
    Keeps t.subscriptions t'.subscriptions := by
  cases h with
  | untouched _ _ => exact fun _ _ hsub => hsub
  | aborted _ _ _ hkept _ => exact hkept
  | seeds _ _ hkept => exact hkept

theorem Migrated.marked (h : Migrated t t' completion) (hreturned : completion = .returned) :
    t'.seeded = true := by
  cases h with
  | untouched _ hseeded => exact hseeded hreturned
  | aborted _ _ _ _ hfailed => exact absurd hreturned hfailed
  | seeds _ _ _ => rfl

/-- The marker is written by a run that gets to its end. -/
theorem Migrated.returned (h : Migrated t t' completion) (hfresh : t.seeded = false)
    (hmarked : t'.seeded = true) : completion = .returned := by
  cases h with
  | untouched _ _ =>
    rw [hfresh] at hmarked
    cases hmarked
  | aborted _ _ _ _ _ =>
    rw [hfresh] at hmarked
    cases hmarked
  | seeds _ _ _ => rfl

/-- A run that completes the backfill leaves a subscription for each legacy webhook. -/
theorem migration_covers (hfresh : t.seeded = false)
    (hcompleted : (runDeviceWebhookSubscriptionsMigrations db crypto cipher t).2 = .returned)
    (hmem : l ∈ t.deviceWebhooks) :
    ∃ sub, (runDeviceWebhookSubscriptionsMigrations db crypto cipher t).1.subscriptions
      (l.jid, l.url) = some sub := by
  cases hsub : t.subscriptions (l.jid, l.url) with
  | none =>
    obtain ⟨pending, hread, hafter⟩ := completed_cases hfresh hcompleted
    have hrows := readLegacy_forall₂ hread
    obtain ⟨other, hother, hnormal⟩ := exists_pending hrows hmem
    obtain ⟨hjid, hurl⟩ := normalize_key hnormal
    have hnodup : (pending.map LegacyWebhook.jid).Nodup := by
      rw [forall₂_jids hrows]
      exact t.jid_nodup
    rw [← hjid, ← hurl] at hsub ⊢
    rw [hafter]
    exact ⟨_, foldl_insert_mem hnodup hother hsub⟩
  | some sub => exact ⟨sub, migrated.keeps _ _ hsub⟩

end Migration

/-- What a history keeps: the legacy webhooks, the marker once a run has completed, and, until
then, a subscription for each legacy webhook if the marker is there. -/
structure Rerunnable (start : Tables) (s : History) : Prop where
  legacy : s.tables.deviceWebhooks = start.deviceWebhooks
  marked : s.completed = true → s.tables.seeded = true
  covered : s.completed = false → s.tables.seeded = true →
    ∀ l ∈ start.deviceWebhooks, ∃ sub, s.tables.subscriptions (l.jid, l.url) = some sub

section Histories

variable {start : Tables} {s s' : History} {a : HistoryAction}

theorem rerunnable_init (hfresh : start.seeded = false) : Rerunnable start ⟨start, false⟩ where
  legacy := rfl
  marked := nofun
  covered _ hseeded := by
    rw [hfresh] at hseeded
    cases hseeded

/-- Whether or not a run completes: when it leaves the marker and no run before it has completed,
each legacy webhook has a subscription. -/
theorem Rerunnable.covers (h : Rerunnable start s) (db : Db) (crypto : Crypto)
    (cipher : Option Cipher) (hfirst : s.completed = false)
    (hmarked : (runDeviceWebhookSubscriptionsMigrations db crypto cipher s.tables).1.seeded = true) :
    ∀ l ∈ start.deviceWebhooks, ∃ sub,
      (runDeviceWebhookSubscriptionsMigrations db crypto cipher s.tables).1.subscriptions
        (l.jid, l.url) = some sub := by
  intro l hl
  cases hseeded : s.tables.seeded with
  | true =>
    obtain ⟨sub, hsub⟩ := h.covered hfirst hseeded l hl
    exact ⟨sub, migrated.keeps _ _ hsub⟩
  | false =>
    rw [← h.legacy] at hl
    exact migration_covers hseeded (migrated.returned hseeded hmarked) hl

theorem Rerunnable.edit (h : Rerunnable start s) (hlater : s.completed = true)
    (subscriptions : Subscriptions) : Rerunnable start (s.edit subscriptions) where
  legacy := h.legacy
  marked := h.marked
  covered hfirst := by
    rw [show (s.edit subscriptions).completed = s.completed from rfl, hlater] at hfirst
    cases hfirst

theorem Rerunnable.migrate (h : Rerunnable start s) (db : Db) (crypto : Crypto)
    (cipher : Option Cipher) (killed : Bool) :
    Rerunnable start (s.migrate db crypto cipher killed) := by
  refine ⟨?_, ?_, ?_⟩
  · exact migrated.legacy.trans h.legacy
  · intro hcompleted
    simp only [History.migrate, Bool.or_eq_true, Bool.and_eq_true, decide_eq_true_eq] at hcompleted
    obtain hbefore | ⟨-, hreturned⟩ := hcompleted
    · simp only [History.migrate, seeded_unchanged (h.marked hbefore)]
      exact h.marked hbefore
    · exact migrated.marked hreturned
  · intro hfirst hmarked
    simp only [History.migrate, Bool.or_eq_false_iff] at hfirst
    exact h.covers db crypto cipher hfirst.1 hmarked

theorem Rerunnable.step (hlater : s.EditsLater a) (hstep : s.step a = some s')
    (h : Rerunnable start s) : Rerunnable start s' := by
  cases a with
  | migrate db crypto cipher killed =>
    obtain rfl := Option.some.inj hstep
    exact h.migrate db crypto cipher killed
  | set jid url hmacSecret events =>
    obtain rfl := Option.some.inj hstep
    exact h.edit hlater _
  | delete jid url =>
    obtain rfl := Option.some.inj hstep
    exact h.edit hlater _
  | deleteAll jid =>
    obtain rfl := Option.some.inj hstep
    exact h.edit hlater _

/-- In every history of runs and later edits: the first run that completes leaves a subscription
for each legacy webhook, no run overwrites a subscription, and after a completed run no run
changes the subscriptions. -/
theorem backfill_reruns_safely {as : List HistoryAction} (hfresh : start.seeded = false)
    (run : Run History.step History.EditsLater ⟨start, false⟩ as s)
    (db : Db) (crypto : Crypto) (cipher : Option Cipher) (killed : Bool) :
    (s.completed = false → (s.migrate db crypto cipher killed).completed = true →
      ∀ l ∈ start.deviceWebhooks, ∃ sub,
        (s.migrate db crypto cipher killed).tables.subscriptions (l.jid, l.url) = some sub) ∧
    Keeps s.tables.subscriptions (s.migrate db crypto cipher killed).tables.subscriptions ∧
    (s.completed = true →
      (s.migrate db crypto cipher killed).tables.subscriptions = s.tables.subscriptions) := by
  have hsafe : Rerunnable start s :=
    run.invariant (rerunnable_init hfresh) fun _ _ _ => Rerunnable.step
  refine ⟨?_, migrated.keeps, ?_⟩
  · intro hfirst hcompleted
    have hafter := hsafe.migrate db crypto cipher killed
    exact hsafe.covers db crypto cipher hfirst (hafter.marked hcompleted)
  · intro hcompleted
    simp only [History.migrate, seeded_unchanged (hsafe.marked hcompleted)]

end Histories

/-- A run that fails at its insertion, one that completes, and the removal of what it added. -/
def rerunThenDelete : List HistoryAction :=
  [.migrate (fun call => if call = .insert unopened then some "disk full" else none)
      unopenedCrypto none false,
    .migrate (fun _ => none) unopenedCrypto none false,
    .deleteAll unopened.jid]

theorem backfill_reruns_safely_deleted :
    ((final History.step ⟨unopenedTables, false⟩ rerunThenDelete).migrate (fun _ => none)
        unopenedCrypto none false).tables.subscriptions =
      (final History.step ⟨unopenedTables, false⟩ rerunThenDelete).tables.subscriptions :=
  (backfill_reruns_safely rfl (Run.to_final (by decide +kernel) (by decide +kernel)) (fun _ => none)
    unopenedCrypto none false).2.2 (by decide +kernel)

end WhatsappGateway.Backfill

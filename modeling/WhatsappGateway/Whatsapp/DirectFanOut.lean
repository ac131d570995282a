import Mathlib.Algebra.GroupWithZero.Nat
import WhatsappGateway.Lib.GoTime
import WhatsappGateway.Queue.EventHandlers

/-!
The fan-out of an incoming message in direct mode, with the time that it takes. One
context of five seconds is created first; the query of the subscriptions, the download of
the media, the validation of each URL and each delivery, one after the other, all use it
up. The download has a limit of its own, and so has each delivery.

Times are in nanoseconds. What happens at the very instant of a deadline is too late.
-/

namespace WhatsappGateway.Whatsapp

open Lib Events

/-- The context of `deliverWebhook`. -/
def contextTimeout : Nat := 5 * Duration.second.toNat

/-- The timeout of the sender's HTTP client. -/
def httpTimeout : Nat := 5 * Duration.second.toNat

/-- The URL of a subscription, and who answers there: how long `ValidateURL` takes and
whether it accepts, whether the payload, the secret and the request are in order, and after
what time the answer is complete, if ever. -/
structure Receiver where
  validation : Nat
  valid : Bool
  prepares : Bool
  answersAfter : Option Nat
  accepts : Bool
deriving DecidableEq, Repr

/-- A subscription with its receiver. -/
abbrev Target := WebhookSubscription × Receiver

/-- The query of the subscriptions. -/
structure Query where
  took : Nat
  err : Option String
  targets : List Target

/-- A call of `Send`. -/
structure Attempt where
  target : Target
  startedAt : Nat
  delivered : Bool
deriving DecidableEq

/-- `Send`, when the context has `left` before its deadline: the time that it takes, and
whether the webhook was delivered. -/
def send (left : Nat) (r : Receiver) : Nat × Bool :=
  if r.prepares then
    let limit := min left httpTimeout
    match r.answersAfter with
    | some answer => if answer < limit then (answer, r.accepts) else (limit, false)
    | none => (limit, false)
  else (0, false)

/-- The loop over the subscriptions, from the instant `now` on. -/
def fanOut (now : Nat) : List Target → List Attempt
  | [] => []
  | (sub, r) :: rest =>
    if eventMatches sub.events eventMessageIncoming then
      let now := now + r.validation
      if r.valid then
        let (took, delivered) := send (contextTimeout - now) r
        ⟨(sub, r), now, delivered⟩ :: fanOut (now + took) rest
      else fanOut now rest
    else fanOut now rest

/-- `building` is the time that the payload takes, with the download of its media. -/
def deliverWebhook (query : Query) (building : Nat) : List Attempt :=
  if query.err = none ∧ query.took < contextTimeout then
    fanOut (query.took + building) query.targets
  else []

/-- A matching subscription with a valid URL. -/
def Target.eligible (t : Target) : Bool :=
  eventMatches t.1.events eventMessageIncoming && t.2.valid

/-- When the receiver would have answered a delivery of its own, within the client's timeout
and with success. -/
def Receiver.answer (r : Receiver) : Option Nat :=
  if r.prepares ∧ r.accepts then r.answersAfter.filter fun answer => answer < httpTimeout else none

/-- The delivery was started in time, and succeeded if the receiver let it. -/
structure Attempt.Sound (a : Attempt) : Prop where
  started : a.startedAt < contextTimeout
  delivered : a.target.2.answer ≠ none → a.delivered = true

/-- A delivery to each matching subscription with a valid URL, none of which suffers from
another or from the download. -/
structure Isolated (query : Query) (building : Nat) : Prop where
  attempts : (deliverWebhook query building).map Attempt.target =
    query.targets.filter Target.eligible
  sound : ∀ a ∈ deliverWebhook query building, a.Sound

/-- The time that a subscription takes when the context does not end before. -/
def Target.cost (t : Target) : Nat :=
  if eventMatches t.1.events eventMessageIncoming then
    t.2.validation +
      if t.2.valid && t.2.prepares then
        (t.2.answersAfter.map fun answer => min answer httpTimeout).getD httpTimeout
      else 0
  else 0

/-- With `before` handled from the instant `now` on, the context has time left for the start of
a delivery to `t`, and for the answer, if there will be one. -/
def Fits (now : Nat) (before : List Target) (t : Target) : Prop :=
  now + (before.map Target.cost).sum + t.2.validation < contextTimeout ∧
    ∀ answer, t.2.answer = some answer →
      now + (before.map Target.cost).sum + t.2.validation + answer < contextTimeout

/-- Each delivery fits after those before it. -/
def AllFit (now : Nat) (targets : List Target) : Prop :=
  ∀ before t after, targets = before ++ t :: after → t.eligible = true → Fits now before t

variable {now building left : Nat} {r : Receiver} {t : Target} {targets rest : List Target}
  {a : Attempt} {query : Query}

theorem fanOut_skip (h : eventMatches t.1.events eventMessageIncoming = false) :
    fanOut now (t :: rest) = fanOut now rest := by
  simp [fanOut, h]

theorem fanOut_invalid (hmatches : eventMatches t.1.events eventMessageIncoming = true)
    (h : t.2.valid = false) : fanOut now (t :: rest) = fanOut (now + t.2.validation) rest := by
  simp [fanOut, hmatches, h]

theorem fanOut_eligible (h : t.eligible = true) :
    fanOut now (t :: rest) =
      ⟨t, now + t.2.validation, (send (contextTimeout - (now + t.2.validation)) t.2).2⟩ ::
        fanOut (now + t.2.validation +
          (send (contextTimeout - (now + t.2.validation)) t.2).1) rest := by
  simp only [Target.eligible, Bool.and_eq_true] at h
  simp [fanOut, h.1, h.2]

/-- Every matching subscription with a valid URL gets a call of `Send`, late or not. -/
theorem fanOut_targets :
    (fanOut now targets).map Attempt.target = targets.filter Target.eligible := by
  induction targets generalizing now with
  | nil => rfl
  | cons t rest ih =>
    cases hmatches : eventMatches t.1.events eventMessageIncoming with
    | false => simp [fanOut_skip hmatches, ih, Target.eligible, hmatches]
    | true =>
      cases hvalid : t.2.valid with
      | false => simp [fanOut_invalid hmatches hvalid, ih, Target.eligible, hmatches, hvalid]
      | true =>
        have heligible : t.eligible = true := by simp [Target.eligible, hmatches, hvalid]
        simp [fanOut_eligible heligible, ih, heligible]

theorem le_startedAt (h : a ∈ fanOut now targets) : now ≤ a.startedAt := by
  induction targets generalizing now with
  | nil => cases h
  | cons t rest ih =>
    cases hmatches : eventMatches t.1.events eventMessageIncoming with
    | false =>
      rw [fanOut_skip hmatches] at h
      exact ih h
    | true =>
      cases hvalid : t.2.valid with
      | false =>
        rw [fanOut_invalid hmatches hvalid] at h
        have hle := ih h
        omega
      | true =>
        rw [fanOut_eligible (by simp [Target.eligible, hmatches, hvalid])] at h
        rcases List.mem_cons.mp h with rfl | hrest
        · exact Nat.le_add_right _ _
        · have hle := ih hrest
          omega

/-- The first subscription fits by itself, and the others after it. -/
theorem allFit_cons :
    AllFit now (t :: rest) ↔ (t.eligible = true → Fits now [] t) ∧ AllFit (now + t.cost) rest := by
  have hshift : ∀ before t', Fits now (t :: before) t' ↔ Fits (now + t.cost) before t' := by
    intro before t'
    simp only [Fits, List.map_cons, List.sum_cons, ← Nat.add_assoc]
  constructor
  · intro hall
    refine ⟨hall [] t rest rfl, ?_⟩
    rintro before t' after rfl heligible
    exact (hshift before t').mp (hall (t :: before) t' after rfl heligible)
  · rintro ⟨hfirst, hrest⟩ before t' after hsplit heligible
    cases before with
    | nil =>
      obtain ⟨rfl, rfl⟩ := List.cons.inj hsplit
      exact hfirst heligible
    | cons t'' before =>
      obtain ⟨rfl, rfl⟩ := List.cons.inj hsplit
      exact (hshift before t').mpr (hrest before t' after rfl heligible)

/-- After the deadline of the context nothing fits and nothing is sound, wherever the clock
stands. -/
theorem late_iff {other : Nat} (hnow : contextTimeout ≤ now) (hother : contextTimeout ≤ other) :
    (∀ a ∈ fanOut now targets, a.Sound) ↔ AllFit other targets := by
  have hnone : (∀ a ∈ fanOut now targets, a.Sound) ↔ ∀ t ∈ targets, t.eligible = false := by
    constructor
    · intro hsound t hmem
      by_contra heligible
      have htarget : t ∈ (fanOut now targets).map Attempt.target := by
        rw [fanOut_targets]
        exact List.mem_filter.mpr ⟨hmem, by simpa using heligible⟩
      obtain ⟨a, ha, -⟩ := List.mem_map.mp htarget
      have hstarted := (hsound a ha).started
      have hle := le_startedAt ha
      omega
    · intro hineligible a ha
      have htarget : a.target ∈ (fanOut now targets).map Attempt.target := List.mem_map_of_mem ha
      rw [fanOut_targets, List.mem_filter] at htarget
      rw [hineligible _ htarget.1] at htarget
      cases htarget.2
  rw [hnone]
  constructor
  · rintro hineligible before t after rfl heligible
    rw [hineligible t (by simp)] at heligible
    cases heligible
  · intro hall t hmem
    obtain ⟨before, after, hsplit⟩ := List.append_of_mem hmem
    by_contra heligible
    have hfits := (hall before t after hsplit (by simpa using heligible)).1
    omega

/-- A delivery that starts in time is sound when it fits. -/
theorem sound_iff_fits :
    (⟨t, now + t.2.validation, (send (contextTimeout - (now + t.2.validation)) t.2).2⟩ :
        Attempt).Sound ↔ Fits now [] t := by
  have hanswer : now + t.2.validation < contextTimeout →
      ((t.2.answer ≠ none → (send (contextTimeout - (now + t.2.validation)) t.2).2 = true) ↔
        ∀ answer, t.2.answer = some answer → now + t.2.validation + answer < contextTimeout) := by
    intro hstarted
    unfold Receiver.answer send
    cases t.2.prepares <;> cases t.2.accepts <;> cases t.2.answersAfter <;>
      simp [Option.filter]
    split <;> simp <;> omega
  constructor
  · rintro ⟨hstarted, hdelivered⟩
    exact ⟨hstarted, (hanswer hstarted).mp hdelivered⟩
  · rintro ⟨hstarted, hfits⟩
    exact ⟨hstarted, (hanswer hstarted).mpr hfits⟩

/-- A delivery takes what it costs, unless the context ends first. -/
theorem send_took (heligible : t.eligible = true)
    (hstarted : now + t.2.validation < contextTimeout) :
    now + t.2.validation + (send (contextTimeout - (now + t.2.validation)) t.2).1 = now + t.cost ∨
      contextTimeout ≤
          now + t.2.validation + (send (contextTimeout - (now + t.2.validation)) t.2).1 ∧
        contextTimeout ≤ now + t.cost := by
  simp only [Target.eligible, Bool.and_eq_true] at heligible
  simp only [Target.cost, heligible.1, heligible.2, if_true, Bool.true_and, send]
  cases t.2.prepares with
  | false => left; rfl
  | true =>
    cases t.2.answersAfter with
    | none => simp; omega
    | some answer => simp; split <;> omega

theorem fanOut_sound_iff : (∀ a ∈ fanOut now targets, a.Sound) ↔ AllFit now targets := by
  induction targets generalizing now with
  | nil =>
    constructor
    · intro _ before t after hsplit
      simp at hsplit
    · intro _ a ha
      cases ha
  | cons t rest ih =>
    rw [allFit_cons]
    cases hmatches : eventMatches t.1.events eventMessageIncoming with
    | false =>
      have hcost : t.cost = 0 := by simp [Target.cost, hmatches]
      simp [fanOut_skip hmatches, ih, Target.eligible, hmatches, hcost]
    | true =>
      cases hvalid : t.2.valid with
      | false =>
        have hcost : t.cost = t.2.validation := by simp [Target.cost, hmatches, hvalid]
        simp [fanOut_invalid hmatches hvalid, ih, Target.eligible, hvalid, hcost]
      | true =>
        have heligible : t.eligible = true := by simp [Target.eligible, hmatches, hvalid]
        rw [fanOut_eligible heligible, List.forall_mem_cons, sound_iff_fits]
        simp only [heligible, forall_const]
        refine and_congr_right fun hfits => ?_
        -- the rest starts at the same instant, or after the deadline in both readings
        have hstarted : now + t.2.validation < contextTimeout := hfits.1
        obtain hsame | ⟨hlate, hlater⟩ := send_took heligible hstarted
        · rw [hsame]
          exact ih
        · exact late_iff hlate hlater

/-- The deliveries are isolated exactly when the query succeeds, and each of them fits into
the five seconds after the query, the download, and the subscriptions before it. -/
theorem deliverWebhook_isolated_iff (query : Query) (building : Nat) :
    Isolated query building ↔
      (∀ t ∈ query.targets, t.eligible = true → query.err = none) ∧
        AllFit (query.took + building) query.targets := by
  by_cases hquery : query.err = none ∧ query.took < contextTimeout
  · have hdeliver : deliverWebhook query building = fanOut (query.took + building) query.targets :=
      if_pos hquery
    constructor
    · rintro ⟨-, hsound⟩
      rw [hdeliver] at hsound
      exact ⟨fun _ _ _ => hquery.1, fanOut_sound_iff.mp hsound⟩
    · rintro ⟨-, hfit⟩
      constructor
      · rw [hdeliver]
        exact fanOut_targets
      · rw [hdeliver]
        exact fanOut_sound_iff.mpr hfit
  · have hdeliver : deliverWebhook query building = [] := if_neg hquery
    have hempty : Isolated query building ↔ ∀ t ∈ query.targets, t.eligible = false := by
      constructor
      · rintro ⟨hattempts, -⟩
        rw [hdeliver] at hattempts
        simpa using hattempts.symm
      · intro hnone
        constructor
        · rw [hdeliver]
          simpa using hnone
        · intro a ha
          rw [hdeliver] at ha
          cases ha
    rw [hempty]
    constructor
    · intro hnone
      constructor
      · intro t hmem heligible
        rw [hnone t hmem] at heligible
        cases heligible
      · rintro before t after hsplit heligible
        rw [hnone t (by simp [hsplit])] at heligible
        cases heligible
    · rintro ⟨herr, hfit⟩ t hmem
      by_contra heligible
      rw [Bool.not_eq_false] at heligible
      obtain ⟨before, after, hsplit⟩ := List.append_of_mem hmem
      have hfits := (hfit before t after hsplit heligible).1
      have hok := herr t hmem heligible
      exact hquery ⟨hok, by omega⟩

/-- A receiver that answers at once. -/
def promptReceiver : Target :=
  (⟨"https://hooks.example.com", "", ""⟩, ⟨0, true, true, some 1000000, true⟩)

/-- The deliveries to all subscriptions are isolated, whatever the receivers do, as long as the
download keeps to its five seconds. -/
def AlwaysIsolated : Prop :=
  ∀ query building, query.err = none → query.took < contextTimeout →
    building ≤ 5 * Duration.second.toNat → Isolated query building

/-- A download that takes its five seconds leaves nothing to the only receiver. -/
theorem slow_download_fails_delivery : ¬ AlwaysIsolated := by
  intro hall
  have hisolated := hall ⟨0, none, [promptReceiver]⟩ (5 * Duration.second.toNat) rfl (by decide)
    (Nat.le_refl _)
  have hlate : ⟨promptReceiver, 5 * Duration.second.toNat, false⟩ ∈
      deliverWebhook ⟨0, none, [promptReceiver]⟩ (5 * Duration.second.toNat) := by
    decide +kernel
  have hstarted := (hisolated.sound _ hlate).started
  exact absurd hstarted (by decide +kernel)

end WhatsappGateway.Whatsapp

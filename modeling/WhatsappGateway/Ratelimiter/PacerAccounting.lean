import WhatsappGateway.Ratelimiter.Pacer
import WhatsappGateway.Ratelimiter.TokenBucket

/-!
What one call of `Wait` takes from the limiters, and how long it sleeps. The call
takes its steps while other callers do as they like with the limiters between
them. Each of its own steps is charged with the difference it makes: the account's
tokens, and the slots of the recipient's window, before it and after it.
-/

namespace WhatsappGateway.Ratelimiter.Pacer

open Lib

/-! ### The ledger -/

/-- The reading of a clock that a step takes. -/
def reading : WaitStep → Option Int
  | .checkBan _ now | .count now _ | .setDeadline now | .allow now | .measure now _ => some now
  | .fallback _ | .wake _ => none

/-- The tokens of the account at a reading, or as they are stored without one. -/
def tokens (p : Pacer) (phone : String) (buckets : Buckets) : Option Int → ℚ
  | some now => p.account.available buckets phone now
  | none => (buckets (p.account.keyPrefix ++ phone)).elim p.account.burst TbEntry.tokens

/-- The cap that a call is subject to. -/
def cap (p : Pacer) (recipient : String) : Option MemoryLimiter :=
  if recipient = "" then none else p.recipient

/-- The slots of the recipient's window that are used at a reading, or as they are stored
without one. -/
def slots (p : Pacer) (phone recipient : String) (windows : Windows) (now : Option Int) : Int :=
  match p.cap recipient with
  | none => 0
  | some limiter =>
    let entry := windows (limiter.keyPrefix ++ (phone ++ ":" ++ recipient))
    match now with
    | some now => (limiter.current entry now).count
    | none => entry.elim 0 MemoryEntry.count

/-- A call of `Wait` with what it has done so far, newest first. -/
structure State where
  limiters : Limiters
  phase : Phase
  tokensTaken : List ℚ
  slotsTaken : List Int
  slept : List Int
  ending : Option WaitStep
  clock : Option Int

inductive Action where
  | own (next : WaitStep)
  | others (limiters : Limiters)

def init (limiters : Limiters) : State := ⟨limiters, .entered, [], [], [], none, none⟩

/-- What the pacer's own clock shows at least, once a step is taken. A sleep lets at least the
time pass that was asked of it. -/
def clockAfter (s : State) : WaitStep → Option Int
  | .checkBan _ now | .setDeadline now | .measure now _ => some now
  | .wake _ =>
    match s.phase with
    | .sleeping _ wait => s.clock.map (· + max 0 wait)
    | _ => s.clock
  | _ => s.clock

/-- The state after an own step that leads to `limiters` and `phase`. -/
def charge (p : Pacer) (phone recipient : String) (s : State) (next : WaitStep)
    (limiters : Limiters) (phase : Phase) : State where
  limiters := limiters
  phase := phase
  tokensTaken :=
    (p.tokens phone s.limiters.buckets (reading next) -
      p.tokens phone limiters.buckets (reading next)) :: s.tokensTaken
  slotsTaken :=
    (p.slots phone recipient limiters.windows (reading next) -
      p.slots phone recipient s.limiters.windows (reading next)) :: s.slotsTaken
  slept :=
    match phase with
    | .sleeping _ wait => wait :: s.slept
    | _ => s.slept
  ending :=
    match phase with
    | .done _ => some next
    | _ => none
  clock := clockAfter s next

/-- A step of the call, or anything that other callers do to the limiters. -/
def advance (p : Pacer) (phone recipient : String) (n : Int) (s : State) : Action → Option State
  | .own next =>
    (p.step phone recipient n s.limiters s.phase next).map fun (limiters, phase) =>
      p.charge phone recipient s next limiters phase
  | .others limiters => some { s with limiters }

/-- The pacer's clock does not go back, and moves on by what a sleep was asked for. -/
def Timely (s : State) : Action → Prop
  | .own (.checkBan _ now) | .own (.setDeadline now) | .own (.measure now _) =>
    ∀ earlier ∈ s.clock, earlier ≤ now
  | _ => True

/-- What was taken by the steps that took something. -/
def State.tokensSpent (s : State) : List ℚ := s.tokensTaken.filter (· ≠ 0)

def State.slotsUsed (s : State) : List Int := s.slotsTaken.filter (· ≠ 0)

/-- The time that the call asked to sleep. -/
def State.asked (s : State) : Int := (s.slept.map (max 0)).sum

/-- The steps before the account's bucket is asked: the ban gate with the test for a request
that is larger than the burst, and the cap of the recipient. -/
def BeforeAccount : WaitStep → Prop
  | .checkBan .. | .count .. => True
  | _ => False

/-! ### The steps -/

variable {p : Pacer} {phone recipient : String} {n now later deadline : Int}
  {limiters limiters' : Limiters} {buckets : Buckets} {windows : Windows} {phase phase' : Phase}
  {next : WaitStep} {s s' : State} {a : Action} {as : List Action}

/-- The steps of the enabled pacer, one constructor for each. -/
inductive Waited (p : Pacer) (phone recipient : String) (n : Int) (limiters : Limiters) :
    Phase → WaitStep → Limiters → Phase → Prop where
  | checkBan (banUntil : Option Int) (now : Int) :
      Waited p phone recipient n limiters .entered (.checkBan banUntil now) limiters
        (p.gate n banUntil now)
  | count (now later : Int) :
      Waited p phone recipient n limiters .gated (.count now later)
        { limiters with
          windows := (p.countRecipient phone recipient n limiters.windows now later).1 }
        (p.countRecipient phone recipient n limiters.windows now later).2
  | setDeadline (now : Int) :
      Waited p phone recipient n limiters .counted (.setDeadline now) limiters
        (.looping (now + p.maxWait))
  | allow (deadline now : Int) :
      Waited p phone recipient n limiters (.looping deadline) (.allow now)
        { limiters with buckets := (p.spend phone n deadline limiters.buckets now).1 }
        (p.spend phone n deadline limiters.buckets now).2
  | measure (deadline : Int) (res : Result) (now jitter : Int) :
      Waited p phone recipient n limiters (.denied deadline res) (.measure now jitter) limiters
        (measure deadline res now jitter)
  | wake (deadline wait : Int) (err : Option String) :
      Waited p phone recipient n limiters (.sleeping deadline wait) (.wake err) limiters
        (wake deadline wait err)

theorem step_waited (henabled : p.enabled = true)
    (hstep : p.step phone recipient n limiters phase next = some (limiters', phase')) :
    Waited p phone recipient n limiters phase next limiters' phase' := by
  cases phase <;> cases next <;> simp only [step, henabled, if_true, reduceCtorEq] at hstep
  case entered.checkBan banUntil now =>
    cases hstep
    exact .checkBan banUntil now
  case gated.count now later =>
    cases hstep
    exact .count now later
  case counted.setDeadline now =>
    cases hstep
    exact .setDeadline now
  case looping.allow deadline now =>
    cases hstep
    exact .allow deadline now
  case denied.measure deadline res now jitter =>
    split at hstep
    · cases hstep
      exact .measure deadline res now jitter
    · cases hstep
  case sleeping.wake deadline wait err =>
    cases hstep
    exact .wake deadline wait err

/-- What one request to the account's bucket comes to. -/
theorem spend_cases (hn : 1 ≤ n) :
    ((p.spend phone n deadline buckets now).2 = .done .cleared ∧
      p.tokens phone buckets (some now) -
        p.tokens phone (p.spend phone n deadline buckets now).1 (some now) = n) ∨
    (((∃ err, (p.spend phone n deadline buckets now).2 = .done (.rateLimited err)) ∨
        p.mode ≠ "reject" ∧ ∃ res, (p.spend phone n deadline buckets now).2 = .denied deadline res) ∧
      p.tokens phone buckets (some now) -
        p.tokens phone (p.spend phone n deadline buckets now).1 (some now) = 0) := by
  simp only [spend, tokens]
  cases hallowed : (p.account.allowN buckets phone n now).2.allowed with
  | true =>
    refine Or.inl ⟨rfl, ?_⟩
    rw [TokenBucketLimiter.available_granted hallowed, TokenBucketLimiter.need_of_one_le hn,
      sub_sub_cancel]
  | false =>
    refine Or.inr ⟨?_, ?_⟩
    · by_cases hmode : p.mode = "reject"
      · exact Or.inl ⟨_, if_pos hmode⟩
      · exact Or.inr ⟨hmode, _, if_neg hmode⟩
    · rw [TokenBucketLimiter.available_denied hallowed le_rfl, sub_self]

theorem current_open {m : MemoryLimiter} {entry : MemoryEntry} (h : now ≤ entry.expiresAt) :
    m.current (some entry) now = entry := by
  simp only [MemoryLimiter.current, if_neg (not_lt.mpr h)]

/-- The window that a call counts in is not over. -/
theorem le_current_expiresAt {m : MemoryLimiter} (hwindow : 0 < m.window)
    (entry : Option MemoryEntry) : now ≤ (m.current entry now).expiresAt := by
  cases entry with
  | none =>
    simp only [MemoryLimiter.current]
    omega
  | some entry =>
    simp only [MemoryLimiter.current]
    split
    · simp only
      omega
    · omega

/-- An allowed call uses as many slots as it asks for, and a denied one none. -/
theorem current_allowN {m : MemoryLimiter} (hwindow : 0 < m.window) (key : String) :
    (m.current ((m.allowN windows key n now later).1 (m.keyPrefix ++ key)) now).count =
      (m.current (windows (m.keyPrefix ++ key)) now).count +
        if (m.allowN windows key n now later).2.allowed then n else 0 := by
  have hopen : now ≤ (m.current (windows (m.keyPrefix ++ key)) now).expiresAt :=
    le_current_expiresAt hwindow _
  by_cases hfull : (m.current (windows (m.keyPrefix ++ key)) now).count + n > m.limit
  · simp only [MemoryLimiter.allowN, if_pos hfull, Function.update_self]
    rw [current_open hopen]
    simp
  · simp only [MemoryLimiter.allowN, if_neg hfull, Function.update_self]
    rw [current_open]
    · simp
    · exact hopen

/-- What the test of the recipient's cap comes to. -/
theorem count_cases (hwindow : ∀ limiter, p.recipient = some limiter → 0 < limiter.window) :
    ((p.countRecipient phone recipient n windows now later).2 = .counted ∧
      p.slots phone recipient (p.countRecipient phone recipient n windows now later).1 (some now) -
        p.slots phone recipient windows (some now) =
          if (p.cap recipient).isSome then n else 0) ∨
    ((∃ err, (p.countRecipient phone recipient n windows now later).2 = .done (.rateLimited err)) ∧
      p.slots phone recipient (p.countRecipient phone recipient n windows now later).1 (some now) -
        p.slots phone recipient windows (some now) = 0) := by
  unfold countRecipient slots cap
  cases hlimiter : p.recipient with
  | none => exact Or.inl ⟨rfl, by split <;> simp⟩
  | some limiter =>
    by_cases hrecipient : recipient = ""
    · simp [hrecipient]
    · have hcount := @current_allowN n now later windows limiter (hwindow limiter hlimiter)
        (phone ++ ":" ++ recipient)
      simp only [hrecipient, if_false]
      cases hallowed :
          (limiter.allowN windows (phone ++ ":" ++ recipient) n now later).2.allowed with
      | true =>
        refine Or.inl ⟨rfl, ?_⟩
        rw [hcount, hallowed]
        simp
      | false =>
        refine Or.inr ⟨⟨_, rfl⟩, ?_⟩
        rw [hcount, hallowed]
        simp

/-! ### The accounting -/

/-- The cap that the call is subject to has counted it, once. -/
def Counted (p : Pacer) (recipient : String) (n : Int) (s : State) : Prop :=
  (p.cap recipient).isSome → s.slotsUsed = [n]

/-- What a call has taken, by where it is. -/
def Accounted (p : Pacer) (recipient : String) (n : Int) (s : State) : Prop :=
  match s.phase with
  | .entered | .gated => s.tokensSpent = [] ∧ s.slotsUsed = []
  | .counted | .looping _ | .denied _ _ | .sleeping _ _ =>
    s.tokensSpent = [] ∧ p.Counted recipient n s
  | .done outcome =>
    if outcome = .cleared then s.tokensSpent = [(n : ℚ)] ∧ p.Counted recipient n s
    else s.tokensSpent = [] ∧ ∀ next ∈ s.ending, BeforeAccount next → s.slotsUsed = []

section Charge

variable (p phone recipient s next limiters phase)

theorem charge_tokensSpent :
    (p.charge phone recipient s next limiters phase).tokensSpent =
      if p.tokens phone s.limiters.buckets (reading next) -
          p.tokens phone limiters.buckets (reading next) = 0 then s.tokensSpent
      else (p.tokens phone s.limiters.buckets (reading next) -
          p.tokens phone limiters.buckets (reading next)) :: s.tokensSpent := by
  simp only [State.tokensSpent, charge, List.filter_cons, decide_eq_true_eq, ne_eq, ite_not]

theorem charge_slotsUsed :
    (p.charge phone recipient s next limiters phase).slotsUsed =
      if p.slots phone recipient limiters.windows (reading next) -
          p.slots phone recipient s.limiters.windows (reading next) = 0 then s.slotsUsed
      else (p.slots phone recipient limiters.windows (reading next) -
          p.slots phone recipient s.limiters.windows (reading next)) :: s.slotsUsed := by
  simp only [State.slotsUsed, charge, List.filter_cons, decide_eq_true_eq, ne_eq, ite_not]

end Charge

/-- A step that leaves the buckets alone is charged no tokens. -/
theorem charge_tokens_none (h : limiters.buckets = s.limiters.buckets)
    (htokens : s.tokensSpent = []) :
    (p.charge phone recipient s next limiters phase).tokensSpent = [] := by
  rw [charge_tokensSpent, h, sub_self, if_pos rfl, htokens]

/-- A step that leaves the windows alone is charged no slots. -/
theorem charge_slots_none (h : limiters.windows = s.limiters.windows) (hslots : s.slotsUsed = []) :
    (p.charge phone recipient s next limiters phase).slotsUsed = [] := by
  rw [charge_slotsUsed, h, sub_self, if_pos rfl, hslots]

theorem charge_counted (h : limiters.windows = s.limiters.windows)
    (hcounted : p.Counted recipient n s) :
    p.Counted recipient n (p.charge phone recipient s next limiters phase) := by
  intro hcap
  rw [charge_slotsUsed, h, sub_self, if_pos rfl]
  exact hcounted hcap

theorem gate_cases (p : Pacer) (n : Int) (banUntil : Option Int) (now : Int) :
    (∃ err, p.gate n banUntil now = .done (.rateLimited err)) ∨
      p.gate n banUntil now = .gated := by
  unfold gate
  split
  · exact Or.inl ⟨_, rfl⟩
  · split
    · exact Or.inl ⟨_, rfl⟩
    · exact Or.inr rfl

theorem measure_cases (deadline : Int) (res : Result) (now jitter : Int) :
    (∃ err, measure deadline res now jitter = .done (.rateLimited err)) ∨
      ∃ wait, measure deadline res now jitter = .sleeping deadline wait ∧
        wait ≤ deadline - now ∧ 0 < deadline - now := by
  by_cases h : deadline - now ≤ 0
  · exact Or.inl ⟨_, if_pos h⟩
  · exact Or.inr ⟨_, if_neg h, min_le_right _ _, not_le.mp h⟩

theorem wake_cases (deadline wait : Int) (err : Option String) :
    wake deadline wait err = .looping deadline ∨
      ∃ reason, wake deadline wait err = .done (.failed reason) := by
  unfold wake
  split
  · split
    · exact Or.inl rfl
    · exact Or.inr ⟨_, rfl⟩
  · exact Or.inl rfl

/-- A step that ends the call with an error is accounted for when the call has taken no token,
and no slot if the account's bucket has not been asked yet. -/
theorem charge_error {outcome : Outcome} (houtcome : outcome ≠ .cleared)
    (htokens : (p.charge phone recipient s next limiters (.done outcome)).tokensSpent = [])
    (hslots : BeforeAccount next →
      (p.charge phone recipient s next limiters (.done outcome)).slotsUsed = []) :
    p.Accounted recipient n (p.charge phone recipient s next limiters (.done outcome)) := by
  change if outcome = .cleared then _ else _
  rw [if_neg houtcome]
  refine ⟨htokens, ?_⟩
  rintro _ ⟨⟩
  exact hslots

theorem charge_accounted (hn : 1 ≤ n)
    (hwindow : ∀ limiter, p.recipient = some limiter → 0 < limiter.window)
    (hstep : Waited p phone recipient n s.limiters s.phase next limiters phase)
    (h : p.Accounted recipient n s) :
    p.Accounted recipient n (p.charge phone recipient s next limiters phase) := by
  unfold Accounted at h
  generalize hphase : s.phase = current at hstep h
  cases hstep with
  | checkBan banUntil now =>
    obtain ⟨htokens, hslots⟩ := h
    rcases p.gate_cases n banUntil now with ⟨err, hgate⟩ | hgate
    · rw [hgate]
      apply charge_error (by simp)
      · exact charge_tokens_none rfl htokens
      · exact fun _ => charge_slots_none rfl hslots
    · rw [hgate]
      refine ⟨?_, ?_⟩
      · exact charge_tokens_none rfl htokens
      · exact charge_slots_none rfl hslots
  | count now later =>
    obtain ⟨htokens, hslots⟩ := h
    rcases @count_cases p phone recipient n now later s.limiters.windows hwindow with
      ⟨hcounted, htaken⟩ | ⟨⟨err, hdenied⟩, htaken⟩
    · rw [hcounted]
      refine ⟨?_, ?_⟩
      · exact charge_tokens_none rfl htokens
      · intro hcap
        rw [charge_slotsUsed, reading, htaken, hslots, if_pos hcap, if_neg (by omega)]
    · rw [hdenied]
      apply charge_error (by simp)
      · exact charge_tokens_none rfl htokens
      · intro _
        rw [charge_slotsUsed, reading, htaken, if_pos rfl]
        exact hslots
  | setDeadline now =>
    obtain ⟨htokens, hcounted⟩ := h
    exact ⟨charge_tokens_none rfl htokens, charge_counted rfl hcounted⟩
  | allow deadline now =>
    obtain ⟨htokens, hcounted⟩ := h
    rcases @spend_cases p phone n now deadline s.limiters.buckets hn with
      ⟨hcleared, htaken⟩ | ⟨hother, htaken⟩
    · have hpos : (n : ℚ) ≠ 0 := by
        have : n ≠ 0 := by omega
        exact_mod_cast this
      rw [hcleared]
      refine ⟨?_, ?_⟩
      · rw [charge_tokensSpent, reading, htaken, if_neg hpos, htokens]
      · exact charge_counted rfl hcounted
    · have hnone : ∀ phase, (p.charge phone recipient s (.allow now)
          { s.limiters with buckets := (p.spend phone n deadline s.limiters.buckets now).1 }
          phase).tokensSpent = [] := by
        intro phase
        rw [charge_tokensSpent, reading, htaken, if_pos rfl, htokens]
      rcases hother with ⟨err, hrejected⟩ | ⟨_, res, hdenied⟩
      · rw [hrejected]
        exact charge_error (by simp) (hnone _) False.elim
      · rw [hdenied]
        exact ⟨hnone _, charge_counted rfl hcounted⟩
  | measure deadline res now jitter =>
    obtain ⟨htokens, hcounted⟩ := h
    rcases measure_cases deadline res now jitter with ⟨err, hover⟩ | ⟨wait, hsleeping, _⟩
    · rw [hover]
      exact charge_error (by simp) (charge_tokens_none rfl htokens) False.elim
    · rw [hsleeping]
      exact ⟨charge_tokens_none rfl htokens, charge_counted rfl hcounted⟩
  | wake deadline wait err =>
    obtain ⟨htokens, hcounted⟩ := h
    rcases wake_cases deadline wait err with hlooping | ⟨err, hfailed⟩
    · rw [hlooping]
      exact ⟨charge_tokens_none rfl htokens, charge_counted rfl hcounted⟩
    · rw [hfailed]
      exact charge_error (by simp) (charge_tokens_none rfl htokens) False.elim

/-! ### The sleeps -/

/-- In reject mode a call has never slept, and a denial does not lead to a sleep. -/
def Unslept (s : State) : Prop :=
  s.slept = [] ∧ ∀ deadline res, s.phase ≠ .denied deadline res

/-- How much of the wait is used up: what a call has asked to sleep fits between its deadline
and what the clock shows. -/
def Budgeted (p : Pacer) (s : State) : Prop :=
  s.asked ≤ p.maxWait ∧
  match s.phase with
  | .entered | .gated | .counted => s.asked = 0
  | .looping deadline | .denied deadline _ =>
    ∃ clock, s.clock = some clock ∧ s.asked + deadline ≤ clock + p.maxWait
  | .sleeping deadline wait =>
    ∃ clock, s.clock = some clock ∧ s.asked + deadline ≤ clock + max 0 wait + p.maxWait
  | .done _ => True

theorem charge_slept (h : ∀ deadline wait, phase ≠ .sleeping deadline wait) :
    (p.charge phone recipient s next limiters phase).slept = s.slept := by
  cases phase with
  | sleeping deadline wait => exact absurd rfl (h deadline wait)
  | entered | gated | counted | looping | denied | done => rfl

theorem charge_asked (h : ∀ deadline wait, phase ≠ .sleeping deadline wait) :
    (p.charge phone recipient s next limiters phase).asked = s.asked := by
  rw [State.asked, charge_slept h, State.asked]

theorem charge_asked_sleeping {wait : Int} :
    (p.charge phone recipient s next limiters (.sleeping deadline wait)).asked =
      max 0 wait + s.asked := by
  simp [State.asked, charge]

theorem charge_unslept (hmode : p.mode = "reject") (hn : 1 ≤ n)
    (hwindow : ∀ limiter, p.recipient = some limiter → 0 < limiter.window)
    (hstep : Waited p phone recipient n s.limiters s.phase next limiters phase)
    (h : Unslept s) : Unslept (p.charge phone recipient s next limiters phase) := by
  obtain ⟨hslept, hdenied⟩ := h
  generalize hphase : s.phase = current at hstep
  cases hstep with
  | checkBan banUntil now =>
    rcases p.gate_cases n banUntil now with ⟨err, hgate⟩ | hgate
    · rw [hgate]
      exact ⟨hslept, by simp [charge]⟩
    · rw [hgate]
      exact ⟨hslept, by simp [charge]⟩
  | count now later =>
    rcases @count_cases p phone recipient n now later s.limiters.windows hwindow with
      ⟨hcounted, _⟩ | ⟨⟨err, hdenied⟩, _⟩
    · rw [hcounted]
      exact ⟨hslept, by simp [charge]⟩
    · rw [hdenied]
      exact ⟨hslept, by simp [charge]⟩
  | setDeadline now => exact ⟨hslept, by simp [charge]⟩
  | allow deadline now =>
    rcases @spend_cases p phone n now deadline s.limiters.buckets hn with
      ⟨hcleared, _⟩ | ⟨⟨err, hrejected⟩ | ⟨hpace, _⟩, _⟩
    · rw [hcleared]
      exact ⟨hslept, by simp [charge]⟩
    · rw [hrejected]
      exact ⟨hslept, by simp [charge]⟩
    · exact absurd hmode hpace
  | measure deadline res now jitter => exact absurd hphase (hdenied deadline res)
  | wake deadline wait err =>
    rcases wake_cases deadline wait err with hlooping | ⟨err, hfailed⟩
    · rw [hlooping]
      exact ⟨hslept, by simp [charge]⟩
    · rw [hfailed]
      exact ⟨hslept, by simp [charge]⟩

theorem charge_budgeted (hn : 1 ≤ n)
    (hwindow : ∀ limiter, p.recipient = some limiter → 0 < limiter.window)
    (htimely : Timely s (.own next))
    (hstep : Waited p phone recipient n s.limiters s.phase next limiters phase)
    (h : p.Budgeted s) : p.Budgeted (p.charge phone recipient s next limiters phase) := by
  obtain ⟨hasked, hbudget⟩ := h
  generalize hphase : s.phase = current at hstep hbudget
  cases hstep with
  | checkBan banUntil now =>
    rcases p.gate_cases n banUntil now with ⟨err, hgate⟩ | hgate
    · rw [hgate]
      exact ⟨hasked, trivial⟩
    · rw [hgate]
      exact ⟨hasked, hbudget⟩
  | count now later =>
    rcases @count_cases p phone recipient n now later s.limiters.windows hwindow with
      ⟨hcounted, _⟩ | ⟨⟨err, hdenied⟩, _⟩
    · rw [hcounted]
      exact ⟨hasked, hbudget⟩
    · rw [hdenied]
      exact ⟨hasked, trivial⟩
  | setDeadline now =>
    refine ⟨hasked, now, rfl, ?_⟩
    rw [charge_asked (by simp), hbudget]
    omega
  | allow deadline now =>
    rcases @spend_cases p phone n now deadline s.limiters.buckets hn with
      ⟨hcleared, _⟩ | ⟨⟨err, hrejected⟩ | ⟨_, res, hdenied⟩, _⟩
    · rw [hcleared]
      exact ⟨hasked, trivial⟩
    · rw [hrejected]
      exact ⟨hasked, trivial⟩
    · rw [hdenied]
      exact ⟨hasked, hbudget⟩
  | measure deadline res now jitter =>
    obtain ⟨clock, hclock, hused⟩ := hbudget
    have hforward : clock ≤ now := htimely clock hclock
    rcases measure_cases deadline res now jitter with
      ⟨err, hover⟩ | ⟨wait, hsleeping, hwait, hremaining⟩
    · rw [hover]
      exact ⟨hasked, trivial⟩
    · -- The sleep ends by the deadline, so what is asked in all ends by then too.
      rw [hsleeping]
      refine ⟨?_, now, rfl, ?_⟩
      · rw [charge_asked_sleeping]
        omega
      · rw [charge_asked_sleeping]
        omega
  | wake deadline wait err =>
    obtain ⟨clock, hclock, hused⟩ := hbudget
    have hafter : clockAfter s (.wake err) = some (clock + max 0 wait) := by
      rw [clockAfter, hphase, hclock]
      rfl
    rcases wake_cases deadline wait err with hlooping | ⟨reason, hfailed⟩
    · rw [hlooping]
      exact ⟨hasked, clock + max 0 wait, hafter, hused⟩
    · rw [hfailed]
      exact ⟨hasked, trivial⟩

/-! ### Runs -/

theorem newPacer_window (cfg : PacerConfig) :
    ∀ limiter, (newPacer cfg).recipient = some limiter → 0 < limiter.window := by
  intro limiter h
  simp only [newPacer] at h
  split at h
  · next hconfigured =>
    obtain rfl := Option.some.inj h
    exact hconfigured.2
  · cases h

/-- What an own step of the enabled pacer keeps, any step of the run keeps: the other callers
only replace what the limiters hold. -/
theorem advance_keeps {Inv : State → Prop} (henabled : p.enabled = true)
    (hothers : ∀ s limiters, Inv s → Inv { s with limiters })
    (hown : ∀ next limiters phase,
      Waited p phone recipient n s.limiters s.phase next limiters phase → a = .own next →
      Inv s → Inv (p.charge phone recipient s next limiters phase))
    (hstep : p.advance phone recipient n s a = some s') (h : Inv s) : Inv s' := by
  cases a with
  | own next =>
    obtain ⟨⟨limiters, phase⟩, hnext, rfl⟩ := Option.map_eq_some_iff.mp hstep
    exact hown next limiters phase (step_waited henabled hnext) rfl h
  | others limiters =>
    obtain rfl := Option.some.inj hstep
    exact hothers s limiters h

variable {cfg : PacerConfig}

theorem run_accounted (henabled : cfg.enabled = true) (hn : 1 ≤ n)
    (hrun : Run ((newPacer cfg).advance phone recipient n) (fun _ _ => True) (init limiters) as s) :
    (newPacer cfg).Accounted recipient n s := by
  apply hrun.invariant
  · exact ⟨rfl, rfl⟩
  · intro s a s' _ hstep h
    exact advance_keeps henabled (fun _ _ h => h)
      (fun _ _ _ hwaited _ h => charge_accounted hn (newPacer_window cfg) hwaited h) hstep h

theorem run_unslept (henabled : cfg.enabled = true) (hn : 1 ≤ n) (hmode : cfg.mode = "reject")
    (hrun : Run ((newPacer cfg).advance phone recipient n) (fun _ _ => True) (init limiters) as s) :
    Unslept s := by
  have hreject : (newPacer cfg).mode = "reject" := by simp [newPacer, hmode]
  apply hrun.invariant
  · exact ⟨rfl, by simp [init]⟩
  · intro s a s' _ hstep h
    exact advance_keeps henabled (fun _ _ h => h)
      (fun _ _ _ hwaited _ h => charge_unslept hreject hn (newPacer_window cfg) hwaited h) hstep h

theorem run_budgeted (henabled : cfg.enabled = true) (hn : 1 ≤ n) (hmax : 0 ≤ cfg.maxWait)
    (hrun : Run ((newPacer cfg).advance phone recipient n) Timely (init limiters) as s) :
    (newPacer cfg).Budgeted s := by
  apply hrun.invariant
  · exact ⟨hmax, rfl⟩
  · intro s a s' htimely hstep h
    apply advance_keeps henabled (fun _ _ h => h) _ hstep h
    intro next limiters phase hwaited ha h
    subst ha
    exact charge_budgeted hn (newPacer_window cfg) htimely hwaited h

/-- Pace mode, a bucket of one token, one token a second, waits of up to 10 seconds. -/
def slowAccount : PacerConfig :=
  ⟨true, "pace", 1, 1, 10000000000, 0, 2, 60000000000, true⟩

/-- Another caller empties the bucket before this call asks it, so the call sleeps once. -/
def sleepOnce : List Action :=
  [.own (.checkBan none 0), .own (.count 0 0), .own (.setDeadline 0),
    .others ⟨fun _ => some ⟨0, 0⟩, fun _ => none⟩, .own (.allow 0), .own (.measure 0 0),
    .own (.wake none), .own (.allow 1000000000)]

end WhatsappGateway.Ratelimiter.Pacer

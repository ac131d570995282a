import WhatsappGateway.Ratelimiter.WindowBound
import WhatsappGateway.Usecase.ReadCache

/-!
`queryWithBudget` over any accounts, keys and types of responses, with the limiter that it
spends from; a call without a key is `spendReadBudget` and the fetch after it. The lookup,
the budget, the fetch and the insertion of a call are steps of their own, and so are the
two halves of a lookup: the entry is read under the lock, and the clock after it.

What happens is also logged: the tokens that were asked for, the fetches, the insertions
and the cache hits.
-/

namespace WhatsappGateway.Usecase.QueryBudget

open Lib SendMessage Ratelimiter
open MemoryLimiter (Answer Served Request opens serve starts grants)

/-- The limiter for the reads of each account. -/
def newQueryBudget (limit windowSeconds : Int) : MemoryLimiter where
  limit := if limit ≤ 0 then 30 else limit
  window := if Duration.seconds windowSeconds ≤ 0 then 60 * Duration.second
    else Duration.seconds windowSeconds
  keyPrefix := "whatsapp:gateway:readquery:"

structure Call (τ : Type) where
  account : String
  key : Option String
  type : τ

/-- A value in the cache, with its dynamic type. -/
structure Entry (τ V : Type) where
  val : V
  type : τ
  expiresAt : Int

inductive Phase (τ V : Type) where
  | read (key : String) (entry : Option (Entry τ V))
  | missed
  | allowed (granted : Int)
  | fetched (key : String) (val : V)
  | returned (res : Except Fault V)

/-- A request for a token, as the limiter answered it. -/
structure Spend where
  id : Nat
  answer : Answer String

/-- A call of `fn`: when its token was granted, when it was called, and what it returned. -/
structure Fetch (V : Type) where
  id : Nat
  account : String
  key : Option String
  granted : Int
  now : Int
  res : Except String V

structure Store (V : Type) where
  id : Nat
  key : String
  val : V
  now : Int

structure Hit (V : Type) where
  id : Nat
  key : String
  val : V
  now : Int

structure State (τ V : Type) where
  clock : Int := 0
  cache : String → Option (Entry τ V) := fun _ => none
  windows : Windows := MemoryLimiter.init
  calls : Nat → Option (Call τ × Phase τ V) := fun _ => none
  spends : List Spend := []
  fetches : List (Fetch V) := []
  stores : List (Store V) := []
  hits : List (Hit V) := []

inductive Action (τ V : Type) where
  | begin (i : Nat) (call : Call τ)
  | check (i : Nat) (now : Int)
  | spend (i : Nat) (now later : Int)
  | fetch (i : Nat) (now : Int) (res : Except String V)
  | store (i : Nat) (now : Int)

variable {τ V : Type}

def State.setCall (s : State τ V) (i : Nat) (call : Call τ) (phase : Phase τ V) : State τ V :=
  { s with calls := Function.update s.calls i (some (call, phase)) }

/-- Without a key there is no lookup. -/
def firstPhase (s : State τ V) (call : Call τ) : Phase τ V :=
  match call.key with
  | none => .missed
  | some key => .read key (s.cache key)

/-- An entry that has expired is a miss, and so is one of another type. -/
def hit [DecidableEq τ] (type : τ) (entry : Option (Entry τ V)) (now : Int) : Option V :=
  match entry with
  | none => none
  | some e => if now > e.expiresAt then none else if e.type = type then some e.val else none

/-- What becomes of a call whose token was asked for. -/
def spendPhase (result : Ratelimiter.Result) (now : Int) : Phase τ V :=
  match spendReadBudget (.ok result) with
  | .ok () => .allowed now
  | .error err => .returned (.error err)

/-- Only a success is cached. -/
def fetchPhase (key : Option String) (res : Except String V) : Phase τ V :=
  match res, key with
  | .error err, _ => .returned (.error (.failed err))
  | .ok val, none => .returned (.ok val)
  | .ok val, some key => .fetched key val

def step [DecidableEq τ] (m : MemoryLimiter) (ttl : Int) (s : State τ V) :
    Action τ V → Option (State τ V)
  | .begin i call =>
    match s.calls i with
    | some _ => none
    | none => some (s.setCall i call (firstPhase s call))
  | .check i now =>
    match s.calls i with
    | some (call, .read key entry) =>
      match hit call.type entry now with
      | some val => some { s.setCall i call (.returned (.ok val)) with
          clock := now, hits := ⟨i, key, val, now⟩ :: s.hits }
      | none => some { s.setCall i call .missed with clock := now }
    | _ => none
  | .spend i now later =>
    match s.calls i with
    | some (call, .missed) =>
      let result := m.allowN s.windows call.account 1 now later
      let opened := opens (s.windows (m.keyPrefix ++ call.account)) now
      some { s.setCall i call (spendPhase result.2 now) with
        clock := now
        windows := result.1
        spends := ⟨i, call.account, 1, now, opened, result.2.allowed⟩ :: s.spends }
    | _ => none
  | .fetch i now res =>
    match s.calls i with
    | some (call, .allowed granted) =>
      some { s.setCall i call (fetchPhase call.key res) with
        clock := now
        fetches := ⟨i, call.account, call.key, granted, now, res⟩ :: s.fetches }
    | _ => none
  | .store i now =>
    match s.calls i with
    | some (call, .fetched key val) =>
      some { s.setCall i call (.returned (.ok val)) with
        clock := now
        cache := Function.update s.cache key (some ⟨val, call.type, now + newTTL ttl⟩)
        stores := ⟨i, key, val, now⟩ :: s.stores }
    | _ => none

/-- The clock does not go back. -/
def InOrder (s : State τ V) : Action τ V → Prop
  | .begin .. => True
  | .check _ now | .fetch _ now _ | .store _ now => s.clock ≤ now
  | .spend _ now later => s.clock ≤ now ∧ now ≤ later

instance (s : State τ V) : ∀ a, Decidable (InOrder s a)
  | .begin .. => inferInstanceAs (Decidable True)
  | .check _ now | .fetch _ now _ | .store _ now => inferInstanceAs (Decidable (s.clock ≤ now))
  | .spend _ now later => inferInstanceAs (Decidable (s.clock ≤ now ∧ now ≤ later))

/-! ### What holds along a run -/

variable {m : MemoryLimiter} {ttl : Int} {s t : State τ V} {i : Nat} {call : Call τ}
  {phase : Phase τ V} {now later : Int}

/-- What the limiter has seen. -/
def State.served (s : State τ V) : Served String := ⟨s.windows, s.spends.map Spend.answer⟩

/-- No token was asked for in this call. -/
def Unspent (s : State τ V) (i : Nat) : Prop := ∀ g ∈ s.spends, g.id ≠ i

/-- The call has not fetched. -/
def Unfetched (s : State τ V) (i : Nat) : Prop := ∀ f ∈ s.fetches, f.id ≠ i

/-- The call was granted a token for the account at that time. -/
def Granted (s : State τ V) (i : Nat) (account : String) (time : Int) : Prop :=
  ∃ g ∈ s.spends, g.id = i ∧ g.answer.target = account ∧ g.answer.allowed = true ∧
    g.answer.now = time

/-- A fetch of the call returned the value, for the key. -/
def Fetched (s : State τ V) (i : Nat) (key : String) (val : V) : Prop :=
  ∃ f ∈ s.fetches, f.id = i ∧ f.key = some key ∧ f.res = .ok val

/-- The value was stored under the key, the TTL before it expires. -/
def Stored (ttl : Int) (s : State τ V) (key : String) (val : V) (expiresAt : Int) : Prop :=
  ∃ w ∈ s.stores, w.key = key ∧ w.val = val ∧ expiresAt = w.now + newTTL ttl

/-- What is known of a call in each of its phases. -/
def CallOk (ttl : Int) (s : State τ V) (i : Nat) : Option (Call τ × Phase τ V) → Prop
  | none => Unspent s i ∧ Unfetched s i
  | some (call, .read key entry) => Unspent s i ∧ Unfetched s i ∧ call.key = some key ∧
      ∀ e, entry = some e → Stored ttl s key e.val e.expiresAt
  | some (_, .missed) => Unspent s i ∧ Unfetched s i
  | some (call, .allowed granted) => Granted s i call.account granted ∧ Unfetched s i
  | some (_, .fetched key val) => Fetched s i key val
  | some (_, .returned _) => True

structure Inv (m : MemoryLimiter) (ttl : Int) (s : State τ V) : Prop where
  served : ∃ requests, Run (m.serve id) Served.InOrder .init requests s.served
  callOk : ∀ i, CallOk ttl s i (s.calls i)
  single : ∀ g ∈ s.spends, g.answer.n = 1
  spent : ∀ g ∈ s.spends, g.answer.now ≤ s.clock
  granted : ∀ f ∈ s.fetches, Granted s f.id f.account f.granted ∧ f.granted ≤ f.now
  once : (s.fetches.map Fetch.id).Nodup
  cached : ∀ key e, s.cache key = some e → Stored ttl s key e.val e.expiresAt
  stored : ∀ w ∈ s.stores, w.now ≤ s.clock ∧ Fetched s w.id w.key w.val
  hits : ∀ h ∈ s.hits, Unspent s h.id ∧
    (∃ call, s.calls h.id = some (call, .returned (.ok h.val))) ∧
    ∃ w ∈ s.stores, w.key = h.key ∧ w.val = h.val ∧ w.now ≤ h.now ∧ h.now ≤ w.now + newTTL ttl

/-- The later state has logged what the earlier one has, and more of one call at most. -/
structure Grows (i : Nat) (s t : State τ V) : Prop where
  calls : ∀ j, j ≠ i → t.calls j = s.calls j
  spends : ∀ g ∈ s.spends, g ∈ t.spends
  spends_other : ∀ g ∈ t.spends, g.id ≠ i → g ∈ s.spends
  fetches : ∀ f ∈ s.fetches, f ∈ t.fetches
  fetches_other : ∀ f ∈ t.fetches, f.id ≠ i → f ∈ s.fetches
  stores : ∀ w ∈ s.stores, w ∈ t.stores

namespace Grows

theorem granted (h : Grows i s t) {j : Nat} {account : String} {time : Int}
    (hgranted : Granted s j account time) : Granted t j account time := by
  obtain ⟨g, hg, hrest⟩ := hgranted
  exact ⟨g, h.spends g hg, hrest⟩

theorem fetched (h : Grows i s t) {j : Nat} {key : String} {val : V}
    (hfetched : Fetched s j key val) : Fetched t j key val := by
  obtain ⟨f, hf, hrest⟩ := hfetched
  exact ⟨f, h.fetches f hf, hrest⟩

theorem stored (h : Grows i s t) {key : String} {val : V} {expiresAt : Int}
    (hstored : Stored ttl s key val expiresAt) : Stored ttl t key val expiresAt := by
  obtain ⟨w, hw, hrest⟩ := hstored
  exact ⟨w, h.stores w hw, hrest⟩

theorem unspent (h : Grows i s t) {j : Nat} (hj : j ≠ i) (hunspent : Unspent s j) :
    Unspent t j := by
  intro g hg heq
  exact hunspent g (h.spends_other g hg (heq ▸ hj)) heq

theorem unfetched (h : Grows i s t) {j : Nat} (hj : j ≠ i) (hunfetched : Unfetched s j) :
    Unfetched t j := by
  intro f hf heq
  exact hunfetched f (h.fetches_other f hf (heq ▸ hj)) heq

/-- The other calls are as they were. -/
theorem callOk (h : Grows i s t) {j : Nat} (hj : j ≠ i) (hok : CallOk ttl s j (s.calls j)) :
    CallOk ttl t j (t.calls j) := by
  rw [h.calls j hj]
  cases hcall : s.calls j with
  | none =>
    rw [hcall] at hok
    exact ⟨h.unspent hj hok.1, h.unfetched hj hok.2⟩
  | some called =>
    obtain ⟨call, phase⟩ := called
    rw [hcall] at hok
    cases phase with
    | read key entry =>
      obtain ⟨hunspent, hunfetched, hkey, hentry⟩ := hok
      exact ⟨h.unspent hj hunspent, h.unfetched hj hunfetched, hkey,
        fun e he => h.stored (hentry e he)⟩
    | missed => exact ⟨h.unspent hj hok.1, h.unfetched hj hok.2⟩
    | allowed granted => exact ⟨h.granted hok.1, h.unfetched hj hok.2⟩
    | fetched key val => exact h.fetched hok
    | returned res => trivial

theorem setCall (s : State τ V) (i : Nat) (call : Call τ) (phase : Phase τ V) :
    Grows i s (s.setCall i call phase) where
  calls _ hj := Function.update_of_ne hj _ _
  spends _ hg := hg
  spends_other _ hg _ := hg
  fetches _ hf := hf
  fetches_other _ hf _ := hf
  stores _ hw := hw

end Grows

theorem setCall_self : (s.setCall i call phase).calls i = some (call, phase) :=
  Function.update_self ..

theorem hit_eq_some [DecidableEq τ] {type : τ} {entry : Option (Entry τ V)} {val : V}
    (h : hit type entry now = some val) :
    ∃ e, entry = some e ∧ now ≤ e.expiresAt ∧ e.val = val := by
  cases entry with
  | none => cases h
  | some e =>
    dsimp only [hit] at h
    split at h
    next hexpired => cases h
    next hfresh =>
      split at h
      next htype => exact ⟨e, rfl, by omega, Option.some.inj h⟩
      next htype => cases h

/-- A token is granted exactly when the limiter allows it. -/
theorem spendPhase_cases (result : Ratelimiter.Result) (now : Int) :
    (result.allowed = true ∧ (spendPhase result now : Phase τ V) = .allowed now) ∨
      ∃ err, (spendPhase result now : Phase τ V) = .returned (.error err) := by
  unfold spendPhase spendReadBudget
  dsimp only
  cases hallowed : result.allowed with
  | true =>
    rw [if_pos rfl]
    exact .inl ⟨rfl, rfl⟩
  | false =>
    rw [if_neg Bool.false_ne_true]
    exact .inr ⟨_, rfl⟩

namespace Inv

theorem init : Inv m ttl ({} : State τ V) where
  served := ⟨[], .nil _⟩
  callOk _ := ⟨by simp [Unspent], by simp [Unfetched]⟩
  single := by simp
  spent := by simp
  granted := by simp
  once := List.nodup_nil
  cached _ _ h := by cases h
  stored := by simp
  hits := by simp

theorem others {called : Option (Call τ × Phase τ V)} (h : Inv m ttl s) (hgrows : Grows i s t)
    (hself : t.calls i = called) (hcall : CallOk ttl t i called) (j : Nat) :
    CallOk ttl t j (t.calls j) := by
  by_cases hj : j = i
  · subst hj
    rw [hself]
    exact hcall
  · exact hgrows.callOk hj (h.callOk j)

/-- A call that still runs has had no hit, so that its steps leave the hits alone. -/
theorem old_hits (h : Inv m ttl s) (hgrows : Grows i s t)
    (hruns : ∀ call res, s.calls i ≠ some (call, .returned res)) :
    ∀ hit ∈ s.hits, Unspent t hit.id ∧
      (∃ call, t.calls hit.id = some (call, .returned (.ok hit.val))) ∧
      ∃ w ∈ t.stores, w.key = hit.key ∧ w.val = hit.val ∧ w.now ≤ hit.now ∧
        hit.now ≤ w.now + newTTL ttl := by
  intro hit hmem
  obtain ⟨hunspent, ⟨call, hcall⟩, w, hw, hrest⟩ := h.hits hit hmem
  have hother : hit.id ≠ i := by
    intro heq
    exact hruns call _ (heq ▸ hcall)
  exact ⟨hgrows.unspent hother hunspent, ⟨call, (hgrows.calls _ hother).trans hcall⟩, w,
    hgrows.stores w hw, hrest⟩

theorem begin (h : Inv m ttl s) (hnew : s.calls i = none) :
    Inv m ttl (s.setCall i call (firstPhase s call)) := by
  have hgrows := Grows.setCall s i call (firstPhase s call)
  have hnone : CallOk ttl s i none := hnew ▸ h.callOk i
  have hcall : CallOk ttl (s.setCall i call (firstPhase s call)) i
      (some (call, firstPhase s call)) := by
    unfold firstPhase
    cases hkey : call.key with
    | none => exact hnone
    | some key => exact ⟨hnone.1, hnone.2, hkey, fun e he => h.cached key e he⟩
  exact { h with
    callOk := h.others hgrows setCall_self hcall
    hits := h.old_hits hgrows (by simp [hnew]) }

/-- The clock may go on. -/
theorem tick (h : Inv m ttl s) (hclock : s.clock ≤ now) : Inv m ttl { s with clock := now } :=
  { h with
    spent := fun g hg => (h.spent g hg).trans hclock
    stored := fun w hw => ⟨(h.stored w hw).1.trans hclock, (h.stored w hw).2⟩ }

theorem miss {key : String} {entry : Option (Entry τ V)} (h : Inv m ttl s)
    (hread : s.calls i = some (call, .read key entry)) :
    Inv m ttl (s.setCall i call .missed) := by
  have hgrows := Grows.setCall s i call .missed
  have hcall : CallOk ttl s i (some (call, .read key entry)) := hread ▸ h.callOk i
  exact { h with
    callOk := h.others hgrows setCall_self ⟨hcall.1, hcall.2.1⟩
    hits := h.old_hits hgrows (by simp [hread]) }

theorem serve_hit [DecidableEq τ] {key : String} {entry : Option (Entry τ V)} {val : V}
    (h : Inv m ttl s) (hclock : s.clock ≤ now) (hread : s.calls i = some (call, .read key entry))
    (hhit : hit call.type entry now = some val) :
    Inv m ttl { s.setCall i call (.returned (.ok val)) with
      clock := now, hits := ⟨i, key, val, now⟩ :: s.hits } := by
  have hgrows : Grows i s { s.setCall i call (.returned (.ok val)) with
      clock := now, hits := ⟨i, key, val, now⟩ :: s.hits } :=
    { Grows.setCall s i call _ with }
  have hcall : CallOk ttl s i (some (call, .read key entry)) := hread ▸ h.callOk i
  obtain ⟨hunspent, -, -, hentry⟩ := hcall
  obtain ⟨e, he, hfresh, rfl⟩ := hit_eq_some hhit
  obtain ⟨w, hw, hkey, hval, hexpires⟩ := hentry e he
  exact { h.tick hclock with
    callOk := h.others hgrows setCall_self trivial
    hits := by
      intro hit hmem
      rcases List.mem_cons.mp hmem with rfl | hold
      · exact ⟨hunspent, ⟨call, setCall_self⟩, w, hw, hkey, hval,
          (h.stored w hw).1.trans hclock, hexpires ▸ hfresh⟩
      · exact h.old_hits hgrows (by simp [hread]) hit hold }

theorem spend (h : Inv m ttl s) (hclock : s.clock ≤ now) (hlater : now ≤ later)
    (hmissed : s.calls i = some (call, .missed)) :
    Inv m ttl { s.setCall i call
        (spendPhase (m.allowN s.windows call.account 1 now later).2 now) with
      clock := now
      windows := (m.allowN s.windows call.account 1 now later).1
      spends := ⟨i, call.account, 1, now,
        opens (s.windows (m.keyPrefix ++ call.account)) now,
        (m.allowN s.windows call.account 1 now later).2.allowed⟩ :: s.spends } := by
  have hgrows : Grows i s { s.setCall i call
        (spendPhase (m.allowN s.windows call.account 1 now later).2 now) with
      clock := now
      windows := (m.allowN s.windows call.account 1 now later).1
      spends := ⟨i, call.account, 1, now,
        opens (s.windows (m.keyPrefix ++ call.account)) now,
        (m.allowN s.windows call.account 1 now later).2.allowed⟩ :: s.spends } :=
    { Grows.setCall s i call _ with
      spends := fun g hg => List.mem_cons_of_mem _ hg
      spends_other := by
        intro g hg hne
        rcases List.mem_cons.mp hg with rfl | hold
        · exact absurd rfl hne
        · exact hold }
  have hcall : CallOk ttl s i (some (call, .missed)) := hmissed ▸ h.callOk i
  obtain ⟨requests, hrun⟩ := h.served
  have hordered : s.served.InOrder ⟨call.account, 1, now, later⟩ := by
    refine ⟨le_rfl, hlater, ?_⟩
    intro c hc
    obtain ⟨g, hg, rfl⟩ := List.mem_map.mp hc
    exact (h.spent g hg).trans hclock
  refine ⟨⟨requests ++ [⟨call.account, 1, now, later⟩], hrun.append (.single hordered rfl)⟩,
    h.others hgrows setCall_self ?_, ?_, ?_, ?_, h.once, h.cached, ?_,
    h.old_hits hgrows (by simp [hmissed])⟩
  · rcases spendPhase_cases (m.allowN s.windows call.account 1 now later).2 now with
      ⟨hallowed, hphase⟩ | ⟨err, hphase⟩
    · rw [hphase]
      exact ⟨⟨_, List.mem_cons_self, rfl, rfl, hallowed, rfl⟩, hcall.2⟩
    · rw [hphase]
      trivial
  · intro g hg
    rcases List.mem_cons.mp hg with rfl | hold
    · rfl
    · exact h.single g hold
  · intro g hg
    rcases List.mem_cons.mp hg with rfl | hold
    · exact le_rfl
    · exact (h.spent g hold).trans hclock
  · intro f hf
    exact ⟨hgrows.granted (h.granted f hf).1, (h.granted f hf).2⟩
  · intro w hw
    exact ⟨(h.stored w hw).1.trans hclock, (h.stored w hw).2⟩

theorem fetch {granted : Int} (h : Inv m ttl s) (hclock : s.clock ≤ now)
    (hallowed : s.calls i = some (call, .allowed granted)) (res : Except String V) :
    Inv m ttl { s.setCall i call (fetchPhase call.key res) with
      clock := now
      fetches := ⟨i, call.account, call.key, granted, now, res⟩ :: s.fetches } := by
  have hgrows : Grows i s { s.setCall i call (fetchPhase call.key res) with
      clock := now
      fetches := ⟨i, call.account, call.key, granted, now, res⟩ :: s.fetches } :=
    { Grows.setCall s i call _ with
      fetches := fun f hf => List.mem_cons_of_mem _ hf
      fetches_other := by
        intro f hf hne
        rcases List.mem_cons.mp hf with rfl | hold
        · exact absurd rfl hne
        · exact hold }
  have hcall : CallOk ttl s i (some (call, .allowed granted)) := hallowed ▸ h.callOk i
  obtain ⟨hgranted, hunfetched⟩ := hcall
  have hbefore : granted ≤ s.clock := by
    obtain ⟨g, hg, -, -, -, htime⟩ := hgranted
    exact htime ▸ h.spent g hg
  refine ⟨h.served, h.others hgrows setCall_self ?_, h.single, ?_, ?_, ?_, h.cached, ?_,
    h.old_hits hgrows (by simp [hallowed])⟩
  · cases res with
    | error err => trivial
    | ok val =>
      cases hkey : call.key with
      | none => trivial
      | some key => exact ⟨_, List.mem_cons_self, rfl, rfl, rfl⟩
  · exact fun g hg => (h.spent g hg).trans hclock
  · intro f hf
    rcases List.mem_cons.mp hf with rfl | hold
    · exact ⟨hgranted, hbefore.trans hclock⟩
    · exact h.granted f hold
  · refine List.nodup_cons.mpr ⟨?_, h.once⟩
    intro hmem
    obtain ⟨f, hf, hid⟩ := List.mem_map.mp hmem
    exact hunfetched f hf hid
  · intro w hw
    exact ⟨(h.stored w hw).1.trans hclock, hgrows.fetched (h.stored w hw).2⟩

theorem store {key : String} {val : V} (h : Inv m ttl s) (hclock : s.clock ≤ now)
    (hfetched : s.calls i = some (call, .fetched key val)) :
    Inv m ttl { s.setCall i call (.returned (.ok val)) with
      clock := now
      cache := Function.update s.cache key (some ⟨val, call.type, now + newTTL ttl⟩)
      stores := ⟨i, key, val, now⟩ :: s.stores } := by
  have hgrows : Grows i s { s.setCall i call (.returned (.ok val)) with
      clock := now
      cache := Function.update s.cache key (some ⟨val, call.type, now + newTTL ttl⟩)
      stores := ⟨i, key, val, now⟩ :: s.stores } :=
    { Grows.setCall s i call _ with
      stores := fun w hw => List.mem_cons_of_mem _ hw }
  have hcall : CallOk ttl s i (some (call, .fetched key val)) := hfetched ▸ h.callOk i
  refine ⟨h.served, h.others hgrows setCall_self trivial, h.single, ?_, h.granted, h.once, ?_, ?_,
    h.old_hits hgrows (by simp [hfetched])⟩
  · exact fun g hg => (h.spent g hg).trans hclock
  · intro key' e hentry
    dsimp only at hentry
    by_cases hkey : key' = key
    · subst hkey
      rw [Function.update_self] at hentry
      obtain rfl := Option.some.inj hentry
      exact ⟨_, List.mem_cons_self, rfl, rfl, rfl⟩
    · rw [Function.update_of_ne hkey] at hentry
      exact hgrows.stored (h.cached key' e hentry)
  · intro w hw
    rcases List.mem_cons.mp hw with rfl | hold
    · exact ⟨le_rfl, hcall⟩
    · exact ⟨(h.stored w hold).1.trans hclock, (h.stored w hold).2⟩

theorem step [DecidableEq τ] {a : Action τ V} (horder : InOrder s a)
    (hstep : step m ttl s a = some t) (h : Inv m ttl s) : Inv m ttl t := by
  cases a with
  | begin i call =>
    cases hcalls : s.calls i with
    | some called => simp [QueryBudget.step, hcalls] at hstep
    | none =>
      simp only [QueryBudget.step, hcalls] at hstep
      obtain rfl := Option.some.inj hstep
      exact h.begin hcalls
  | check i now =>
    unfold QueryBudget.step at hstep
    dsimp only at hstep
    split at hstep
    next call key entry hread =>
      split at hstep
      next val hhit =>
        obtain rfl := Option.some.inj hstep
        exact h.serve_hit horder hread hhit
      next hmiss =>
        obtain rfl := Option.some.inj hstep
        exact (h.miss hread).tick horder
    next => cases hstep
  | spend i now later =>
    unfold QueryBudget.step at hstep
    dsimp only at hstep
    split at hstep
    next call hmissed =>
      obtain rfl := Option.some.inj hstep
      exact h.spend horder.1 horder.2 hmissed
    next => cases hstep
  | fetch i now res =>
    unfold QueryBudget.step at hstep
    dsimp only at hstep
    split at hstep
    next call granted hallowed =>
      obtain rfl := Option.some.inj hstep
      exact h.fetch horder hallowed res
    next => cases hstep
  | store i now =>
    unfold QueryBudget.step at hstep
    dsimp only at hstep
    split at hstep
    next call key val hfetched =>
      obtain rfl := Option.some.inj hstep
      exact h.store horder hfetched
    next => cases hstep

end Inv

/-! ### The budget -/

/-- When the limiter opened a window for the account. -/
def State.windowStarts (s : State τ V) (account : String) : List Int :=
  (s.spends.filter fun g => g.answer.target = account ∧ g.answer.opened = true).map
    fun g => g.answer.now

/-- The tokens that the account was granted in an interval. -/
def State.tokens (s : State τ V) (account : String) (start stop : Int) : List Spend :=
  s.spends.filter fun g => (g.answer.target = account ∧ g.answer.allowed = true) ∧
    start ≤ g.answer.now ∧ g.answer.now ≤ stop

/-- The fetches of the account whose token was granted in an interval. -/
def State.paid (s : State τ V) (account : String) (start stop : Int) : List (Fetch V) :=
  s.fetches.filter fun f => f.account = account ∧ start ≤ f.granted ∧ f.granted ≤ stop

/-- The fetches of the account that were called in an interval. -/
def State.called (s : State τ V) (account : String) (start stop : Int) : List (Fetch V) :=
  s.fetches.filter fun f => f.account = account ∧ start ≤ f.now ∧ f.now ≤ stop

/-- Each fetch is charged to the token of its call. -/
theorem Inv.paid_le_tokens (h : Inv m ttl s) (account : String) (start stop : Int) :
    (s.paid account start stop).length ≤ (s.tokens account start stop).length := by
  have hnodup : ((s.paid account start stop).map Fetch.id).Nodup :=
    h.once.sublist (List.filter_sublist.map _)
  have hsubset : (s.paid account start stop).map Fetch.id ⊆
      (s.tokens account start stop).map Spend.id := by
    intro id hid
    obtain ⟨f, hf, rfl⟩ := List.mem_map.mp hid
    obtain ⟨hmem, hpaid⟩ := List.mem_filter.mp hf
    obtain ⟨haccount, hstart, hstop⟩ := of_decide_eq_true hpaid
    obtain ⟨⟨g, hg, hsame, htarget, hallowed, htime⟩, -⟩ := h.granted f hmem
    refine List.mem_map.mpr ⟨g, List.mem_filter.mpr ⟨hg, decide_eq_true ?_⟩, hsame⟩
    exact ⟨⟨htarget.trans haccount, hallowed⟩, htime ▸ hstart, htime ▸ hstop⟩
  have hlength := (List.subperm_of_subset hnodup hsubset).length_le
  rwa [List.length_map, List.length_map] at hlength

/-- A token counts one, so what the limiter granted is the number of tokens. -/
theorem Inv.within_eq_tokens (h : Inv m ttl s) (account : String) (start stop : Int) :
    Grant.within (start : ℚ) stop (grants account s.served.answers) =
      (s.tokens account start stop).length := by
  have htokens : ((s.spends.map Spend.answer).filter fun c =>
        c.target = account ∧ c.allowed = true).filter
          (fun c => (start : ℚ) ≤ c.now ∧ (c.now : ℚ) ≤ stop) =
      (s.tokens account start stop).map Spend.answer := by
    rw [List.filter_filter, List.filter_map, State.tokens]
    congr 1
    apply List.filter_congr
    intro g _
    rw [Bool.eq_iff_iff]
    simp only [Function.comp_apply, Bool.and_eq_true, decide_eq_true_eq, Int.cast_le]
    exact and_comm
  have hones : (s.tokens account start stop).map
        ((fun c : Answer String => (c.n : ℚ)) ∘ Spend.answer) =
      (s.tokens account start stop).map fun _ => 1 := by
    apply List.map_congr_left
    intro g hg
    rw [Function.comp_apply, h.single g (List.mem_of_mem_filter hg)]
    rfl
  unfold Grant.within grants State.served
  rw [List.filter_map, List.map_map]
  change ((((s.spends.map Spend.answer).filter fun c => c.target = account ∧ c.allowed = true).filter
    fun c => (start : ℚ) ≤ c.now ∧ (c.now : ℚ) ≤ stop).map fun c => (c.n : ℚ)).sum = _
  rw [htokens, List.map_map, hones]
  simp

theorem newQueryBudget_pos (limit windowSeconds : Int) :
    0 < (newQueryBudget limit windowSeconds).limit := by
  dsimp only [newQueryBudget]
  split
  · decide
  · omega

/-- A window holds no more fetches that were paid in it than its limit. -/
theorem Inv.paid_le_limit (h : Inv m ttl s) (hlimit : 0 < m.limit) (account : String) :
    ∀ start ∈ s.windowStarts account,
      ((s.paid account start (start + m.window)).length : Int) ≤ m.limit := by
  intro start hstart
  obtain ⟨requests, hrun⟩ := h.served
  have hcapped := MemoryLimiter.served_capped Function.injective_id hrun account
  have hopened : (start : ℚ) ∈ starts account s.served.answers := by
    obtain ⟨g, hg, rfl⟩ := List.mem_map.mp hstart
    obtain ⟨hmem, hwindow⟩ := List.mem_filter.mp hg
    refine List.mem_map.mpr ⟨g.answer, List.mem_filter.mpr ⟨?_, hwindow⟩, rfl⟩
    exact List.mem_map_of_mem hmem
  have hwithin := hcapped.windows start hopened
  have hcap : m.cap = (m.limit : ℚ) := max_eq_right (by exact_mod_cast hlimit.le)
  rw [← Int.cast_add, h.within_eq_tokens account, hcap] at hwithin
  have htokens : ((s.tokens account start (start + m.window)).length : Int) ≤ m.limit := by
    exact_mod_cast hwithin
  have hpaid := h.paid_le_tokens account start (start + m.window)
  omega

/-- What the budget and the cache give the reads. -/
structure BudgetKept (m : MemoryLimiter) (ttl : Int) (s : State τ V) : Prop where
  granted : ∀ f ∈ s.fetches, Granted s f.id f.account f.granted ∧ f.granted ≤ f.now
  once : (s.fetches.map Fetch.id).Nodup
  budget : ∀ account, ∀ start ∈ s.windowStarts account,
    ((s.paid account start (start + m.window)).length : Int) ≤ m.limit
  hit_free : ∀ h ∈ s.hits, Unspent s h.id
  hit_fresh : ∀ h ∈ s.hits, ∃ w ∈ s.stores, w.key = h.key ∧ w.val = h.val ∧ w.now ≤ h.now ∧
    h.now ≤ w.now + newTTL ttl
  hit_fetched : ∀ h ∈ s.hits, ∃ i, Fetched s i h.key h.val

/-- In every run, each fetch has a token of its own for its account; no window pays for more
fetches of an account than the budget; and a hit asks for no token and returns a value that a
fetch for its key returned and that was stored no longer than the TTL ago. -/
theorem budget_kept [DecidableEq τ] (limit windowSeconds ttl : Int) {actions : List (Action τ V)}
    {s : State τ V}
    (run : Run (step (newQueryBudget limit windowSeconds) ttl) InOrder {} actions s) :
    BudgetKept (newQueryBudget limit windowSeconds) ttl s := by
  have hinv : Inv (newQueryBudget limit windowSeconds) ttl s :=
    run.invariant Inv.init fun _ _ _ => Inv.step
  refine ⟨hinv.granted, hinv.once, hinv.paid_le_limit (newQueryBudget_pos limit windowSeconds),
    fun h hmem => (hinv.hits h hmem).1, fun h hmem => (hinv.hits h hmem).2.2, ?_⟩
  intro h hmem
  obtain ⟨-, -, w, hw, hkey, hval, -⟩ := hinv.hits h hmem
  exact ⟨w.id, hkey ▸ hval ▸ (hinv.stored w hw).2⟩

/-- A read that misses and one that hits. -/
def missThenHit : List (Action Unit Nat) :=
  [.begin 0 ⟨"628111", some "groups:628111", ()⟩, .check 0 0, .spend 0 1 1, .fetch 0 2 (.ok 7),
    .store 0 3, .begin 1 ⟨"628111", some "groups:628111", ()⟩, .check 1 4]

theorem budget_kept_missThenHit :
    BudgetKept (newQueryBudget 1 60) 0 (final (step (newQueryBudget 1 60) 0) {} missThenHit) :=
  budget_kept 1 60 0 (Run.to_final (by decide +kernel) (by decide +kernel))

/-- Two reads that each miss. The first is held up between its token and its fetch, until the
window has passed in which the token was granted. -/
def heldUp : List (Action Unit Nat) :=
  [.begin 0 ⟨"628111", some "groups:628111", ()⟩, .check 0 0, .spend 0 0 0,
    .begin 1 ⟨"628111", some "contactinfo:628111:628222@s.whatsapp.net", ()⟩,
    .check 1 (61 * Duration.second), .spend 1 (61 * Duration.second) (61 * Duration.second),
    .fetch 0 (61 * Duration.second) (.ok 7), .fetch 1 (61 * Duration.second) (.ok 8)]

/-- A window may see more fetches than the budget, because a fetch comes after its token. -/
theorem fetches_exceed_budget :
    ¬ ∀ (limit windowSeconds ttl : Int) (actions : List (Action Unit Nat)) (s : State Unit Nat),
      Run (step (newQueryBudget limit windowSeconds) ttl) InOrder {} actions s →
      ∀ account, ∀ start ∈ s.windowStarts account,
        ((s.called account start (start + (newQueryBudget limit windowSeconds).window)).length : Int)
          ≤ (newQueryBudget limit windowSeconds).limit := by
  intro hall
  have hcount := hall 1 60 0 heldUp _ (Run.to_final (by decide +kernel) (by decide +kernel))
    "628111" (61 * Duration.second) (by decide +kernel)
  revert hcount
  decide +kernel

end WhatsappGateway.Usecase.QueryBudget

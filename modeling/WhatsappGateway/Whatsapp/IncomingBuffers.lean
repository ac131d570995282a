import Mathlib.Logic.Function.Basic
import WhatsappGateway.Lib.Run
import WhatsappGateway.Whatsapp.IncomingBuffer

/-!
The ring buffers of the accounts, as the goroutines of the event handler and of the polls use
them. A buffer is made by the first goroutine that misses it. The map is looked up under the read
lock, and once more under the write lock before a buffer is put into it; each locked section is
one step, and any number of goroutines may be between two of them.

The state remembers what was pushed for each account, and what each poll was answered. The code
has no such memory.
-/

namespace WhatsappGateway.Whatsapp

open Lib

/-- What a goroutine calls on the buffer it gets. -/
inductive BufferUse where
  | push (m : Option IncomingMessage)
  | latest (limit : Int)
deriving DecidableEq, Repr

/-- The point which a goroutine has reached. -/
inductive BufferPhase where
  | called
  /-- the account was missing under the read lock -/
  | missed
  /-- `getOrCreateBuffer` has returned the buffer at this address -/
  | got (address : Nat)
  | returned
deriving DecidableEq, Repr

structure BufferCall where
  phoneNumber : String
  use : BufferUse
  phase : BufferPhase
deriving DecidableEq, Repr

/-- A poll, with what it was answered and what had been pushed for its account by then. -/
structure Poll where
  phoneNumber : String
  limit : Int
  answer : List (Option IncomingMessage)
  pushed : List IncomingMessage
deriving DecidableEq, Repr

/-- The handler's `buffers`. A buffer is a pointer into `heap`. -/
structure BuffersState where
  buffers : String → Option Nat
  heap : List IncomingBuffer
  calls : Nat → Option BufferCall
  panicked : Bool
  /-- by account, newest first -/
  pushed : String → List IncomingMessage
  polls : List Poll

namespace BuffersState

def init : BuffersState where
  buffers := fun _ => none
  heap := []
  calls := fun _ => none
  panicked := false
  pushed := fun _ => []
  polls := []

def setCall (s : BuffersState) (i : Nat) (call : BufferCall) : BuffersState :=
  { s with calls := Function.update s.calls i (some call) }

theorem setCall_self (s : BuffersState) (i : Nat) (call : BufferCall) :
    (s.setCall i call).calls i = some call := Function.update_self i _ _

theorem setCall_ne (s : BuffersState) {i j : Nat} (hne : j ≠ i) (call : BufferCall) :
    (s.setCall i call).calls j = s.calls j := Function.update_of_ne hne _ _

def panic (s : BuffersState) : BuffersState := { s with panicked := true }

/-- What is remembered of a push. -/
def remember (s : BuffersState) (phoneNumber : String) : Option IncomingMessage → BuffersState
  | none => s
  | some m =>
    { s with pushed := Function.update s.pushed phoneNumber (m :: s.pushed phoneNumber) }

/-- `Push` or `Latest` on the buffer `b` at `address`. -/
def apply (s : BuffersState) (phoneNumber : String) (address : Nat) (b : IncomingBuffer) :
    BufferUse → BuffersState
  | .push m =>
    match b.push m with
    | .error _ => s.panic
    | .ok b => { s with heap := s.heap.set address b }.remember phoneNumber m
  | .latest limit =>
    match b.latest limit with
    | .error _ => s.panic
    | .ok answer => { s with polls := ⟨phoneNumber, limit, answer, s.pushed phoneNumber⟩ :: s.polls }

end BuffersState

inductive BuffersAction where
  /-- goroutine `i` calls `getOrCreateBuffer` for an account -/
  | call (i : Nat) (phoneNumber : String) (use : BufferUse)
  | lookup (i : Nat)
  | create (i : Nat)
  | use (i : Nat)
deriving DecidableEq

/-- `bufferSize` is the size of each new buffer. -/
def buffersStep (bufferSize : Int) (s : BuffersState) : BuffersAction → Option BuffersState
  | .call i phoneNumber use =>
    match s.calls i with
    | none => some (s.setCall i ⟨phoneNumber, use, .called⟩)
    | some _ => none
  | .lookup i =>
    match s.calls i with
    | some ⟨phoneNumber, use, .called⟩ =>
      match s.buffers phoneNumber with
      | some address => some (s.setCall i ⟨phoneNumber, use, .got address⟩)
      | none => some (s.setCall i ⟨phoneNumber, use, .missed⟩)
    | _ => none
  | .create i =>
    match s.calls i with
    | some ⟨phoneNumber, use, .missed⟩ =>
      match s.buffers phoneNumber with
      -- another goroutine was faster
      | some address => some (s.setCall i ⟨phoneNumber, use, .got address⟩)
      | none =>
        match IncomingBuffer.newIncomingBuffer bufferSize with
        | .error _ => some s.panic
        | .ok b =>
          some ({ s with
            heap := s.heap ++ [b]
            buffers := Function.update s.buffers phoneNumber (some s.heap.length) }.setCall i
              ⟨phoneNumber, use, .got s.heap.length⟩)
    | _ => none
  | .use i =>
    match s.calls i with
    | some ⟨phoneNumber, use, .got address⟩ =>
      match s.heap[address]? with
      | none => none
      | some b =>
        some ((s.apply phoneNumber address b use).setCall i ⟨phoneNumber, use, .returned⟩)
    | _ => none

/-- What a poll is answered: the messages pushed last for its account, newest first. -/
def Poll.Exact (bufferSize : Int) (poll : Poll) : Prop :=
  poll.answer = (poll.pushed.take (max 0 (min poll.limit bufferSize)).toNat).map some

/-- The account's buffer holds the newest messages pushed for it. -/
def BufferOf (bufferSize : Int) (s : BuffersState) (phoneNumber : String) (address : Nat) : Prop :=
  ∃ b, s.heap[address]? = some b ∧ b.cap = bufferSize ∧
    b.Holds ((s.pushed phoneNumber).take bufferSize.toNat)

/-- No account has two buffers, nor do two accounts share one, and a goroutine has that of its
account. -/
structure OwnBuffers (bufferSize : Int) (s : BuffersState) : Prop where
  noPanic : s.panicked = false
  filled : ∀ phoneNumber address, s.buffers phoneNumber = some address →
    BufferOf bufferSize s phoneNumber address
  unused : ∀ phoneNumber, s.buffers phoneNumber = none → s.pushed phoneNumber = []
  separate : ∀ phoneNumber other address, s.buffers phoneNumber = some address →
    s.buffers other = some address → phoneNumber = other
  holders : ∀ i call address, s.calls i = some call → call.phase = .got address →
    s.buffers call.phoneNumber = some address
  polls : ∀ poll ∈ s.polls, poll.Exact bufferSize

namespace OwnBuffers

variable {bufferSize : Int} {s t : BuffersState} {i address : Nat} {phoneNumber : String}
  {b : IncomingBuffer} {call : BufferCall}

theorem init (bufferSize : Int) : OwnBuffers bufferSize .init where
  noPanic := rfl
  filled := by
    intro _ _ h
    cases h
  unused := fun _ _ => rfl
  separate := by
    intro _ _ _ h
    cases h
  holders := by
    intro _ _ _ h
    cases h
  polls := by
    intro _ h
    cases h

/-- A call may move on, as long as it has got no buffer but its account's. -/
theorem setCall (h : OwnBuffers bufferSize s)
    (hgot : ∀ address, call.phase = .got address → s.buffers call.phoneNumber = some address) :
    OwnBuffers bufferSize (s.setCall i call) where
  noPanic := h.noPanic
  filled := h.filled
  unused := h.unused
  separate := h.separate
  holders := by
    intro j other address hcall hphase
    by_cases hj : j = i
    · subst hj
      obtain rfl : call = other := Option.some.inj ((s.setCall_self j call).symm.trans hcall)
      exact hgot address hphase
    · rw [s.setCall_ne hj] at hcall
      exact h.holders j other address hcall hphase
  polls := h.polls

/-- A new buffer is empty, and nothing has been pushed for an account without one. -/
theorem create (h : OwnBuffers bufferSize s) (hmissing : s.buffers phoneNumber = none)
    (hcap : b.cap = bufferSize) (hempty : b.Holds []) :
    OwnBuffers bufferSize
      { s with
        heap := s.heap ++ [b]
        buffers := Function.update s.buffers phoneNumber (some s.heap.length) } := by
  have hold : ∀ other address, s.buffers other = some address → address < s.heap.length := by
    intro other address hother
    obtain ⟨b', hb', -⟩ := h.filled other address hother
    exact (List.getElem?_eq_some_iff.mp hb').1
  constructor
  · exact h.noPanic
  · intro other address hother
    dsimp only at hother
    by_cases hne : other = phoneNumber
    · subst hne
      rw [Function.update_self] at hother
      cases hother
      refine ⟨b, by simp, hcap, ?_⟩
      dsimp only
      rw [h.unused other hmissing, List.take_nil]
      exact hempty
    · rw [Function.update_of_ne hne] at hother
      obtain ⟨b', hb', hrest⟩ := h.filled other address hother
      refine ⟨b', ?_, hrest⟩
      rw [List.getElem?_append_left (hold other address hother)]
      exact hb'
  · intro other hother
    dsimp only at hother
    by_cases hne : other = phoneNumber
    · rw [hne, Function.update_self] at hother
      cases hother
    · rw [Function.update_of_ne hne] at hother
      exact h.unused other hother
  · intro p q address hp hq
    dsimp only at hp hq
    by_cases hpn : p = phoneNumber <;> by_cases hqn : q = phoneNumber
    · rw [hpn, hqn]
    · rw [hpn, Function.update_self] at hp
      rw [Function.update_of_ne hqn] at hq
      cases hp
      exact absurd (hold q _ hq) (lt_irrefl _)
    · rw [hqn, Function.update_self] at hq
      rw [Function.update_of_ne hpn] at hp
      cases hq
      exact absurd (hold p _ hp) (lt_irrefl _)
    · rw [Function.update_of_ne hpn] at hp
      rw [Function.update_of_ne hqn] at hq
      exact h.separate p q address hp hq
  · intro j other address hcall hphase
    have hother := h.holders j other address hcall hphase
    have hne : other.phoneNumber ≠ phoneNumber := by
      intro heq
      rw [heq, hmissing] at hother
      cases hother
    dsimp only
    rw [Function.update_of_ne hne]
    exact hother
  · exact h.polls

/-- A push reaches the buffer of its account and no other. -/
theorem push (h : OwnBuffers bufferSize s) (hbuffer : s.buffers phoneNumber = some address)
    (hb : s.heap[address]? = some b) (m : Option IncomingMessage) :
    OwnBuffers bufferSize (s.apply phoneNumber address b (.push m)) := by
  cases m with
  | none =>
    have hset : s.heap.set address b = s.heap := by
      obtain ⟨hlt, rfl⟩ := List.getElem?_eq_some_iff.mp hb
      exact List.set_getElem_self hlt
    have hsame : s.apply phoneNumber address b (.push none) = s := by
      rw [BuffersState.apply, IncomingBuffer.push]
      dsimp only
      rw [hset]
      rfl
    rwa [hsame]
  | some m =>
    obtain ⟨b₀, hb₀, hcap, hholds⟩ := h.filled phoneNumber address hbuffer
    obtain rfl : b = b₀ := Option.some.inj (hb.symm.trans hb₀)
    obtain ⟨b', hpush, hcap', hholds'⟩ := hholds.push m
    rw [hcap, take_cons_take] at hholds'
    have hlt := (List.getElem?_eq_some_iff.mp hb).1
    rw [BuffersState.apply, hpush]
    constructor
    · exact h.noPanic
    · intro other address' hother
      by_cases hne : other = phoneNumber
      · subst hne
        obtain rfl : address = address' := Option.some.inj (hbuffer.symm.trans hother)
        refine ⟨b', List.getElem?_set_self hlt, hcap'.trans hcap, ?_⟩
        simp only [BuffersState.remember, Function.update_self]
        exact hholds'
      · have haddress : address ≠ address' := by
          rintro rfl
          exact hne (h.separate other phoneNumber address hother hbuffer)
        obtain ⟨b₁, hb₁, hcap₁, hholds₁⟩ := h.filled other address' hother
        refine ⟨b₁, (List.getElem?_set_ne haddress).trans hb₁, hcap₁, ?_⟩
        simp only [BuffersState.remember, Function.update_of_ne hne]
        exact hholds₁
    · intro other hother
      have hne : other ≠ phoneNumber := by
        rintro rfl
        exact Option.some_ne_none _ (hbuffer.symm.trans hother)
      simp only [BuffersState.remember, Function.update_of_ne hne]
      exact h.unused other hother
    · exact h.separate
    · exact h.holders
    · exact h.polls

theorem take_limit {recent : List IncomingMessage} (hsize : 1 ≤ bufferSize) (limit : Int) :
    (recent.take bufferSize.toNat).take limit.toNat =
      recent.take (max 0 (min limit bufferSize)).toNat := by
  rw [List.take_take]
  congr 1
  omega

theorem latest (h : OwnBuffers bufferSize s) (hsize : 1 ≤ bufferSize)
    (hbuffer : s.buffers phoneNumber = some address) (hb : s.heap[address]? = some b)
    (limit : Int) :
    OwnBuffers bufferSize (s.apply phoneNumber address b (.latest limit)) := by
  obtain ⟨b₀, hb₀, -, hholds⟩ := h.filled phoneNumber address hbuffer
  obtain rfl : b = b₀ := Option.some.inj (hb.symm.trans hb₀)
  rw [BuffersState.apply, hholds.latest limit]
  refine ⟨h.noPanic, h.filled, h.unused, h.separate, h.holders, ?_⟩
  intro poll hpoll
  rcases List.mem_cons.mp hpoll with rfl | hearlier
  · rw [Poll.Exact, take_limit hsize]
  · exact h.polls poll hearlier

theorem step {a : BuffersAction} (hsize : 1 ≤ bufferSize) (h : OwnBuffers bufferSize s)
    (hstep : buffersStep bufferSize s a = some t) : OwnBuffers bufferSize t := by
  cases a with
  | call i phoneNumber use =>
    simp only [buffersStep] at hstep
    split at hstep
    · cases hstep
      exact h.setCall fun _ hphase => by cases hphase
    · cases hstep
  | lookup i =>
    simp only [buffersStep] at hstep
    split at hstep
    · split at hstep
      next hbuffer =>
        cases hstep
        exact h.setCall fun _ hphase => by cases hphase; exact hbuffer
      next =>
        cases hstep
        exact h.setCall fun _ hphase => by cases hphase
    · cases hstep
  | create i =>
    simp only [buffersStep] at hstep
    split at hstep
    next phoneNumber use hcall =>
      split at hstep
      next hbuffer =>
        cases hstep
        exact h.setCall fun _ hphase => by cases hphase; exact hbuffer
      next hmissing =>
        obtain ⟨b, hnew, hcap, hempty⟩ := IncomingBuffer.newIncomingBuffer_holds hsize
        rw [hnew] at hstep
        cases hstep
        refine (h.create hmissing hcap hempty).setCall ?_
        intro address hphase
        cases hphase
        exact Function.update_self _ _ _
    · cases hstep
  | use i =>
    simp only [buffersStep] at hstep
    split at hstep
    next phoneNumber use address hcall =>
      split at hstep
      · cases hstep
      next b hb =>
        cases hstep
        have hbuffer := h.holders i _ address hcall rfl
        have happly : OwnBuffers bufferSize (s.apply phoneNumber address b use) := by
          cases use with
          | push m => exact h.push hbuffer hb m
          | latest limit => exact h.latest hsize hbuffer hb limit
        exact happly.setCall fun _ hphase => by cases hphase
    · cases hstep

end OwnBuffers

/-- Two goroutines miss the buffer of the same account at once. -/
def racingPushes : List BuffersAction :=
  let message (id : String) : IncomingMessage := ⟨id, "", "", "pn", false, "", 0, "text", "", none⟩
  [.call 0 "628111" (.push (some (message "A"))), .call 1 "628111" (.push (some (message "B"))),
    .lookup 0, .lookup 1, .create 1, .use 1, .create 0, .use 0,
    .call 2 "628111" (.latest 5), .lookup 2, .use 2]

end WhatsappGateway.Whatsapp

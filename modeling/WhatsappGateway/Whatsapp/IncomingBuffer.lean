import Mathlib.Data.List.ReduceOption
import WhatsappGateway.Lib.Fallible
import WhatsappGateway.Lib.Ring

/-!
The ring buffer of the messages received last, and what a poll reads from it: the
newest messages pushed, as many as are asked for, as the buffer holds and as were
pushed at all.
-/

namespace WhatsappGateway.Whatsapp

open Lib

structure IncomingMedia where
  type : String
  mimeType : String := ""
  size : Nat := 0
  fileName : String := ""
  caption : String := ""
deriving DecidableEq, Repr

structure IncomingMessage where
  messageID : String
  chat : String
  from_ : String
  addressingMode : String
  isGroup : Bool
  pushName : String
  timestamp : Int
  type : String := ""
  text : String := ""
  media : Option IncomingMedia := none
deriving DecidableEq, Repr

/-- `incomingBuffer`. A slot that was never written is `none`; the lock makes each
operation one step. -/
structure IncomingBuffer where
  cap : Int
  data : List (Option IncomingMessage)
  head : Int
  len : Int
deriving DecidableEq, Repr

namespace IncomingBuffer

inductive Panic where
  | makeslice
  | indexOutOfRange
  | integerDivideByZero
deriving DecidableEq, Repr

/-- `a % b`. -/
def rem (a b : Int) : Except Panic Int :=
  if b = 0 then .error .integerDivideByZero else .ok (a.tmod b)

/-- `data[i]`. -/
def index {α : Type} (data : List α) (i : Int) : Except Panic α :=
  if i < 0 then .error .indexOutOfRange
  else
    match data[i.toNat]? with
    | some a => .ok a
    | none => .error .indexOutOfRange

/-- `data[i] = a`. -/
def setIndex {α : Type} (data : List α) (i : Int) (a : α) : Except Panic (List α) :=
  if i < 0 ∨ (data.length : Int) ≤ i then .error .indexOutOfRange else .ok (data.set i.toNat a)

def newIncomingBuffer (size : Int) : Except Panic IncomingBuffer :=
  if size < 0 then .error .makeslice
  else .ok { cap := size, data := List.replicate size.toNat none, head := 0, len := 0 }

def push (b : IncomingBuffer) (m : Option IncomingMessage) : Except Panic IncomingBuffer :=
  match m with
  | none => .ok b
  | some m => do
    let data ← setIndex b.data b.head (some m)
    let head ← rem (b.head + 1) b.cap
    return { b with data := data, head := head, len := if b.len < b.cap then b.len + 1 else b.len }

/-- The loop of `latest`: `n` slots, from `idx` down. -/
def latestFrom (b : IncomingBuffer) : Nat → Int → Except Panic (List (Option IncomingMessage))
  | 0, _ => .ok []
  | n + 1, idx => do
    let m ← index b.data idx
    let idx ← rem (idx - 1 + b.cap) b.cap
    let out ← b.latestFrom n idx
    return m :: out

def latest (b : IncomingBuffer) (n : Int) : Except Panic (List (Option IncomingMessage)) := do
  let n := if b.len < n then b.len else n
  if n ≤ 0 then return []
  let idx ← rem (b.head - 1 + b.cap) b.cap
  b.latestFrom n.toNat idx

def pushAll (b : IncomingBuffer) (pushes : List (Option IncomingMessage)) :
    Except Panic IncomingBuffer :=
  pushes.foldlM push b

/-- The buffer holds `recent`, newest first. -/
structure Holds (b : IncomingBuffer) (recent : List IncomingMessage) : Prop where
  ring : RingHolds b.data b.head (recent.map some)
  cap_eq : b.cap = b.data.length
  len_eq : b.len = recent.length

variable {b : IncomingBuffer} {recent : List IncomingMessage}

theorem rem_eq {a b : Int} (ha : 0 ≤ a) (hb : 0 < b) : rem a b = .ok (a % b) := by
  rw [rem, if_neg hb.ne', Int.tmod_eq_emod_of_nonneg ha]

theorem newIncomingBuffer_holds {size : Int} (hsize : 1 ≤ size) :
    ∃ b, newIncomingBuffer size = .ok b ∧ b.cap = size ∧ b.Holds [] := by
  have hpos : 0 < (List.replicate size.toNat (none : Option IncomingMessage)).length := by
    rw [List.length_replicate]
    omega
  refine ⟨_, if_neg (by omega), rfl, ⟨RingHolds.empty hpos, ?_, rfl⟩⟩
  dsimp only
  rw [List.length_replicate]
  omega

/-- A message that is pushed becomes the newest one. -/
theorem Holds.push (h : b.Holds recent) (m : IncomingMessage) :
    ∃ b', b.push (some m) = .ok b' ∧ b'.cap = b.cap ∧
      b'.Holds ((m :: recent).take b.cap.toNat) := by
  have hpos := h.ring.capacity_pos
  have hhead := h.ring.head_nonneg
  have hlt := h.ring.head_lt
  have hset : setIndex b.data b.head (some m) = .ok (b.data.set b.head.toNat (some m)) :=
    if_neg (by omega)
  have hrem : rem (b.head + 1) b.cap = .ok ((b.head + 1) % b.cap) :=
    rem_eq (by omega) (by rw [h.cap_eq]; exact hpos)
  have hpush : b.push (some m) = .ok
      { b with
        data := b.data.set b.head.toNat (some m)
        head := (b.head + 1) % b.cap
        len := if b.len < b.cap then b.len + 1 else b.len } := by
    rw [IncomingBuffer.push, hset, ok_bind, hrem, ok_bind]
    rfl
  refine ⟨_, hpush, rfl, ?_, ?_, ?_⟩
  · have hring := h.ring.push (some m)
    dsimp only
    rw [h.cap_eq, Int.toNat_natCast, List.map_take]
    exact hring
  · dsimp only
    rw [List.length_set]
    exact h.cap_eq
  · have hle : recent.length ≤ b.data.length := by simpa using h.ring.length_le
    have hcap := h.cap_eq
    have hlen := h.len_eq
    dsimp only
    rw [List.length_take, List.length_cons]
    split
    · omega
    · omega

/-- The loop reads on from the message it has come to. -/
theorem Holds.latestFrom (h : b.Holds recent) {n age : Nat} (hn : age + n ≤ recent.length) :
    b.latestFrom n (ringIndex b.cap b.head age) = .ok (((recent.drop age).take n).map some) := by
  have hpos : 0 < b.cap := by
    rw [h.cap_eq]
    exact h.ring.capacity_pos
  induction n generalizing age with
  | zero => rfl
  | succ n ih =>
    have hnonneg := @ringIndex_nonneg _ b.head hpos age
    have hage : age < recent.length := by omega
    have hread : index b.data (ringIndex b.cap b.head age) = .ok (some recent[age]) := by
      have hslot := h.ring.read age (by rwa [List.length_map])
      rw [List.getElem?_map, List.getElem?_eq_getElem hage, ← h.cap_eq] at hslot
      rw [index, if_neg (by omega), hslot]
      rfl
    have hrem : rem (ringIndex b.cap b.head age - 1 + b.cap) b.cap =
        .ok (ringIndex b.cap b.head (age + 1 : Nat)) := by
      rw [rem_eq (by omega) hpos, ringIndex_pred]
      rfl
    rw [IncomingBuffer.latestFrom, hread, ok_bind, hrem, ok_bind, ih (by omega),
      List.drop_eq_getElem_cons hage]
    rfl

theorem Holds.latest (h : b.Holds recent) (n : Int) :
    b.latest n = .ok ((recent.take n.toNat).map some) := by
  have hlen := h.len_eq
  have hpos : 0 < b.cap := by
    rw [h.cap_eq]
    exact h.ring.capacity_pos
  have hhead := h.ring.head_nonneg
  have hcount : ∀ k : Int, 0 < k → k ≤ b.len → k.toNat = min n.toNat recent.length →
      (do let idx ← rem (b.head - 1 + b.cap) b.cap; b.latestFrom k.toNat idx) =
        .ok ((recent.take n.toNat).map some) := by
    intro k hk hle hmin
    rw [rem_eq (by omega) hpos, ringIndex_zero, ok_bind]
    have hread := @Holds.latestFrom _ _ h k.toNat 0 (by omega)
    rw [hmin, List.drop_zero, ← List.take_eq_take_min] at hread
    rw [hmin]
    exact hread
  unfold IncomingBuffer.latest
  dsimp only
  split
  next hn =>
    split
    next hempty =>
      have hrecent : recent = [] := List.length_eq_zero_iff.mp (by omega)
      rw [hrecent, List.take_nil]
      rfl
    next hne => exact hcount _ (by omega) le_rfl (by omega)
  next hn =>
    split
    next hempty =>
      rw [Int.toNat_of_nonpos hempty]
      rfl
    next hne => exact hcount _ (by omega) (by omega) (by omega)

/-- Over a run of pushes, what is held are the newest of all messages. -/
theorem Holds.pushAll {older : List IncomingMessage} (h : b.Holds (older.take b.cap.toNat))
    (pushes : List (Option IncomingMessage)) :
    ∃ b', b.pushAll pushes = .ok b' ∧
      b'.Holds ((pushes.reduceOption.reverse ++ older).take b.cap.toNat) := by
  induction pushes generalizing b older with
  | nil => exact ⟨b, rfl, h⟩
  | cons m pushes ih =>
    cases m with
    | none => exact ih h
    | some m =>
      obtain ⟨b₁, hpush, hcap, hholds⟩ := h.push m
      rw [take_cons_take, ← hcap] at hholds
      obtain ⟨b₂, hpushes, hall⟩ := ih hholds
      refine ⟨b₂, ?_, ?_⟩
      · rw [IncomingBuffer.pushAll, List.foldlM_cons, hpush]
        exact hpushes
      · rw [List.reduceOption_cons_of_some, List.reverse_cons, List.append_assoc, ← hcap]
        exact hall

/-- For every size, every sequence of pushes and every `n`, the buffer is made and filled
without a panic, and `latest n` returns the newest messages pushed, newest first. -/
theorem latest_newest_first (size : Int) (hsize : 1 ≤ size)
    (pushes : List (Option IncomingMessage)) (n : Int) :
    (do
      let b ← newIncomingBuffer size
      let b ← b.pushAll pushes
      b.latest n) =
      .ok ((pushes.reduceOption.reverse.take
        (max 0 (min n (min size pushes.reduceOption.length))).toNat).map some) := by
  obtain ⟨b, hnew, hcap, hempty⟩ := newIncomingBuffer_holds hsize
  have hholds : b.Holds (([] : List IncomingMessage).take b.cap.toNat) := by
    rw [List.take_nil]
    exact hempty
  obtain ⟨b', hpushes, hfull⟩ := hholds.pushAll pushes
  rw [List.append_nil, hcap] at hfull
  rw [hnew, ok_bind, hpushes, ok_bind, hfull.latest, List.take_take,
    List.take_eq_take_min, List.length_reverse]
  congr 3
  omega

theorem latest_after_wrap :
    (do
      let b ← newIncomingBuffer 2
      let b ← b.pushAll [some ⟨"1", "", "", "", false, "", 0, "", "", none⟩, none,
        some ⟨"2", "", "", "", false, "", 0, "", "", none⟩,
        some ⟨"3", "", "", "", false, "", 0, "", "", none⟩]
      b.latest 5) =
      .ok [some ⟨"3", "", "", "", false, "", 0, "", "", none⟩,
        some ⟨"2", "", "", "", false, "", 0, "", "", none⟩] :=
  latest_newest_first 2 (by omega) _ 5

end IncomingBuffer

end WhatsappGateway.Whatsapp

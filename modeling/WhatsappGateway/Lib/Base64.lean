import Mathlib.Data.List.Basic

/-!
Standard base64 with padding: three bytes are four digits of six bits, and what
is left at the end is padded to four characters.
-/

namespace WhatsappGateway.Lib.Base64

def alphabet : List Char :=
  "ABCDEFGHIJKLMNOPQRSTUVWXYZabcdefghijklmnopqrstuvwxyz0123456789+/".toList

def digit (n : Nat) : Char := alphabet.getD n '='

def value (c : Char) : Option Nat := alphabet.idxOf? c

/-- The digits of a list of bytes. -/
def digits : List UInt8 → List Char
  | [] => []
  | [a] => [digit (a.toNat / 4), digit (a.toNat % 4 * 16), '=', '=']
  | [a, b] => [digit (a.toNat / 4), digit (a.toNat % 4 * 16 + b.toNat / 16),
      digit (b.toNat % 16 * 4), '=']
  | a :: b :: c :: rest =>
    digit (a.toNat / 4) :: digit (a.toNat % 4 * 16 + b.toNat / 16) ::
      digit (b.toNat % 16 * 4 + c.toNat / 64) :: digit (c.toNat % 64) :: digits rest

/-- The bytes of four digits. -/
def first (w x : Nat) : UInt8 := .ofNat (w * 4 + x / 16)

def second (x y : Nat) : UInt8 := .ofNat (x % 16 * 16 + y / 4)

def third (y z : Nat) : UInt8 := .ofNat (y % 4 * 64 + z)

/-- The bytes of a list of digits, if it is well formed. -/
def bytes : List Char → Option (List UInt8)
  | [] => some []
  | cw :: cx :: cy :: cz :: rest =>
    match value cw, value cx, value cy, value cz with
    | some w, some x, some y, some z =>
      (bytes rest).map fun tail => first w x :: second x y :: third y z :: tail
    | some w, some x, some y, none =>
      if cz = '=' ∧ rest = [] then some [first w x, second x y] else none
    | some w, some x, none, none =>
      if cy = '=' ∧ cz = '=' ∧ rest = [] then some [first w x] else none
    | _, _, _, _ => none
  | _ => none

def encode (bs : List UInt8) : String := String.ofList (digits bs)

def decode (s : String) : Option (List UInt8) := bytes s.toList

theorem value_digit {n : Nat} (h : n < 64) : value (digit n) = some n := by
  have hall : ∀ n < 64, value (digit n) = some n := by decide +kernel
  exact hall n h

theorem value_pad : value '=' = none := by decide +kernel

theorem first_digits (a : UInt8) {n : Nat} (h : n < 16) :
    first (a.toNat / 4) (a.toNat % 4 * 16 + n) = a := by
  have hsum : a.toNat / 4 * 4 + (a.toNat % 4 * 16 + n) / 16 = a.toNat := by omega
  rw [first, hsum, UInt8.ofNat_toNat]

theorem second_digits (b : UInt8) (m : Nat) {n : Nat} (h : n < 4) :
    second (m * 16 + b.toNat / 16) (b.toNat % 16 * 4 + n) = b := by
  have hb := b.toNat_lt
  have hsum : (m * 16 + b.toNat / 16) % 16 * 16 + (b.toNat % 16 * 4 + n) / 4 = b.toNat := by omega
  rw [second, hsum, UInt8.ofNat_toNat]

theorem third_digits (c : UInt8) (m : Nat) :
    third (m * 4 + c.toNat / 64) (c.toNat % 64) = c := by
  have hc := c.toNat_lt
  have hsum : (m * 4 + c.toNat / 64) % 4 * 64 + c.toNat % 64 = c.toNat := by omega
  rw [third, hsum, UInt8.ofNat_toNat]

theorem bytes_digits (bs : List UInt8) : bytes (digits bs) = some bs := by
  induction bs using digits.induct with
  | case1 => rfl
  | case2 a =>
    have ha := a.toNat_lt
    have hw := value_digit (n := a.toNat / 4) (by omega)
    have hx := value_digit (n := a.toNat % 4 * 16) (by omega)
    have hfirst := first_digits a (n := 0) (by omega)
    simp only [Nat.add_zero] at hfirst
    simp [digits, bytes, hw, hx, value_pad, hfirst]
  | case3 a b =>
    have ha := a.toNat_lt
    have hb := b.toNat_lt
    have hw := value_digit (n := a.toNat / 4) (by omega)
    have hx := value_digit (n := a.toNat % 4 * 16 + b.toNat / 16) (by omega)
    have hy := value_digit (n := b.toNat % 16 * 4) (by omega)
    have hfirst := first_digits a (n := b.toNat / 16) (by omega)
    have hsecond := second_digits b (a.toNat % 4) (n := 0) (by omega)
    simp only [Nat.add_zero] at hsecond
    simp [digits, bytes, hw, hx, hy, value_pad, hfirst, hsecond]
  | case4 a b c rest ih =>
    have ha := a.toNat_lt
    have hb := b.toNat_lt
    have hc := c.toNat_lt
    have hw := value_digit (n := a.toNat / 4) (by omega)
    have hx := value_digit (n := a.toNat % 4 * 16 + b.toNat / 16) (by omega)
    have hy := value_digit (n := b.toNat % 16 * 4 + c.toNat / 64) (by omega)
    have hz := value_digit (n := c.toNat % 64) (by omega)
    have hfirst := first_digits a (n := b.toNat / 16) (by omega)
    have hsecond := second_digits b (a.toNat % 4) (n := c.toNat / 64) (by omega)
    have hthird := third_digits c (b.toNat % 16)
    simp [digits, bytes, hw, hx, hy, hz, ih, hfirst, hsecond, hthird]

/-- Decoding undoes encoding. -/
theorem decode_encode (bs : List UInt8) : decode (encode bs) = some bs := by
  simp [decode, encode, bytes_digits]

example : encode [77, 97] = "TWE=" := by decide +kernel

theorem digit_mem (n : Nat) : digit n = '=' ∨ digit n ∈ alphabet := by
  rw [digit, List.getD_eq_getElem?_getD]
  cases hget : alphabet[n]? with
  | none => exact .inl rfl
  | some c => exact .inr (List.mem_of_getElem? hget)

theorem digits_subset (bs : List UInt8) : digits bs ⊆ '=' :: alphabet := by
  induction bs using digits.induct with
  | case1 => exact List.nil_subset _
  | case2 a => simp [digits, digit_mem]
  | case3 a b => simp [digits, digit_mem]
  | case4 a b c rest ih => simp [digits, digit_mem, ih]

/-- A character outside the alphabet does not occur in what is encoded. -/
theorem not_mem_encode {c : Char} (h : c ∉ '=' :: alphabet) (bs : List UInt8) :
    c ∉ (encode bs).toList := by
  rw [encode, String.toList_ofList]
  exact fun hmem => h (digits_subset bs hmem)

end WhatsappGateway.Lib.Base64

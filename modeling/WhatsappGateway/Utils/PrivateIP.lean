import WhatsappGateway.Lib.BytePrefix

/-!
The test for addresses that a webhook must not reach. An address is a byte string, of
length 4 or 16, as in Go's `net` package, whose predicates are here as the package has
them. What the test is for is said of the numbers that the strings stand for.
-/

namespace WhatsappGateway.Utils

open Lib Bytes

abbrev IP := List UInt8

namespace IP

/-- The first twelve bytes of an IPv4 address that is written as an IPv6 address. -/
def v4InV6Prefix : List UInt8 := [0, 0, 0, 0, 0, 0, 0, 0, 0, 0, 255, 255]

def to4 (ip : IP) : Option IP :=
  if ip.length = 4 then some ip
  else if ip.length = 16 ∧ ip.take 12 = v4InV6Prefix then some (ip.drop 12)
  else none

def ipv6loopback : IP := [0, 0, 0, 0, 0, 0, 0, 0, 0, 0, 0, 0, 0, 0, 0, 1]

def ipv6zero : IP := [0, 0, 0, 0, 0, 0, 0, 0, 0, 0, 0, 0, 0, 0, 0, 0]

def byte (ip : IP) (i : Nat) : UInt8 := ip.getD i 0

def isLoopback (ip : IP) : Bool :=
  match ip.to4 with
  | some ip4 => ip4.byte 0 == 127
  | none => ip == ipv6loopback

def isLinkLocalUnicast (ip : IP) : Bool :=
  match ip.to4 with
  | some ip4 => ip4.byte 0 == 169 && ip4.byte 1 == 254
  | none => ip.length == 16 && ip.byte 0 == 0xfe && ip.byte 1 &&& 0xc0 == 0x80

def isLinkLocalMulticast (ip : IP) : Bool :=
  match ip.to4 with
  | some ip4 => ip4.byte 0 == 224 && ip4.byte 1 == 0 && ip4.byte 2 == 0
  | none => ip.length == 16 && ip.byte 0 == 0xff && ip.byte 1 &&& 0x0f == 0x02

def isPrivate (ip : IP) : Bool :=
  match ip.to4 with
  | some ip4 =>
    ip4.byte 0 == 10 || ip4.byte 0 == 172 && ip4.byte 1 &&& 0xf0 == 16 ||
      ip4.byte 0 == 192 && ip4.byte 1 == 168
  | none => ip.length == 16 && ip.byte 0 &&& 0xfe == 0xfc

end IP

/-- A network of IPv4 addresses, with the length of its prefix. -/
structure IPNet where
  ip : IP
  ones : Nat
deriving DecidableEq, Repr

def IPNet.contains (network : IPNet) (ip : IP) : Bool :=
  samePrefix network.ones network.ip (ip.to4.getD ip)

/-- The blocks which the source writes as texts, such as `127.0.0.0/8`. -/
def privateCIDRs : List IPNet :=
  [⟨[127, 0, 0, 0], 8⟩, ⟨[10, 0, 0, 0], 8⟩, ⟨[172, 16, 0, 0], 12⟩, ⟨[192, 168, 0, 0], 16⟩,
    ⟨[169, 254, 0, 0], 16⟩, ⟨[0, 0, 0, 0], 8⟩]

def isPrivateIP (ip : IP) : Bool :=
  let ip := ip.to4.getD ip
  privateCIDRs.any (fun network => network.contains ip) ||
    (ip.isLoopback || ip.isLinkLocalUnicast || ip.isLinkLocalMulticast || ip.isPrivate)

/-! ### What the test is for -/

/-- An address as a number of 32 or of 128 bits. -/
inductive Address where
  | v4 (n : Nat)
  | v6 (n : Nat)
deriving DecidableEq, Repr

namespace Address

def Unspecified : Address → Prop
  | .v4 n => n = 0
  | .v6 n => n = 0

def Loopback : Address → Prop
  | .v4 n => n / 2 ^ 24 = 127
  | .v6 n => n = 1

/-- The blocks 10/8, 172.16/12 and 192.168/16, and fc00::/7. -/
def Private : Address → Prop
  | .v4 n => n / 2 ^ 24 = 10 ∨ n / 2 ^ 20 = 172 * 16 + 1 ∨ n / 2 ^ 16 = 192 * 256 + 168
  | .v6 n => n / 2 ^ 121 = 0xfc / 2

/-- The unicast blocks 169.254/16 and fe80::/10, and the multicast addresses of link-local
scope: 224.0.0/24, and those with a first byte of ff and a scope of 2. -/
def LinkLocal : Address → Prop
  | .v4 n => n / 2 ^ 16 = 169 * 256 + 254 ∨ n / 2 ^ 8 = 224 * 65536
  | .v6 n => n / 2 ^ 118 = 0xfe80 / 64 ∨ n / 2 ^ 120 = 0xff ∧ n / 2 ^ 112 % 16 = 2

/-- An address which a webhook must not reach. -/
def Internal (a : Address) : Prop := a.Unspecified ∨ a.Loopback ∨ a.Private ∨ a.LinkLocal

end Address

/-- The address of a byte string. An IPv4 address may be written in sixteen bytes. -/
def IP.address (ip : IP) : Address :=
  if ip.length = 4 then .v4 (value ip)
  else if value ip / 2 ^ 32 = 0xffff then .v4 (value ip % 2 ^ 32)
  else .v6 (value ip)

variable {ip ip4 : IP} {a b c d : UInt8}

theorem value_split (hlen : ip.length = 16) :
    value ip / 2 ^ 32 = value (ip.take 12) ∧ value ip % 2 ^ 32 = value (ip.drop 12) := by
  have hdrop : (ip.drop 12).length = 4 := by simp [hlen]
  have hlt : value (ip.drop 12) < 2 ^ 32 := by
    have hvalue := @value_lt (ip.drop 12)
    rwa [hdrop] at hvalue
  have hsum : value ip = value (ip.take 12) * 2 ^ 32 + value (ip.drop 12) := by
    conv_lhs => rw [← List.take_append_drop 12 ip]
    rw [value_append, hdrop]
  rw [hsum]
  omega

theorem take_eq_prefix_iff (hlen : ip.length = 16) :
    ip.take 12 = IP.v4InV6Prefix ↔ value ip / 2 ^ 32 = 0xffff := by
  have htake : (ip.take 12).length = IP.v4InV6Prefix.length := by simp [hlen, IP.v4InV6Prefix]
  rw [(value_split hlen).1, ← value_inj htake]
  rfl

/-- The four bytes which `To4` finds are those of an IPv4 address. -/
theorem address_of_to4 (h : ip.to4 = some ip4) :
    ip4.length = 4 ∧ ip.address = .v4 (value ip4) := by
  unfold IP.to4 at h
  unfold IP.address
  split at h
  · next hlen =>
    cases h
    exact ⟨hlen, if_pos hlen⟩
  · next hlen =>
    split at h
    · next hmapped =>
      cases h
      refine ⟨by simp [hmapped.1], ?_⟩
      rw [if_neg hlen, if_pos ((take_eq_prefix_iff hmapped.1).mp hmapped.2),
        (value_split hmapped.1).2]
    · cases h

theorem address_of_not_to4 (hlen : ip.length = 4 ∨ ip.length = 16) (h : ip.to4 = none) :
    ip.length = 16 ∧ ip.address = .v6 (value ip) := by
  unfold IP.to4 at h
  unfold IP.address
  split at h
  · cases h
  · next hne =>
    have hlong : ip.length = 16 := hlen.resolve_left hne
    split at h
    · cases h
    · next hmapped =>
      refine ⟨hlong, ?_⟩
      rw [if_neg hne, if_neg]
      intro hvalue
      exact hmapped ⟨hlong, (take_eq_prefix_iff hlong).mpr hvalue⟩

theorem value_four : value [a, b, c, d] =
    a.toNat * 2 ^ 24 + b.toNat * 2 ^ 16 + c.toNat * 2 ^ 8 + d.toNat := by
  simp [value]
  ring

/-- A test of some leading bits of a byte, as a test of its number. -/
theorem leading_bits {mask : UInt8} {ones n : Nat} (hmask : mask = maskByte ones)
    (hn : n * 2 ^ (8 - ones) < 256) :
    b &&& mask = UInt8.ofNat (n * 2 ^ (8 - ones)) ↔ b.toNat / 2 ^ (8 - ones) = n := by
  have hmasked := @and_maskByte b ones
  rw [hmask, ← UInt8.toNat_inj, hmasked, UInt8.toNat_ofNat_of_lt' hn]
  exact Nat.mul_left_inj (Nat.pos_iff_ne_zero.mp (Nat.two_pow_pos _))

/-- The predicates and blocks for IPv4 are those of the internal addresses, and the whole of
0.0.0.0/8. -/
theorem isPrivateIP_v4 :
    isPrivateIP [a, b, c, d] = true ↔
      value [a, b, c, d] / 2 ^ 24 = 0 ∨ (Address.v4 (value [a, b, c, d])).Internal := by
  have hto4 : IP.to4 [a, b, c, d] = some [a, b, c, d] := rfl
  have hcidr : ∀ base ones, base.length = 4 → ones ≤ 32 →
      ((⟨base, ones⟩ : IPNet).contains [a, b, c, d] = true ↔
        value base / 2 ^ (32 - ones) = value [a, b, c, d] / 2 ^ (32 - ones)) := by
    intro base ones hbase hones
    have hiff := @samePrefix_iff base [a, b, c, d] ones hbase (by omega)
    rwa [hbase] at hiff
  have hf0 : b &&& 0xf0 = 16 ↔ b.toNat / 16 = 1 := @leading_bits b 0xf0 4 1 rfl (by decide)
  have hblocks : (privateCIDRs.any fun network => network.contains [a, b, c, d]) = true ↔
      ∃ network ∈ privateCIDRs, network.contains [a, b, c, d] = true := List.any_eq_true
  rw [isPrivateIP, hto4, Option.getD_some, Bool.or_eq_true, hblocks]
  simp only [privateCIDRs, List.mem_cons, List.not_mem_nil, or_false, exists_eq_or_imp,
    exists_eq_left]
  rw [hcidr _ _ rfl (by decide), hcidr _ _ rfl (by decide), hcidr _ _ rfl (by decide),
    hcidr _ _ rfl (by decide), hcidr _ _ rfl (by decide), hcidr _ _ rfl (by decide)]
  have hn : value [a, b, c, d] = _ := value_four
  generalize value [a, b, c, d] = n at hn ⊢
  have ha := a.toNat_lt
  have hb := b.toNat_lt
  have hc := c.toNat_lt
  have hd := d.toNat_lt
  -- what a prefix says of the bytes
  have h24 : n / 2 ^ 24 = a.toNat := by omega
  have h172 : n / 2 ^ 20 = 172 * 16 + 1 ↔ a.toNat = 172 ∧ b.toNat / 16 = 1 := by omega
  have h192 : n / 2 ^ 16 = 192 * 256 + 168 ↔ a.toNat = 192 ∧ b.toNat = 168 := by omega
  have h169 : n / 2 ^ 16 = 169 * 256 + 254 ↔ a.toNat = 169 ∧ b.toNat = 254 := by omega
  have h224 : n / 2 ^ 8 = 224 * 65536 ↔ a.toNat = 224 ∧ b.toNat = 0 ∧ c.toNat = 0 := by omega
  have hzero : n = 0 → a.toNat = 0 := by omega
  simp only [IP.isLoopback, IP.isLinkLocalUnicast, IP.isLinkLocalMulticast, IP.isPrivate, hto4,
    IP.byte, List.getD_cons_zero, List.getD_cons_succ, Bool.or_eq_true, Bool.and_eq_true,
    beq_iff_eq, hf0, ← UInt8.toNat_inj, value_four, UInt8.reduceToNat, Address.Internal,
    Address.Unspecified, Address.Loopback, Address.Private, Address.LinkLocal, Nat.reduceMul,
    Nat.reduceAdd, Nat.reduceSub, Nat.reducePow, Nat.reduceDiv] at h24 h172 h192 h169 h224 ⊢
  simp only [eq_comm (b := n / _), h24, h172, h192, h169, h224]
  grind

/-- The leading bytes of a number of sixteen. -/
theorem leading_bytes {rest : List UInt8} (hrest : rest.length = 14) (k : Nat) :
    value (a :: b :: rest) / 2 ^ (112 + k) = (a.toNat * 256 + b.toNat) / 2 ^ k := by
  have hlt : value rest < 2 ^ 112 := by
    have hvalue := @value_lt rest
    rwa [hrest] at hvalue
  have hsum : value (a :: b :: rest) = (a.toNat * 256 + b.toNat) * 2 ^ 112 + value rest := by
    rw [value, value, List.length_cons, hrest]
    ring
  rw [hsum, drop_first hlt]

theorem ne_of_length {xs ys : List UInt8} {ones : Nat} (hlen : xs.length ≠ ys.length) :
    samePrefix ones xs ys = false := by
  induction xs generalizing ys ones with
  | nil =>
    cases ys with
    | nil => exact absurd rfl hlen
    | cons y ys => rfl
  | cons x xs ih =>
    cases ys with
    | nil => rfl
    | cons y ys =>
      rw [samePrefix, ih (by simpa using hlen), Bool.and_false]

/-- The predicates for IPv6 are those of the internal addresses, but for the unspecified one. -/
theorem isPrivateIP_v6 (hlen : ip.length = 16) (hto4 : ip.to4 = none) :
    isPrivateIP ip = true ↔ value ip ≠ 0 ∧ (Address.v6 (value ip)).Internal := by
  have hblocks : (privateCIDRs.any fun network => network.contains ip) = false := by
    have hshort : ∀ network ∈ privateCIDRs, network.ip.length = 4 := by decide
    rw [List.any_eq_false]
    intro network hmem
    have hne : network.ip.length ≠ ip.length := by
      rw [hshort network hmem, hlen]
      decide
    rw [IPNet.contains, hto4, Option.getD_none, ne_of_length hne]
    exact Bool.false_ne_true
  have hloop : ip = IP.ipv6loopback ↔ value ip = 1 := (value_inj hlen).symm
  match ip, hlen with
  | a :: b :: rest, hlen =>
    have hrest : rest.length = 14 := by simpa using hlen
    have hfe : a &&& 0xfe = 0xfc ↔ a.toNat / 2 = 126 := @leading_bits a 0xfe 7 126 rfl (by decide)
    have hc0 : b &&& 0xc0 = 0x80 ↔ b.toNat / 64 = 2 := @leading_bits b 0xc0 2 2 rfl (by decide)
    have hscope : b &&& 0x0f = 0x02 ↔ b.toNat % 16 = 2 := by
      rw [← UInt8.toNat_inj, UInt8.toNat_and]
      exact iff_of_eq (congrArg (· = 2) (Nat.and_two_pow_sub_one_eq_mod b.toNat 4))
    rw [isPrivateIP, hto4, Option.getD_none, hblocks, Bool.false_or]
    simp only [IP.isLoopback, IP.isLinkLocalUnicast, IP.isLinkLocalMulticast, IP.isPrivate, hto4,
      IP.byte, List.getD_cons_zero, List.getD_cons_succ, Bool.or_eq_true, Bool.and_eq_true,
      beq_iff_eq, hlen, hloop, hfe, hc0, hscope, true_and, Address.Internal, Address.Unspecified,
      Address.Loopback, Address.Private, Address.LinkLocal]
    rw [@leading_bytes a b rest hrest 9, @leading_bytes a b rest hrest 6,
      @leading_bytes a b rest hrest 8, @leading_bytes a b rest hrest 0]
    simp only [← UInt8.toNat_inj, UInt8.reduceToNat]
    have ha := a.toNat_lt
    have hb := b.toNat_lt
    have hzero : a.toNat ≠ 0 → value (a :: b :: rest) ≠ 0 := by
      intro hne hvalue
      have hlead := @leading_bytes a b rest hrest 0
      rw [hvalue] at hlead
      omega
    omega

/-- An address of four or of sixteen bytes is refused when it is internal, or in 0.0.0.0/8; the
unspecified address of IPv6 is not. -/
theorem isPrivateIP_of_internal (hlen : ip.length = 4 ∨ ip.length = 16)
    (hinternal : ip.address.Internal) (hzero : ip.address ≠ .v6 0) : isPrivateIP ip = true := by
  cases hto4 : ip.to4 with
  | some ip4 =>
    obtain ⟨hfour, haddress⟩ := address_of_to4 hto4
    rw [haddress] at hinternal
    match ip4, hfour with
    | [a, b, c, d], _ =>
      have hsame : isPrivateIP ip = isPrivateIP [a, b, c, d] := by
        rw [isPrivateIP, isPrivateIP, hto4]
        rfl
      rw [hsame, isPrivateIP_v4]
      exact .inr hinternal
  | none =>
    obtain ⟨hlong, haddress⟩ := address_of_not_to4 hlen hto4
    rw [haddress] at hinternal hzero
    exact (isPrivateIP_v6 hlong hto4).mpr ⟨by simpa using hzero, hinternal⟩

theorem address_zero : IP.ipv6zero.address = .v6 0 := by decide +kernel

theorem address_eq_zero_iff (hlen : ip.length = 4 ∨ ip.length = 16) :
    ip.address = .v6 0 ↔ ip = IP.ipv6zero := by
  constructor
  · intro hzero
    cases hto4 : ip.to4 with
    | some ip4 =>
      rw [(address_of_to4 hto4).2] at hzero
      cases hzero
    | none =>
      obtain ⟨hlong, haddress⟩ := address_of_not_to4 hlen hto4
      rw [haddress, Address.v6.injEq] at hzero
      exact (@value_inj ip IP.ipv6zero hlong).mp hzero
  · rintro rfl
    exact address_zero

/-- Of the internal addresses, the test lets through the unspecified one of IPv6. -/
theorem internal_iff_of_not_private (hlen : ip.length = 4 ∨ ip.length = 16)
    (hprivate : isPrivateIP ip = false) : ip.address.Internal ↔ ip = IP.ipv6zero := by
  rw [← address_eq_zero_iff hlen]
  constructor
  · intro hinternal
    by_contra hzero
    rw [isPrivateIP_of_internal hlen hinternal hzero] at hprivate
    cases hprivate
  · intro hzero
    rw [hzero]
    exact .inl rfl

/-- An IPv4 address is treated alike in both of its forms. -/
theorem isPrivateIP_mapped :
    isPrivateIP (IP.v4InV6Prefix ++ [a, b, c, d]) = isPrivateIP [a, b, c, d] := by
  have hto4 : IP.to4 (IP.v4InV6Prefix ++ [a, b, c, d]) = some [a, b, c, d] := by
    simp [IP.to4, IP.v4InV6Prefix]
  rw [isPrivateIP, hto4]
  rfl

end WhatsappGateway.Utils

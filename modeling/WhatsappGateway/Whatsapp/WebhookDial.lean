import WhatsappGateway.Utils.PrivateIP

/-!
The dialer of the webhook sender. It resolves the host itself, refuses the whole list of
addresses when one of them is private, and otherwise dials the first.
-/

namespace WhatsappGateway.Whatsapp

open Utils

/-- What the dialer uses of the `net` package; `lookupIP` is the resolver. -/
structure Net where
  splitHostPort : String → Except String (String × String)
  lookupIP : String → Except String (List IP)
  ipString : IP → String

inductive Dial where
  | failed (err : String)
  | panicked
  | dialed (ip : IP) (port : String)
deriving DecidableEq, Repr

def ssrfSafeDialContext (net : Net) (addr : String) : Dial :=
  match net.splitHostPort addr with
  | .error err => .failed ("invalid address: " ++ err)
  | .ok (host, port) =>
    match net.lookupIP host with
    | .error err => .failed ("DNS resolution failed: " ++ err)
    | .ok ips =>
      match ips.find? isPrivateIP with
      | some ip => .failed ("blocked SSRF: resolved to private IP " ++ net.ipString ip)
      | none =>
        match ips with
        | [] => .panicked
        | ip :: _ => .dialed ip port

/-- The dialer connects to no internal address. -/
def DialsNothingInternal (net : Net) (addr : String) : Prop :=
  ∀ ip port, ssrfSafeDialContext net addr = .dialed ip port → ¬ ip.address.Internal

variable {net : Net} {addr host port : String} {ips : List IP}

/-- The address that is dialed is the first of a list without a private one. -/
theorem dialed_iff (hsplit : net.splitHostPort addr = .ok (host, port))
    (hlookup : net.lookupIP host = .ok ips) (ip : IP) (port' : String) :
    ssrfSafeDialContext net addr = .dialed ip port' ↔
      port = port' ∧ ips.head? = some ip ∧ ∀ ip ∈ ips, isPrivateIP ip = false := by
  simp only [ssrfSafeDialContext, hsplit, hlookup]
  cases hfind : ips.find? isPrivateIP with
  | some found =>
    have hfound := List.find?_some hfind
    have hmem := List.mem_of_find?_eq_some hfind
    constructor
    · rintro ⟨⟩
    · rintro ⟨-, -, hnone⟩
      rw [hnone found hmem] at hfound
      cases hfound
  | none =>
    have hnone : ∀ ip ∈ ips, isPrivateIP ip = false := by simpa using hfind
    cases ips with
    | nil => simp
    | cons first rest =>
      simp only [Dial.dialed.injEq, List.head?_cons, Option.some.injEq]
      constructor
      · rintro ⟨hip, hport⟩
        exact ⟨hport, hip, hnone⟩
      · rintro ⟨hport, hip, -⟩
        exact ⟨hip, hport⟩

/-- A resolver that answers every host with the same addresses. -/
def fixedNet (ips : List IP) : Net where
  splitHostPort _ := .ok ("hooks.example.com", "8080")
  lookupIP _ := .ok ips
  ipString _ := "address"

/-- Whatever the resolver answers, the dialer connects to no internal address. -/
def GuardHolds : Prop :=
  ∀ net addr host port ips, net.splitHostPort addr = .ok (host, port) →
    net.lookupIP host = .ok ips → ips ≠ [] → (∀ ip ∈ ips, ip.length = 4 ∨ ip.length = 16) →
    DialsNothingInternal net addr

end WhatsappGateway.Whatsapp

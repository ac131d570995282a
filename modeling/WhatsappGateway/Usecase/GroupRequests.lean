import WhatsappGateway.Usecase.SendRequests

/-!
What the group operations and the reads of the usecase share: their switches, their
errors, and how they resolve a group.
-/

namespace WhatsappGateway.Usecase

open Lib SendMessage

structure GroupConfig where
  groupManagementEnabled : Bool := true
  groupAddParticipantsEnabled : Bool := true
  groupMaxParticipantsPerRequest : Int := 256
  groupJoinViaLinkEnabled : Bool := true
deriving DecidableEq, Repr

/-- The errors of the operations: those of the send paths, the other kinds which the
usecase raises itself, and what a call below it fails with. -/
inductive Fault where
  | domain (err : DomainError)
  | notFound (err : String)
  | forbidden (err : String)
  | tooManyRequests (err : String)
  | failed (err : String)
deriving DecidableEq, Repr

def requireGroupManagement (cfg : GroupConfig) : Except Fault Unit :=
  if cfg.groupManagementEnabled then .ok ()
  else .error (.notFound "group management is disabled")

def resolveTarget (env : Env) (chat msisdn : String) : Except Fault String :=
  (resolveChat env chat msisdn).mapError .domain

def hasGroupServer (target : String) : Bool :=
  "@g.us".toList.isSuffixOf target.toList

/-- The target of an operation on a group or a community. -/
def resolveGroupJID (env : Env) (chat msisdn : String) : Except Fault String := do
  let target ← resolveTarget env chat msisdn
  if hasGroupServer target then return target
  else .error (.domain (badRequest
    ("chat must be a group/community JID (@g.us), got " ++ env.quote target)))

section Targets

variable {env : Env} {chat msisdn target : String}

theorem resolveTarget_canonical (h : resolveTarget env chat msisdn = .ok target) :
    Canonical target := by
  unfold resolveTarget at h
  cases hresolve : resolveChat env chat msisdn with
  | error err =>
    rw [hresolve] at h
    cases h
  | ok resolved =>
    rw [hresolve] at h
    obtain rfl : resolved = target := Except.ok.inj h
    exact resolveChat_canonical hresolve

theorem resolveGroupJID_canonical (h : resolveGroupJID env chat msisdn = .ok target) :
    Canonical target := by
  obtain ⟨resolved, hresolve, hgroup⟩ := bind_eq_ok.mp h
  split at hgroup
  · obtain rfl : resolved = target := Except.ok.inj hgroup
    exact resolveTarget_canonical hresolve
  · cases hgroup

/-- Neither the digits nor a valid server contain a colon. -/
theorem canonical_no_colon (h : Canonical target) : ':' ∉ target.toList := by
  obtain ⟨user, server, huser, hserver, rfl⟩ := h
  have hdigits : ':' ∉ user.toList := not_mem_digits huser rfl
  have hserver : ':' ∉ server.toList := by
    simp only [validJIDServers, List.mem_cons, List.not_mem_nil, or_false] at hserver
    obtain rfl | rfl | rfl := hserver <;> decide
  simp [String.toList_append, hdigits, hserver]

end Targets

end WhatsappGateway.Usecase

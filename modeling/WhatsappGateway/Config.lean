import Mathlib.Data.Rat.Init
import WhatsappGateway.Lib.GoTime

/-!
The configuration values which the modelled components read, with their
defaults and with the clamps of `normalize`. Floating-point values are exact
rationals here.
-/

namespace WhatsappGateway

open Lib

/-- The loaded configuration, before `normalize`. Each default is the struct
tag of the field. -/
structure Config where
  jwtDurationMinutes : Int := 1440
  sendTimeoutSeconds : Int := 20
  outboundPaceEnabled : Bool := true
  outboundPaceMode : String := "pace"
  outboundPaceRatePerSecond : ℚ := 1
  outboundPaceBurst : ℚ := 5
  outboundPaceMaxWaitSeconds : Int := 30
  outboundPaceJitterMs : Int := 250
  outboundPacePerRecipientRequests : Int := 10
  outboundPacePerRecipientWindowSeconds : Int := 60
  outboundPaceBanDefaultHoldSeconds : Int := 3600
  idempotencyTTLSeconds : Int := 86400
  idempotencyPendingTimeoutSeconds : Int := 30
  rabbitMQPublishConfirm : Bool := true
  queueMaxRetries : Int := 3
  queueDedupEnabled : Bool := true
  queueDedupTTLSeconds : Int := 600
deriving DecidableEq, Repr

namespace Config

def maxJWTDurationMinutes : Int := 525600

/-- Clamp derived values into safe ranges after environment loading. -/
def normalize (c : Config) : Config :=
  { c with
    jwtDurationMinutes :=
      if c.jwtDurationMinutes ≤ 0 ∨ c.jwtDurationMinutes > maxJWTDurationMinutes then 1440
      else c.jwtDurationMinutes
    outboundPaceRatePerSecond :=
      if c.outboundPaceRatePerSecond ≤ 0 then 1 else c.outboundPaceRatePerSecond
    outboundPaceBurst := if c.outboundPaceBurst < 1 then 1 else c.outboundPaceBurst
    outboundPaceMaxWaitSeconds :=
      if c.outboundPaceMaxWaitSeconds < 0 then 0 else c.outboundPaceMaxWaitSeconds
    outboundPaceJitterMs := if c.outboundPaceJitterMs < 0 then 0 else c.outboundPaceJitterMs
    outboundPaceMode := if c.outboundPaceMode ≠ "reject" then "pace" else c.outboundPaceMode
    sendTimeoutSeconds :=
      -- negative disables (0); positive values below 5 s would flap
      if c.sendTimeoutSeconds < 0 then 0
      else if c.sendTimeoutSeconds > 0 ∧ c.sendTimeoutSeconds < 5 then 5
      else c.sendTimeoutSeconds }

/-- Every default passes its own clamp. -/
theorem normalize_default : normalize {} = {} := by decide

theorem normalize_idempotent (c : Config) : c.normalize.normalize = c.normalize := by
  simp only [normalize, Config.mk.injEq, maxJWTDurationMinutes]
  grind

end Config

end WhatsappGateway

import Mathlib.Data.List.Infix
import WhatsappGateway.Lib.GoErrors

/-!
How the client translates an error of whatsmeow into a domain error. The checks run in a
fixed order, each over the whole tree of wrapped errors; only the last two read the text.
-/

namespace WhatsappGateway.Whatsapp

open Lib

/-- The errors that `mapWhatsmeowErr` looks for. -/
inductive Sentinel where
  | deadlineExceeded
  | deviceDeleted
  | groupNotFound
  | profilePictureNotSet
  | notInGroup
  | profilePictureUnauthorized
  | invalidImageFormat
  | inviteLinkRevoked
  | inviteLinkInvalid
  | groupInviteLinkUnauthorized
  | serverReturnedError
deriving DecidableEq, Repr

/-- The part of a `*whatsmeow.IQError` that is read. -/
structure IQError where
  code : Int
deriving DecidableEq, Repr

abbrev Err := GoError Sentinel IQError

inductive ServiceError where
  | badRequest
  | notFound
  | internalFailure
  | unauthorized
  | forbidden
  | conflict
  | tooManyRequests
  | gone
  | gatewayTimeout
deriving DecidableEq, Repr

/-- `errDomain.Error`. -/
structure DomainError where
  svcError : ServiceError
  appErr : Err

def errWhatsappTimeout : String :=
  "whatsapp did not respond in time; the operation was aborted before completion"

def errClientNotFound : String :=
  "no active WhatsApp session for this number; link via QR or pair code"

def errClientSessionDeleted : String :=
  "WhatsApp session was deleted by server, please re-pair via QR or pair code"

def gatewayTimeoutErr : DomainError := ⟨.gatewayTimeout, .new errWhatsappTimeout⟩

def mapIQError (err : Err) : Option DomainError :=
  err.asTyped.map fun iq =>
    if iq.code ∈ [400, 405, 406] then ⟨.badRequest, err⟩
    else if iq.code ∈ [401, 403] then ⟨.forbidden, err⟩
    else if iq.code = 404 then ⟨.notFound, err⟩
    else if iq.code ∈ [409, 423] then ⟨.conflict, err⟩
    else if iq.code = 410 then ⟨.gone, err⟩
    else if iq.code ∈ [419, 429] then ⟨.tooManyRequests, err⟩
    else ⟨.internalFailure, err⟩

def digitsValue (digits : List Char) : Option Nat :=
  if digits ≠ [] ∧ digits.all Char.isDigit then
    some (digits.foldl (fun n c => 10 * n + (c.toNat - '0'.toNat)) 0)
  else none

/-- `strconv.Atoi`, for a 64-bit `int`. -/
def atoi (s : List Char) : Option Int :=
  let parsed : Option Int :=
    match s with
    | '-' :: digits => (digitsValue digits).map fun n => -(n : Int)
    | '+' :: digits => (digitsValue digits).map Int.ofNat
    | digits => (digitsValue digits).map Int.ofNat
  parsed.filter fun n => -9223372036854775808 ≤ n ∧ n < 9223372036854775808

/-- The number after the last blank of the message, 0 without one. -/
def sendAckCode (err : Err) : Int :=
  (atoi (err.message.toList.reverse.takeWhile (· ≠ ' ')).reverse).getD 0

def ackReachoutTimelocked : Int := 463

def mapSendAckError (err : Err) : Option DomainError :=
  if !err.is .serverReturnedError then none
  else if sendAckCode err = ackReachoutTimelocked then
    some ⟨.tooManyRequests, .new
      ("whatsapp reach-out time lock: this account cannot start a new conversation with that " ++
        "recipient yet; message a contact with existing history, or retry after the lock lifts")⟩
  else none

/-- `unicode.ToLower`, as far as the result is an ASCII letter: two letters outside ASCII
have one. -/
def lowerChar (c : Char) : Char :=
  if c.toNat = 0x212A then 'k'
  else if c.toNat = 0x130 then 'i'
  else c.toLower

def isRecipientError (err : Err) : Bool :=
  let msg := err.message.toList.map lowerChar
  "unknown server".toList <:+: msg ∨ "invalid jid".toList <:+: msg ∨ "recipient".toList <:+: msg

/-- A domain error, and whether the client of the account is evicted. -/
structure Mapped where
  err : DomainError
  evicted : Bool

def mapWhatsmeowErr (err : Err) : Mapped :=
  if err.is .deadlineExceeded then ⟨gatewayTimeoutErr, false⟩
  else if err.is .deviceDeleted then ⟨⟨.conflict, .new errClientSessionDeleted⟩, true⟩
  else if err.is .groupNotFound || err.is .profilePictureNotSet then ⟨⟨.notFound, err⟩, false⟩
  else if err.is .notInGroup || err.is .profilePictureUnauthorized then ⟨⟨.forbidden, err⟩, false⟩
  else if err.is .invalidImageFormat then
    ⟨⟨.badRequest, .new "group photo must be a JPEG"⟩, false⟩
  else if err.is .inviteLinkRevoked then ⟨⟨.gone, err⟩, false⟩
  else if err.is .inviteLinkInvalid then ⟨⟨.badRequest, err⟩, false⟩
  else if err.is .groupInviteLinkUnauthorized then ⟨⟨.forbidden, err⟩, false⟩
  else
    match mapIQError err with
    | some mapped => ⟨mapped, false⟩
    | none =>
      match mapSendAckError err with
      | some mapped => ⟨mapped, false⟩
      | none =>
        if isRecipientError err then ⟨⟨.badRequest, err⟩, false⟩
        else ⟨⟨.internalFailure, err⟩, false⟩

variable {err : Err}

/-- The deadline is looked for first. -/
theorem mapWhatsmeowErr_deadline (h : err.is .deadlineExceeded = true) :
    mapWhatsmeowErr err = ⟨gatewayTimeoutErr, false⟩ :=
  if_pos h

end WhatsappGateway.Whatsapp

import WhatsappGateway.Lib.Fields
import WhatsappGateway.Ratelimiter.Pacer
import WhatsappGateway.Ratelimiter.WindowBound
import WhatsappGateway.Usecase.GroupRequests

/-!
The pacer's cap for each account and recipient. The recipients are canonical, so they contain
no colon, and a pair can be read off its key whatever the account's phone number is.
-/

namespace WhatsappGateway.Usecase

open Lib Ratelimiter SendMessage
open MemoryLimiter (Request Answer Served opens serve starts grants CapEach served_capEach)

/-- An account, by its phone number, and a recipient. -/
abbrev Pair := String × { recipient : String // Canonical recipient }

def Pair.key (pair : Pair) : String := pair.1 ++ ":" ++ pair.2

theorem Pair.key_injective : Function.Injective Pair.key := by
  intro pair other h
  have hlist : pair.1.toList ++ ':' :: pair.2.val.toList =
      other.1.toList ++ ':' :: other.2.val.toList := by
    simpa [Pair.key] using congrArg String.toList h
  obtain ⟨hphone, hrecipient⟩ :=
    split_last_inj (canonical_no_colon pair.2.2) (canonical_no_colon other.2.2) hlist
  exact Prod.ext (String.toList_inj.mp hphone) (Subtype.ext (String.toList_inj.mp hrecipient))

theorem canonical_ne_empty {recipient : String} (h : Canonical recipient) : recipient ≠ "" := by
  obtain ⟨user, server, -, -, rfl⟩ := h
  intro hempty
  simpa using congrArg String.toList hempty

/-- The check of the recipient's cap in a call of `Wait`, logged. -/
def countSend (p : Pacer) (s : Served Pair) (r : Request Pair) : Option (Served Pair) :=
  let result := p.countRecipient r.target.1 r.target.2 r.n s.windows r.now r.later
  let opened := p.recipient.any fun m => opens (s.windows (m.keyPrefix ++ r.target.key)) r.now
  some ⟨result.1, ⟨r.target, r.n, r.now, opened, result.2 = .counted⟩ :: s.answers⟩

/-- The check is a request to the limiter, under the key of the pair. -/
theorem countSend_eq {p : Pacer} {m : MemoryLimiter} (h : p.recipient = some m) :
    countSend p = m.serve Pair.key := by
  funext s r
  have hrecipient : r.target.2.val ≠ "" := canonical_ne_empty r.target.2.2
  simp only [countSend, Pacer.countRecipient, h, serve, if_neg hrecipient, Option.any_some,
    Pair.key]
  cases (m.allowN s.windows (r.target.1 ++ ":" ++ r.target.2) r.n r.now r.later).2.allowed with
  | false => rfl
  | true => rfl

/-- The recipients' limiter of a pacer: two sends a minute. -/
def twoAMinute : MemoryLimiter := ⟨2, 60 * Duration.second, "rcpt:"⟩

def cappingPacer : Pacer where
  enabled := true
  mode := "pace"
  account := newTokenBucketLimiter ⟨100, 100, "acct:"⟩
  recipient := some twoAMinute
  hasFallback := true
  maxWait := 10 * Duration.second
  jitter := 0

def toMember : Pair :=
  ("628111", ⟨"628222@s.whatsapp.net", "628222", "s.whatsapp.net", by decide, by decide, rfl⟩)

def toGroup : Pair :=
  ("628111", ⟨"120363@g.us", "120363", "g.us", by decide, by decide, rfl⟩)

/-- A member's cap is used up, and the group is still sent to. -/
def capped : List (Request Pair) :=
  [⟨toMember, 1, 0, 0⟩, ⟨toMember, 1, 1, 1⟩, ⟨toMember, 1, 2, 2⟩, ⟨toGroup, 1, 3, 3⟩]

end WhatsappGateway.Usecase

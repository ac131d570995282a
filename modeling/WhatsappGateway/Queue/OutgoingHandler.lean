import Mathlib.Data.Rat.Init
import WhatsappGateway.Lib.Run
import WhatsappGateway.Queue.Constants
import WhatsappGateway.Queue.Dedup

/-!
The worker's handler of outgoing message jobs. One job may be delivered any
number of times, and several deliveries may be in `Handle` at once: a worker that
is still sending when the connection is lost, and the one that gets the
redelivery. All of them share the dedup cache of the process. The steps of a
delivery are those at which it touches something outside itself.

The pacer, the manager, the job table and the webhook sender are part of the
environment; what `Handle` asks of the last three is logged.
-/

namespace WhatsappGateway.Outgoing

open Lib Queue

structure MessageContext where
  replyToID : String
  replyToSender : String
  replyToText : String
  mentions : List String
deriving DecidableEq, Repr

structure OutgoingMessageJob where
  jobID : String
  phoneNumber : String
  type : String
  recipient : String
  text : String := ""
  imageData : String := ""
  mimeType : String := ""
  caption : String := ""
  isViewOnce : Bool := false
  messageID : String := ""
  emoji : String := ""
  senderMsisdn : String := ""
  newText : String := ""
  fileName : String := ""
  isPTT : Bool := false
  isGif : Bool := false
  latitude : ℚ := 0
  longitude : ℚ := 0
  locationName : String := ""
  locationAddress : String := ""
  question : String := ""
  options : List String := []
  selectableCount : Int := 0
  replyToID : String := ""
  replyToSender : String := ""
  replyToText : String := ""
  mentions : List String := []
deriving DecidableEq, Repr

/-- The reply and mentions context carried on a queued job. -/
def jobMessageContext (job : OutgoingMessageJob) : MessageContext where
  replyToID := job.replyToID
  replyToSender := job.replyToSender
  replyToText := job.replyToText
  mentions := job.mentions

/-- The operations of the Manager. -/
inductive ManagerOp where
  | sendTextMessage (text : String) (ctx : MessageContext)
  | sendImageMessage (bytes : List UInt8) (mimeType caption : String) (isViewOnce : Bool)
      (ctx : MessageContext)
  | sendAudioMessage (bytes : List UInt8) (mimeType : String) (isPTT isViewOnce : Bool)
      (ctx : MessageContext)
  | sendVideoMessage (bytes : List UInt8) (mimeType caption : String) (isGif isViewOnce : Bool)
      (ctx : MessageContext)
  | sendDocumentMessage (bytes : List UInt8) (mimeType fileName caption : String)
      (ctx : MessageContext)
  | sendLocationMessage (latitude longitude : ℚ) (name address : String) (ctx : MessageContext)
  | sendPollMessage (question : String) (options : List String) (selectableCount : Int)
      (ctx : MessageContext)
  | sendStickerMessage (bytes : List UInt8) (mimeType : String) (ctx : MessageContext)
  | reactToMessage (senderMsisdn messageID emoji : String)
  | deleteMessage (messageID : String)
  | editMessage (messageID newText : String)
deriving DecidableEq, Repr

/-- A call of the Manager: an operation for an account and a recipient. -/
structure ManagerCall where
  phoneNumber : String
  recipient : String
  op : ManagerOp
deriving DecidableEq, Repr

/-- Base64 decoding as a function: the bytes, or the text of the error. -/
abbrev DecodeString := String → Except String (List UInt8)

/-- A media job: decode its data, then call. -/
def decoded (decodeString : DecodeString) (kind : String) (job : OutgoingMessageJob)
    (op : List UInt8 → ManagerOp) : Except String ManagerOp :=
  match decodeString job.imageData with
  | .error err => .error ("failed to decode " ++ kind ++ " data: " ++ err)
  | .ok bytes => .ok (op bytes)

/-- The switch of `Handle` on the job type: the operation of the Manager, or the
error that keeps the job from reaching it. -/
def jobOp (decodeString : DecodeString) (job : OutgoingMessageJob) : Except String ManagerOp :=
  let ctx := jobMessageContext job
  match job.type with
  | "text" => .ok (.sendTextMessage job.text ctx)
  | "image" => decoded decodeString "image" job fun bytes =>
      .sendImageMessage bytes job.mimeType job.caption job.isViewOnce ctx
  | "audio" => decoded decodeString "audio" job fun bytes =>
      .sendAudioMessage bytes job.mimeType job.isPTT job.isViewOnce ctx
  | "video" => decoded decodeString "video" job fun bytes =>
      .sendVideoMessage bytes job.mimeType job.caption job.isGif job.isViewOnce ctx
  | "document" => decoded decodeString "document" job fun bytes =>
      .sendDocumentMessage bytes job.mimeType job.fileName job.caption ctx
  | "location" => .ok (.sendLocationMessage job.latitude job.longitude job.locationName
      job.locationAddress ctx)
  | "poll" => .ok (.sendPollMessage job.question job.options job.selectableCount ctx)
  | "sticker" => decoded decodeString "sticker" job fun bytes =>
      .sendStickerMessage bytes job.mimeType ctx
  | "react" => .ok (.reactToMessage job.senderMsisdn job.messageID job.emoji)
  | "delete" => .ok (.deleteMessage job.messageID)
  | "edit" => .ok (.editMessage job.messageID job.newText)
  | type => .error ("unknown job type: " ++ type)

/-- The call of the Manager that a job stands for. -/
def dispatch (decodeString : DecodeString) (job : OutgoingMessageJob) :
    Except String ManagerCall :=
  (jobOp decodeString job).map fun op => ⟨job.phoneNumber, job.recipient, op⟩

/-- The message id of a successful call: that of the message acted on when the
Manager returns none. -/
def sentID (job : OutgoingMessageJob) (call : ManagerCall) (returned : String) : String :=
  match call.op with
  | .reactToMessage .. => job.messageID
  | .deleteMessage .. => job.messageID
  | .editMessage .. => job.messageID
  | _ => returned

/-- How `Handle` returns. -/
inductive Outcome where
  | ok
  | rateLimited (retryAfter : Int)
  | failed (err : String)
deriving DecidableEq, Repr

/-- What `Handle` does outside the process and the cache. -/
inductive Effect where
  | updateStatus (status messageID errorMessage : String)
  | call (call : ManagerCall) (err : Option String)
  | statusWebhook (event messageID errorMsg : String)
deriving DecidableEq, Repr

/-- The point which a delivery of the job has reached in `Handle`. -/
inductive Phase where
  /-- before `IsDuplicate` -/
  | delivered
  /-- before `Pacer.Wait` -/
  | fresh
  /-- before the job is set to processing -/
  | paced
  /-- before the call of the Manager -/
  | processing
  /-- before the job is set to completed -/
  | sent (messageID : String)
  /-- before `MarkProcessed` -/
  | completed (messageID : String)
  /-- before the success webhook -/
  | marked (messageID : String)
  /-- before the job is set to failed -/
  | failing (err : String)
  /-- before the failure webhook -/
  | failed (err : String)
  | done (outcome : Outcome)
deriving DecidableEq, Repr

/-- One step of a delivery, with what the environment contributes: the pacer's
answer, or the Manager's. -/
inductive Work where
  | check
  | wait (answer : Outcome)
  | updateProcessing
  | send (returned : String) (err : Option String)
  | updateCompleted
  | mark
  | notifySent
  | updateFailed
  | notifyFailed
deriving DecidableEq

structure State where
  now : Int
  dedup : Option DedupCache
  deliveries : Nat → Option Phase
  log : List (Nat × Effect)

def failureText (err : String) : String := "Failed to process job: " ++ err

/-- One step of `Handle`: the cache, what is logged, and the next point. -/
def handle (decodeString : DecodeString) (job : OutgoingMessageJob) (now : Int)
    (dedup : Option DedupCache) : Phase → Work → Option (Option DedupCache × List Effect × Phase)
  | .delivered, .check =>
    let (duplicate, dedup) := isDuplicate now dedup queueOutgoingMessages job.jobID
    some (dedup, [], if duplicate then .done .ok else .fresh)
  | .fresh, .wait answer => some (dedup, [], if answer = .ok then .paced else .done answer)
  | .paced, .updateProcessing => some (dedup, [.updateStatus "processing" "" ""], .processing)
  | .processing, .send returned err =>
    match dispatch decodeString job with
    | .error err => some (dedup, [], .failing err)
    | .ok call =>
      match err with
      | some err => some (dedup, [.call call (some err)], .failing err)
      | none => some (dedup, [.call call none], .sent (sentID job call returned))
  | .sent messageID, .updateCompleted =>
    some (dedup, [.updateStatus "completed" messageID ""], .completed messageID)
  | .completed messageID, .mark =>
    some (markProcessed now dedup queueOutgoingMessages job.jobID, [], .marked messageID)
  | .marked messageID, .notifySent =>
    some (dedup, [.statusWebhook "message.sent" messageID ""], .done .ok)
  | .failing err, .updateFailed =>
    some (dedup, [.updateStatus "failed" "" (failureText err)], .failed err)
  | .failed err, .notifyFailed =>
    some (dedup, [.statusWebhook "message.failed" "" (failureText err)], .done (.failed err))
  | _, _ => none

inductive Action where
  | tick (d : Int)
  /-- the broker delivers the job, for the first time or again -/
  | deliver (i : Nat)
  | work (i : Nat) (w : Work)
  /-- a handler checks another message, of any queue -/
  | checkOther (scope id : String)
  /-- a handler marks another message, of any queue -/
  | markOther (scope id : String)
deriving DecidableEq

def step (decodeString : DecodeString) (job : OutgoingMessageJob) (s : State) :
    Action → Option State
  | .tick d => if 0 ≤ d then some { s with now := s.now + d } else none
  | .deliver i =>
    match s.deliveries i with
    | none => some { s with deliveries := Function.update s.deliveries i (some .delivered) }
    | some _ => none
  | .work i w =>
    match s.deliveries i with
    | none => none
    | some phase =>
      match handle decodeString job s.now s.dedup phase w with
      | none => none
      | some (dedup, effects, phase) =>
        some { s with
          dedup := dedup
          deliveries := Function.update s.deliveries i (some phase)
          log := s.log ++ effects.map fun effect => (i, effect) }
  | .checkOther scope id => some { s with dedup := (isDuplicate s.now s.dedup scope id).2 }
  | .markOther scope id => some { s with dedup := markProcessed s.now s.dedup scope id }

/-- The workers of a configuration have just started. -/
def init (cfg : Config) (now : Int) : State where
  now := now
  dedup := provideDedup cfg now
  deliveries := fun _ => none
  log := []

/-- The successful calls of the Manager: the deliveries that made them. -/
def sends (s : State) : List Nat :=
  s.log.filterMap fun entry =>
    match entry.2 with
    | .call _ none => some entry.1
    | _ => none

end WhatsappGateway.Outgoing

import WhatsappGateway.Queue.OutgoingOnce

/-!
The send usecase on a queue-enabled path, together with the workers. A request
is validated, published as a job, and sent directly when the publish reports an
error. The broker is between the two: it may accept what has been written to it
at any later time, also after the usecase has given the publish up.
-/

namespace WhatsappGateway.SendMessage

open Lib Outgoing

/-- What a validated request sends. -/
inductive SendContent where
  | text (message : String)
  | image (bytes : List UInt8) (mimeType caption : String) (isViewOnce : Bool)
  | audio (bytes : List UInt8) (mimeType : String) (isPTT isViewOnce : Bool)
  | video (bytes : List UInt8) (mimeType caption : String) (isGif isViewOnce : Bool)
  | document (bytes : List UInt8) (mimeType fileName caption : String)
  | location (latitude longitude : ℚ) (name address : String)
  | poll (question : String) (options : List String) (selectableCount : Int)
  | sticker (bytes : List UInt8) (mimeType : String)
deriving DecidableEq, Repr

/-- A validated request; `jobID` is the fresh id of its job. -/
structure SendRequest where
  jobID : String
  phoneNumber : String
  recipient : String
  ctx : MessageContext
  content : SendContent
deriving DecidableEq, Repr

/-- The fields of a job that do not depend on the content. -/
def baseJob (req : SendRequest) (type : String) : OutgoingMessageJob where
  jobID := req.jobID
  phoneNumber := req.phoneNumber
  type := type
  recipient := req.recipient
  replyToID := req.ctx.replyToID
  replyToSender := req.ctx.replyToSender
  replyToText := req.ctx.replyToText
  mentions := req.ctx.mentions

/-- The job which each send path publishes. -/
def job (encodeToString : List UInt8 → String) (req : SendRequest) : OutgoingMessageJob :=
  match req.content with
  | .text message => { baseJob req "text" with text := message }
  | .image bytes mimeType caption isViewOnce =>
    { baseJob req "image" with
      imageData := encodeToString bytes
      mimeType := mimeType
      caption := caption
      isViewOnce := isViewOnce }
  | .audio bytes mimeType isPTT isViewOnce =>
    { baseJob req "audio" with
      imageData := encodeToString bytes
      mimeType := mimeType
      isPTT := isPTT
      isViewOnce := isViewOnce }
  | .video bytes mimeType caption isGif isViewOnce =>
    { baseJob req "video" with
      imageData := encodeToString bytes
      mimeType := mimeType
      caption := caption
      isGif := isGif
      isViewOnce := isViewOnce }
  | .document bytes mimeType fileName caption =>
    { baseJob req "document" with
      imageData := encodeToString bytes
      mimeType := mimeType
      fileName := fileName
      caption := caption }
  | .location latitude longitude name address =>
    { baseJob req "location" with
      latitude := latitude
      longitude := longitude
      locationName := name
      locationAddress := address }
  | .poll question options selectableCount =>
    { baseJob req "poll" with
      question := question
      options := options
      selectableCount := selectableCount }
  | .sticker bytes mimeType =>
    { baseJob req "sticker" with
      imageData := encodeToString bytes
      mimeType := mimeType }

/-- The call of the Manager which each send path makes itself. -/
def directCall (req : SendRequest) : ManagerCall where
  phoneNumber := req.phoneNumber
  recipient := req.recipient
  op :=
    match req.content with
    | .text message => .sendTextMessage message req.ctx
    | .image bytes mimeType caption isViewOnce =>
      .sendImageMessage bytes mimeType caption isViewOnce req.ctx
    | .audio bytes mimeType isPTT isViewOnce =>
      .sendAudioMessage bytes mimeType isPTT isViewOnce req.ctx
    | .video bytes mimeType caption isGif isViewOnce =>
      .sendVideoMessage bytes mimeType caption isGif isViewOnce req.ctx
    | .document bytes mimeType fileName caption =>
      .sendDocumentMessage bytes mimeType fileName caption req.ctx
    | .location latitude longitude name address =>
      .sendLocationMessage latitude longitude name address req.ctx
    | .poll question options selectableCount =>
      .sendPollMessage question options selectableCount req.ctx
    | .sticker bytes mimeType => .sendStickerMessage bytes mimeType req.ctx

/-- The worker and the direct fallback send the same message. -/
theorem dispatch_job {decodeString : DecodeString} {encodeToString : List UInt8 → String}
    (hbase64 : ∀ bytes, decodeString (encodeToString bytes) = .ok bytes) (req : SendRequest) :
    dispatch decodeString (job encodeToString req) = .ok (directCall req) := by
  obtain ⟨jobID, phoneNumber, recipient, ctx, content⟩ := req
  cases content <;>
    simp [dispatch, jobOp, decoded, job, baseJob, directCall, jobMessageContext, hbase64,
      Except.map]

/-- What the broker has of the job. -/
inductive Wire where
  | unwritten
  | written
  | accepted
  | rejected
deriving DecidableEq, Repr

/-- The reply to the request. -/
inductive Reply where
  | direct (messageID : String)
  | queued (jobID : String)
  | paced (answer : Outcome)
  | failed (err : String)
deriving DecidableEq, Repr

/-- The point which the request has reached. -/
inductive Phase where
  /-- before `IsHealthy` -/
  | validated
  /-- before `PublishOutgoingMessage` writes the job -/
  | publishing
  /-- before the broker's confirm -/
  | awaiting
  /-- before the job record is created -/
  | published
  /-- before the queued webhook -/
  | created
  /-- before `pace` -/
  | fallback
  /-- before the direct call of the Manager -/
  | paced
  /-- before the sent webhook -/
  | sent (messageID : String)
  /-- before the failure webhook -/
  | failed (err : String)
  | done (reply : Reply)
deriving DecidableEq, Repr

/-- How the write of a publish ends: nothing was written, it reported an error
although the frames may have gone out, or it went well. -/
inductive Written where
  | refused
  | broken
  | ok
deriving DecidableEq, Repr

/-- How the wait for the confirm ends. -/
inductive Confirm where
  | acked
  | nacked
  | failed
deriving DecidableEq, Repr

inductive Effect where
  | createJob (jobID status phoneNumber : String)
  | call (call : ManagerCall) (err : Option String)
  | statusWebhook (event messageID errorMsg : String)
deriving DecidableEq, Repr

structure State where
  phase : Phase
  wire : Wire
  log : List Effect
  worker : Outgoing.State

/-- One step of the request, with what the environment contributes. -/
inductive Move where
  | health (healthy : Bool)
  | publish (written : Written)
  | confirm (outcome : Confirm)
  | createJob
  | notifyQueued
  | pace (answer : Outcome)
  | send (returned : String) (err : Option String)
  | notifySent
  | notifyFailed
deriving DecidableEq

/-- One step of the usecase: what the broker has, what is logged, and the next
point. A broker acks what it has accepted, and nacks what it will not accept. -/
def advance (cfg : Config) (req : SendRequest) (wire : Wire) :
    Phase → Move → Option (Wire × List Effect × Phase)
  | .validated, .health healthy =>
    some (wire, [], if healthy then .publishing else .fallback)
  | .publishing, .publish .refused => some (wire, [], .fallback)
  | .publishing, .publish .broken => some (.written, [], .fallback)
  | .publishing, .publish .ok =>
    some (.written, [], if cfg.rabbitMQPublishConfirm then .awaiting else .published)
  | .awaiting, .confirm .acked =>
    if wire = .accepted then some (wire, [], .published) else none
  | .awaiting, .confirm .nacked =>
    if wire = .written then some (.rejected, [], .fallback) else none
  | .awaiting, .confirm .failed => some (wire, [], .fallback)
  | .published, .createJob =>
    some (wire, [.createJob req.jobID "queued" req.phoneNumber], .created)
  | .created, .notifyQueued =>
    some (wire, [.statusWebhook "message.queued" "" ""], .done (.queued req.jobID))
  | .fallback, .pace answer =>
    some (wire, [], if answer = .ok then .paced else .done (.paced answer))
  | .paced, .send returned err =>
    match err with
    | none => some (wire, [.call (directCall req) none], .sent returned)
    | some err => some (wire, [.call (directCall req) (some err)], .failed err)
  | .sent messageID, .notifySent =>
    some (wire, [.statusWebhook "message.sent" messageID ""], .done (.direct messageID))
  | .failed err, .notifyFailed =>
    some (wire, [.statusWebhook "message.failed" "" err], .done (.failed err))
  | _, _ => none

inductive Action where
  | request (mv : Move)
  /-- the broker accepts the job that was written -/
  | accept
  | worker (a : Outgoing.Action)
deriving DecidableEq

/-- A delivery of the job needs a broker that has accepted it. -/
def Deliverable (wire : Wire) : Outgoing.Action → Bool
  | .deliver _ => wire = .accepted
  | _ => true

def step (cfg : Config) (decodeString : DecodeString) (encodeToString : List UInt8 → String)
    (req : SendRequest) (s : State) : Action → Option State
  | .request mv =>
    match advance cfg req s.wire s.phase mv with
    | none => none
    | some (wire, effects, phase) =>
      some { s with wire := wire, log := s.log ++ effects, phase := phase }
  | .accept => if s.wire = .written then some { s with wire := .accepted } else none
  | .worker a =>
    if Deliverable s.wire a then
      match Outgoing.step decodeString (job encodeToString req) s.worker a with
      | none => none
      | some worker => some { s with worker := worker }
    else none

def init (cfg : Config) (now : Int) : State where
  phase := .validated
  wire := .unwritten
  log := []
  worker := Outgoing.init cfg now

/-- A successful call of the Manager. -/
def Effect.isSend : Effect → Bool
  | .call _ none => true
  | _ => false

/-- The successful direct calls. -/
def directSends (s : State) : Nat := s.log.countP Effect.isSend

/-- All successful sends of the request's message. -/
def totalSends (s : State) : Nat := directSends s + (sends s.worker).length

end WhatsappGateway.SendMessage

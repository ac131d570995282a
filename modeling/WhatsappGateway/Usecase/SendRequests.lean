import WhatsappGateway.Lib.Fallible
import WhatsappGateway.Queue.EventHandlers
import WhatsappGateway.Usecase.SendMessage

/-!
The eight queued send operations of the usecase, from the request to the point at
which the queue path publishes its job and the direct path calls the Manager.
Everything before that point is validation: it resolves the recipient and the
mentions, bounds the texts, and reads and sniffs the upload.
-/

namespace WhatsappGateway.SendMessage

open Lib Outgoing

/-- The kinds of error the usecase raises while it validates. -/
inductive ServiceError where
  | badRequest
  | internalFailure
deriving DecidableEq, Repr

/-- A domain error: its kind, and the text of the cause. -/
structure DomainError where
  svcError : ServiceError
  appErr : String
deriving DecidableEq, Repr

def badRequest (err : String) : DomainError := ⟨.badRequest, err⟩

def internalFailure (err : String) : DomainError := ⟨.internalFailure, err⟩

/-- The parts of a parsed JID which the usecase reads. -/
structure JID where
  user : String
  server : String
deriving DecidableEq, Repr

/-- What the usecase asks of its configuration and of the libraries:
`types.ParseJID`, `strings.ToLower`, the verb `%q` and `http.DetectContentType`. -/
structure Env where
  maxUploadBytes : Int
  parseJID : String → Except String JID
  toLower : String → String
  quote : String → String
  detectContentType : List UInt8 → String

def maxTextMessageLen : Nat := 65536

def maxCaptionLen : Nat := 4096

def maxLocationName : Nat := 256

def maxLocationAddress : Nat := 512

def maxPollQuestion : Nat := 256

def maxPollOptionLen : Nat := 100

def maxPollOptions : Nat := 12

def trimSpace (s : String) : String := String.ofList (Events.trimSpace s.toList)

/-- Go's `len` of a string counts its bytes. -/
def validateLength (field name : String) (max : Nat) : Except DomainError Unit :=
  if field.utf8ByteSize > max then
    .error (badRequest (name ++ " exceeds maximum length of " ++ toString max ++ " characters"))
  else .ok ()

/-- The MIME types each media kind accepts; documents are not restricted. -/
def mediaMimeAllowlists : String → Option (List String)
  | "image" => some ["image/jpeg", "image/png", "image/webp"]
  | "sticker" => some ["image/webp"]
  | "audio" => some ["audio/ogg", "audio/mpeg", "audio/mp4", "audio/aac", "audio/x-aac",
      "audio/amr", "audio/3gpp", "audio/3gpp2", "audio/webm", "audio/x-m4a", "application/ogg"]
  | "video" => some ["video/mp4", "video/3gpp", "video/webm"]
  | _ => none

def validateMediaSize (env : Env) (size : Int) : Except DomainError Unit :=
  if env.maxUploadBytes > 0 ∧ size > env.maxUploadBytes then
    .error (badRequest ("media exceeds maximum upload size of " ++ toString env.maxUploadBytes ++
      " bytes"))
  else .ok ()

/-- An empty type opts out of the allow-list. -/
def validateMediaMime (env : Env) (kind detectedMime : String) : Except DomainError Unit :=
  match mediaMimeAllowlists kind with
  | none => .ok ()
  | some allow =>
    if detectedMime = "" ∨ detectedMime ∈ allow then .ok ()
    else .error (badRequest ("unsupported " ++ kind ++ " mime type " ++ env.quote detectedMime))

/-- The address spaces a recipient may be in. -/
def validJIDServers : List String := ["s.whatsapp.net", "g.us", "lid"]

def isAllDigits (s : String) : Bool := s ≠ "" && s.toList.all Char.isDigit

def trimPlus (s : String) : List Char :=
  match s.toList with
  | '+' :: cs => cs
  | cs => cs

def invalidRecipient (env : Env) (v : String) : DomainError :=
  badRequest ("invalid recipient " ++ env.quote v)

/-- The canonical recipient of what was given for one, which is not blank. -/
def canonicalRecipient (env : Env) (v : String) : Except DomainError String :=
  if '@' ∈ v.toList then
    match env.parseJID v with
    | .error _ => .error (invalidRecipient env v)
    | .ok jid =>
      let server := env.toLower jid.server
      if isAllDigits jid.user = true ∧ server ∈ validJIDServers then
        .ok (jid.user ++ "@" ++ server)
      else .error (invalidRecipient env v)
  else
    -- a bare number: only its digits are kept
    let digits := String.ofList ((trimPlus v).filter Char.isDigit)
    if digits = "" then .error (invalidRecipient env v)
    else .ok (digits ++ "@" ++ "s.whatsapp.net")

/-- The canonical recipient of a request: of `chat`, or else of `msisdn`. -/
def resolveChat (env : Env) (chat msisdn : String) : Except DomainError String :=
  let v := if trimSpace chat = "" then trimSpace msisdn else trimSpace chat
  if v = "" then .error (badRequest "chat (or msisdn) is required")
  else canonicalRecipient env v

theorem not_mem_digits {s : String} (h : isAllDigits s = true) {c : Char}
    (hc : c.isDigit = false) : c ∉ s.toList := by
  intro hmem
  simp only [isAllDigits, Bool.and_eq_true, List.all_eq_true] at h
  exact absurd (h.2 c hmem) (by simp [hc])

/-- An address as WhatsApp knows it: digits, in one of the valid spaces. -/
def Canonical (recipient : String) : Prop :=
  ∃ user server, isAllDigits user = true ∧ server ∈ validJIDServers ∧
    recipient = user ++ "@" ++ server

theorem canonicalRecipient_canonical {env : Env} {v recipient : String}
    (h : canonicalRecipient env v = .ok recipient) : Canonical recipient := by
  unfold canonicalRecipient at h
  split at h
  · split at h
    · cases h
    next jid _ =>
    simp only at h
    split at h
    · next hvalid =>
      cases h
      exact ⟨jid.user, env.toLower jid.server, hvalid.1, hvalid.2, rfl⟩
    · cases h
  · simp only at h
    split at h
    · cases h
    next hsome =>
    cases h
    refine ⟨_, "s.whatsapp.net", ?_, List.mem_cons_self, rfl⟩
    simp only [isAllDigits, Bool.and_eq_true, decide_eq_true_eq]
    refine ⟨hsome, List.all_eq_true.mpr fun c hc => ?_⟩
    rw [String.toList_ofList] at hc
    exact (List.mem_filter.mp hc).2

theorem resolveChat_canonical {env : Env} {chat msisdn recipient : String}
    (h : resolveChat env chat msisdn = .ok recipient) : Canonical recipient := by
  unfold resolveChat at h
  simp only at h
  generalize (if trimSpace chat = "" then trimSpace msisdn else trimSpace chat) = v at h
  split at h
  · cases h
  · exact canonicalRecipient_canonical h

/-- The fields every send request has. -/
structure Addressed where
  chat : String := ""
  msisdn : String := ""
  replyToID : String := ""
  replyToSender : String := ""
  replyToText : String := ""
  mentions : List String := []
deriving DecidableEq, Repr

/-- Who is quoted, if anybody is, resolved as a recipient is. -/
def resolveSender (env : Env) (replyToSender : String) : Except DomainError String :=
  let s := trimSpace replyToSender
  if s = "" then .ok "" else resolveChat env s ""

theorem resolveSender_canonical {env : Env} {replyToSender sender : String}
    (h : resolveSender env replyToSender = .ok sender) : sender = "" ∨ Canonical sender := by
  unfold resolveSender at h
  simp only at h
  split at h
  · exact .inl (Except.ok.inj h).symm
  · exact .inr (resolveChat_canonical h)

/-- The reply and mentions context of a request: who is quoted or mentioned is
resolved as a recipient is, and blank mentions are skipped. -/
def buildMessageContext (env : Env) (req : Addressed) : Except DomainError MessageContext := do
  let replyToSender ← resolveSender env req.replyToSender
  let mentions ← (req.mentions.filter fun m => trimSpace m ≠ "").mapM fun m => resolveChat env m ""
  return {
    replyToID := trimSpace req.replyToID
    replyToSender := replyToSender
    replyToText := req.replyToText
    mentions := mentions }

/-- Every result of a list of computations that all succeed is the result of one. -/
theorem mem_of_mapM_eq_ok {ε α β : Type} {f : α → Except ε β} {xs : List α} {ys : List β}
    (h : xs.mapM f = .ok ys) {y : β} (hy : y ∈ ys) : ∃ x, f x = .ok y := by
  induction xs generalizing ys with
  | nil =>
    obtain rfl : [] = ys := Except.ok.inj h
    cases hy
  | cons x xs ih =>
    simp only [List.mapM_cons, bind_eq_ok, pure, Except.pure, Except.ok.injEq] at h
    obtain ⟨z, hz, zs, hzs, rfl⟩ := h
    rcases List.mem_cons.mp hy with rfl | hrest
    · exact ⟨x, hz⟩
    · exact ih hzs hrest

theorem buildMessageContext_canonical {env : Env} {req : Addressed} {ctx : MessageContext}
    (h : buildMessageContext env req = .ok ctx) :
    (ctx.replyToSender = "" ∨ Canonical ctx.replyToSender) ∧ ∀ m ∈ ctx.mentions, Canonical m := by
  simp only [buildMessageContext, bind_eq_ok, pure, Except.pure, Except.ok.injEq] at h
  obtain ⟨replyToSender, hsender, mentions, hmentions, rfl⟩ := h
  refine ⟨resolveSender_canonical hsender, fun m hm => ?_⟩
  obtain ⟨_, hresolve⟩ := mem_of_mapM_eq_ok hmentions hm
  exact resolveChat_canonical hresolve

/-- An uploaded file. `file` says whether it opens, and what reading it gives. -/
structure FileHeader where
  size : Int
  filename : String
  file : Except String (Except String (List UInt8))

/-- The bytes of an upload, whose declared size is checked before it is read. -/
def readMedia (env : Env) (fileHeader : FileHeader) (openError readError : String → DomainError) :
    Except DomainError (List UInt8) := do
  validateMediaSize env fileHeader.size
  match fileHeader.file with
  | .error err => .error (openError err)
  | .ok (.error err) => .error (readError err)
  | .ok (.ok bytes) => .ok bytes

structure SendTextMessageRequest extends Addressed where
  message : String
deriving DecidableEq, Repr

structure SendImageMessageRequest extends Addressed where
  caption : String
deriving DecidableEq, Repr

structure SendAudioMessageRequest extends Addressed where
  isViewOnce : Bool
  isPTT : Bool
deriving DecidableEq, Repr

structure SendVideoMessageRequest extends Addressed where
  caption : String
  isViewOnce : Bool
  isGif : Bool
deriving DecidableEq, Repr

structure SendDocumentMessageRequest extends Addressed where
  caption : String
  fileName : String
deriving DecidableEq, Repr

structure SendLocationMessageRequest extends Addressed where
  latitude : ℚ
  longitude : ℚ
  name : String
  address : String
deriving DecidableEq, Repr

structure SendPollMessageRequest extends Addressed where
  question : String
  options : List String
  selectableCount : Int
deriving DecidableEq, Repr

structure SendStickerMessageRequest extends Addressed where
deriving DecidableEq, Repr

/-- A poll has two options at least, and not too many or too long ones. -/
def validatePollOptions (options : List String) : Except DomainError Unit :=
  if options.length < 2 then .error (badRequest "poll requires at least 2 options")
  else if options.length > maxPollOptions then
    .error (badRequest ("poll cannot have more than " ++ toString maxPollOptions ++ " options"))
  else options.forM fun opt => validateLength opt "option" maxPollOptionLen

/-- What an operation does with a request it has validated: the job which its
queue path publishes under the id drawn for it, and the call which its direct
path makes. -/
structure Paths where
  job : String → OutgoingMessageJob
  call : ManagerCall

section Operations

variable (env : Env) (encodeToString : List UInt8 → String) (phoneNumber : String)

def sendTextMessage (req : SendTextMessageRequest) : Except DomainError Paths := do
  let msisdn ← resolveChat env req.chat req.msisdn
  validateLength req.message "message" maxTextMessageLen
  let msgCtx ← buildMessageContext env req.toAddressed
  return {
    job := fun jobID => {
      jobID := jobID
      phoneNumber := phoneNumber
      type := "text"
      recipient := msisdn
      text := req.message
      replyToID := msgCtx.replyToID
      replyToSender := msgCtx.replyToSender
      replyToText := msgCtx.replyToText
      mentions := msgCtx.mentions }
    call := ⟨phoneNumber, msisdn, .sendTextMessage req.message msgCtx⟩ }

def sendImageMessage (req : SendImageMessageRequest) (fileHeader : FileHeader)
    (isViewOnce : Bool) : Except DomainError Paths := do
  let msisdn ← resolveChat env req.chat req.msisdn
  validateLength req.caption "caption" maxCaptionLen
  let msgCtx ← buildMessageContext env req.toAddressed
  let imageBytes ← readMedia env fileHeader internalFailure internalFailure
  let mimeType := env.detectContentType imageBytes
  validateMediaMime env "image" mimeType
  return {
    job := fun jobID => {
      jobID := jobID
      phoneNumber := phoneNumber
      type := "image"
      recipient := msisdn
      imageData := encodeToString imageBytes
      mimeType := mimeType
      caption := req.caption
      isViewOnce := isViewOnce
      replyToID := msgCtx.replyToID
      replyToSender := msgCtx.replyToSender
      replyToText := msgCtx.replyToText
      mentions := msgCtx.mentions }
    call := ⟨phoneNumber, msisdn,
      .sendImageMessage imageBytes mimeType req.caption isViewOnce msgCtx⟩ }

def sendAudioMessage (req : SendAudioMessageRequest) (fileHeader : FileHeader) :
    Except DomainError Paths := do
  let msisdn ← resolveChat env req.chat req.msisdn
  let msgCtx ← buildMessageContext env req.toAddressed
  let audioBytes ← readMedia env fileHeader internalFailure internalFailure
  -- the sniffer does not know the opus of a voice note: its type is left open
  let sniffed := env.detectContentType audioBytes
  let mimeType := if req.isPTT && !"audio/".toList.isPrefixOf sniffed.toList then "" else sniffed
  validateMediaMime env "audio" mimeType
  return {
    job := fun jobID => {
      jobID := jobID
      phoneNumber := phoneNumber
      type := "audio"
      recipient := msisdn
      imageData := encodeToString audioBytes
      mimeType := mimeType
      isPTT := req.isPTT
      isViewOnce := req.isViewOnce
      replyToID := msgCtx.replyToID
      replyToSender := msgCtx.replyToSender
      replyToText := msgCtx.replyToText
      mentions := msgCtx.mentions }
    call := ⟨phoneNumber, msisdn,
      .sendAudioMessage audioBytes mimeType req.isPTT req.isViewOnce msgCtx⟩ }

def sendVideoMessage (req : SendVideoMessageRequest) (fileHeader : FileHeader) :
    Except DomainError Paths := do
  let msisdn ← resolveChat env req.chat req.msisdn
  validateLength req.caption "caption" maxCaptionLen
  let msgCtx ← buildMessageContext env req.toAddressed
  let videoBytes ← readMedia env fileHeader internalFailure internalFailure
  let mimeType := env.detectContentType videoBytes
  validateMediaMime env "video" mimeType
  return {
    job := fun jobID => {
      jobID := jobID
      phoneNumber := phoneNumber
      type := "video"
      recipient := msisdn
      imageData := encodeToString videoBytes
      mimeType := mimeType
      caption := req.caption
      isGif := req.isGif
      isViewOnce := req.isViewOnce
      replyToID := msgCtx.replyToID
      replyToSender := msgCtx.replyToSender
      replyToText := msgCtx.replyToText
      mentions := msgCtx.mentions }
    call := ⟨phoneNumber, msisdn,
      .sendVideoMessage videoBytes mimeType req.caption req.isGif req.isViewOnce msgCtx⟩ }

def sendDocumentMessage (req : SendDocumentMessageRequest) (fileHeader : FileHeader) :
    Except DomainError Paths := do
  let msisdn ← resolveChat env req.chat req.msisdn
  validateLength req.caption "caption" maxCaptionLen
  let msgCtx ← buildMessageContext env req.toAddressed
  let fileName := if req.fileName = "" then fileHeader.filename else req.fileName
  let fileName := if fileName = "" then "file" else fileName
  let docBytes ← readMedia env fileHeader internalFailure internalFailure
  let mimeType := env.detectContentType docBytes
  return {
    job := fun jobID => {
      jobID := jobID
      phoneNumber := phoneNumber
      type := "document"
      recipient := msisdn
      imageData := encodeToString docBytes
      mimeType := mimeType
      fileName := fileName
      caption := req.caption
      replyToID := msgCtx.replyToID
      replyToSender := msgCtx.replyToSender
      replyToText := msgCtx.replyToText
      mentions := msgCtx.mentions }
    call := ⟨phoneNumber, msisdn,
      .sendDocumentMessage docBytes mimeType fileName req.caption msgCtx⟩ }

def sendLocationMessage (req : SendLocationMessageRequest) : Except DomainError Paths := do
  let msisdn ← resolveChat env req.chat req.msisdn
  validateLength req.name "name" maxLocationName
  validateLength req.address "address" maxLocationAddress
  let msgCtx ← buildMessageContext env req.toAddressed
  return {
    job := fun jobID => {
      jobID := jobID
      phoneNumber := phoneNumber
      type := "location"
      recipient := msisdn
      latitude := req.latitude
      longitude := req.longitude
      locationName := req.name
      locationAddress := req.address
      replyToID := msgCtx.replyToID
      replyToSender := msgCtx.replyToSender
      replyToText := msgCtx.replyToText
      mentions := msgCtx.mentions }
    call := ⟨phoneNumber, msisdn,
      .sendLocationMessage req.latitude req.longitude req.name req.address msgCtx⟩ }

def sendPollMessage (req : SendPollMessageRequest) : Except DomainError Paths := do
  let msisdn ← resolveChat env req.chat req.msisdn
  validateLength req.question "question" maxPollQuestion
  validatePollOptions req.options
  let msgCtx ← buildMessageContext env req.toAddressed
  return {
    job := fun jobID => {
      jobID := jobID
      phoneNumber := phoneNumber
      type := "poll"
      recipient := msisdn
      question := req.question
      options := req.options
      selectableCount := req.selectableCount
      replyToID := msgCtx.replyToID
      replyToSender := msgCtx.replyToSender
      replyToText := msgCtx.replyToText
      mentions := msgCtx.mentions }
    call := ⟨phoneNumber, msisdn,
      .sendPollMessage req.question req.options req.selectableCount msgCtx⟩ }

def sendStickerMessage (req : SendStickerMessageRequest) (fileHeader : FileHeader) :
    Except DomainError Paths := do
  let msisdn ← resolveChat env req.chat req.msisdn
  let msgCtx ← buildMessageContext env req.toAddressed
  let stickerBytes ← readMedia env fileHeader
    (fun err => badRequest ("failed to open sticker file: " ++ err))
    (fun err => badRequest ("failed to read sticker file: " ++ err))
  let mimeType := env.detectContentType stickerBytes
  validateMediaMime env "sticker" mimeType
  return {
    job := fun jobID => {
      jobID := jobID
      phoneNumber := phoneNumber
      type := "sticker"
      recipient := msisdn
      imageData := encodeToString stickerBytes
      mimeType := mimeType
      replyToID := msgCtx.replyToID
      replyToSender := msgCtx.replyToSender
      replyToText := msgCtx.replyToText
      mentions := msgCtx.mentions }
    call := ⟨phoneNumber, msisdn, .sendStickerMessage stickerBytes mimeType msgCtx⟩ }

/-- A request to one of the queued send operations, with the upload it carries. -/
inductive Request where
  | text (req : SendTextMessageRequest)
  | image (req : SendImageMessageRequest) (fileHeader : FileHeader) (isViewOnce : Bool)
  | audio (req : SendAudioMessageRequest) (fileHeader : FileHeader)
  | video (req : SendVideoMessageRequest) (fileHeader : FileHeader)
  | document (req : SendDocumentMessageRequest) (fileHeader : FileHeader)
  | location (req : SendLocationMessageRequest)
  | poll (req : SendPollMessageRequest)
  | sticker (req : SendStickerMessageRequest) (fileHeader : FileHeader)

/-- The paths of a request that is valid, or the error of one that is not. -/
def send : Request → Except DomainError Paths
  | .text req => sendTextMessage env phoneNumber req
  | .image req fileHeader isViewOnce =>
    sendImageMessage env encodeToString phoneNumber req fileHeader isViewOnce
  | .audio req fileHeader => sendAudioMessage env encodeToString phoneNumber req fileHeader
  | .video req fileHeader => sendVideoMessage env encodeToString phoneNumber req fileHeader
  | .document req fileHeader => sendDocumentMessage env encodeToString phoneNumber req fileHeader
  | .location req => sendLocationMessage env phoneNumber req
  | .poll req => sendPollMessage env phoneNumber req
  | .sticker req fileHeader => sendStickerMessage env encodeToString phoneNumber req fileHeader

end Operations

end WhatsappGateway.SendMessage

import WhatsappGateway.Usecase.QueueFaithful
import WhatsappGateway.Whatsapp.PayloadAgreement
import WhatsappGateway.Whatsapp.PolledMessage

/-!
The messages that the client sends, and what the webhooks of a gateway at the other end report of
them. A message may travel in a wrapper, for one view or for the caption of a document; the library
delivers what is inside.

Left out are the fields that no webhook reads: the keys of an upload, and the caption and the title
of a document.
-/

namespace WhatsappGateway.Whatsapp

open Lib Outgoing SendMessage

/-! ### What is sent -/

/-- What `Upload` returns. -/
structure UploadResponse where
  url : String
  fileSHA256 : List UInt8

structure ContextInfo where
  stanzaID : Option String
  participant : Option String
  quotedMessage : Option Message
  mentionedJID : List String

/-- What the client uses of its library: the upload of media, the creation of a poll, and the
numbers of a location as they are sent. -/
structure ClientLibrary where
  upload : List UInt8 → UploadResponse
  buildPollCreation : (name : String) → (optionNames : List String) →
    (selectableOptionCount : Int) → Message
  float : ℚ → Float

/-- A message as it travels. -/
inductive RawMessage where
  | message (m : Message)
  | viewOnceMessage (m : Message)
  | documentWithCaptionMessage (m : Message)

/-- What `events.Message` has as its message. -/
def RawMessage.unwrap : RawMessage → Message
  | .message m | .viewOnceMessage m | .documentWithCaptionMessage m => m

/-- The reply and the mentions are attached to the sub-message. -/
structure SentMessage where
  raw : RawMessage
  contextInfo : Option ContextInfo

def nonempty (s : String) : Option String := if s ≠ "" then some s else none

def buildContextInfo (msgCtx : MessageContext) : Option ContextInfo :=
  if msgCtx.replyToID = "" ∧ msgCtx.mentions = [] then none
  else if msgCtx.replyToID ≠ "" then
    some ⟨some msgCtx.replyToID, nonempty msgCtx.replyToSender,
      some { conversation := some msgCtx.replyToText }, msgCtx.mentions⟩
  else some ⟨none, none, none, msgCtx.mentions⟩

namespace ClientLibrary

variable (lib : ClientLibrary)

/-- A text with a context has another sub-message than one without. -/
def sendTextMessage (message : String) (msgCtx : MessageContext) : SentMessage :=
  match buildContextInfo msgCtx with
  | some ci => ⟨.message { extendedTextMessage := some ⟨some message⟩ }, some ci⟩
  | none => ⟨.message { conversation := some message }, none⟩

def viewOnce (isViewOnce : Bool) (m : Message) : RawMessage :=
  if isViewOnce then .viewOnceMessage m else .message m

def sendImageMessage (imageBytes : List UInt8) (mimeType caption : String) (isViewOnce : Bool)
    (msgCtx : MessageContext) : SentMessage :=
  let uploaded := lib.upload imageBytes
  ⟨viewOnce isViewOnce
    { imageMessage := some ⟨some uploaded.url, some mimeType, nonempty caption,
        uploaded.fileSHA256, some imageBytes.length⟩ },
    buildContextInfo msgCtx⟩

/-- The MIME type of audio that comes without one. -/
def audioMimeType (mimeType : String) (isPTT : Bool) : String :=
  if isPTT ∧ mimeType = "" then "audio/ogg; codecs=opus"
  else if mimeType = "" then "audio/mpeg"
  else mimeType

def sendAudioMessage (audioBytes : List UInt8) (mimeType : String) (isPTT isViewOnce : Bool)
    (msgCtx : MessageContext) : SentMessage :=
  let uploaded := lib.upload audioBytes
  ⟨viewOnce isViewOnce
    { audioMessage := some ⟨some uploaded.url, some (audioMimeType mimeType isPTT),
        uploaded.fileSHA256, some audioBytes.length⟩ },
    buildContextInfo msgCtx⟩

def sendVideoMessage (videoBytes : List UInt8) (mimeType caption : String) (isViewOnce : Bool)
    (msgCtx : MessageContext) : SentMessage :=
  let uploaded := lib.upload videoBytes
  ⟨viewOnce isViewOnce
    { videoMessage := some ⟨some uploaded.url, some mimeType, nonempty caption,
        uploaded.fileSHA256, some videoBytes.length⟩ },
    buildContextInfo msgCtx⟩

def sendDocumentMessage (docBytes : List UInt8) (mimeType fileName caption : String)
    (msgCtx : MessageContext) : SentMessage :=
  let uploaded := lib.upload docBytes
  let m : Message :=
    { documentMessage := some ⟨some uploaded.url, some mimeType, some fileName,
        uploaded.fileSHA256, some docBytes.length⟩ }
  ⟨if caption ≠ "" then .documentWithCaptionMessage m else .message m, buildContextInfo msgCtx⟩

def sendLocationMessage (latitude longitude : ℚ) (name address : String)
    (msgCtx : MessageContext) : SentMessage :=
  ⟨.message
    { locationMessage := some ⟨some (lib.float latitude), some (lib.float longitude),
        nonempty name, nonempty address⟩ },
    buildContextInfo msgCtx⟩

def selectable (selectableCount : Int) : Int := if selectableCount ≤ 0 then 1 else selectableCount

/-- The context is attached to the poll that the library made, if it made one. -/
def sendPollMessage (question : String) (options : List String) (selectableCount : Int)
    (msgCtx : MessageContext) : SentMessage :=
  let m := lib.buildPollCreation question options (selectable selectableCount)
  ⟨.message m, if m.pollCreationMessage.isSome then buildContextInfo msgCtx else none⟩

def sendStickerMessage (stickerBytes : List UInt8) (mimeType : String)
    (msgCtx : MessageContext) : SentMessage :=
  ⟨.message { stickerMessage := some ⟨some (lib.upload stickerBytes).url, some mimeType⟩ },
    buildContextInfo msgCtx⟩

/-- The message of an operation that sends one of its own. Whether a video is a GIF and audio is
a voice note changes nothing that is read. -/
def message : ManagerOp → Option SentMessage
  | .sendTextMessage text ctx => some (sendTextMessage text ctx)
  | .sendImageMessage bytes mimeType caption isViewOnce ctx =>
    some (lib.sendImageMessage bytes mimeType caption isViewOnce ctx)
  | .sendAudioMessage bytes mimeType isPTT isViewOnce ctx =>
    some (lib.sendAudioMessage bytes mimeType isPTT isViewOnce ctx)
  | .sendVideoMessage bytes mimeType caption _ isViewOnce ctx =>
    some (lib.sendVideoMessage bytes mimeType caption isViewOnce ctx)
  | .sendDocumentMessage bytes mimeType fileName caption ctx =>
    some (lib.sendDocumentMessage bytes mimeType fileName caption ctx)
  | .sendLocationMessage latitude longitude name address ctx =>
    some (lib.sendLocationMessage latitude longitude name address ctx)
  | .sendPollMessage question options selectableCount ctx =>
    some (lib.sendPollMessage question options selectableCount ctx)
  | .sendStickerMessage bytes mimeType ctx => some (lib.sendStickerMessage bytes mimeType ctx)
  | .reactToMessage .. | .deleteMessage .. | .editMessage .. => none

/-- A poll is created as it is asked for; a count that is no count of its options may be
replaced. -/
def CreatesPolls : Prop :=
  ∀ name optionNames selectableOptionCount, 1 ≤ selectableOptionCount → ∃ count,
    lib.buildPollCreation name optionNames selectableOptionCount =
      { pollCreationMessage := some ⟨some name, optionNames.map fun option => some ⟨some option⟩,
          some count⟩ } ∧
    (selectableOptionCount ≤ optionNames.length → (count : Int) = selectableOptionCount)

end ClientLibrary

/-! ### What is asked for and what is reported -/

/-- The content that a request asks for. The bytes are those of the upload, the type is the one
that they look like, and a voice note may leave its type open. -/
def Asks (env : SendMessage.Env) (content : SendContent) : Request → Prop
  | .text req => content = .text req.message
  | .image req fileHeader isViewOnce => ∃ bytes, fileHeader.file = .ok (.ok bytes) ∧
      content = .image bytes (env.detectContentType bytes) req.caption isViewOnce
  | .audio req fileHeader => ∃ bytes mimeType, fileHeader.file = .ok (.ok bytes) ∧
      (mimeType = env.detectContentType bytes ∨ (req.isPTT = true ∧ mimeType = "")) ∧
      content = .audio bytes mimeType req.isPTT req.isViewOnce
  | .video req fileHeader => ∃ bytes, fileHeader.file = .ok (.ok bytes) ∧
      content = .video bytes (env.detectContentType bytes) req.caption req.isGif req.isViewOnce
  | .document req fileHeader => ∃ bytes fileName, fileHeader.file = .ok (.ok bytes) ∧
      (req.fileName ≠ "" → fileName = req.fileName) ∧
      content = .document bytes (env.detectContentType bytes) fileName req.caption
  | .location req => content = .location req.latitude req.longitude req.name req.address
  | .poll req => content = .poll req.question req.options req.selectableCount
  | .sticker _ fileHeader => ∃ bytes, fileHeader.file = .ok (.ok bytes) ∧
      content = .sticker bytes (env.detectContentType bytes)

/-- The payload describes media. -/
def Payload.Describes (p : Payload) (media : MediaReport) : Prop :=
  p.str "type" = some media.kind ∧ (p.obj "media").map Payload.mediaReport = some media

/-- The payload reports the content. The caption of a document and the size of a sticker are not
reported. -/
def Payload.Reports (lib : ClientLibrary) (p : Payload) : SendContent → Prop
  | .text message => p.str "type" = some "text" ∧ p.str "text" = some message
  | .image bytes mimeType caption _ => p.Describes ⟨"image", mimeType, bytes.length, caption, ""⟩
  | .audio bytes mimeType isPTT _ =>
    p.Describes ⟨"audio", ClientLibrary.audioMimeType mimeType isPTT, bytes.length, "", ""⟩
  | .video bytes mimeType caption _ _ =>
    p.Describes ⟨"video", mimeType, bytes.length, caption, ""⟩
  | .document bytes mimeType fileName _ =>
    p.Describes ⟨"document", mimeType, bytes.length, "", fileName⟩
  | .location latitude longitude name address =>
    p.str "type" = some "location" ∧ p "latitude" = some (.float (lib.float latitude)) ∧
      p "longitude" = some (.float (lib.float longitude)) ∧
      (p.str "name").getD "" = name ∧ (p.str "address").getD "" = address
  | .poll question options selectableCount =>
    p.str "type" = some "poll" ∧ p.str "question" = some question ∧
      p "options" = some (.strs options) ∧
      (ClientLibrary.selectable selectableCount ≤ options.length →
        p "selectable_count" = some (.int (ClientLibrary.selectable selectableCount)))
  | .sticker _ mimeType => p.Describes ⟨"sticker", mimeType, 0, "", ""⟩

variable {lib : ClientLibrary} {msg : MessageEvent} {mediaDownloader : Option MediaDownloader}
  {client : Option Client} {p info : Payload} {key storageURL whatsappURL : String}
  {storageErr : Option String} {value : Value} {media : MediaReport} {env : SendMessage.Env}

/-! ### Descriptions of media -/

theorem getString_nonempty (s : String) : getString (nonempty s) = s := by
  unfold nonempty
  split_ifs with h
  · rfl
  · exact (not_ne_iff.mp h).symm

theorem mediaReport_set_other (hkey : key ∉ mediaReportKeys) :
    (p.set key value).mediaReport = p.mediaReport := by
  apply Payload.mediaReport_congr
  intro other hother
  apply Payload.set_other
  rintro rfl
  exact hkey hother

theorem Queued.mediaReport_setURL :
    (Queued.setURL info storageURL whatsappURL storageErr).mediaReport = info.mediaReport := by
  unfold Queued.setURL
  split_ifs
  · rw [mediaReport_set_other (by decide), mediaReport_set_other (by decide)]
  · rw [mediaReport_set_other (by decide), mediaReport_set_other (by decide)]

theorem Queued.setURL_caption :
    Queued.setURL info storageURL whatsappURL storageErr "caption" = info "caption" := by
  unfold Queued.setURL
  split_ifs
  · rw [Payload.set_other (by decide), Payload.set_other (by decide)]
  · rw [Payload.set_other (by decide), Payload.set_other (by decide)]

theorem describes_setMedia {type : String} (hinfo : info.mediaReport = media)
    (htype : media.kind = type) : (setMedia p type info).Describes media := by
  refine ⟨?_, ?_⟩
  · rw [Payload.str, setMedia_type, htype]
  · rw [Payload.obj, setMedia_media, Option.map_some, hinfo]

/-- Either builder returns a payload, and it is one of these. -/
def BothReturn (msg : MessageEvent) (good : Payload → Prop) : Prop :=
  ∀ (mediaDownloader : Option MediaDownloader) (client : Option Client),
    (∃ p, Direct.buildWebhookPayload msg mediaDownloader client = .ok p ∧ good p) ∧
      ∃ p, Queued.buildWebhookPayload msg mediaDownloader client = .ok p ∧ good p

theorem image_described {img : ImageMessage}
    (hmessage : msg.message = some { imageMessage := some img }) :
    BothReturn msg fun p => p.Describes ⟨"image", getString img.mimetype, img.fileLength.getD 0,
      getString img.caption, ""⟩ := by
  intro mediaDownloader client
  constructor
  · refine ⟨_, by simp only [Direct.buildWebhookPayload, hmessage]; rfl, describes_setMedia ?_ rfl⟩
    rw [Direct.buildImageMediaInfo,
      mediaReport_caption (Direct.setURL_caption.trans mediaBase_caption),
      Direct.mediaReport_setURL, mediaReport_mediaBase]
  · refine ⟨_, by simp only [Queued.buildWebhookPayload, hmessage]; rfl, describes_setMedia ?_ rfl⟩
    have hcaption : (mediaBase "image" img.mimetype img.fileLength).set "sha256"
        (.str (Queued.hex img.fileSHA256)) "caption" = none := by
      rw [Payload.set_other (by decide), mediaBase_caption]
    rw [Queued.buildImageMediaInfo, mediaReport_caption (Queued.setURL_caption.trans hcaption),
      Queued.mediaReport_setURL, mediaReport_set_other (by decide), mediaReport_mediaBase]

theorem video_described {vid : VideoMessage}
    (hmessage : msg.message = some { videoMessage := some vid }) :
    BothReturn msg fun p => p.Describes ⟨"video", getString vid.mimetype, vid.fileLength.getD 0,
      getString vid.caption, ""⟩ := by
  intro mediaDownloader client
  constructor
  · refine ⟨_, by simp only [Direct.buildWebhookPayload, hmessage]; rfl, describes_setMedia ?_ rfl⟩
    rw [Direct.buildVideoMediaInfo,
      mediaReport_caption (Direct.setURL_caption.trans mediaBase_caption),
      Direct.mediaReport_setURL, mediaReport_mediaBase]
  · refine ⟨_, by simp only [Queued.buildWebhookPayload, hmessage]; rfl, describes_setMedia ?_ rfl⟩
    have hcaption : (mediaBase "video" vid.mimetype vid.fileLength).set "sha256"
        (.str (Queued.hex vid.fileSHA256)) "caption" = none := by
      rw [Payload.set_other (by decide), mediaBase_caption]
    rw [Queued.buildVideoMediaInfo, mediaReport_caption (Queued.setURL_caption.trans hcaption),
      Queued.mediaReport_setURL, mediaReport_set_other (by decide), mediaReport_mediaBase]

theorem audio_described {audio : AudioMessage}
    (hmessage : msg.message = some { audioMessage := some audio }) :
    BothReturn msg fun p => p.Describes ⟨"audio", getString audio.mimetype,
      audio.fileLength.getD 0, "", ""⟩ := by
  intro mediaDownloader client
  constructor
  · refine ⟨_, by simp only [Direct.buildWebhookPayload, hmessage]; rfl, describes_setMedia ?_ rfl⟩
    rw [Direct.buildAudioMediaInfo, Direct.mediaReport_setURL, mediaReport_mediaBase]
  · refine ⟨_, by simp only [Queued.buildWebhookPayload, hmessage]; rfl, describes_setMedia ?_ rfl⟩
    rw [Queued.buildAudioMediaInfo, Queued.mediaReport_setURL, mediaReport_set_other (by decide),
      mediaReport_mediaBase]

theorem document_described {doc : DocumentMessage}
    (hmessage : msg.message = some { documentMessage := some doc }) :
    BothReturn msg fun p => p.Describes ⟨"document", getString doc.mimetype,
      doc.fileLength.getD 0, "", getString doc.fileName⟩ := by
  intro mediaDownloader client
  constructor
  · refine ⟨_, by simp only [Direct.buildWebhookPayload, hmessage]; rfl, describes_setMedia ?_ rfl⟩
    rw [Direct.buildDocumentMediaInfo, Direct.mediaReport_setURL, mediaReport_fileName,
      mediaReport_mediaBase]
  · refine ⟨_, by simp only [Queued.buildWebhookPayload, hmessage]; rfl, describes_setMedia ?_ rfl⟩
    rw [Queued.buildDocumentMediaInfo, Queued.mediaReport_setURL, mediaReport_set_other (by decide),
      mediaReport_fileName, mediaReport_mediaBase]

theorem sticker_described {sticker : StickerMessage}
    (hmessage : msg.message = some { stickerMessage := some sticker }) :
    BothReturn msg fun p => p.Describes ⟨"sticker", getString sticker.mimetype, 0, "", ""⟩ := by
  intro mediaDownloader client
  constructor
  · refine ⟨_, by simp only [Direct.buildWebhookPayload, hmessage]; rfl, describes_setMedia ?_ rfl⟩
    rw [Direct.buildStickerMediaInfo, Direct.mediaReport_setURL, mediaReport_sticker]
  · refine ⟨_, by simp only [Queued.buildWebhookPayload, hmessage]; rfl, describes_setMedia ?_ rfl⟩
    rw [Queued.buildStickerMediaInfo, Queued.mediaReport_setURL, mediaReport_sticker]

/-! ### The other sub-messages -/

/-- A text is reported, with a context or without one. -/
theorem text_reported {m : Message} {text : String} (hmessage : msg.message = some m)
    (hmedia : m.hasMedia = false) (htext : m.hasText = true) (hok : m.text = .ok text) :
    BothReturn msg fun p => p.str "type" = some "text" ∧ p.str "text" = some text := by
  intro mediaDownloader client
  have hset (p : Payload) : ∃ q, setText p m.text = .ok q ∧ q.str "type" = some "text" ∧
      q.str "text" = some text := by
    rw [hok]
    refine ⟨(p.set "type" (.str "text")).set "text" (.str text), rfl, ?_, Payload.str_set⟩
    rw [Payload.str_congr (Payload.set_other (by decide)), Payload.str_set]
  rw [Direct.build_text hmessage htext, Queued.build_text hmessage hmedia htext]
  exact ⟨hset _, hset _⟩

theorem location_reported {location : LocationMessage} {latitude longitude : Float}
    (hmessage : msg.message = some { locationMessage := some location })
    (hlatitude : location.degreesLatitude = some latitude)
    (hlongitude : location.degreesLongitude = some longitude) :
    BothReturn msg fun p => p.str "type" = some "location" ∧
      p "latitude" = some (.float latitude) ∧ p "longitude" = some (.float longitude) ∧
      (p.str "name").getD "" = getString location.name ∧
      (p.str "address").getD "" = getString location.address := by
  intro mediaDownloader client
  have hnone (key : String) (hkey : key ∈ ["name", "address"]) :
      basePayload msg.info client key = none := by
    simp only [List.mem_cons, List.not_mem_nil, or_false] at hkey
    rcases hkey with rfl | rfl <;> simp [basePayload, Payload.empty]
  have hlocation : setLocation (basePayload msg.info client) location =
      (((((basePayload msg.info client).set "type" (.str "location")).set "latitude"
        (.float latitude)).set "longitude" (.float longitude)).setNonempty "name"
          (getString location.name)).setNonempty "address" (getString location.address) := by
    rw [setLocation, hlatitude, hlongitude]
    rfl
  have hset : (setLocation (basePayload msg.info client) location).str "type" = some "location" ∧
      setLocation (basePayload msg.info client) location "latitude" = some (.float latitude) ∧
      setLocation (basePayload msg.info client) location "longitude" = some (.float longitude) ∧
      ((setLocation (basePayload msg.info client) location).str "name").getD "" =
        getString location.name ∧
      ((setLocation (basePayload msg.info client) location).str "address").getD "" =
        getString location.address := by
    rw [hlocation]
    refine ⟨?_, ?_, ?_, ?_, ?_⟩
    · rw [Payload.str_congr (Payload.setNonempty_other (by decide)),
        Payload.str_congr (Payload.setNonempty_other (by decide)),
        Payload.str_congr (Payload.set_other (by decide)),
        Payload.str_congr (Payload.set_other (by decide)), Payload.str_set]
    · rw [Payload.setNonempty_other (by decide), Payload.setNonempty_other (by decide),
        Payload.set_other (by decide), Payload.set_same]
    · rw [Payload.setNonempty_other (by decide), Payload.setNonempty_other (by decide),
        Payload.set_same]
    · rw [Payload.str_congr (Payload.setNonempty_other (by decide)), Payload.str_setNonempty]
      rw [Payload.set_other (by decide), Payload.set_other (by decide),
        Payload.set_other (by decide), hnone "name" (by decide)]
    · rw [Payload.str_setNonempty]
      rw [Payload.setNonempty_other (by decide), Payload.set_other (by decide),
        Payload.set_other (by decide), Payload.set_other (by decide), hnone "address" (by decide)]
  exact ⟨⟨_, by simp only [Direct.buildWebhookPayload, hmessage]; rfl, hset⟩,
    ⟨_, by simp only [Queued.buildWebhookPayload, hmessage]; rfl, hset⟩⟩

theorem poll_reported {poll : PollCreationMessage} {question : String} {options : List String}
    {count : Nat} (hmessage : msg.message = some { pollCreationMessage := some poll })
    (hquestion : poll.name = some question)
    (hoptions : poll.options = options.map fun option => some ⟨some option⟩)
    (hcount : poll.selectableOptionsCount = some count) :
    BothReturn msg fun p => p.str "type" = some "poll" ∧ p.str "question" = some question ∧
      p "options" = some (.strs options) ∧ p "selectable_count" = some (.int count) := by
  intro mediaDownloader client
  have hnames : poll.options.map PollOption.getOptionName = options := by
    rw [hoptions, List.map_map]
    exact List.map_id _
  have hset (base : Payload) : (setPoll base poll).str "type" = some "poll" ∧
      (setPoll base poll).str "question" = some question ∧
      setPoll base poll "options" = some (.strs options) ∧
      setPoll base poll "selectable_count" = some (.int count) := by
    rw [setPoll, hnames, hquestion, hcount]
    refine ⟨?_, ?_, ?_, Payload.set_same⟩
    · rw [Payload.str_congr (Payload.set_other (by decide)),
        Payload.str_congr (Payload.set_other (by decide)),
        Payload.str_congr (Payload.set_other (by decide)), Payload.str_set]
    · rw [Payload.str_congr (Payload.set_other (by decide)),
        Payload.str_congr (Payload.set_other (by decide)), Payload.str_set]
      rfl
    · rw [Payload.set_other (by decide), Payload.set_same]
  exact ⟨⟨_, by simp only [Direct.buildWebhookPayload, hmessage]; rfl, hset _⟩,
    ⟨_, by simp only [Queued.buildWebhookPayload, hmessage]; rfl, hset _⟩⟩

/-! ### From the request to the payload -/

theorem BothReturn.mono {good better : Payload → Prop} (h : BothReturn msg good)
    (himp : ∀ p, good p → better p) : BothReturn msg better := by
  intro mediaDownloader client
  obtain ⟨⟨p, hp, hgood⟩, q, hq, hgood'⟩ := h mediaDownloader client
  exact ⟨⟨p, hp, himp p hgood⟩, q, hq, himp q hgood'⟩

theorem unwrap_viewOnce (isViewOnce : Bool) (m : Message) :
    (ClientLibrary.viewOnce isViewOnce m).unwrap = m := by
  cases isViewOnce <;> rfl

/-- The message that the client sends for a content is reported as that content. -/
theorem message_reported (hpolls : lib.CreatesPolls) (req : SendRequest) :
    ∃ sent, lib.message (directCall req).op = some sent ∧
      ∀ msg : MessageEvent, msg.message = some sent.raw.unwrap →
        BothReturn msg fun p => p.Reports lib req.content := by
  obtain ⟨jobID, phoneNumber, recipient, ctx, content⟩ := req
  cases content with
  | text message =>
    refine ⟨_, rfl, fun msg hmessage => ?_⟩
    unfold ClientLibrary.sendTextMessage at hmessage
    cases hcontext : buildContextInfo ctx with
    | some ci =>
      rw [hcontext] at hmessage
      exact text_reported hmessage rfl rfl rfl
    | none =>
      rw [hcontext] at hmessage
      exact text_reported hmessage rfl rfl rfl
  | image bytes mimeType caption isViewOnce =>
    refine ⟨_, rfl, fun msg hmessage => ?_⟩
    refine (image_described (hmessage.trans (congrArg some (unwrap_viewOnce _ _)))).mono ?_
    intro p h
    rw [getString_nonempty] at h
    exact h
  | audio bytes mimeType isPTT isViewOnce =>
    refine ⟨_, rfl, fun msg hmessage => ?_⟩
    exact audio_described (hmessage.trans (congrArg some (unwrap_viewOnce _ _)))
  | video bytes mimeType caption isGif isViewOnce =>
    refine ⟨_, rfl, fun msg hmessage => ?_⟩
    refine (video_described (hmessage.trans (congrArg some (unwrap_viewOnce _ _)))).mono ?_
    intro p h
    rw [getString_nonempty] at h
    exact h
  | document bytes mimeType fileName caption =>
    refine ⟨_, rfl, fun msg hmessage => ?_⟩
    have hunwrap : (lib.sendDocumentMessage bytes mimeType fileName caption ctx).raw.unwrap =
        { documentMessage := some ⟨some (lib.upload bytes).url, some mimeType, some fileName,
            (lib.upload bytes).fileSHA256, some bytes.length⟩ } := by
      dsimp only [ClientLibrary.sendDocumentMessage]
      split_ifs <;> rfl
    exact document_described (hmessage.trans (congrArg some hunwrap))
  | location latitude longitude name address =>
    refine ⟨_, rfl, fun msg hmessage => ?_⟩
    refine (location_reported hmessage rfl rfl).mono ?_
    intro p h
    rw [getString_nonempty, getString_nonempty] at h
    exact h
  | poll question options selectableCount =>
    refine ⟨_, rfl, fun msg hmessage => ?_⟩
    have hpositive : 1 ≤ ClientLibrary.selectable selectableCount := by
      unfold ClientLibrary.selectable
      split_ifs with h
      · exact le_rfl
      · omega
    obtain ⟨count, hbuilt, hcount⟩ := hpolls question options _ hpositive
    refine (poll_reported (hmessage.trans (congrArg some hbuilt)) rfl rfl rfl).mono ?_
    rintro p ⟨htype, hquestion, hoptions, hselectable⟩
    refine ⟨htype, hquestion, hoptions, fun hle => ?_⟩
    rw [hselectable, hcount hle]
  | sticker bytes mimeType =>
    refine ⟨_, rfl, fun msg hmessage => ?_⟩
    exact sticker_described hmessage

theorem readMedia_eq_ok {fileHeader : FileHeader}
    {openError readError : String → SendMessage.DomainError} {bytes : List UInt8}
    (h : readMedia env fileHeader openError readError = .ok bytes) :
    fileHeader.file = .ok (.ok bytes) := by
  simp only [readMedia, bind_eq_ok] at h
  obtain ⟨-, -, h⟩ := h
  cases hfile : fileHeader.file with
  | error err => simp [hfile] at h
  | ok read =>
    cases read with
    | error err => simp [hfile] at h
    | ok read =>
      rw [hfile] at h
      rw [Except.ok.inj h]

/-- The direct call of a valid request is the one for the content that it asks for, and what its
job is dispatched to is the same call. -/
structure Sends (env : SendMessage.Env) (encodeToString : List UInt8 → String) (request : Request)
    (paths : Paths) (req : SendRequest) : Prop where
  asks : Asks env req.content request
  call : paths.call = directCall req
  job : ∀ jobID, paths.job jobID = SendMessage.job encodeToString { req with jobID := jobID }

theorem send_sends {encodeToString : List UInt8 → String} {phoneNumber : String}
    {request : Request} {paths : Paths}
    (h : SendMessage.send env encodeToString phoneNumber request = .ok paths) :
    ∃ req, Sends env encodeToString request paths req := by
  cases request with
  | text req =>
    simp only [SendMessage.send, sendTextMessage, bind_eq_ok, pure, Except.pure,
      Except.ok.injEq] at h
    obtain ⟨msisdn, -, -, -, msgCtx, -, rfl⟩ := h
    exact ⟨⟨"", phoneNumber, msisdn, msgCtx, .text req.message⟩, rfl, rfl, fun _ => rfl⟩
  | image req fileHeader isViewOnce =>
    simp only [SendMessage.send, sendImageMessage, bind_eq_ok, pure, Except.pure,
      Except.ok.injEq] at h
    obtain ⟨msisdn, -, -, -, msgCtx, -, bytes, hbytes, -, -, rfl⟩ := h
    exact ⟨⟨"", phoneNumber, msisdn, msgCtx, .image bytes _ req.caption isViewOnce⟩,
      ⟨bytes, readMedia_eq_ok hbytes, rfl⟩, rfl, fun _ => rfl⟩
  | audio req fileHeader =>
    simp only [SendMessage.send, sendAudioMessage, bind_eq_ok, pure, Except.pure,
      Except.ok.injEq] at h
    obtain ⟨msisdn, -, msgCtx, -, bytes, hbytes, -, -, rfl⟩ := h
    refine ⟨⟨"", phoneNumber, msisdn, msgCtx, .audio bytes _ req.isPTT req.isViewOnce⟩,
      ⟨bytes, _, readMedia_eq_ok hbytes, ?_, rfl⟩, rfl, fun _ => rfl⟩
    split_ifs with hopen
    · rw [Bool.and_eq_true] at hopen
      exact .inr ⟨hopen.1, rfl⟩
    · exact .inl rfl
  | video req fileHeader =>
    simp only [SendMessage.send, sendVideoMessage, bind_eq_ok, pure, Except.pure,
      Except.ok.injEq] at h
    obtain ⟨msisdn, -, -, -, msgCtx, -, bytes, hbytes, -, -, rfl⟩ := h
    exact ⟨⟨"", phoneNumber, msisdn, msgCtx, .video bytes _ req.caption req.isGif req.isViewOnce⟩,
      ⟨bytes, readMedia_eq_ok hbytes, rfl⟩, rfl, fun _ => rfl⟩
  | document req fileHeader =>
    simp only [SendMessage.send, sendDocumentMessage, bind_eq_ok, pure, Except.pure,
      Except.ok.injEq] at h
    obtain ⟨msisdn, -, -, -, msgCtx, -, bytes, hbytes, rfl⟩ := h
    refine ⟨⟨"", phoneNumber, msisdn, msgCtx, .document bytes _ _ req.caption⟩,
      ⟨bytes, _, readMedia_eq_ok hbytes, fun hname => ?_, rfl⟩, rfl, fun _ => rfl⟩
    rw [if_neg hname, if_neg hname]
  | location req =>
    simp only [SendMessage.send, sendLocationMessage, bind_eq_ok, pure, Except.pure,
      Except.ok.injEq] at h
    obtain ⟨msisdn, -, -, -, -, -, msgCtx, -, rfl⟩ := h
    exact ⟨⟨"", phoneNumber, msisdn, msgCtx, .location _ _ _ _⟩, rfl, rfl, fun _ => rfl⟩
  | poll req =>
    simp only [SendMessage.send, sendPollMessage, bind_eq_ok, pure, Except.pure,
      Except.ok.injEq] at h
    obtain ⟨msisdn, -, -, -, -, -, msgCtx, -, rfl⟩ := h
    exact ⟨⟨"", phoneNumber, msisdn, msgCtx, .poll _ _ _⟩, rfl, rfl, fun _ => rfl⟩
  | sticker req fileHeader =>
    simp only [SendMessage.send, sendStickerMessage, bind_eq_ok, pure, Except.pure,
      Except.ok.injEq] at h
    obtain ⟨msisdn, -, msgCtx, -, bytes, hbytes, -, -, rfl⟩ := h
    exact ⟨⟨"", phoneNumber, msisdn, msgCtx, .sticker bytes _⟩,
      ⟨bytes, readMedia_eq_ok hbytes, rfl⟩, rfl, fun _ => rfl⟩

section Sample

def sampleLibrary : ClientLibrary where
  upload _ := ⟨"https://mmg.example/a", []⟩
  buildPollCreation name optionNames selectableOptionCount :=
    { pollCreationMessage := some ⟨some name, optionNames.map fun option => some ⟨some option⟩,
        some selectableOptionCount.toNat⟩ }
  float _ := 0

theorem sampleLibrary_createsPolls : sampleLibrary.CreatesPolls := by
  intro name optionNames selectableOptionCount hpositive
  refine ⟨selectableOptionCount.toNat, rfl, fun _ => ?_⟩
  omega

end Sample

end WhatsappGateway.Whatsapp

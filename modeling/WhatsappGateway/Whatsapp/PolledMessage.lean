import WhatsappGateway.Whatsapp.IncomingBuffer
import WhatsappGateway.Whatsapp.PayloadCases

/-!
The entry that `toIncomingMessage` stores for polling, against the payload that the
direct mode sends for the same event. Both are read as one report: the type, the text,
the sender and the description of the media.
-/

namespace WhatsappGateway.Whatsapp

/-! ### The entry -/

/-- The fields that every entry has, and no type. -/
def baseMessage (info : MessageInfo) (client : Option Client) : IncomingMessage :=
  let (from_, addrMode) := convertJIDToNonADLID info.sender info.senderAlt info.chat client
  { messageID := info.id
    chat := info.chat.string
    from_ := from_
    addressingMode := addrMode
    isGroup := info.isGroup
    pushName := info.pushName
    timestamp := info.timestamp }

def toIncomingMessage (evt : Option MessageEvent) (client : Option Client) :
    Option IncomingMessage :=
  match evt with
  | none => none
  | some evt =>
  let m := baseMessage evt.info client
  match evt.message with
  | none => some { m with type := "unknown" }
  | some message =>
    match message.conversation with
    | some conversation => some { m with type := "text", text := conversation }
    | none =>
    match message.extendedTextMessage with
    | some ext => some { m with type := "text", text := ext.text.getD m.text }
    | none =>
    match message.imageMessage with
    | some img =>
      some { m with
        type := "image"
        media := some {
          type := "image"
          mimeType := getString img.mimetype
          size := img.fileLength.getD 0
          caption := getString img.caption } }
    | none =>
    match message.videoMessage with
    | some vid =>
      some { m with
        type := "video"
        media := some {
          type := "video"
          mimeType := getString vid.mimetype
          size := vid.fileLength.getD 0
          caption := getString vid.caption } }
    | none =>
    match message.audioMessage with
    | some audio =>
      some { m with
        type := "audio"
        media := some {
          type := "audio"
          mimeType := getString audio.mimetype
          size := audio.fileLength.getD 0 } }
    | none =>
    match message.documentMessage with
    | some doc =>
      some { m with
        type := "document"
        media := some {
          type := "document"
          mimeType := getString doc.mimetype
          size := doc.fileLength.getD 0
          fileName := getString doc.fileName } }
    | none =>
    match message.stickerMessage with
    | some sticker =>
      some { m with
        type := "sticker"
        media := some { type := "sticker", mimeType := getString sticker.mimetype } }
    | none =>
    match message.contactMessage with
    | some _ => some { m with type := "contact" }
    | none =>
    match message.locationMessage with
    | some _ => some { m with type := "location" }
    -- A poll has no case.
    | none => some { m with type := "unknown" }

/-! ### Reports -/

/-- What is reported about media. -/
structure MediaReport where
  kind : String
  mimeType : String
  size : Int
  caption : String
  fileName : String

/-- What is reported about a message. A field that is empty and one that is left out are the
same report, but for the type: every message has one. -/
structure Report where
  type : Option String
  text : String
  from_ : String
  addressingMode : String
  media : Option MediaReport

def IncomingMedia.report (media : IncomingMedia) : MediaReport :=
  ⟨media.type, media.mimeType, media.size, media.caption, media.fileName⟩

def IncomingMessage.report (m : IncomingMessage) : Report :=
  ⟨some m.type, m.text, m.from_, m.addressingMode, m.media.map IncomingMedia.report⟩

/-- The string at a key. -/
def Payload.str (p : Payload) (key : String) : Option String :=
  match p key with
  | some (.str s) => some s
  | _ => none

def Payload.int (p : Payload) (key : String) : Option Int :=
  match p key with
  | some (.int n) => some n
  | _ => none

def Payload.obj (p : Payload) (key : String) : Option Payload :=
  match p key with
  | some (.obj fields) => some fields
  | _ => none

def Payload.mediaReport (p : Payload) : MediaReport :=
  ⟨(p.str "type").getD "", (p.str "mime_type").getD "", (p.int "size").getD 0,
    (p.str "caption").getD "", (p.str "file_name").getD ""⟩

def Payload.report (p : Payload) : Report :=
  ⟨p.str "type", (p.str "text").getD "", (p.str "from").getD "",
    (p.str "addressing_mode").getD "", (p.obj "media").map Payload.mediaReport⟩

variable {p mediaInfo : Payload} {key other s type storageURL whatsappURL : String}
  {storageErr : Option String} {value : Value} {info : MessageInfo} {client : Option Client}

theorem Payload.str_congr {q : Payload} (h : q key = p key) : q.str key = p.str key := by
  rw [Payload.str, Payload.str, h]

theorem Payload.int_congr {q : Payload} (h : q key = p key) : q.int key = p.int key := by
  rw [Payload.int, Payload.int, h]

theorem Payload.obj_congr {q : Payload} (h : q key = p key) : q.obj key = p.obj key := by
  rw [Payload.obj, Payload.obj, h]

theorem Payload.str_set : (p.set key (.str s)).str key = some s := by
  rw [Payload.str, Payload.set_same]

/-- An empty string is reported as one that is left out. -/
theorem Payload.str_setNonempty (habsent : p key = none) :
    ((p.setNonempty key s).str key).getD "" = s := by
  unfold Payload.setNonempty
  split
  next hne => rw [Payload.str_set, Option.getD_some]
  next hempty =>
    rw [Payload.str, habsent]
    exact (not_ne_iff.mp hempty).symm

/-- The keys that a report of media reads. -/
def mediaReportKeys : List String := ["type", "mime_type", "size", "caption", "file_name"]

/-- The keys that a report of a message reads. -/
def reportKeys : List String := ["type", "text", "from", "addressing_mode", "media"]

theorem Payload.mediaReport_congr {q : Payload} (h : ∀ key ∈ mediaReportKeys, q key = p key) :
    q.mediaReport = p.mediaReport := by
  unfold Payload.mediaReport
  rw [Payload.str_congr (h "type" (by decide)), Payload.str_congr (h "mime_type" (by decide)),
    Payload.int_congr (h "size" (by decide)), Payload.str_congr (h "caption" (by decide)),
    Payload.str_congr (h "file_name" (by decide))]

theorem Payload.report_congr {q : Payload} (h : ∀ key ∈ reportKeys, q key = p key) :
    q.report = p.report := by
  unfold Payload.report
  rw [Payload.str_congr (h "type" (by decide)), Payload.str_congr (h "text" (by decide)),
    Payload.str_congr (h "from" (by decide)), Payload.str_congr (h "addressing_mode" (by decide)),
    Payload.obj_congr (h "media" (by decide))]

/-- A report of media is about no URL. -/
theorem Direct.mediaReport_setURL :
    (Direct.setURL mediaInfo storageURL whatsappURL storageErr).mediaReport =
      mediaInfo.mediaReport := by
  apply Payload.mediaReport_congr
  intro key hkey
  have hne : key ≠ "url" := by
    rintro rfl
    revert hkey
    decide
  unfold Direct.setURL
  split
  · exact Payload.set_other hne
  · exact Payload.set_other hne

theorem mediaReport_mediaBase {mimetype : Option String} {fileLength : Option Nat} :
    (mediaBase type mimetype fileLength).mediaReport =
      ⟨type, getString mimetype, fileLength.getD 0, "", ""⟩ := by
  simp [Payload.mediaReport, mediaBase, Payload.str, Payload.int, Payload.empty]

theorem mediaBase_caption {mimetype : Option String} {fileLength : Option Nat} :
    mediaBase type mimetype fileLength "caption" = none := by
  simp [mediaBase, Payload.empty]

theorem Direct.setURL_caption :
    Direct.setURL mediaInfo storageURL whatsappURL storageErr "caption" = mediaInfo "caption" := by
  unfold Direct.setURL
  split
  · exact Payload.set_other (by decide)
  · exact Payload.set_other (by decide)

theorem mediaReport_caption (habsent : p "caption" = none) :
    (p.setNonempty "caption" s).mediaReport = { p.mediaReport with caption := s } := by
  have hother : ∀ other, other ≠ "caption" → p.setNonempty "caption" s other = p other :=
    fun other hne => Payload.setNonempty_other hne
  unfold Payload.mediaReport
  rw [Payload.str_setNonempty habsent, Payload.str_congr (hother "type" (by decide)),
    Payload.str_congr (hother "mime_type" (by decide)),
    Payload.int_congr (hother "size" (by decide)),
    Payload.str_congr (hother "file_name" (by decide))]

theorem mediaReport_fileName :
    (p.set "file_name" (.str s)).mediaReport = { p.mediaReport with fileName := s } := by
  simp [Payload.mediaReport, Payload.str, Payload.int]

theorem mediaReport_sticker {mimetype : Option String} :
    ((Payload.empty.set "type" (.str type)).setSome "mime_type" .str mimetype).mediaReport =
      ⟨type, getString mimetype, 0, "", ""⟩ := by
  cases mimetype with
  | none => simp [Payload.mediaReport, Payload.setSome, Payload.str, Payload.int, Payload.empty,
      getString]
  | some mimetype => simp [Payload.mediaReport, Payload.setSome, Payload.str, Payload.int,
      Payload.empty, getString]

/-! ### Both sides of an event -/

/-- Before the message is looked at, the payload lacks only the type of the entry. -/
theorem report_basePayload (info : MessageInfo) (client : Option Client) :
    (basePayload info client).report = { (baseMessage info client).report with type := none } := by
  simp [Payload.report, IncomingMessage.report, basePayload, baseMessage, Payload.str, Payload.obj,
    Payload.empty]

theorem report_type :
    (p.set "type" (.str type)).report = { p.report with type := some type } := by
  simp [Payload.report, Payload.str, Payload.obj]

theorem report_text : (p.set "text" (.str s)).report = { p.report with text := s } := by
  simp [Payload.report, Payload.str, Payload.obj]

theorem report_media :
    (p.set "media" (.obj mediaInfo)).report =
      { p.report with media := some mediaInfo.mediaReport } := by
  simp [Payload.report, Payload.str, Payload.obj]

/-- A report is not about the other keys. -/
theorem report_set_other (hkey : key ∉ reportKeys) : (p.set key value).report = p.report := by
  apply Payload.report_congr
  intro other hother
  apply Payload.set_other
  rintro rfl
  exact hkey hother

theorem report_setSome_other {α : Type} {f : α → Value} {a : Option α} (hkey : key ∉ reportKeys) :
    (p.setSome key f a).report = p.report := by
  cases a with
  | none => rfl
  | some a => exact report_set_other hkey

theorem report_setNonempty_other (hkey : key ∉ reportKeys) :
    (p.setNonempty key s).report = p.report := by
  unfold Payload.setNonempty
  split
  · exact report_set_other hkey
  · rfl

theorem report_setMedia (p : Payload) (type : String) (mediaInfo : Payload) :
    (setMedia p type mediaInfo).report =
      { p.report with type := some type, media := some mediaInfo.mediaReport } := by
  rw [setMedia, report_media, report_type]

theorem report_setLocation {location : LocationMessage} :
    (setLocation p location).report = { p.report with type := some "location" } := by
  unfold setLocation
  rw [report_setNonempty_other (by decide), report_setNonempty_other (by decide),
    report_setSome_other (by decide), report_setSome_other (by decide), report_type]

theorem report_setPoll {poll : PollCreationMessage} :
    (setPoll p poll).report = { p.report with type := some "poll" } := by
  unfold setPoll
  rw [report_set_other (by decide), report_set_other (by decide), report_set_other (by decide),
    report_type]

/-- Nothing that comes before a poll is set, and a poll is. -/
def Message.takenAsPoll (m : Message) : Bool :=
  !m.hasText && !m.hasMedia && m.contactMessage.isNone && m.locationMessage.isNone &&
    m.pollCreationMessage.isSome

variable {msg : MessageEvent} {mediaDownloader : Option MediaDownloader} {message : Message}
  {m : IncomingMessage} {payload : Payload}

/-- The two sides agree on a text. -/
theorem reports_text (hmessage : msg.message = some message) (htext : message.hasText = true)
    (hpolled : toIncomingMessage (some msg) client = some m)
    (hsent : Direct.buildWebhookPayload msg mediaDownloader client = .ok payload) :
    m.report = payload.report := by
  have hreport : ∀ text : String,
      { baseMessage msg.info client with type := "text", text := text }.report =
        (((basePayload msg.info client).set "type" (.str "text")).set "text" (.str text)).report := by
    intro text
    rw [report_text, report_type, report_basePayload]
    rfl
  rw [Direct.build_text hmessage htext] at hsent
  simp only [toIncomingMessage, hmessage] at hpolled
  unfold Message.text at hsent
  cases hconversation : message.conversation with
  | some text =>
    rw [hconversation] at hsent hpolled
    obtain rfl := Option.some.inj hpolled
    obtain rfl := Except.ok.inj hsent
    exact hreport text
  | none =>
    cases hext : message.extendedTextMessage with
    | none => simp [Message.hasText, hconversation, hext] at htext
    | some ext =>
      obtain ⟨text⟩ := ext
      rw [hconversation, hext] at hsent hpolled
      cases text with
      | none => cases hsent
      | some text =>
        obtain rfl := Option.some.inj hpolled
        obtain rfl := Except.ok.inj hsent
        exact hreport text

/-- An entry for media agrees with a payload for them when the descriptions do. -/
theorem reports_setMedia {media : IncomingMedia} (hmedia : media.report = mediaInfo.mediaReport) :
    { baseMessage info client with type := type, media := some media }.report =
      (setMedia (basePayload info client) type mediaInfo).report := by
  rw [report_setMedia, report_basePayload, ← hmedia]
  rfl

/-- The two sides agree on media. -/
theorem reports_media (hmessage : msg.message = some message) (htext : message.hasText = false)
    (hmedia : message.hasMedia = true)
    (hpolled : toIncomingMessage (some msg) client = some m)
    (hsent : Direct.buildWebhookPayload msg mediaDownloader client = .ok payload) :
    m.report = payload.report := by
  obtain ⟨hconversation, hext⟩ := Message.hasText_eq_false.mp htext
  simp only [toIncomingMessage, hmessage, hconversation, hext] at hpolled
  simp only [Direct.buildWebhookPayload, hmessage, hconversation, hext, Option.isSome_none,
    Bool.false_eq_true, if_false] at hsent
  cases himage : message.imageMessage with
  | some img =>
    rw [himage] at hpolled hsent
    obtain rfl := Option.some.inj hpolled
    obtain rfl := Except.ok.inj hsent
    apply reports_setMedia
    rw [Direct.buildImageMediaInfo, mediaReport_caption (Direct.setURL_caption.trans
      mediaBase_caption), Direct.mediaReport_setURL, mediaReport_mediaBase]
    rfl
  | none =>
  cases hvideo : message.videoMessage with
  | some vid =>
    rw [himage, hvideo] at hpolled hsent
    obtain rfl := Option.some.inj hpolled
    obtain rfl := Except.ok.inj hsent
    apply reports_setMedia
    rw [Direct.buildVideoMediaInfo, mediaReport_caption (Direct.setURL_caption.trans
      mediaBase_caption), Direct.mediaReport_setURL, mediaReport_mediaBase]
    rfl
  | none =>
  cases haudio : message.audioMessage with
  | some audio =>
    rw [himage, hvideo, haudio] at hpolled hsent
    obtain rfl := Option.some.inj hpolled
    obtain rfl := Except.ok.inj hsent
    apply reports_setMedia
    rw [Direct.buildAudioMediaInfo, Direct.mediaReport_setURL, mediaReport_mediaBase]
    rfl
  | none =>
  cases hdocument : message.documentMessage with
  | some doc =>
    rw [himage, hvideo, haudio, hdocument] at hpolled hsent
    obtain rfl := Option.some.inj hpolled
    obtain rfl := Except.ok.inj hsent
    apply reports_setMedia
    rw [Direct.buildDocumentMediaInfo, Direct.mediaReport_setURL, mediaReport_fileName,
      mediaReport_mediaBase]
    rfl
  | none =>
  cases hsticker : message.stickerMessage with
  | some sticker =>
    rw [himage, hvideo, haudio, hdocument, hsticker] at hpolled hsent
    obtain rfl := Option.some.inj hpolled
    obtain rfl := Except.ok.inj hsent
    apply reports_setMedia
    rw [Direct.buildStickerMediaInfo, Direct.mediaReport_setURL, mediaReport_sticker]
    rfl
  | none => simp [Message.hasMedia, himage, hvideo, haudio, hdocument, hsticker] at hmedia

/-- Of the other messages, the two sides agree on all but a poll. -/
theorem reports_other_iff (hmessage : msg.message = some message)
    (htext : message.hasText = false) (hmedia : message.hasMedia = false)
    (hpolled : toIncomingMessage (some msg) client = some m)
    (hsent : Direct.buildWebhookPayload msg mediaDownloader client = .ok payload) :
    m.report = payload.report ↔ message.takenAsPoll = false := by
  have hpoll : message.takenAsPoll =
      (message.contactMessage.isNone && message.locationMessage.isNone &&
        message.pollCreationMessage.isSome) := by
    simp [Message.takenAsPoll, htext, hmedia]
  obtain ⟨hconversation, hext⟩ := Message.hasText_eq_false.mp htext
  obtain ⟨himage, hvideo, haudio, hdocument, hsticker⟩ := Message.hasMedia_eq_false.mp hmedia
  rw [Direct.build_other hmessage htext hmedia] at hsent
  obtain rfl := Except.ok.inj hsent
  simp only [toIncomingMessage, hmessage, hconversation, hext, himage, hvideo, haudio, hdocument,
    hsticker] at hpolled
  rw [hpoll]
  cases hcontact : message.contactMessage with
  | some contact =>
    rw [hcontact] at hpolled
    obtain rfl := Option.some.inj hpolled
    refine iff_of_true ?_ rfl
    dsimp only
    rw [report_setSome_other (by decide), report_type, report_basePayload]
    rfl
  | none =>
  cases hlocation : message.locationMessage with
  | some location =>
    rw [hcontact, hlocation] at hpolled
    obtain rfl := Option.some.inj hpolled
    refine iff_of_true ?_ rfl
    dsimp only
    rw [report_setLocation, report_basePayload]
    rfl
  | none =>
  rw [hcontact, hlocation] at hpolled
  obtain rfl := Option.some.inj hpolled
  cases hpollCreation : message.pollCreationMessage with
  | some poll =>
    refine iff_of_false ?_ Bool.true_eq_false.mp
    dsimp only
    rw [report_setPoll]
    intro heq
    have htype : some "unknown" = some "poll" := congrArg Report.type heq
    revert htype
    decide
  | none =>
    refine iff_of_true ?_ rfl
    dsimp only
    rw [report_type, report_basePayload]
    rfl

/-- The entry for polling and the payload of the direct mode report the same exactly when there
is a message and what is taken of it is no poll. -/
theorem reports_agree_iff (msg : MessageEvent) (mediaDownloader : Option MediaDownloader)
    (client : Option Client) (m : IncomingMessage) (payload : Payload)
    (hpolled : toIncomingMessage (some msg) client = some m)
    (hsent : Direct.buildWebhookPayload msg mediaDownloader client = .ok payload) :
    m.report = payload.report ↔
      ∃ message, msg.message = some message ∧ message.takenAsPoll = false := by
  cases hmessage : msg.message with
  | none =>
    simp only [toIncomingMessage, hmessage] at hpolled
    simp only [Direct.buildWebhookPayload, hmessage] at hsent
    obtain rfl := Option.some.inj hpolled
    obtain rfl := Except.ok.inj hsent
    apply iff_of_false
    · intro heq
      rw [report_basePayload] at heq
      have htype : some "unknown" = none := congrArg Report.type heq
      cases htype
    · intro hexists
      obtain ⟨_, hnone, _⟩ := hexists
      cases hnone
  | some message =>
    have hexists : (∃ message', some message = some message' ∧ message'.takenAsPoll = false) ↔
        message.takenAsPoll = false := by
      constructor
      · rintro ⟨_, hsome, hpoll⟩
        obtain rfl := Option.some.inj hsome
        exact hpoll
      · exact fun hpoll => ⟨message, rfl, hpoll⟩
    rw [hexists]
    cases htext : message.hasText with
    | true =>
      refine iff_of_true (reports_text hmessage htext hpolled hsent) ?_
      simp [Message.takenAsPoll, htext]
    | false =>
      cases hmedia : message.hasMedia with
      | true =>
        refine iff_of_true (reports_media hmessage htext hmedia hpolled hsent) ?_
        simp [Message.takenAsPoll, hmedia]
      | false => exact reports_other_iff hmessage htext hmedia hpolled hsent

/-- An event with this message, from a phone number. -/
def eventOf (message : Message) : MessageEvent where
  info := ⟨"3EB0", 0, ⟨"628222@s.whatsapp.net", false⟩, ⟨"", true⟩,
    ⟨"628222@s.whatsapp.net", false⟩, false, ""⟩
  message := some message

theorem reports_agree_on_text :
    (∃ message, (eventOf { conversation := some "hi" }).message = some message ∧
      message.takenAsPoll = false) ∧
      { baseMessage (eventOf { conversation := some "hi" }).info none with
        type := "text", text := "hi" }.report =
      (((basePayload (eventOf { conversation := some "hi" }).info none).set "type"
        (.str "text")).set "text" (.str "hi")).report :=
  ⟨⟨_, rfl, rfl⟩, (reports_agree_iff (eventOf { conversation := some "hi" }) none none _ _ rfl
    rfl).mpr ⟨_, rfl, rfl⟩⟩

/-- The entry for a poll is of an unknown type. -/
theorem poll_reports_differ :
    ¬ ∀ (msg : MessageEvent) (mediaDownloader : Option MediaDownloader) (client : Option Client)
      (m : IncomingMessage) (payload : Payload),
      toIncomingMessage (some msg) client = some m →
      Direct.buildWebhookPayload msg mediaDownloader client = .ok payload →
      m.report = payload.report := by
  intro hagree
  have heq := hagree (eventOf { pollCreationMessage := some ⟨some "Lunch?", [], some 1⟩ }) none
    none _ _ rfl rfl
  rw [report_setPoll] at heq
  have htype : some "unknown" = some "poll" := congrArg Report.type heq
  revert htype
  decide

end WhatsappGateway.Whatsapp

import WhatsappGateway.Queue.EventHandlers
import WhatsappGateway.Storage.ObjectStore
import WhatsappGateway.Whatsapp.PayloadAgreement
import WhatsappGateway.Whatsapp.PolledMessage

/-!
The downloader of incoming media: where it stores what it downloads, and under which URL a
webhook announces it. A stored file is named after a new UUID and lies in a directory of its
account, so no download touches the file of another one; retention removes it in the end.
-/

namespace WhatsappGateway.Whatsapp

open Lib FilePath FileTree Storage

/-- What `uuid.New().String()` returns. -/
structure Uuid where
  text : String
  length : text.toList.length = 36
  plain : ∀ c ∈ text.toList, c.isAlphanum = true ∨ c = '-'

/-- The year and the month of `time.Now()`. -/
structure Moment where
  year : Nat
  month : Nat

structure MediaConfig where
  enabled : Bool
  maxFileSizeBytes : Int
  storagePrefix : String
  storageProvider : String

/-- What the downloader uses of a storage. -/
structure MediaStorage (σ : Type) where
  uploadFile : σ → (bucket key : String) → (content : List UInt8) → (contentType : String) →
    σ × Except String String
  getPresignedURL : (bucket key : String) → Except String String
  getPublicURL : (bucket key : String) → String

/-- `client.Download`. -/
abbrev MediaClient := DownloadableMessage → Except String (List UInt8)

/-- The MIME type that the downloader looks at; it has no case for a sticker. -/
def DownloadableMessage.mimetype : DownloadableMessage → Option String
  | .image m => m.mimetype
  | .video m => m.mimetype
  | .audio m => m.mimetype
  | .document m => m.mimetype
  | .sticker _ => none

/-- `strings.Map` with an underscore for what is not kept. -/
def mapRunes (kept : Char → Bool) (text : String) : String :=
  String.ofList (text.toList.map fun c => if kept c then c else '_')

def safePhone (phoneNumber : String) : String :=
  mapRunes (fun c => c.isDigit || c == '+') (String.ofList (Events.trimSpace phoneNumber.toList))

def safeExt (ext : String) : String := mapRunes (fun c => c == '.' || c.isAlphanum) ext

/-- `%02d`. -/
def twoDigits (n : Nat) : String := if n < 10 then "0" ++ toString n else toString n

def generateStorageKey (storagePrefix phoneNumber ext : String) (now : Moment) (uuid : Uuid) :
    String :=
  join [storagePrefix, safePhone phoneNumber, toString now.year, twoDigits now.month,
    uuid.text ++ safeExt ext]

def allowedMimeTypes : List String :=
  ["image/jpeg", "image/jpg", "image/png", "image/gif", "image/webp", "video/mp4", "video/3gpp",
    "audio/mpeg", "audio/mp3", "audio/aac", "audio/ogg", "application/pdf", "text/plain"]

def defaultExtension (mediaType : String) : String :=
  if mediaType = "image" then ".jpg"
  else if mediaType = "video" then ".mp4"
  else if mediaType = "audio" then ".mp3"
  else if mediaType = "document" then ".pdf"
  else if mediaType = "sticker" then ".webp"
  else ".bin"

def getExtension (mediaType : String) (mediaMessage : DownloadableMessage) :
    Except String String :=
  let mimeType := getString mediaMessage.mimetype
  if mimeType ≠ "" ∧ mimeType ∉ allowedMimeTypes then
    .error ("unsupported MIME type: " ++ mimeType)
  else .ok <|
    if mimeType ∈ ["image/jpeg", "image/jpg"] then ".jpg"
    else if mimeType = "image/png" then ".png"
    else if mimeType = "image/gif" then ".gif"
    else if mimeType = "image/webp" then ".webp"
    else if mimeType = "video/mp4" then ".mp4"
    else if mimeType = "video/3gpp" then ".3gp"
    else if mimeType ∈ ["audio/mpeg", "audio/mp3"] then ".mp3"
    else if mimeType = "audio/aac" then ".aac"
    else if mimeType = "audio/ogg" then ".ogg"
    else if mimeType = "application/pdf" then ".pdf"
    else if mimeType = "text/plain" then ".txt"
    else defaultExtension mediaType

def getContentType (mediaMessage : DownloadableMessage) (mediaType : String) : String :=
  mediaMessage.mimetype.getD <|
    if mediaType = "image" then "image/jpeg"
    else if mediaType = "video" then "video/mp4"
    else if mediaType = "audio" then "audio/mpeg"
    else if mediaType = "document" then "application/pdf"
    else if mediaType = "sticker" then "image/webp"
    else "application/octet-stream"

/-- The storage afterwards, the URL, and an error. -/
def downloadAndStoreMedia {σ : Type} (cfg : MediaConfig) (storage : MediaStorage σ)
    (getClient : String → Option MediaClient) (now : Moment) (uuid : Uuid) (stored : σ)
    (phoneNumber : String) (mediaMessage : DownloadableMessage) (mediaType : String) :
    σ × String × Option String :=
  if !cfg.enabled then (stored, "", none)
  else
    match getClient phoneNumber with
    | none => (stored, "", some "client not found")
    | some download =>
      match download mediaMessage with
      | .error err => (stored, "", some ("failed to download media: " ++ err))
      | .ok mediaBytes =>
        if cfg.maxFileSizeBytes < mediaBytes.length then
          (stored, "", some ("media file size " ++ toString mediaBytes.length ++
            " bytes exceeds limit " ++ toString cfg.maxFileSizeBytes))
        else
          match getExtension mediaType mediaMessage with
          | .error err => (stored, "", some ("failed to determine file extension: " ++ err))
          | .ok ext =>
            let key := generateStorageKey cfg.storagePrefix phoneNumber ext now uuid
            match storage.uploadFile stored "" key mediaBytes
              (getContentType mediaMessage mediaType) with
            | (stored, .error err) => (stored, "", some ("failed to upload to storage: " ++ err))
            | (stored, .ok _) =>
              if cfg.storageProvider = "s3" then
                match storage.getPresignedURL "" key with
                | .error err => (stored, "", some ("failed to generate presigned URL: " ++ err))
                | .ok url => (stored, url, none)
              else (stored, storage.getPublicURL "" key, none)

/-! ### On the local store -/

def getPublicURL (baseURL key : String) : String :=
  if baseURL ≠ "" then
    (if hasSuffix baseURL "/" then String.ofList baseURL.toList.dropLast else baseURL) ++ "/" ++ key
  else key

/-- The local store as the downloader uses it. What the URLs start with is configured; they are
not signed. -/
def localMedia (s : LocalStorage) (baseURL : String) (host : Host) (conditions : Conditions) :
    MediaStorage (Disk File) where
  uploadFile disk bucket key content _ := s.upload host conditions disk bucket key ⟨content, none⟩
  getPresignedURL _ key := .ok (getPublicURL baseURL key)
  getPublicURL _ key := getPublicURL baseURL key

/-! ### The key -/

variable {s : LocalStorage} {host : Host} {cfg : MediaConfig} {c : Char} {part : Part}
  {storagePrefix phoneNumber ext text : String} {kept : Char → Bool} {now : Moment}
  {uuid other : Uuid} {p : Path} {names : List Part}

theorem mem_mapRunes (h : c ∈ (mapRunes kept text).toList) : kept c = true ∨ c = '_' := by
  rw [mapRunes, String.toList_ofList, List.mem_map] at h
  obtain ⟨c, -, rfl⟩ := h
  split_ifs with hkept
  · exact .inl hkept
  · exact .inr rfl

theorem slash_not_mem_mapRunes (h : kept '/' = false) : '/' ∉ (mapRunes kept text).toList := by
  intro hmem
  rcases mem_mapRunes hmem with hkept | heq
  · rw [h] at hkept
    cases hkept
  · exact absurd heq (by decide)

/-- A phone number is written without a dot, so it names a directory, or nothing. -/
theorem safePhone_plain (phoneNumber : String) :
    (safePhone phoneNumber).toList = [] ∨ Plain (safePhone phoneNumber).toList := by
  cases hphone : (safePhone phoneNumber).toList with
  | nil => exact .inl rfl
  | cons c rest =>
    have hc : c ∈ (safePhone phoneNumber).toList := by
      rw [hphone]
      exact List.mem_cons_self
    refine .inr (hphone ▸ plain_of_mem hc ?_ (slash_not_mem_mapRunes rfl))
    rintro rfl
    rcases mem_mapRunes hc with hkept | heq
    · exact absurd hkept (by decide)
    · exact absurd heq (by decide)

theorem digits_of_toString {n : Nat} (h : c ∈ (toString n).toList) : c.isDigit = true := by
  rw [Nat.toString_eq_ofList_toDigits, String.toList_ofList] at h
  exact Nat.isDigit_of_mem_toDigits (by decide) (by decide) h

theorem digits_of_twoDigits {n : Nat} (h : c ∈ (twoDigits n).toList) : c.isDigit = true := by
  unfold twoDigits at h
  split_ifs at h
  · rw [String.toList_append, List.mem_append] at h
    rcases h with hzero | hrest
    · rw [List.mem_singleton.mp hzero]
      decide
    · exact digits_of_toString hrest
  · exact digits_of_toString h

theorem plain_of_digits (hne : part ≠ []) (h : ∀ c ∈ part, c.isDigit = true) : Plain part := by
  obtain ⟨c, rest, rfl⟩ := List.exists_cons_of_ne_nil hne
  refine plain_of_mem List.mem_cons_self ?_ ?_
  · rintro rfl
    exact absurd (h '.' List.mem_cons_self) (by decide)
  · exact fun hslash => absurd (h '/' hslash) (by decide)

theorem toString_ne_nil (n : Nat) : (toString n).toList ≠ [] := by
  rw [Nat.toString_eq_ofList_toDigits, String.toList_ofList]
  exact Nat.toDigits_ne_nil

theorem twoDigits_ne_nil (n : Nat) : (twoDigits n).toList ≠ [] := by
  unfold twoDigits
  split_ifs
  · simp
  · exact toString_ne_nil n

theorem uuid_plain (uuid : Uuid) (ext : String) : Plain (uuid.text ++ safeExt ext).toList := by
  rw [String.toList_append]
  have hne : uuid.text.toList ≠ [] := by
    rw [← List.length_pos_iff, uuid.length]
    decide
  obtain ⟨c, rest, htext⟩ := List.exists_cons_of_ne_nil hne
  have hc : c ∈ uuid.text.toList := by
    rw [htext]
    exact List.mem_cons_self
  refine plain_of_mem (List.mem_append_left _ hc) ?_ ?_
  · rintro rfl
    exact absurd (uuid.plain '.' hc) (by decide)
  · rw [List.mem_append, not_or]
    exact ⟨fun hslash => absurd (uuid.plain '/' hslash) (by decide),
      slash_not_mem_mapRunes (by decide)⟩

/-- The directory of an account, below the prefix. A blank phone number has none of its own. -/
def accountDir (phoneNumber : String) : List Part :=
  if (safePhone phoneNumber).toList = [] then [] else [(safePhone phoneNumber).toList]

/-- The components of a key below the directory of its account. -/
def mediaNames (ext : String) (now : Moment) (uuid : Uuid) : List Part :=
  [(toString now.year).toList, (twoDigits now.month).toList, (uuid.text ++ safeExt ext).toList]

theorem mediaNames_plain (ext : String) (now : Moment) (uuid : Uuid) :
    ∀ name ∈ mediaNames ext now uuid, Plain name := by
  unfold mediaNames
  simp only [List.forall_mem_cons]
  exact ⟨plain_of_digits (toString_ne_nil _) fun _ => digits_of_toString,
    plain_of_digits (twoDigits_ne_nil _) fun _ => digits_of_twoDigits,
    uuid_plain uuid ext, fun _ h => nomatch h⟩

theorem enter_safePhone (p : Path) (phoneNumber : String) :
    p.enter (safePhone phoneNumber).toList =
      { p with names := p.names ++ accountDir phoneNumber } := by
  unfold accountDir
  rcases safePhone_plain phoneNumber with hempty | hplain
  · rw [if_pos hempty, hempty, Path.enter_skip (.inl rfl), List.append_nil]
  · rw [if_neg hplain.1, Path.enter_plain hplain]

theorem parse_generateStorageKey (storagePrefix phoneNumber ext : String) (now : Moment)
    (uuid : Uuid) :
    parse (generateStorageKey storagePrefix phoneNumber ext now uuid) =
      { parse storagePrefix with
        names := (parse storagePrefix).names ++ accountDir phoneNumber ++
          mediaNames ext now uuid } := by
  have hprefix : parse (join [storagePrefix]) = parse storagePrefix := by
    unfold join
    by_cases hempty : storagePrefix = ""
    · rw [hempty]
      rfl
    · rw [List.dropWhile_cons_of_neg (by simpa using hempty)]
      dsimp only
      rw [parse_clean, String.intercalate_singleton]
  have hphone : '/' ∉ (safePhone phoneNumber).toList := slash_not_mem_mapRunes rfl
  have hslash : ∀ name ∈ [toString now.year, twoDigits now.month, uuid.text ++ safeExt ext],
      '/' ∉ name.toList :=
    fun name hname => (mediaNames_plain ext now uuid _ (List.mem_map_of_mem hname)).2.2.2
  have hnames := @parse_join_append ([storagePrefix] ++ [safePhone phoneNumber]) _ hslash
  rw [parse_join_concat hphone, hprefix, enter_safePhone] at hnames
  exact hnames.trans (Path.foldl_enter_plain (mediaNames_plain ext now uuid))

theorem generateStorageKey_ne (storagePrefix phoneNumber ext : String) (now : Moment)
    (uuid : Uuid) : generateStorageKey storagePrefix phoneNumber ext now uuid ≠ "" := by
  intro hempty
  have hnames := congrArg Path.names
    (parse_generateStorageKey storagePrefix phoneNumber ext now uuid)
  rw [hempty] at hnames
  exact absurd (List.append_eq_nil_iff.mp hnames.symm).2 (List.cons_ne_nil _ _)

theorem parse_getFullPath_render (h : p.Valid) :
    parse (s.getFullPath "" p.render) =
      (parse s.localPath).resolve { p with rooted := false } := by
  rw [LocalStorage.parse_getFullPath, ← parse_join_render h]
  rfl

/-- A medium lies below the directory of all media, however the phone number and the extension
are written. -/
theorem locate_generateStorageKey (s : LocalStorage) (host : Host)
    (storagePrefix phoneNumber ext : String) (now : Moment) (uuid : Uuid) :
    host.locate (s.getFullPath "" (generateStorageKey storagePrefix phoneNumber ext now uuid)) =
      host.locate (s.getFullPath "" (clean storagePrefix)) ++
        (accountDir phoneNumber ++ mediaNames ext now uuid) := by
  have hkey := parse_generateStorageKey storagePrefix phoneNumber ext now uuid
  have hrender := render_parse_join_of_ne
    (generateStorageKey_ne storagePrefix phoneNumber ext now uuid)
  have hvalid := parse_valid (generateStorageKey storagePrefix phoneNumber ext now uuid)
  have hpath := @parse_getFullPath_render s _ hvalid
  rw [show (parse (generateStorageKey storagePrefix phoneNumber ext now uuid)).render =
    generateStorageKey storagePrefix phoneNumber ext now uuid from hrender, hkey] at hpath
  rw [Host.locate, Host.locate, hpath, clean, parse_getFullPath_render (parse_valid storagePrefix),
    ← FileTree.locate_append]
  simp [Path.resolve]

/-- Two media with different UUIDs have different locations, whoever they are from. -/
theorem locate_ne_of_uuid_ne {phoneNumber' ext' : String} {now' : Moment}
    (h : other.text ≠ uuid.text) :
    let theirs := generateStorageKey storagePrefix phoneNumber' ext' now' other
    let ours := generateStorageKey storagePrefix phoneNumber ext now uuid
    host.locate (s.getFullPath "" theirs) ≠ host.locate (s.getFullPath "" ours) := by
  intro theirs ours
  rw [locate_generateStorageKey, locate_generateStorageKey]
  intro heq
  have hlast := congrArg List.getLast? heq
  simp only [mediaNames, List.getLast?_append, List.getLast?_cons_cons, List.getLast?_singleton,
    Option.some_or, Option.some.injEq, String.toList_append] at hlast
  have htext := (List.append_inj hlast (other.length.trans uuid.length.symm)).1
  exact h (String.toList_inj.mp htext)

/-! ### What is announced -/

/-- The media that a builder may describe, with the URL that WhatsApp gave. -/
structure Medium where
  message : DownloadableMessage
  type : String
  url : String

def MessageEvent.media (msg : MessageEvent) : List Medium :=
  match msg.message with
  | none => []
  | some m =>
    (m.imageMessage.map fun img => ⟨.image img, "image", getString img.url⟩).toList ++
      (m.videoMessage.map fun vid => ⟨.video vid, "video", getString vid.url⟩).toList ++
      (m.audioMessage.map fun audio => ⟨.audio audio, "audio", getString audio.url⟩).toList ++
      (m.documentMessage.map fun doc => ⟨.document doc, "document", getString doc.url⟩).toList ++
      (m.stickerMessage.map fun sticker =>
        ⟨.sticker sticker, "sticker", getString sticker.url⟩).toList

/-- The URL of the media in a payload. -/
def Payload.mediaURL (p : Payload) : Option String :=
  (p.obj "media").bind fun info => info.str "url"

/-- The payload has no media, or has the URL of one, or the one that its download returned. -/
def Announces (msg : MessageEvent) (mediaDownloader : Option MediaDownloader) (p : Payload) :
    Prop :=
  ∀ url, p.mediaURL = some url → ∃ medium ∈ msg.media, url = medium.url ∨
    (downloadMedia mediaDownloader medium.message medium.type = (url, none) ∧ url ≠ "")

variable {msg : MessageEvent} {m : Message} {mediaDownloader : Option MediaDownloader}
  {client : Option Client} {payload info q : Payload} {medium : Medium}
  {storageURL whatsappURL : String} {storageErr : Option String}

theorem Announces.of_none (h : q "media" = none) : Announces msg mediaDownloader q := by
  intro url hurl
  rw [Payload.mediaURL, Payload.obj, h] at hurl
  cases hurl

theorem Announces.of_setMedia {type : String} (hmedium : medium ∈ msg.media)
    (hinfo : info.str "url" = some
      (if (downloadMedia mediaDownloader medium.message medium.type).2 = none ∧
          (downloadMedia mediaDownloader medium.message medium.type).1 ≠ "" then
        (downloadMedia mediaDownloader medium.message medium.type).1
      else medium.url)) : Announces msg mediaDownloader (setMedia payload type info) := by
  intro url hurl
  refine ⟨medium, hmedium, ?_⟩
  rw [Payload.mediaURL, Payload.obj, setMedia_media, Option.bind_some, hinfo] at hurl
  obtain rfl := Option.some.inj hurl
  split_ifs with hstored
  · exact .inr ⟨Prod.ext rfl hstored.1, hstored.2⟩
  · exact .inl rfl

theorem Direct.setURL_url :
    (Direct.setURL info storageURL whatsappURL storageErr).str "url" =
      some (if storageErr = none ∧ storageURL ≠ "" then storageURL else whatsappURL) := by
  unfold Direct.setURL
  split_ifs
  · exact Payload.str_set
  · exact Payload.str_set

theorem Queued.setURL_url :
    (Queued.setURL info storageURL whatsappURL storageErr).str "url" =
      some (if storageErr = none ∧ storageURL ≠ "" then storageURL else whatsappURL) := by
  unfold Queued.setURL
  split_ifs
  · rw [Payload.str_congr (Payload.set_other (by decide)), Payload.str_set]
  · rw [Payload.str_congr (Payload.set_other (by decide)), Payload.str_set]

/-- A caption does not change the URL. -/
theorem str_url_caption {caption : String} :
    (info.setNonempty "caption" caption).str "url" = info.str "url" :=
  Payload.str_congr (Payload.setNonempty_other (by decide))

theorem basePayload_media (info : MessageInfo) (client : Option Client) :
    basePayload info client "media" = none := by
  simp [basePayload, Payload.empty]

theorem setText_media {text : Except Panic String} (hnone : payload "media" = none)
    (h : setText payload text = .ok q) : q "media" = none := by
  cases text with
  | error panic => cases h
  | ok text =>
    obtain rfl := Except.ok.inj h
    rw [Payload.set_other (by decide), Payload.set_other (by decide), hnone]

theorem setLocation_media {location : LocationMessage} (hnone : payload "media" = none) :
    setLocation payload location "media" = none := by
  unfold setLocation
  rw [Payload.setNonempty_other (by decide), Payload.setNonempty_other (by decide),
    Payload.setSome_other (by decide), Payload.setSome_other (by decide),
    Payload.set_other (by decide), hnone]

theorem setPoll_media {poll : PollCreationMessage} (hnone : payload "media" = none) :
    setPoll payload poll "media" = none := by
  unfold setPoll
  rw [Payload.set_other (by decide), Payload.set_other (by decide), Payload.set_other (by decide),
    Payload.set_other (by decide), hnone]

theorem Direct.announces (h : Direct.buildWebhookPayload msg mediaDownloader client = .ok q) :
    Announces msg mediaDownloader q := by
  have hbase := basePayload_media msg.info client
  cases hmessage : msg.message with
  | none =>
    simp only [Direct.buildWebhookPayload, hmessage] at h
    obtain rfl := Except.ok.inj h
    exact .of_none hbase
  | some m =>
  cases htext : m.hasText with
  | true =>
    rw [Direct.build_text hmessage htext] at h
    exact .of_none (setText_media hbase h)
  | false =>
  cases hmedia : m.hasMedia with
  | false =>
    rw [Direct.build_other hmessage htext hmedia] at h
    obtain rfl := Except.ok.inj h
    refine .of_none ?_
    cases m.contactMessage with
    | some contact =>
      dsimp only
      rw [Payload.setSome_other (by decide), Payload.set_other (by decide), hbase]
    | none =>
    cases m.locationMessage with
    | some location => exact setLocation_media hbase
    | none =>
    cases m.pollCreationMessage with
    | some poll => exact setPoll_media hbase
    | none =>
      dsimp only
      rw [Payload.set_other (by decide), hbase]
  | true =>
    obtain ⟨hconversation, hext⟩ := Message.hasText_eq_false.mp htext
    unfold Direct.buildWebhookPayload at h
    simp only [hmessage, hconversation, hext, Option.isSome_none, Bool.false_eq_true,
      if_false] at h
    cases himage : m.imageMessage with
    | some img =>
      rw [himage] at h
      obtain rfl := Except.ok.inj h
      have hmedium : ⟨.image img, "image", getString img.url⟩ ∈ msg.media := by
        simp [MessageEvent.media, hmessage, himage]
      exact .of_setMedia hmedium (str_url_caption.trans setURL_url)
    | none =>
    rw [himage] at h
    cases hvideo : m.videoMessage with
    | some vid =>
      rw [hvideo] at h
      obtain rfl := Except.ok.inj h
      have hmedium : ⟨.video vid, "video", getString vid.url⟩ ∈ msg.media := by
        simp [MessageEvent.media, hmessage, hvideo]
      exact .of_setMedia hmedium (str_url_caption.trans setURL_url)
    | none =>
    rw [hvideo] at h
    cases haudio : m.audioMessage with
    | some audio =>
      rw [haudio] at h
      obtain rfl := Except.ok.inj h
      have hmedium : ⟨.audio audio, "audio", getString audio.url⟩ ∈ msg.media := by
        simp [MessageEvent.media, hmessage, haudio]
      exact .of_setMedia hmedium setURL_url
    | none =>
    rw [haudio] at h
    cases hdocument : m.documentMessage with
    | some doc =>
      rw [hdocument] at h
      obtain rfl := Except.ok.inj h
      have hmedium : ⟨.document doc, "document", getString doc.url⟩ ∈ msg.media := by
        simp [MessageEvent.media, hmessage, hdocument]
      exact .of_setMedia hmedium setURL_url
    | none =>
    rw [hdocument] at h
    cases hsticker : m.stickerMessage with
    | some sticker =>
      rw [hsticker] at h
      obtain rfl := Except.ok.inj h
      have hmedium : ⟨.sticker sticker, "sticker", getString sticker.url⟩ ∈ msg.media := by
        simp [MessageEvent.media, hmessage, hsticker]
      exact .of_setMedia hmedium setURL_url
    | none =>
    simp [Message.hasMedia, himage, hvideo, haudio, hdocument, hsticker] at hmedia

theorem Queued.announces (h : Queued.buildWebhookPayload msg mediaDownloader client = .ok q) :
    Announces msg mediaDownloader q := by
  have hbase := basePayload_media msg.info client
  cases hmessage : msg.message with
  | none =>
    simp only [Queued.buildWebhookPayload, hmessage] at h
    obtain rfl := Except.ok.inj h
    exact .of_none hbase
  | some m =>
  cases hmedia : m.hasMedia with
  | true =>
    unfold Queued.buildWebhookPayload at h
    simp only [hmessage] at h
    cases himage : m.imageMessage with
    | some img =>
      rw [himage] at h
      obtain rfl := Except.ok.inj h
      have hmedium : ⟨.image img, "image", getString img.url⟩ ∈ msg.media := by
        simp [MessageEvent.media, hmessage, himage]
      exact .of_setMedia hmedium (str_url_caption.trans setURL_url)
    | none =>
    rw [himage] at h
    cases hvideo : m.videoMessage with
    | some vid =>
      rw [hvideo] at h
      obtain rfl := Except.ok.inj h
      have hmedium : ⟨.video vid, "video", getString vid.url⟩ ∈ msg.media := by
        simp [MessageEvent.media, hmessage, hvideo]
      exact .of_setMedia hmedium (str_url_caption.trans setURL_url)
    | none =>
    rw [hvideo] at h
    cases haudio : m.audioMessage with
    | some audio =>
      rw [haudio] at h
      obtain rfl := Except.ok.inj h
      have hmedium : ⟨.audio audio, "audio", getString audio.url⟩ ∈ msg.media := by
        simp [MessageEvent.media, hmessage, haudio]
      exact .of_setMedia hmedium setURL_url
    | none =>
    rw [haudio] at h
    cases hdocument : m.documentMessage with
    | some doc =>
      rw [hdocument] at h
      obtain rfl := Except.ok.inj h
      have hmedium : ⟨.document doc, "document", getString doc.url⟩ ∈ msg.media := by
        simp [MessageEvent.media, hmessage, hdocument]
      exact .of_setMedia hmedium setURL_url
    | none =>
    rw [hdocument] at h
    cases hsticker : m.stickerMessage with
    | some sticker =>
      rw [hsticker] at h
      obtain rfl := Except.ok.inj h
      have hmedium : ⟨.sticker sticker, "sticker", getString sticker.url⟩ ∈ msg.media := by
        simp [MessageEvent.media, hmessage, hsticker]
      exact .of_setMedia hmedium setURL_url
    | none =>
    simp [Message.hasMedia, himage, hvideo, haudio, hdocument, hsticker] at hmedia
  | false =>
  cases htext : m.hasText with
  | true =>
    rw [Queued.build_text hmessage hmedia htext] at h
    exact .of_none (setText_media hbase h)
  | false =>
    rw [Queued.build_other hmessage htext hmedia] at h
    obtain rfl := Except.ok.inj h
    refine .of_none ?_
    cases m.locationMessage with
    | some location => exact setLocation_media hbase
    | none =>
    cases m.pollCreationMessage with
    | some poll => exact setPoll_media hbase
    | none => exact hbase

/-! ### What is served -/

/-- A download of the local gateway: the settings, the account, and what its calls find. -/
structure LocalDownload where
  cfg : MediaConfig
  storage : LocalStorage
  baseURL : String
  host : Host
  conditions : Conditions
  getClient : String → Option MediaClient
  now : Moment
  uuid : Uuid
  phoneNumber : String

namespace LocalDownload

def run (d : LocalDownload) (disk : Disk File) (mediaMessage : DownloadableMessage)
    (mediaType : String) : Disk File × String × Option String :=
  downloadAndStoreMedia d.cfg (localMedia d.storage d.baseURL d.host d.conditions) d.getClient
    d.now d.uuid disk d.phoneNumber mediaMessage mediaType

/-- The downloader as a builder sees it. -/
def downloader (d : LocalDownload) (disk : Disk File) : MediaDownloader :=
  fun mediaMessage mediaType => (d.run disk mediaMessage mediaType).2

def storageKey (d : LocalDownload) (ext : String) : String :=
  generateStorageKey d.cfg.storagePrefix d.phoneNumber ext d.now d.uuid

def location (d : LocalDownload) (key : String) : Location :=
  d.host.locate (d.storage.getFullPath "" key)

/-- The call stores the medium of another download, or is a retention pass that has not come to
files of this time. -/
def Spares (d : LocalDownload) : LocalStorage.StoreCall → Prop
  | .upload _ bucket key _ => bucket = "" ∧ ∃ phoneNumber ext now other,
      other.text ≠ d.uuid.text ∧
        key = generateStorageKey d.cfg.storagePrefix phoneNumber ext now other
  | .pass (.performCleanup _ cutoff) => cutoff ≤ d.conditions.now
  | .pass (.deleteFile _ _) => False

variable {d : LocalDownload} {disk disk' : Disk File} {mediaMessage : DownloadableMessage}
  {mediaType url : String} {call : LocalStorage.StoreCall} {calls : List LocalStorage.StoreCall}

theorem Spares.spares (h : d.Spares call) (ext : String) :
    call.Spares d.storage d.host (d.location (d.storageKey ext)) d.conditions.now := by
  cases call with
  | upload conditions bucket key reader =>
    obtain ⟨hbucket, phoneNumber, ext', now, other, hother, hkey⟩ := h
    rw [hbucket, hkey]
    exact locate_ne_of_uuid_ne hother
  | pass pass =>
    cases pass with
    | deleteFile bucket key => exact h.elim
    | performCleanup retentionDays cutoff => exact h

/-- A URL is returned for what was downloaded, has no more than the allowed size, and was
stored. -/
theorem stored_of_run (hrun : (d.run disk mediaMessage mediaType).2 = (url, none))
    (hurl : url ≠ "") :
    ∃ download content ext stored, d.getClient d.phoneNumber = some download ∧
      download mediaMessage = .ok content ∧ (content.length : Int) ≤ d.cfg.maxFileSizeBytes ∧
      getExtension mediaType mediaMessage = .ok ext ∧
      d.storage.upload d.host d.conditions disk "" (d.storageKey ext) ⟨content, none⟩ =
        ((d.run disk mediaMessage mediaType).1, .ok stored) ∧
      url = getPublicURL d.baseURL (d.storageKey ext) := by
  unfold run downloadAndStoreMedia at hrun ⊢
  cases henabled : d.cfg.enabled with
  | false =>
    simp only [henabled, Bool.not_false, if_true] at hrun
    exact absurd (congrArg Prod.fst hrun).symm hurl
  | true =>
  cases hclient : d.getClient d.phoneNumber with
  | none => simp [henabled, hclient] at hrun
  | some download =>
  cases hdownload : download mediaMessage with
  | error err => simp [henabled, hclient, hdownload] at hrun
  | ok content =>
  by_cases hsize : d.cfg.maxFileSizeBytes < content.length
  · simp [henabled, hclient, hdownload, hsize] at hrun
  cases hext : getExtension mediaType mediaMessage with
  | error err => simp [henabled, hclient, hdownload, hsize, hext] at hrun
  | ok ext =>
  cases hupload : d.storage.upload d.host d.conditions disk "" (d.storageKey ext)
    ⟨content, none⟩ with
  | mk after result =>
  unfold storageKey at hupload
  cases result with
  | error err =>
    simp [henabled, hclient, hdownload, hsize, hext, localMedia, hupload] at hrun
  | ok stored =>
    refine ⟨download, content, ext, stored, rfl, hdownload, not_lt.mp hsize, rfl, ?_, ?_⟩
    · unfold storageKey
      simp only [hdownload, hsize, localMedia, hupload]
      simp
    · unfold storageKey
      simpa [henabled, hclient, hdownload, hsize, hext, localMedia, hupload, eq_comm] using hrun

/-- The key is answered with the content along every run of other downloads and of retention
passes that have not come to it. -/
def KeepsServing (d : LocalDownload) (disk : Disk File) (key : String) (content : List UInt8) :
    Prop :=
  ∀ calls disk', (∀ call ∈ calls, d.Spares call) →
    LocalStorage.StoreRun d.storage d.host calls disk disk' →
    d.host.refuses .read (d.location key) = none → ∀ toLower,
    d.storage.serveFile d.host toLower disk' key =
      .streamed ⟨key, content.length, d.conditions.now, toString d.conditions.now⟩
        (LocalStorage.getContentType toLower (LocalStorage.ext key)) content

/-- The URL is the one that WhatsApp gave, or a public one for what WhatsApp sent, in the directory
of the account. -/
def Backs (d : LocalDownload) (disk : Disk File) (medium : Medium) (url : String) : Prop :=
  url = medium.url ∨ ∃ download content key, d.getClient d.phoneNumber = some download ∧
    download medium.message = .ok content ∧ (content.length : Int) ≤ d.cfg.maxFileSizeBytes ∧
    url = getPublicURL d.baseURL key ∧
    d.location (clean d.cfg.storagePrefix) ++ accountDir d.phoneNumber <+: d.location key ∧
    d.KeepsServing (d.run disk medium.message medium.type).1 key content

section Sample

def sampleUuid : Uuid := ⟨"123e4567-e89b-42d3-a456-426614174000", by simp, by simp⟩

def sampleDownload : LocalDownload where
  cfg := ⟨true, 10, "webhook/media", "local"⟩
  storage := LocalStorage.defaultStorage
  baseURL := "https://gateway.example/storage/"
  host := LocalStorage.willing
  conditions := ⟨1, none⟩
  getClient _ := some fun _ => .ok [1, 2]
  now := ⟨2026, 3⟩
  uuid := sampleUuid
  phoneNumber := "../49151"

def sampleImage : MessageEvent where
  info := ⟨"A", 0, ⟨"49151@s.whatsapp.net", false⟩, ⟨"", true⟩, ⟨"49151@s.whatsapp.net", false⟩,
    false, ""⟩
  message := some { imageMessage := some ⟨some "https://mmg.example/a", some "image/png", none,
    [], none⟩ }

end Sample

end LocalDownload

end WhatsappGateway.Whatsapp

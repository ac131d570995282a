import Mathlib.Logic.Function.Basic

/-!
The two builders of an incoming message's webhook payload: `Direct.buildWebhookPayload`
of the event handler, and `Queued.buildWebhookPayload` of the queue's event handler. An
optional protobuf field is an `Option`; a builder that dereferences an unset one has
panicked. A payload is a map, so two payloads are equal when they agree at every key.

What the libraries do is given from outside: the strings of a JID, the lookup of a
phone number for a LID, and the result of a media download.
-/

namespace WhatsappGateway.Whatsapp

/-! ### Messages -/

structure ExtendedTextMessage where
  text : Option String

structure ImageMessage where
  url : Option String
  mimetype : Option String
  caption : Option String
  fileSHA256 : List UInt8
  fileLength : Option Nat

structure VideoMessage where
  url : Option String
  mimetype : Option String
  caption : Option String
  fileSHA256 : List UInt8
  fileLength : Option Nat

structure AudioMessage where
  url : Option String
  mimetype : Option String
  fileSHA256 : List UInt8
  fileLength : Option Nat

structure DocumentMessage where
  url : Option String
  mimetype : Option String
  fileName : Option String
  fileSHA256 : List UInt8
  fileLength : Option Nat

structure StickerMessage where
  url : Option String
  mimetype : Option String

structure ContactMessage where
  displayName : Option String

structure LocationMessage where
  degreesLatitude : Option Float
  degreesLongitude : Option Float
  name : Option String
  address : Option String

structure PollOption where
  optionName : Option String

structure PollCreationMessage where
  name : Option String
  options : List (Option PollOption)
  selectableOptionsCount : Option Nat

structure Message where
  conversation : Option String := none
  extendedTextMessage : Option ExtendedTextMessage := none
  imageMessage : Option ImageMessage := none
  videoMessage : Option VideoMessage := none
  audioMessage : Option AudioMessage := none
  documentMessage : Option DocumentMessage := none
  stickerMessage : Option StickerMessage := none
  contactMessage : Option ContactMessage := none
  locationMessage : Option LocationMessage := none
  pollCreationMessage : Option PollCreationMessage := none

/-- What the code asks of a JID. -/
structure JID where
  string : String
  isEmpty : Bool

structure MessageInfo where
  id : String
  timestamp : Int
  sender : JID
  senderAlt : JID
  chat : JID
  isGroup : Bool
  pushName : String

/-- `events.Message`. -/
structure MessageEvent where
  info : MessageInfo
  message : Option Message

structure DeviceStore where
  getPNForLID : Option (JID → Except String JID)

structure Client where
  store : Option DeviceStore

inductive DownloadableMessage where
  | image (m : ImageMessage)
  | video (m : VideoMessage)
  | audio (m : AudioMessage)
  | document (m : DocumentMessage)
  | sticker (m : StickerMessage)

/-- The storage URL of the media, and an error. -/
abbrev MediaDownloader := DownloadableMessage → String → String × Option String

/-! ### Payloads -/

inductive Value where
  | str (s : String)
  | bool (b : Bool)
  | int (n : Int)
  | float (x : Float)
  | strs (l : List String)
  | obj (fields : String → Option Value)

abbrev Payload := String → Option Value

def Payload.empty : Payload := fun _ => none

def Payload.set (p : Payload) (key : String) (value : Value) : Payload :=
  Function.update p key (some value)

/-- Sets the key unless the string is empty. -/
def Payload.setNonempty (p : Payload) (key s : String) : Payload :=
  if s ≠ "" then p.set key (.str s) else p

/-- Sets the key when there is a value. -/
def Payload.setSome {α : Type} (p : Payload) (key : String) (value : α → Value) :
    Option α → Payload
  | some a => p.set key (value a)
  | none => p

inductive Panic where
  | nilDereference
deriving DecidableEq, Repr

/-- `*p`. -/
def deref {α : Type} : Option α → Except Panic α
  | some a => .ok a
  | none => .error .nilDereference

/-- A getter of an optional string. -/
def getString (field : Option String) : String := field.getD ""

def PollOption.getOptionName : Option PollOption → String
  | some o => getString o.optionName
  | none => ""

def hasSuffix (s suffix : String) : Bool := suffix.toList.isSuffixOf s.toList

/-- Drops the device id, from the first `:` before the first `@` up to the `@`. -/
def stripDeviceIDFromJID (jid : String) : String :=
  let user := jid.toList.takeWhile (· ≠ '@')
  let server := jid.toList.dropWhile (· ≠ '@')
  if server = [] then jid
  else if ':' ∉ user then jid
  else String.ofList (user.takeWhile (· ≠ ':') ++ server)

def pnSuffix : String := "@s.whatsapp.net"

/-- The phone number that a LID is known to stand for. -/
def resolveLID (client : Option Client) (senderJID : JID) : Option JID :=
  match (client.bind Client.store).bind DeviceStore.getPNForLID with
  | none => none
  | some getPNForLID =>
    match getPNForLID senderJID with
    | .error _ => none
    | .ok resolvedJID =>
      if !resolvedJID.isEmpty && hasSuffix resolvedJID.string pnSuffix then some resolvedJID
      else none

def convertJIDToNonADLID (senderJID senderAlt chatJID : JID) (client : Option Client) :
    String × String :=
  if hasSuffix senderJID.string pnSuffix then (stripDeviceIDFromJID senderJID.string, "pn")
  else if hasSuffix senderJID.string "@lid" then
    if hasSuffix senderAlt.string pnSuffix then (stripDeviceIDFromJID senderAlt.string, "pn")
    else
      match resolveLID client senderJID with
      | some resolvedJID => (stripDeviceIDFromJID resolvedJID.string, "pn")
      | none =>
        if hasSuffix chatJID.string pnSuffix then (stripDeviceIDFromJID chatJID.string, "pn")
        else (stripDeviceIDFromJID senderJID.string, "lid")
  else (stripDeviceIDFromJID senderJID.string, "pn")

/-- The map that both builders start with. -/
def basePayload (info : MessageInfo) (client : Option Client) : Payload :=
  let (from_, addrMode) := convertJIDToNonADLID info.sender info.senderAlt info.chat client
  Payload.empty
    |>.set "event" (.str "message.incoming")
    |>.set "message_id" (.str info.id)
    |>.set "timestamp" (.int info.timestamp)
    |>.set "from" (.str from_)
    |>.set "addressing_mode" (.str addrMode)
    |>.set "chat" (.str info.chat.string)
    |>.set "is_group" (.bool info.isGroup)
    |>.set "push_name" (.str info.pushName)

/-- No downloader, no URL and no error. -/
def downloadMedia (mediaDownloader : Option MediaDownloader) (mediaMessage : DownloadableMessage)
    (mediaType : String) : String × Option String :=
  match mediaDownloader with
  | none => ("", none)
  | some downloader => downloader mediaMessage mediaType

def setText (payload : Payload) (text : Except Panic String) : Except Panic Payload := do
  let text ← text
  return (payload.set "type" (.str "text")).set "text" (.str text)

def setMedia (payload : Payload) (type : String) (mediaInfo : Payload) : Payload :=
  (payload.set "type" (.str type)).set "media" (.obj mediaInfo)

def setLocation (payload : Payload) (m : LocationMessage) : Payload :=
  payload.set "type" (.str "location")
    |>.setSome "latitude" .float m.degreesLatitude
    |>.setSome "longitude" .float m.degreesLongitude
    |>.setNonempty "name" (getString m.name)
    |>.setNonempty "address" (getString m.address)

def setPoll (payload : Payload) (m : PollCreationMessage) : Payload :=
  payload.set "type" (.str "poll")
    |>.set "question" (.str (getString m.name))
    |>.set "options" (.strs (m.options.map PollOption.getOptionName))
    |>.set "selectable_count" (.int (m.selectableOptionsCount.getD 0))

/-- What the description of a media message starts with, but for a sticker. -/
def mediaBase (type : String) (mimetype : Option String) (fileLength : Option Nat) : Payload :=
  Payload.empty
    |>.set "type" (.str type)
    |>.set "mime_type" (.str (getString mimetype))
    |>.set "size" (.int (fileLength.getD 0))

/-! ### The builder of the direct mode -/

namespace Direct

/-- The stored copy if there is one, and else the original. -/
def setURL (mediaInfo : Payload) (storageURL whatsappURL : String) (storageErr : Option String) :
    Payload :=
  if storageErr = none ∧ storageURL ≠ "" then mediaInfo.set "url" (.str storageURL)
  else mediaInfo.set "url" (.str whatsappURL)

def buildImageMediaInfo (m : ImageMessage) (storageURL whatsappURL : String)
    (storageErr : Option String) : Payload :=
  let mediaInfo := mediaBase "image" m.mimetype m.fileLength
  (setURL mediaInfo storageURL whatsappURL storageErr).setNonempty "caption" (getString m.caption)

def buildVideoMediaInfo (m : VideoMessage) (storageURL whatsappURL : String)
    (storageErr : Option String) : Payload :=
  let mediaInfo := mediaBase "video" m.mimetype m.fileLength
  (setURL mediaInfo storageURL whatsappURL storageErr).setNonempty "caption" (getString m.caption)

def buildAudioMediaInfo (m : AudioMessage) (storageURL whatsappURL : String)
    (storageErr : Option String) : Payload :=
  let mediaInfo := mediaBase "audio" m.mimetype m.fileLength
  setURL mediaInfo storageURL whatsappURL storageErr

def buildDocumentMediaInfo (m : DocumentMessage) (storageURL whatsappURL : String)
    (storageErr : Option String) : Payload :=
  let mediaInfo := mediaBase "document" m.mimetype m.fileLength
    |>.set "file_name" (.str (getString m.fileName))
  setURL mediaInfo storageURL whatsappURL storageErr

def buildStickerMediaInfo (m : StickerMessage) (storageURL whatsappURL : String)
    (storageErr : Option String) : Payload :=
  let mediaInfo := (Payload.empty.set "type" (.str "sticker")).setSome "mime_type" .str m.mimetype
  setURL mediaInfo storageURL whatsappURL storageErr

def buildWebhookPayload (msg : MessageEvent) (mediaDownloader : Option MediaDownloader)
    (client : Option Client) : Except Panic Payload :=
  let payload := basePayload msg.info client
  match msg.message with
  | none => .ok payload
  | some m =>
    if m.conversation.isSome then setText payload (deref m.conversation)
    else
    match m.extendedTextMessage with
    | some ext => setText payload (deref ext.text)
    | none =>
    match m.imageMessage with
    | some img =>
      let (storageURL, err) := downloadMedia mediaDownloader (.image img) "image"
      .ok (setMedia payload "image"
        (buildImageMediaInfo img storageURL (getString img.url) err))
    | none =>
    match m.videoMessage with
    | some vid =>
      let (storageURL, err) := downloadMedia mediaDownloader (.video vid) "video"
      .ok (setMedia payload "video"
        (buildVideoMediaInfo vid storageURL (getString vid.url) err))
    | none =>
    match m.audioMessage with
    | some audio =>
      let (storageURL, err) := downloadMedia mediaDownloader (.audio audio) "audio"
      .ok (setMedia payload "audio"
        (buildAudioMediaInfo audio storageURL (getString audio.url) err))
    | none =>
    match m.documentMessage with
    | some doc =>
      let (storageURL, err) := downloadMedia mediaDownloader (.document doc) "document"
      .ok (setMedia payload "document"
        (buildDocumentMediaInfo doc storageURL (getString doc.url) err))
    | none =>
    match m.stickerMessage with
    | some sticker =>
      let (storageURL, err) := downloadMedia mediaDownloader (.sticker sticker) "sticker"
      .ok (setMedia payload "sticker"
        (buildStickerMediaInfo sticker storageURL (getString sticker.url) err))
    | none =>
    match m.contactMessage with
    | some contact =>
      .ok ((payload.set "type" (.str "contact")).setSome "display_name" .str contact.displayName)
    | none =>
    match m.locationMessage with
    | some location => .ok (setLocation payload location)
    | none =>
    match m.pollCreationMessage with
    | some poll => .ok (setPoll payload poll)
    | none => .ok (payload.set "type" (.str "unknown"))

end Direct

/-! ### The builder of the queue mode -/

namespace Queued

def hexDigit (n : Nat) : Char := "0123456789abcdef".toList.getD n '0'

/-- `%x` of bytes. -/
def hex (bytes : List UInt8) : String :=
  String.ofList (bytes.flatMap fun b => [hexDigit (b.toNat / 16), hexDigit (b.toNat % 16)])

/-- The URL that is taken also stands under a key of its own. -/
def setURL (mediaInfo : Payload) (storageURL whatsappURL : String) (storageErr : Option String) :
    Payload :=
  if storageErr = none ∧ storageURL ≠ "" then
    (mediaInfo.set "url" (.str storageURL)).set "storage_url" (.str storageURL)
  else (mediaInfo.set "url" (.str whatsappURL)).set "whatsapp_url" (.str whatsappURL)

def buildImageMediaInfo (m : ImageMessage) (storageURL whatsappURL : String)
    (storageErr : Option String) : Payload :=
  let mediaInfo := (mediaBase "image" m.mimetype m.fileLength).set "sha256" (.str (hex m.fileSHA256))
  (setURL mediaInfo storageURL whatsappURL storageErr).setNonempty "caption" (getString m.caption)

def buildVideoMediaInfo (m : VideoMessage) (storageURL whatsappURL : String)
    (storageErr : Option String) : Payload :=
  let mediaInfo := (mediaBase "video" m.mimetype m.fileLength).set "sha256" (.str (hex m.fileSHA256))
  (setURL mediaInfo storageURL whatsappURL storageErr).setNonempty "caption" (getString m.caption)

def buildAudioMediaInfo (m : AudioMessage) (storageURL whatsappURL : String)
    (storageErr : Option String) : Payload :=
  let mediaInfo := (mediaBase "audio" m.mimetype m.fileLength).set "sha256" (.str (hex m.fileSHA256))
  setURL mediaInfo storageURL whatsappURL storageErr

def buildDocumentMediaInfo (m : DocumentMessage) (storageURL whatsappURL : String)
    (storageErr : Option String) : Payload :=
  let mediaInfo := mediaBase "document" m.mimetype m.fileLength
    |>.set "file_name" (.str (getString m.fileName))
    |>.set "sha256" (.str (hex m.fileSHA256))
  setURL mediaInfo storageURL whatsappURL storageErr

def buildStickerMediaInfo (m : StickerMessage) (storageURL whatsappURL : String)
    (storageErr : Option String) : Payload :=
  let mediaInfo := (Payload.empty.set "type" (.str "sticker")).setSome "mime_type" .str m.mimetype
  setURL mediaInfo storageURL whatsappURL storageErr

/-- Media come before text here, and a contact or an unknown message has no branch. -/
def buildWebhookPayload (msg : MessageEvent) (mediaDownloader : Option MediaDownloader)
    (client : Option Client) : Except Panic Payload :=
  let payload := basePayload msg.info client
  match msg.message with
  | none => .ok payload
  | some m =>
    match m.imageMessage with
    | some img =>
      let (storageURL, err) := downloadMedia mediaDownloader (.image img) "image"
      .ok (setMedia payload "image"
        (buildImageMediaInfo img storageURL (getString img.url) err))
    | none =>
    match m.videoMessage with
    | some vid =>
      let (storageURL, err) := downloadMedia mediaDownloader (.video vid) "video"
      .ok (setMedia payload "video"
        (buildVideoMediaInfo vid storageURL (getString vid.url) err))
    | none =>
    match m.audioMessage with
    | some audio =>
      let (storageURL, err) := downloadMedia mediaDownloader (.audio audio) "audio"
      .ok (setMedia payload "audio"
        (buildAudioMediaInfo audio storageURL (getString audio.url) err))
    | none =>
    match m.documentMessage with
    | some doc =>
      let (storageURL, err) := downloadMedia mediaDownloader (.document doc) "document"
      .ok (setMedia payload "document"
        (buildDocumentMediaInfo doc storageURL (getString doc.url) err))
    | none =>
    match m.stickerMessage with
    | some sticker =>
      let (storageURL, err) := downloadMedia mediaDownloader (.sticker sticker) "sticker"
      .ok (setMedia payload "sticker"
        (buildStickerMediaInfo sticker storageURL (getString sticker.url) err))
    | none =>
    if m.conversation.isSome then setText payload (deref m.conversation)
    else
    match m.extendedTextMessage with
    | some ext => setText payload (deref ext.text)
    | none =>
    match m.locationMessage with
    | some location => .ok (setLocation payload location)
    | none =>
    match m.pollCreationMessage with
    | some poll => .ok (setPoll payload poll)
    | none => .ok payload

end Queued

end WhatsappGateway.Whatsapp

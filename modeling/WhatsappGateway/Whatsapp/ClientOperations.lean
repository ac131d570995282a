import Mathlib.Logic.Function.Basic
import WhatsappGateway.Whatsapp.ClientErrors

/-!
The operations of the client that run a call of whatsmeow under `outboundCtx`: what each of
them checks first, and how each reports the error of the call. What they make of a result
is left out, so a success is `.ok ()`.
-/

namespace WhatsappGateway.Whatsapp.Operations

open Lib

structure JID where
  user : String
  server : String
deriving DecidableEq, Repr

def groupServer : String := "g.us"

def defaultUserServer : String := "s.whatsapp.net"

def hiddenUserServer : String := "lid"

/-- What an operation asks of a client: `id` is the user of the stored ID, and `lid` that of
the stored LID. -/
structure Cli where
  isLoggedIn : Bool
  id : Option String
  lid : String
deriving DecidableEq, Repr

abbrev Clients := String → Option Cli

/-- An operation makes one call, or uploads media before it. -/
inductive WhatsmeowCall where
  | upload
  | call
deriving DecidableEq, Repr

/-- `quote` is `%q`. `answer` is the error of a call of whatsmeow, `none` for nil. -/
structure Env where
  parseJID : String → Except Err JID
  quote : String → String
  answer : WhatsmeowCall → Option Err

/-- The clients, and the error that is returned. -/
abbrev Outcome := Clients × Except DomainError Unit

/-! ### Checks -/

def badRequest (text : String) : DomainError := ⟨.badRequest, .new text⟩

def loggedInClient (clients : Clients) (phoneNumber : String) : Except DomainError Cli :=
  match clients phoneNumber with
  | none => .error ⟨.notFound, .new errClientNotFound⟩
  | some cli =>
    if !cli.isLoggedIn then .error ⟨.unauthorized, .new "client not logged in"⟩
    else .ok cli

/-- A JID of a group; `text` is what the error says of any other. -/
def requireGroup (env : Env) (text jid : String) : Except DomainError Unit :=
  match env.parseJID jid with
  | .error _ => .error (badRequest (text ++ env.quote jid))
  | .ok parsed =>
    if parsed.server ≠ groupServer then .error (badRequest (text ++ env.quote jid)) else .ok ()

def groupClient (env : Env) (clients : Clients) (phoneNumber groupJID : String) :
    Except DomainError Cli := do
  let cli ← loggedInClient clients phoneNumber
  requireGroup env "chat must be a group JID (@g.us): " groupJID
  return cli

def communityClient (env : Env) (clients : Clients) (phoneNumber communityJID : String) :
    Except DomainError Cli := do
  let cli ← loggedInClient clients phoneNumber
  requireGroup env "chat must be a community JID (@g.us): " communityJID
  return cli

def parseUserJIDs (env : Env) (list : List String) : Except DomainError (List JID) :=
  list.mapM fun s =>
    match env.parseJID s with
    | .error _ => .error (badRequest ("invalid participant " ++ env.quote s))
    | .ok jid => .ok jid

def isSelfJID (cli : Cli) (jid : JID) : Bool :=
  (cli.id = some jid.user && jid.server = defaultUserServer) ||
    (cli.lid ≠ "" && cli.lid = jid.user && jid.server = hiddenUserServer)

/-- The JID that a message is for; `what` names it in the error. -/
def parseWrapped (env : Env) (what jid : String) : Except DomainError JID :=
  match env.parseJID jid with
  | .error err => .error ⟨.badRequest, .wrap ("invalid " ++ what ++ " format") err⟩
  | .ok parsed => .ok parsed

def parseQuoted (env : Env) (what jid : String) : Except DomainError JID :=
  match env.parseJID jid with
  | .error _ => .error (badRequest ("invalid " ++ what ++ " " ++ env.quote jid))
  | .ok parsed => .ok parsed

/-- The checks of an operation that sends a message to a JID. -/
def sendChecks (env : Env) (clients : Clients) (phoneNumber to_ : String) :
    Except DomainError Unit := do
  let _ ← loggedInClient clients phoneNumber
  let _ ← parseWrapped env "JID" to_

/-! ### Errors of a call -/

/-- The client of a deleted device is evicted. -/
def report (clients : Clients) (phoneNumber : String) (mapped : Mapped) : Outcome :=
  (if mapped.evicted then Function.update clients phoneNumber none else clients,
    .error mapped.err)

/-- The error is mapped. -/
def mapped (clients : Clients) (phoneNumber : String) (err : Err) : Outcome :=
  report clients phoneNumber (mapWhatsmeowErr err)

/-- The error is mapped, with a text around it unless the device was deleted. -/
def mappedWith (text : String) (clients : Clients) (phoneNumber : String) (err : Err) : Outcome :=
  if err.is .deviceDeleted then mapped clients phoneNumber err
  else mapped clients phoneNumber (.wrap text err)

/-- The error is mapped when the device was deleted, and else it is a failure. -/
def failed (text : String) (clients : Clients) (phoneNumber : String) (err : Err) : Outcome :=
  if err.is .deviceDeleted then mapped clients phoneNumber err
  else (clients, .error ⟨.internalFailure, .wrap text err⟩)

/-- As for an upload: the deadline is looked for first. -/
def uploadFailed (text : String) (clients : Clients) (phoneNumber : String) (err : Err) :
    Outcome :=
  if err.is .deadlineExceeded then (clients, .error gatewayTimeoutErr)
  else failed text clients phoneNumber err

/-- The checks, and then the call. -/
def perform (clients : Clients) (checks : Except DomainError Unit) (answer : Option Err)
    (onError : Err → Outcome) : Outcome :=
  match checks with
  | .error err => (clients, .error err)
  | .ok () =>
    match answer with
    | none => (clients, .ok ())
    | some err => onError err

/-- The checks, the upload and then the call. -/
def performUpload (clients : Clients) (checks : Except DomainError Unit)
    (answer : WhatsmeowCall → Option Err) (onUpload onError : Err → Outcome) : Outcome :=
  match checks with
  | .error err => (clients, .error err)
  | .ok () =>
    match answer .upload with
    | some err => onUpload err
    | none => perform clients (.ok ()) (answer .call) onError

/-! ### Operations -/

section

variable (env : Env) (clients : Clients) (phoneNumber : String)

def checkNumber : Outcome :=
  perform clients (do let _ ← loggedInClient clients phoneNumber) (env.answer .call)
    (mappedWith "failed to check number" clients phoneNumber)

/-- The text is put around the error of a deleted device, too. -/
def listGroups : Outcome :=
  perform clients (do let _ ← loggedInClient clients phoneNumber) (env.answer .call)
    fun err => mapped clients phoneNumber (.wrap "failed to list groups" err)

def getGroupInfo (groupJID : String) : Outcome :=
  perform clients (do let _ ← groupClient env clients phoneNumber groupJID) (env.answer .call)
    (mapped clients phoneNumber)

def listSubGroups (communityJID : String) : Outcome :=
  perform clients (do let _ ← communityClient env clients phoneNumber communityJID)
    (env.answer .call) (mapped clients phoneNumber)

def listCommunityParticipants (communityJID : String) : Outcome :=
  perform clients (do let _ ← communityClient env clients phoneNumber communityJID)
    (env.answer .call) (mapped clients phoneNumber)

def createGroup (participantJIDs : List String) (linkedParentJID : String) : Outcome :=
  perform clients
    (do
      let _ ← loggedInClient clients phoneNumber
      let _ ← parseUserJIDs env participantJIDs
      if linkedParentJID ≠ "" then
        requireGroup env "linked_parent_jid must be a group JID (@g.us): " linkedParentJID)
    (env.answer .call) (mapped clients phoneNumber)

def leaveGroup (groupJID : String) : Outcome :=
  perform clients (do let _ ← groupClient env clients phoneNumber groupJID) (env.answer .call)
    (mapped clients phoneNumber)

def updateGroupParticipants (groupJID action : String) (participantJIDs : List String) :
    Outcome :=
  perform clients
    (do
      let cli ← groupClient env clients phoneNumber groupJID
      let participants ← parseUserJIDs env participantJIDs
      if action ≠ "add" ∧ participants.any (isSelfJID cli) then
        .error (badRequest "use POST /group/leave to remove yourself"))
    (env.answer .call) (mapped clients phoneNumber)

def setGroupAnnounce (groupJID : String) : Outcome :=
  perform clients (do let _ ← groupClient env clients phoneNumber groupJID) (env.answer .call)
    (mapped clients phoneNumber)

def setGroupLocked (groupJID : String) : Outcome :=
  perform clients (do let _ ← groupClient env clients phoneNumber groupJID) (env.answer .call)
    (mapped clients phoneNumber)

def setGroupName (groupJID : String) : Outcome :=
  perform clients (do let _ ← groupClient env clients phoneNumber groupJID) (env.answer .call)
    (mapped clients phoneNumber)

def setGroupTopic (groupJID : String) : Outcome :=
  perform clients (do let _ ← groupClient env clients phoneNumber groupJID) (env.answer .call)
    (mapped clients phoneNumber)

def setGroupPhoto (groupJID : String) : Outcome :=
  perform clients (do let _ ← groupClient env clients phoneNumber groupJID) (env.answer .call)
    (mapped clients phoneNumber)

def getGroupInviteLink (groupJID : String) : Outcome :=
  perform clients (do let _ ← groupClient env clients phoneNumber groupJID) (env.answer .call)
    (mapped clients phoneNumber)

def joinGroupWithLink : Outcome :=
  perform clients (do let _ ← loggedInClient clients phoneNumber) (env.answer .call)
    (mapped clients phoneNumber)

def getGroupInfoFromLink : Outcome :=
  perform clients (do let _ ← loggedInClient clients phoneNumber) (env.answer .call)
    (mapped clients phoneNumber)

def getGroupRequestParticipants (groupJID : String) : Outcome :=
  perform clients (do let _ ← groupClient env clients phoneNumber groupJID) (env.answer .call)
    (mapped clients phoneNumber)

def updateGroupRequestParticipants (groupJID : String) (participantJIDs : List String) :
    Outcome :=
  perform clients
    (do
      let _ ← groupClient env clients phoneNumber groupJID
      let _ ← parseUserJIDs env participantJIDs)
    (env.answer .call) (mapped clients phoneNumber)

def linkSubGroup (parentJID childJID : String) : Outcome :=
  perform clients
    (do
      let _ ← groupClient env clients phoneNumber parentJID
      requireGroup env "child_jid must be a group JID (@g.us): " childJID)
    (env.answer .call) (mapped clients phoneNumber)

def unlinkSubGroup (parentJID childJID : String) : Outcome :=
  perform clients
    (do
      let _ ← groupClient env clients phoneNumber parentJID
      requireGroup env "child_jid must be a group JID (@g.us): " childJID)
    (env.answer .call) (mapped clients phoneNumber)

def getContactInfo (userJID : String) : Outcome :=
  perform clients
    (do
      let _ ← loggedInClient clients phoneNumber
      let _ ← parseQuoted env "recipient" userJID)
    (env.answer .call) (mapped clients phoneNumber)

def getAvatar (targetJID : String) : Outcome :=
  perform clients
    (do
      let _ ← loggedInClient clients phoneNumber
      let _ ← parseQuoted env "recipient" targetJID)
    (env.answer .call) (mapped clients phoneNumber)

def markRead (chat sender : String) (messageIDs : List String) : Outcome :=
  perform clients
    (do
      let _ ← loggedInClient clients phoneNumber
      if messageIDs = [] then .error (badRequest "message_ids is required")
      let chatJID ← parseQuoted env "recipient" chat
      let senderJID ← if sender ≠ "" then parseQuoted env "sender" sender else .ok ⟨"", ""⟩
      if chatJID.server = groupServer ∧ senderJID.server = "" then
        .error (badRequest "sender is required for group chats"))
    (env.answer .call) (mapped clients phoneNumber)

def sendChatPresence (chat : String) : Outcome :=
  perform clients
    (do
      let _ ← loggedInClient clients phoneNumber
      let _ ← parseQuoted env "recipient" chat)
    (env.answer .call) (mapped clients phoneNumber)

def sendTextMessage (to_ : String) : Outcome :=
  perform clients (sendChecks env clients phoneNumber to_) (env.answer .call)
    (mappedWith "failed to send message" clients phoneNumber)

def sendImageMessage (to_ : String) : Outcome :=
  performUpload clients (sendChecks env clients phoneNumber to_) env.answer
    (uploadFailed "failed to upload image" clients phoneNumber)
    (mappedWith "failed to send image message" clients phoneNumber)

def sendAudioMessage (to_ : String) : Outcome :=
  performUpload clients (sendChecks env clients phoneNumber to_) env.answer
    (uploadFailed "failed to upload audio" clients phoneNumber)
    (mappedWith "failed to send audio message" clients phoneNumber)

def sendVideoMessage (to_ : String) : Outcome :=
  performUpload clients (sendChecks env clients phoneNumber to_) env.answer
    (uploadFailed "failed to upload video" clients phoneNumber)
    (mappedWith "failed to send video message" clients phoneNumber)

def sendDocumentMessage (to_ : String) : Outcome :=
  performUpload clients (sendChecks env clients phoneNumber to_) env.answer
    (uploadFailed "failed to upload document" clients phoneNumber)
    (mappedWith "failed to send document message" clients phoneNumber)

def reactToMessage (chatJID senderJID : String) : Outcome :=
  perform clients
    (do
      sendChecks env clients phoneNumber chatJID
      if senderJID ≠ "" then
        let _ ← parseWrapped env "sender JID" senderJID)
    (env.answer .call) (mappedWith "failed to send reaction" clients phoneNumber)

def deleteMessage (chatJID : String) : Outcome :=
  perform clients (sendChecks env clients phoneNumber chatJID) (env.answer .call)
    (failed "failed to delete message" clients phoneNumber)

def editMessage (chatJID : String) : Outcome :=
  perform clients (sendChecks env clients phoneNumber chatJID) (env.answer .call)
    (failed "failed to edit message" clients phoneNumber)

def sendLocationMessage (to_ : String) : Outcome :=
  perform clients (sendChecks env clients phoneNumber to_) (env.answer .call)
    (mappedWith "failed to send location message" clients phoneNumber)

def sendPollMessage (to_ : String) : Outcome :=
  perform clients (sendChecks env clients phoneNumber to_) (env.answer .call)
    (mappedWith "failed to send poll message" clients phoneNumber)

def sendStickerMessage (to_ : String) : Outcome :=
  performUpload clients (sendChecks env clients phoneNumber to_) env.answer
    (uploadFailed "failed to upload sticker" clients phoneNumber)
    (mappedWith "failed to send sticker message" clients phoneNumber)

end

end WhatsappGateway.Whatsapp.Operations

import WhatsappGateway.Lib.Traced
import WhatsappGateway.Ratelimiter.Pacer
import WhatsappGateway.Usecase.GroupRequests

/-!
The operations of the usecase that send or change something on WhatsApp. Each validates its
request, waits for the pacer and calls the Manager, whose client checks the session and the
addresses and then calls the WhatsApp server. The waits and the server calls are the events
of an operation.
-/

namespace WhatsappGateway.Usecase

open Lib Traced SendMessage Outgoing

/-- The methods of the WhatsApp library that go to the server. -/
inductive ServerCall where
  | upload
  | sendMessage
  | markRead
  | sendChatPresence
  | createGroup
  | leaveGroup
  | updateGroupParticipants
  | setGroupAnnounce
  | setGroupLocked
  | setGroupName
  | setGroupTopic
  | setGroupPhoto
  | getGroupInviteLink
  | joinGroupWithLink
  | updateGroupRequestParticipants
  | linkGroup
  | unlinkGroup
deriving DecidableEq, Repr

inductive Event where
  | waited (phone recipient : String) (n : Int) (outcome : Ratelimiter.Outcome)
  | called (phone target : String) (call : ServerCall)
deriving DecidableEq, Repr

/-- What decides how an operation goes on, by the number of its events so far: the answers of
the pacer, if there is one, what the client finds wrong before it calls the server, and the
answers of the server. `queued` is the job of a send which the queue takes. -/
structure World where
  pacer : Option (Nat → Ratelimiter.Outcome)
  queued : Option String
  checks : Nat → Option Fault
  answers : Nat → Except Fault String

abbrev Outbound := Traced World Event Fault

/-- A call of the Manager that goes to the server: those of the workers, and the others. -/
inductive Operation where
  | message (op : ManagerOp)
  | markRead (sender : String) (messageIDs : List String)
  | sendChatPresence (state media : String)
  | createGroup (name : String) (participants : List String) (isCommunity : Bool)
      (linkedParent : String) (isAnnounce isLocked isJoinApproval : Bool)
  | leaveGroup
  | updateGroupParticipants (action : String) (participants : List String)
  | setGroupAnnounce (announce : Bool)
  | setGroupLocked (locked : Bool)
  | setGroupName (name : String)
  | setGroupTopic (topic : String)
  | setGroupPhoto (photo : Option (List UInt8))
  | getGroupInviteLink (reset : Bool)
  | joinGroupWithLink (code : String)
  | updateGroupRequestParticipants (participants : List String) (approve : Bool)
  | linkSubGroup (child : String)
  | unlinkSubGroup (child : String)
deriving DecidableEq, Repr

/-- The server calls of an operation of the client. Media are uploaded before the message. -/
def Operation.serverCalls : Operation → List ServerCall
  | .message op =>
    match op with
    | .sendImageMessage .. | .sendAudioMessage .. | .sendVideoMessage ..
    | .sendDocumentMessage .. | .sendStickerMessage .. => [.upload, .sendMessage]
    | .sendTextMessage .. | .sendLocationMessage .. | .sendPollMessage ..
    | .reactToMessage .. | .deleteMessage .. | .editMessage .. => [.sendMessage]
  | .markRead .. => [.markRead]
  | .sendChatPresence .. => [.sendChatPresence]
  | .createGroup .. => [.createGroup]
  | .leaveGroup => [.leaveGroup]
  | .updateGroupParticipants .. => [.updateGroupParticipants]
  | .setGroupAnnounce _ => [.setGroupAnnounce]
  | .setGroupLocked _ => [.setGroupLocked]
  | .setGroupName _ => [.setGroupName]
  | .setGroupTopic _ => [.setGroupTopic]
  | .setGroupPhoto _ => [.setGroupPhoto]
  | .getGroupInviteLink _ => [.getGroupInviteLink]
  | .joinGroupWithLink _ => [.joinGroupWithLink]
  | .updateGroupRequestParticipants .. => [.updateGroupRequestParticipants]
  | .linkSubGroup _ => [.linkGroup]
  | .unlinkSubGroup _ => [.unlinkGroup]

def serverCall (phone target : String) (call : ServerCall) : Outbound String :=
  observe fun w k => (.called phone target call, w.answers k)

/-- An operation of the client: its own checks, and its server calls up to the first that
fails. -/
def managerCall (phone target : String) (op : Operation) : Outbound String := do
  inspect fun w k => (w.checks k).elim (.ok ()) .error
  op.serverCalls.foldlM (fun _ call => serverCall phone target call) ""

/-- What an outcome of `Wait` becomes. -/
def paceError : Ratelimiter.Outcome → Except Fault Unit
  | .cleared => .ok ()
  | .rateLimited err => .error (.tooManyRequests ("rate limited; retry after " ++
      toString (err.retryAfter.tdiv Duration.second + 1) ++ "s"))
  | .failed err => .error (.domain (internalFailure err))

/-- Without a pacer nothing is waited for. -/
def pace (phone recipient : String) (n : Int) : Outbound Unit := do
  match ← inspect fun w _ => .ok w.pacer with
  | none => return ()
  | some answer => observe fun _ k =>
      (.waited phone recipient n (answer k), paceError (answer k))

def reject (invalid : Prop) [Decidable invalid] (err : Fault) : Except Fault Unit :=
  if invalid then .error err else .ok ()

def badArgument (err : String) : Fault := .domain (badRequest err)

def maxEmojiLen : Nat := 64

def maxGroupNameLen : Nat := 25

def maxGroupTopicLen : Nat := 512

/-- An address which a request may leave out. -/
def resolveOptional (resolve : String → Except Fault String) (v : String) : Except Fault String :=
  if trimSpace v = "" then .ok "" else resolve v

/-- The state and the media of a typing indicator. -/
def resolvePresenceState (env : Env) (s : String) : Except Fault (String × String) :=
  match env.toLower (trimSpace s) with
  | "composing" | "typing" => .ok ("composing", "")
  | "recording" => .ok ("composing", "audio")
  | "paused" | "stop" => .ok ("paused", "")
  | _ => .error (badArgument ("invalid presence state " ++ env.quote s ++
      " (want composing, recording, or paused)"))

def validParticipantAction (a : String) : Bool := a ∈ ["add", "remove", "promote", "demote"]

/-- One participant: a user, and not the account itself where that is guarded against. -/
def resolveParticipant (env : Env) (ownPhone : String) (selfGuard : Bool) (p : String) :
    Except Fault String := do
  let jid ← resolveTarget env p ""
  reject (hasGroupServer jid = true)
    (badArgument ("participant must be a user, not a group: " ++ env.quote p))
  reject (selfGuard = true ∧ String.ofList (jid.toList.takeWhile (· ≠ '@')) = ownPhone)
    (badArgument "use POST /group/leave to remove yourself")
  return jid

/-- The participants of a request, each once. A cap of 0 is none. -/
def resolveParticipants (env : Env) (cfg : GroupConfig) (list : List String) (ownPhone : String)
    (allowEmpty selfGuard : Bool) : Except Fault (List String) := do
  let out ← list.foldlM (fun out p => do
    let jid ← resolveParticipant env ownPhone selfGuard p
    return if jid ∈ out then out else out ++ [jid]) []
  reject (out = [] ∧ allowEmpty = false) (badArgument "participants is required")
  reject (cfg.groupMaxParticipantsPerRequest > 0 ∧
      out.length > cfg.groupMaxParticipantsPerRequest)
    (badArgument ("too many participants (max " ++
      toString cfg.groupMaxParticipantsPerRequest ++ ")"))
  return out

/-- The name of a group, trimmed. -/
def resolveGroupName (name : String) : Except Fault String := do
  let name := trimSpace name
  reject (name = "") (badArgument "name is required")
  reject (name.utf8ByteSize > maxGroupNameLen)
    (badArgument ("name exceeds maximum length of " ++ toString maxGroupNameLen ++ " characters"))
  return name

/-! ### The requests -/

structure MessageReactionRequest where
  chat : String
  msisdn : String
  messageID : String
  emoji : String
  senderMsisdn : String
deriving DecidableEq, Repr

structure MessageDeleteRequest where
  chat : String
  msisdn : String
  messageID : String
deriving DecidableEq, Repr

structure MessageEditRequest where
  chat : String
  msisdn : String
  messageID : String
  newMessage : String
deriving DecidableEq, Repr

structure MarkReadRequest where
  chat : String
  msisdn : String
  messageIDs : List String
  sender : String
deriving DecidableEq, Repr

structure ChatPresenceRequest where
  chat : String
  msisdn : String
  state : String
deriving DecidableEq, Repr

structure CreateGroupRequest where
  name : String
  participants : List String
  isCommunity : Bool
  linkedParentJID : String
  isAnnounce : Bool
  isLocked : Bool
  isJoinApprovalRequired : Bool
deriving DecidableEq, Repr

structure GroupTargetRequest where
  chat : String
  msisdn : String
deriving DecidableEq, Repr

structure GroupParticipantsRequest where
  chat : String
  msisdn : String
  action : String
  participants : List String
deriving DecidableEq, Repr

structure GroupSettingsRequest where
  chat : String
  msisdn : String
  announce : Option Bool
  locked : Option Bool
deriving DecidableEq, Repr

structure SetGroupNameRequest where
  chat : String
  msisdn : String
  name : String
deriving DecidableEq, Repr

structure SetGroupTopicRequest where
  chat : String
  msisdn : String
  topic : String
deriving DecidableEq, Repr

structure JoinGroupRequest where
  code : String
deriving DecidableEq, Repr

structure GroupJoinRequestsActionRequest where
  chat : String
  msisdn : String
  action : String
  participants : List String
deriving DecidableEq, Repr

structure CommunityLinkRequest where
  chat : String
  msisdn : String
  childJID : String
deriving DecidableEq, Repr

/-- What an operation returns; the strings of the server are what its call answered. -/
inductive Response where
  | done
  | sent (messageID chat : String)
  | queued (jobID chat : String)
  | groupCreated (group : String)
  | participants (groupJID action results : String)
  | settings (groupJID : String) (applied : List String)
  | photo (pictureID : String) (removed : Bool)
  | inviteLink (chat inviteLink : String)
  | joined (groupJID : String)
  | joinRequests (chat action results : String)
deriving DecidableEq, Repr

/-! ### The operations -/

section Operations

variable (env : Env) (cfg : GroupConfig) (encodeToString : List UInt8 → String)
  (phoneNumber : String)

/-- A send. What the queue does not take is sent directly. -/
def sendMessage (req : SendMessage.Request) : Outbound Response := do
  let paths ← (SendMessage.send env encodeToString phoneNumber req).mapError Fault.domain
  match ← inspect fun w _ => .ok w.queued with
  | some jobID => return .queued jobID paths.call.recipient
  | none =>
    pace phoneNumber paths.call.recipient 1
    let messageID ← managerCall paths.call.phoneNumber paths.call.recipient
      (.message paths.call.op)
    return .sent messageID paths.call.recipient

def reactToMessage (req : MessageReactionRequest) : Outbound Response := do
  let target ← resolveTarget env req.chat req.msisdn
  -- nobody is named who reacts to a message of the account itself
  let senderJID ← resolveOptional (resolveTarget env "") req.senderMsisdn
  (validateLength req.emoji "emoji" maxEmojiLen).mapError Fault.domain
  pace phoneNumber target 1
  let _ ← managerCall phoneNumber target
    (.message (.reactToMessage senderJID req.messageID req.emoji))
  return .done

def deleteMessage (req : MessageDeleteRequest) : Outbound Response := do
  let target ← resolveTarget env req.chat req.msisdn
  pace phoneNumber target 1
  let _ ← managerCall phoneNumber target (.message (.deleteMessage req.messageID))
  return .done

def editMessage (req : MessageEditRequest) : Outbound Response := do
  let target ← resolveTarget env req.chat req.msisdn
  (validateLength req.newMessage "new_message" maxTextMessageLen).mapError Fault.domain
  pace phoneNumber target 1
  let _ ← managerCall phoneNumber target (.message (.editMessage req.messageID req.newMessage))
  return .done

def markRead (req : MarkReadRequest) : Outbound Response := do
  let target ← resolveTarget env req.chat req.msisdn
  reject (req.messageIDs = []) (badArgument "message_ids is required")
  reject (hasGroupServer target = true ∧ trimSpace req.sender = "")
    (badArgument "sender is required for group chats")
  let sender ← resolveOptional (resolveTarget env · "") req.sender
  pace phoneNumber target 1
  let _ ← managerCall phoneNumber target (.markRead sender req.messageIDs)
  return .done

def sendChatPresence (req : ChatPresenceRequest) : Outbound Response := do
  let target ← resolveTarget env req.chat req.msisdn
  let (state, media) ← resolvePresenceState env req.state
  pace phoneNumber target 1
  let _ ← managerCall phoneNumber target (.sendChatPresence state media)
  return .done

def createGroup (req : CreateGroupRequest) : Outbound Response := do
  requireGroupManagement cfg
  let name ← resolveGroupName req.name
  let participants ← resolveParticipants env cfg req.participants phoneNumber true false
  reject (participants ≠ [] ∧ cfg.groupAddParticipantsEnabled = false)
    (.forbidden "adding participants is disabled")
  let linkedParent ← resolveOptional (resolveGroupJID env · "") req.linkedParentJID
  pace phoneNumber "" 1
  let group ← managerCall phoneNumber "" (.createGroup name participants req.isCommunity
    linkedParent req.isAnnounce req.isLocked req.isJoinApprovalRequired)
  return .groupCreated group

def leaveGroup (req : GroupTargetRequest) : Outbound Response := do
  requireGroupManagement cfg
  let target ← resolveGroupJID env req.chat req.msisdn
  pace phoneNumber target 1
  let _ ← managerCall phoneNumber target .leaveGroup
  return .done

def updateGroupParticipants (req : GroupParticipantsRequest) : Outbound Response := do
  requireGroupManagement cfg
  let target ← resolveGroupJID env req.chat req.msisdn
  let action := env.toLower (trimSpace req.action)
  reject (validParticipantAction action = false)
    (badArgument "action must be one of add, remove, promote, demote")
  let participants ← resolveParticipants env cfg req.participants phoneNumber false
    (action ≠ "add")
  reject (action = "add" ∧ cfg.groupAddParticipantsEnabled = false)
    (.forbidden "adding participants is disabled")
  pace phoneNumber target 1
  let results ← managerCall phoneNumber target (.updateGroupParticipants action participants)
  return .participants target action results

/-- One of the settings of a group, where the request has it. -/
def applySetting (target name : String) (op : Bool → Operation) (flag : Option Bool) :
    Outbound (List String) :=
  match flag with
  | none => return []
  | some flag => do
    let _ ← managerCall phoneNumber target (op flag)
    return [name]

/-- The settings are applied one after the other, on one wait. -/
def setGroupSettings (req : GroupSettingsRequest) : Outbound Response := do
  requireGroupManagement cfg
  let target ← resolveGroupJID env req.chat req.msisdn
  reject (req.announce = none ∧ req.locked = none)
    (badArgument "no settings supplied (announce and/or locked)")
  pace phoneNumber target 1
  let announced ← applySetting phoneNumber target "announce" .setGroupAnnounce req.announce
  let locked ← applySetting phoneNumber target "locked" .setGroupLocked req.locked
  return .settings target (announced ++ locked)

def setGroupName (req : SetGroupNameRequest) : Outbound Response := do
  requireGroupManagement cfg
  let target ← resolveGroupJID env req.chat req.msisdn
  let name ← resolveGroupName req.name
  pace phoneNumber target 1
  let _ ← managerCall phoneNumber target (.setGroupName name)
  return .done

def setGroupTopic (req : SetGroupTopicRequest) : Outbound Response := do
  requireGroupManagement cfg
  let target ← resolveGroupJID env req.chat req.msisdn
  (validateLength req.topic "topic" maxGroupTopicLen).mapError Fault.domain
  pace phoneNumber target 1
  let _ ← managerCall phoneNumber target (.setGroupTopic req.topic)
  return .done

/-- The bytes of the new picture of a group. -/
def readPhoto (file : Option FileHeader) : Except Fault (List UInt8) := do
  match file with
  | none => .error (badArgument "photo is required")
  | some file =>
    let data ← (readMedia env file (fun err => badRequest ("failed to read photo: " ++ err))
      fun err => internalFailure ("failed to read photo: " ++ err)).mapError .domain
    reject (env.detectContentType data ≠ "image/jpeg")
      (badArgument "group photo must be a JPEG")
    return data

def setGroupPhoto (chat msisdn : String) (file : Option FileHeader) : Outbound Response := do
  requireGroupManagement cfg
  let target ← resolveGroupJID env chat msisdn
  let data ← readPhoto env file
  pace phoneNumber target 1
  let pictureID ← managerCall phoneNumber target (.setGroupPhoto (some data))
  return .photo pictureID false

def removeGroupPhoto (req : GroupTargetRequest) : Outbound Response := do
  requireGroupManagement cfg
  let target ← resolveGroupJID env req.chat req.msisdn
  pace phoneNumber target 1
  let _ ← managerCall phoneNumber target (.setGroupPhoto none)
  return .photo "" true

/-- The invite link of a group: the one it has, or a new one. -/
def inviteLink (chat msisdn : String) (reset : Bool) : Outbound Response := do
  requireGroupManagement cfg
  let target ← resolveGroupJID env chat msisdn
  pace phoneNumber target 1
  let link ← managerCall phoneNumber target (.getGroupInviteLink reset)
  return .inviteLink target link

def getGroupInviteLink (chat msisdn : String) : Outbound Response :=
  inviteLink env cfg phoneNumber chat msisdn false

def resetGroupInviteLink (req : GroupTargetRequest) : Outbound Response :=
  inviteLink env cfg phoneNumber req.chat req.msisdn true

def joinGroup (req : JoinGroupRequest) : Outbound Response := do
  requireGroupManagement cfg
  reject (cfg.groupJoinViaLinkEnabled = false) (.forbidden "joining via link is disabled")
  let code := trimSpace req.code
  reject (code = "") (badArgument "code is required")
  pace phoneNumber "" 1
  let jid ← managerCall phoneNumber "" (.joinGroupWithLink code)
  return .joined jid

def updateJoinRequests (req : GroupJoinRequestsActionRequest) : Outbound Response := do
  requireGroupManagement cfg
  let target ← resolveGroupJID env req.chat req.msisdn
  let action := env.toLower (trimSpace req.action)
  reject (action ≠ "approve" ∧ action ≠ "reject") (badArgument "action must be approve or reject")
  let participants ← resolveParticipants env cfg req.participants phoneNumber false false
  pace phoneNumber target 1
  let results ← managerCall phoneNumber target
    (.updateGroupRequestParticipants participants (action = "approve"))
  return .joinRequests target action results

/-- A change of the subgroups of a community. -/
def changeSubGroup (op : String → Operation) (chat msisdn child : String) :
    Outbound Response := do
  requireGroupManagement cfg
  let parent ← resolveGroupJID env chat msisdn
  let child ← resolveGroupJID env child ""
  pace phoneNumber parent 1
  let _ ← managerCall phoneNumber parent (op child)
  return .done

def linkSubGroup (req : CommunityLinkRequest) : Outbound Response :=
  changeSubGroup env cfg phoneNumber .linkSubGroup req.chat req.msisdn req.childJID

def unlinkSubGroup (chat msisdn child : String) : Outbound Response :=
  changeSubGroup env cfg phoneNumber .unlinkSubGroup chat msisdn child

/-- A request to an operation that sends or changes something. -/
inductive OutboundRequest where
  | sendMessage (req : SendMessage.Request)
  | reactToMessage (req : MessageReactionRequest)
  | deleteMessage (req : MessageDeleteRequest)
  | editMessage (req : MessageEditRequest)
  | markRead (req : MarkReadRequest)
  | sendChatPresence (req : ChatPresenceRequest)
  | createGroup (req : CreateGroupRequest)
  | leaveGroup (req : GroupTargetRequest)
  | updateGroupParticipants (req : GroupParticipantsRequest)
  | setGroupSettings (req : GroupSettingsRequest)
  | setGroupName (req : SetGroupNameRequest)
  | setGroupTopic (req : SetGroupTopicRequest)
  | setGroupPhoto (chat msisdn : String) (file : Option FileHeader)
  | removeGroupPhoto (req : GroupTargetRequest)
  | getGroupInviteLink (chat msisdn : String)
  | resetGroupInviteLink (req : GroupTargetRequest)
  | joinGroup (req : JoinGroupRequest)
  | updateJoinRequests (req : GroupJoinRequestsActionRequest)
  | linkSubGroup (req : CommunityLinkRequest)
  | unlinkSubGroup (chat msisdn child : String)

def perform : OutboundRequest → Outbound Response
  | .sendMessage req => sendMessage env encodeToString phoneNumber req
  | .reactToMessage req => reactToMessage env phoneNumber req
  | .deleteMessage req => deleteMessage env phoneNumber req
  | .editMessage req => editMessage env phoneNumber req
  | .markRead req => markRead env phoneNumber req
  | .sendChatPresence req => sendChatPresence env phoneNumber req
  | .createGroup req => createGroup env cfg phoneNumber req
  | .leaveGroup req => leaveGroup env cfg phoneNumber req
  | .updateGroupParticipants req => updateGroupParticipants env cfg phoneNumber req
  | .setGroupSettings req => setGroupSettings env cfg phoneNumber req
  | .setGroupName req => setGroupName env cfg phoneNumber req
  | .setGroupTopic req => setGroupTopic env cfg phoneNumber req
  | .setGroupPhoto chat msisdn file => setGroupPhoto env cfg phoneNumber chat msisdn file
  | .removeGroupPhoto req => removeGroupPhoto env cfg phoneNumber req
  | .getGroupInviteLink chat msisdn => getGroupInviteLink env cfg phoneNumber chat msisdn
  | .resetGroupInviteLink req => resetGroupInviteLink env cfg phoneNumber req
  | .joinGroup req => joinGroup cfg phoneNumber req
  | .updateJoinRequests req => updateJoinRequests env cfg phoneNumber req
  | .linkSubGroup req => linkSubGroup env cfg phoneNumber req
  | .unlinkSubGroup chat msisdn child => unlinkSubGroup env cfg phoneNumber chat msisdn child

end Operations

end WhatsappGateway.Usecase

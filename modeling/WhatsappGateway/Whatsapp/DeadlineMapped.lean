import WhatsappGateway.Whatsapp.ClientOperations

/-!
What becomes of a deadline that is exceeded under `outboundCtx`: which operations report it
as a gateway timeout, whatever error of whatsmeow it is wrapped in.
-/

namespace WhatsappGateway.Whatsapp.Operations

open Lib GoError

/-- An operation, with what its checks read. -/
inductive Operation where
  | checkNumber
  | listGroups
  | getGroupInfo (groupJID : String)
  | listSubGroups (communityJID : String)
  | listCommunityParticipants (communityJID : String)
  | createGroup (participantJIDs : List String) (linkedParentJID : String)
  | leaveGroup (groupJID : String)
  | updateGroupParticipants (groupJID action : String) (participantJIDs : List String)
  | setGroupAnnounce (groupJID : String)
  | setGroupLocked (groupJID : String)
  | setGroupName (groupJID : String)
  | setGroupTopic (groupJID : String)
  | setGroupPhoto (groupJID : String)
  | getGroupInviteLink (groupJID : String)
  | joinGroupWithLink
  | getGroupInfoFromLink
  | getGroupRequestParticipants (groupJID : String)
  | updateGroupRequestParticipants (groupJID : String) (participantJIDs : List String)
  | linkSubGroup (parentJID childJID : String)
  | unlinkSubGroup (parentJID childJID : String)
  | getContactInfo (userJID : String)
  | getAvatar (targetJID : String)
  | markRead (chat sender : String) (messageIDs : List String)
  | sendChatPresence (chat : String)
  | sendTextMessage (to_ : String)
  | sendImageMessage (to_ : String)
  | sendAudioMessage (to_ : String)
  | sendVideoMessage (to_ : String)
  | sendDocumentMessage (to_ : String)
  | reactToMessage (chatJID senderJID : String)
  | deleteMessage (chatJID : String)
  | editMessage (chatJID : String)
  | sendLocationMessage (to_ : String)
  | sendPollMessage (to_ : String)
  | sendStickerMessage (to_ : String)
deriving DecidableEq, Repr

def Operation.run (env : Env) (clients : Clients) (phoneNumber : String) : Operation → Outcome
  | .checkNumber => Operations.checkNumber env clients phoneNumber
  | .listGroups => Operations.listGroups env clients phoneNumber
  | .getGroupInfo groupJID => Operations.getGroupInfo env clients phoneNumber groupJID
  | .listSubGroups communityJID => Operations.listSubGroups env clients phoneNumber communityJID
  | .listCommunityParticipants communityJID =>
    Operations.listCommunityParticipants env clients phoneNumber communityJID
  | .createGroup participantJIDs linkedParentJID =>
    Operations.createGroup env clients phoneNumber participantJIDs linkedParentJID
  | .leaveGroup groupJID => Operations.leaveGroup env clients phoneNumber groupJID
  | .updateGroupParticipants groupJID action participantJIDs =>
    Operations.updateGroupParticipants env clients phoneNumber groupJID action participantJIDs
  | .setGroupAnnounce groupJID => Operations.setGroupAnnounce env clients phoneNumber groupJID
  | .setGroupLocked groupJID => Operations.setGroupLocked env clients phoneNumber groupJID
  | .setGroupName groupJID => Operations.setGroupName env clients phoneNumber groupJID
  | .setGroupTopic groupJID => Operations.setGroupTopic env clients phoneNumber groupJID
  | .setGroupPhoto groupJID => Operations.setGroupPhoto env clients phoneNumber groupJID
  | .getGroupInviteLink groupJID => Operations.getGroupInviteLink env clients phoneNumber groupJID
  | .joinGroupWithLink => Operations.joinGroupWithLink env clients phoneNumber
  | .getGroupInfoFromLink => Operations.getGroupInfoFromLink env clients phoneNumber
  | .getGroupRequestParticipants groupJID =>
    Operations.getGroupRequestParticipants env clients phoneNumber groupJID
  | .updateGroupRequestParticipants groupJID participantJIDs =>
    Operations.updateGroupRequestParticipants env clients phoneNumber groupJID participantJIDs
  | .linkSubGroup parentJID childJID =>
    Operations.linkSubGroup env clients phoneNumber parentJID childJID
  | .unlinkSubGroup parentJID childJID =>
    Operations.unlinkSubGroup env clients phoneNumber parentJID childJID
  | .getContactInfo userJID => Operations.getContactInfo env clients phoneNumber userJID
  | .getAvatar targetJID => Operations.getAvatar env clients phoneNumber targetJID
  | .markRead chat sender messageIDs =>
    Operations.markRead env clients phoneNumber chat sender messageIDs
  | .sendChatPresence chat => Operations.sendChatPresence env clients phoneNumber chat
  | .sendTextMessage to_ => Operations.sendTextMessage env clients phoneNumber to_
  | .sendImageMessage to_ => Operations.sendImageMessage env clients phoneNumber to_
  | .sendAudioMessage to_ => Operations.sendAudioMessage env clients phoneNumber to_
  | .sendVideoMessage to_ => Operations.sendVideoMessage env clients phoneNumber to_
  | .sendDocumentMessage to_ => Operations.sendDocumentMessage env clients phoneNumber to_
  | .reactToMessage chatJID senderJID =>
    Operations.reactToMessage env clients phoneNumber chatJID senderJID
  | .deleteMessage chatJID => Operations.deleteMessage env clients phoneNumber chatJID
  | .editMessage chatJID => Operations.editMessage env clients phoneNumber chatJID
  | .sendLocationMessage to_ => Operations.sendLocationMessage env clients phoneNumber to_
  | .sendPollMessage to_ => Operations.sendPollMessage env clients phoneNumber to_
  | .sendStickerMessage to_ => Operations.sendStickerMessage env clients phoneNumber to_

/-- The calls of whatsmeow that the operation makes under `outboundCtx`. -/
def Operation.calls : Operation → List WhatsmeowCall
  | .sendImageMessage _ | .sendAudioMessage _ | .sendVideoMessage _ | .sendDocumentMessage _
  | .sendStickerMessage _ => [.upload, .call]
  | _ => [.call]

/-- The operations that do not map the error of their call. -/
def Operation.unmapped : Operation → Bool
  | .deleteMessage _ | .editMessage _ => true
  | _ => false

/-- One call returns the error; the others, none. -/
def failing (c : WhatsmeowCall) (err : Err) : WhatsmeowCall → Option Err :=
  fun c' => if c' = c then some err else none

/-- The operation gets past its checks: without an error of whatsmeow it succeeds. -/
def Reaches (env : Env) (clients : Clients) (phoneNumber : String) (op : Operation) : Prop :=
  (op.run { env with answer := fun _ => none } clients phoneNumber).2 = .ok ()

variable {env : Env} {clients : Clients} {phoneNumber text : String}
  {checks : Except DomainError Unit} {err : Err} {onUpload onError : Err → Outcome}

/-! ### Errors of a call -/

theorem mapped_deadline (h : err.is .deadlineExceeded = true) :
    (mapped clients phoneNumber err).2 = .error gatewayTimeoutErr := by
  rw [mapped, mapWhatsmeowErr_deadline h]
  rfl

theorem mapped_wrap_deadline (h : err.is .deadlineExceeded = true) :
    (mapped clients phoneNumber (.wrap text err)).2 = .error gatewayTimeoutErr :=
  mapped_deadline (is_wrap.trans h)

theorem mappedWith_deadline (h : err.is .deadlineExceeded = true) :
    (mappedWith text clients phoneNumber err).2 = .error gatewayTimeoutErr := by
  unfold mappedWith
  split
  · exact mapped_deadline h
  · exact mapped_wrap_deadline h

theorem uploadFailed_deadline (h : err.is .deadlineExceeded = true) :
    (uploadFailed text clients phoneNumber err).2 = .error gatewayTimeoutErr := by
  rw [uploadFailed, if_pos h]

/-- Without the mapping, only the error of a deleted device is looked at. -/
theorem failed_deadline_iff (h : err.is .deadlineExceeded = true) :
    (failed text clients phoneNumber err).2 = .error gatewayTimeoutErr ↔
      err.is .deviceDeleted = true := by
  unfold failed
  cases hdeleted : err.is .deviceDeleted with
  | true =>
    rw [if_pos rfl]
    exact iff_of_true (mapped_deadline h) rfl
  | false =>
    rw [if_neg Bool.false_ne_true]
    refine iff_of_false ?_ Bool.false_ne_true
    intro heq
    have hkind := congrArg DomainError.svcError (Except.error.inj heq)
    cases hkind

/-! ### Operations -/

/-- After its checks an operation reports the error of its call. -/
theorem perform_failing (hreach : (perform clients checks none onError).2 = .ok ()) :
    perform clients checks (failing .call err .call) onError = onError err := by
  cases checks with
  | error failure => cases hreach
  | ok => rfl

theorem performUpload_failing
    (hreach : (performUpload clients checks (fun _ => none) onUpload onError).2 = .ok ()) :
    performUpload clients checks (failing .call err) onUpload onError = onError err ∧
      performUpload clients checks (failing .upload err) onUpload onError = onUpload err := by
  cases checks with
  | error failure => cases hreach
  | ok => exact ⟨rfl, rfl⟩

/-- An operation that makes one call reports a deadline as its error handling does. -/
theorem perform_deadline_iff {P : Prop}
    (hreach : (perform clients checks none onError).2 = .ok ())
    (herror : (onError err).2 = .error gatewayTimeoutErr ↔ P) {c : WhatsmeowCall}
    (hc : c ∈ [WhatsmeowCall.call]) :
    (perform clients checks (failing c err .call) onError).2 = .error gatewayTimeoutErr ↔ P := by
  obtain rfl := List.mem_singleton.mp hc
  rw [perform_failing hreach]
  exact herror

/-- An operation that uploads first reports the deadline of either call as a timeout. -/
theorem performUpload_deadline
    (hreach : (performUpload clients checks (fun _ => none) onUpload onError).2 = .ok ())
    (hupload : (onUpload err).2 = .error gatewayTimeoutErr)
    (herror : (onError err).2 = .error gatewayTimeoutErr) (c : WhatsmeowCall) :
    (performUpload clients checks (failing c err) onUpload onError).2 =
      .error gatewayTimeoutErr := by
  cases c with
  | upload =>
    rw [(performUpload_failing hreach).2]
    exact hupload
  | call =>
    rw [(performUpload_failing hreach).1]
    exact herror

/-- An operation that gets past its checks, and whose call returns an error that wraps an exceeded
deadline, returns a gateway timeout exactly when it is no deletion or edit, or when the error also
wraps that of a deleted device. -/
theorem deadline_mapped_iff (env : Env) (clients : Clients) (phoneNumber : String)
    (op : Operation) (hreach : Reaches env clients phoneNumber op) (c : WhatsmeowCall)
    (hc : c ∈ op.calls) (err : Err) (hdeadline : Wraps .deadlineExceeded err) :
    (op.run { env with answer := failing c err } clients phoneNumber).2 =
        .error gatewayTimeoutErr ↔
      op.unmapped = false ∨ Wraps .deviceDeleted err := by
  have h : err.is .deadlineExceeded = true := is_of_wraps hdeadline
  cases op with
  | deleteMessage chatJID | editMessage chatJID =>
    refine (perform_deadline_iff hreach (failed_deadline_iff h) hc).trans ?_
    rw [is_iff_wraps]
    exact (or_iff_right Bool.true_eq_false.mp).symm
  | checkNumber | sendTextMessage to_ | reactToMessage chatJID senderJID | sendLocationMessage to_
  | sendPollMessage to_ =>
    exact iff_of_true ((perform_deadline_iff hreach (iff_true_intro (mappedWith_deadline h))
      hc).mpr trivial) (.inl rfl)
  | listGroups =>
    obtain rfl := List.mem_singleton.mp hc
    refine iff_of_true ?_ (.inl rfl)
    exact (congrArg Prod.snd (perform_failing hreach)).trans (mapped_wrap_deadline h)
  | sendImageMessage to_ | sendAudioMessage to_ | sendVideoMessage to_ | sendDocumentMessage to_
  | sendStickerMessage to_ =>
    exact iff_of_true (performUpload_deadline hreach (uploadFailed_deadline h)
      (mappedWith_deadline h) c) (.inl rfl)
  | _ =>
    exact iff_of_true ((perform_deadline_iff hreach (iff_true_intro (mapped_deadline h))
      hc).mpr trivial) (.inl rfl)

/-- One client, which is logged in, and JIDs that parse. -/
def loggedIn : Clients := fun _ => some ⟨true, none, ""⟩

def parsing : Env where
  parseJID jid := .ok ⟨jid, defaultUserServer⟩
  quote := id
  answer _ := none

def deadlineExceeded : Err := .sentinel .deadlineExceeded "context deadline exceeded"

theorem deadline_mapped_text :
    (Operation.run { parsing with answer := failing .call deadlineExceeded } loggedIn "628111"
        (.sendTextMessage "628222@s.whatsapp.net")).2 = .error gatewayTimeoutErr ↔
      (Operation.sendTextMessage "628222@s.whatsapp.net").unmapped = false ∨
        Wraps .deviceDeleted deadlineExceeded :=
  deadline_mapped_iff parsing loggedIn "628111" (.sendTextMessage "628222@s.whatsapp.net") rfl .call
    (by decide) deadlineExceeded (.here rfl)

/-- An edit reports an exceeded deadline as an internal failure. -/
theorem edit_deadline_unmapped :
    ¬ ∀ (env : Env) (clients : Clients) (phoneNumber : String) (op : Operation),
      Reaches env clients phoneNumber op → ∀ c ∈ op.calls, ∀ err : Err,
      Wraps .deadlineExceeded err →
      (op.run { env with answer := failing c err } clients phoneNumber).2 =
        .error gatewayTimeoutErr := by
  intro hall
  have hmapped := hall parsing loggedIn "628111" (.editMessage "628222@s.whatsapp.net") rfl .call
    (by decide) deadlineExceeded (.here rfl)
  have hkind := congrArg DomainError.svcError (Except.error.inj hmapped)
  cases hkind

end WhatsappGateway.Whatsapp.Operations

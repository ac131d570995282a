import Mathlib.Algebra.BigOperators.Group.List.Basic
import WhatsappGateway.Ratelimiter.PacerAccounting
import WhatsappGateway.Usecase.Outbound

/-!
Whether the operations that send or change something are paced: each server call comes after a
wait that cleared it, and the server calls of an account never outnumber the tokens which its
waits have spent. An upload of media goes to the servers of WhatsApp too; the results hold
whether it counts as a call or not.
-/

namespace WhatsappGateway.Usecase

open Lib Traced SendMessage Outgoing

/-- The tokens of the account that a wait spends. -/
def Event.tokens (phone : String) : Event → Int
  | .waited account _ n .cleared => if account = phone then n else 0
  | _ => 0

/-- What an enabled pacer takes from the account's bucket in a call of `Wait`, whatever other
callers do. -/
theorem wait_tokens {cfg : Ratelimiter.PacerConfig} {phone recipient : String} {n : Int}
    {limiters : Ratelimiter.Limiters} {as : List Ratelimiter.Pacer.Action}
    {s : Ratelimiter.Pacer.State} {outcome : Ratelimiter.Outcome} (henabled : cfg.enabled = true)
    (hn : 1 ≤ n)
    (hrun : Run ((Ratelimiter.newPacer cfg).advance phone recipient n) (fun _ _ => True)
      (Ratelimiter.Pacer.init limiters) as s)
    (hdone : s.phase = .done outcome) :
    s.tokensSpent.sum = (Event.waited phone recipient n outcome).tokens phone := by
  have haccounted := Ratelimiter.Pacer.run_accounted henabled hn hrun
  unfold Ratelimiter.Pacer.Accounted at haccounted
  rw [hdone] at haccounted
  cases outcome with
  | cleared =>
    have hspent : s.tokensSpent = [(n : ℚ)] := haccounted.1
    simp [hspent, Event.tokens]
  | rateLimited err =>
    have hspent : s.tokensSpent = [] := haccounted.1
    simp [hspent, Event.tokens]
  | failed err =>
    have hspent : s.tokensSpent = [] := haccounted.1
    simp [hspent, Event.tokens]

/-- What counts as a call of the server. -/
def counted (uploads : Bool) (call : ServerCall) : Bool := uploads || call ≠ .upload

def Event.isCall (uploads : Bool) (phone : String) : Event → Bool
  | .called account _ call => account = phone && counted uploads call
  | .waited .. => false

structure PacedEvents (uploads : Bool) (events : List Event) : Prop where
  preceded : ∀ earlier phone target call later,
    events = earlier ++ .called phone target call :: later →
    ∃ n, .waited phone target n .cleared ∈ earlier
  covered : ∀ phone earlier, earlier <+: events →
    (earlier.countP (Event.isCall uploads phone) : Int) ≤
      (earlier.map (Event.tokens phone)).sum

section Events

variable {uploads : Bool} {phone target : String} {k k' : Nat} {s s' : List Event}

theorem PacedEvents.nil : PacedEvents uploads [] where
  preceded earlier phone target call later h := by simp at h
  covered phone earlier h := by simp [List.prefix_nil.mp h]

/-- Server calls for one account and target, at most `k` of them counted. -/
def Calls (uploads : Bool) (phone target : String) (k : Nat) (s : List Event) : Prop :=
  ∃ calls : List ServerCall, s = calls.map (.called phone target) ∧
    calls.countP (counted uploads) ≤ k

theorem Calls.nil : Calls uploads phone target 0 [] := ⟨[], rfl, le_rfl⟩

theorem Calls.append (h : Calls uploads phone target k s) (h' : Calls uploads phone target k' s') :
    Calls uploads phone target (k + k') (s ++ s') := by
  obtain ⟨calls, rfl, hle⟩ := h
  obtain ⟨calls', rfl, hle'⟩ := h'
  refine ⟨calls ++ calls', by rw [List.map_append], ?_⟩
  rw [List.countP_append]
  omega

theorem Calls.mono (h : Calls uploads phone target k s) (hle : k ≤ k') :
    Calls uploads phone target k' s := by
  obtain ⟨calls, hs, hcount⟩ := h
  exact ⟨calls, hs, hcount.trans hle⟩

theorem Calls.initial (h : Calls uploads phone target k s) (hinit : s' <+: s) :
    Calls uploads phone target k s' := by
  obtain ⟨calls, rfl, hcount⟩ := h
  obtain ⟨calls', hinit', rfl⟩ := (List.prefix_map_iff ..).mp hinit
  exact ⟨calls', rfl, hinit'.sublist.countP_le.trans hcount⟩

/-- The calls are counted for their own account, and spend no token. -/
theorem Calls.countP_le (h : Calls uploads phone target k s) (account : String) :
    s.countP (Event.isCall uploads account) ≤ if phone = account then k else 0 := by
  obtain ⟨calls, rfl, hcount⟩ := h
  rw [List.countP_map]
  by_cases haccount : phone = account
  · rw [if_pos haccount]
    refine le_trans (le_of_eq ?_) hcount
    apply List.countP_congr
    intro call _
    simp [Event.isCall, haccount]
  · rw [if_neg haccount, Nat.le_zero, List.countP_eq_zero]
    intro call _
    simp [Event.isCall, haccount]

theorem Calls.tokens_eq_zero (h : Calls uploads phone target k s) (account : String) :
    (s.map (Event.tokens account)).sum = 0 := by
  obtain ⟨calls, rfl, -⟩ := h
  induction calls with
  | nil => rfl
  | cons call calls ih => simpa [Event.tokens] using ih

/-- A wait that clears pays for one call. -/
theorem Calls.paced (h : Calls uploads phone target 1 s) :
    PacedEvents uploads (.waited phone target 1 .cleared :: s) where
  preceded earlier account recipient call later hevents := by
    cases earlier with
    | nil => simp at hevents
    | cons event earlier =>
      obtain ⟨rfl, hs⟩ := List.cons.inj hevents
      obtain ⟨calls, rfl, -⟩ := h
      have hmem : Event.called account recipient call ∈ calls.map (Event.called phone target) := by
        simp [hs]
      obtain ⟨_, -, heq⟩ := List.mem_map.mp hmem
      obtain ⟨rfl, rfl, rfl⟩ := Event.called.inj heq
      exact ⟨1, List.mem_cons_self⟩
  covered account earlier hinit := by
    rcases List.prefix_cons_iff.mp hinit with rfl | ⟨rest, rfl, hrest⟩
    · simp
    have hcalls := h.initial hrest
    have hcount := hcalls.countP_le account
    have htokens := hcalls.tokens_eq_zero account
    by_cases haccount : phone = account
    · rw [if_pos haccount] at hcount
      simpa [Event.isCall, Event.tokens, htokens, haccount] using hcount
    · rw [if_neg haccount] at hcount
      simpa [Event.isCall, Event.tokens, htokens, haccount] using hcount

/-- A wait for one token, however it ends. -/
theorem PacedEvents.wait (phone recipient : String) (outcome : Ratelimiter.Outcome) :
    PacedEvents uploads [.waited phone recipient 1 outcome] where
  preceded earlier account target call later h := by
    rcases List.append_eq_cons_iff.mp h.symm with ⟨rfl, h⟩ | ⟨rest, rfl, h⟩ <;> simp at h
  covered account earlier h := by
    rcases List.prefix_cons_iff.mp h with rfl | ⟨rest, rfl, hrest⟩
    · simp
    obtain rfl := List.prefix_nil.mp hrest
    cases outcome with
    | cleared =>
      by_cases haccount : phone = account
      · simp [Event.isCall, Event.tokens, haccount]
      · simp [Event.isCall, Event.tokens, haccount]
    | rateLimited err => simp [Event.isCall, Event.tokens]
    | failed err => simp [Event.isCall, Event.tokens]

end Events

/-! ### The operations -/

section Operations

variable {uploads : Bool} {w : World} {phone target : String} {k k' : Nat} {α β : Type}
  {answer : Nat → Ratelimiter.Outcome}

/-- In the world `w` a computation is paced. -/
def Paced (uploads : Bool) (w : World) (m : Outbound α) : Prop :=
  Adds w m fun _ s => PacedEvents uploads s

/-- In the world `w` a computation only calls the server, for one account and target. -/
def CallsAtMost (uploads : Bool) (w : World) (phone target : String) (k : Nat) (m : Outbound α) :
    Prop :=
  Adds w m fun _ s => Calls uploads phone target k s

theorem callsAtMost_pure (a : α) : CallsAtMost uploads w phone target 0 (pure a) :=
  .pure .nil

theorem CallsAtMost.bind {m : Outbound α} {f : α → Outbound β}
    (hm : CallsAtMost uploads w phone target k m)
    (hf : ∀ a, CallsAtMost uploads w phone target k' (f a)) :
    CallsAtMost uploads w phone target (k + k') (m >>= f) := by
  refine Adds.bind hm (fun _ _ h => h.mono (Nat.le_add_right ..)) fun a s h => ?_
  exact (hf a).mono fun _ _ h' => h.append h'

theorem CallsAtMost.mono {m : Outbound α} (hm : CallsAtMost uploads w phone target k m)
    (hle : k ≤ k') : CallsAtMost uploads w phone target k' m :=
  Adds.mono hm fun _ _ h => h.mono hle

theorem callsAtMost_serverCall (call : ServerCall) :
    CallsAtMost uploads w phone target ([call].countP (counted uploads))
      (serverCall phone target call) :=
  .observe fun _ => ⟨[call], rfl, le_rfl⟩

theorem callsAtMost_serverCalls (calls : List ServerCall) (res : String) :
    CallsAtMost uploads w phone target (calls.countP (counted uploads))
      (calls.foldlM (fun _ call => serverCall phone target call) res) := by
  induction calls generalizing res with
  | nil => exact callsAtMost_pure res
  | cons call calls ih =>
    rw [List.foldlM_cons, ← List.singleton_append, List.countP_append]
    exact (callsAtMost_serverCall call).bind ih

theorem callsAtMost_managerCall (op : Operation) :
    CallsAtMost uploads w phone target (op.serverCalls.countP (counted uploads))
      (managerCall phone target op) := by
  unfold managerCall
  rw [← Nat.zero_add (op.serverCalls.countP _)]
  exact CallsAtMost.bind (Adds.inspect fun _ => .nil)
    fun _ => callsAtMost_serverCalls op.serverCalls ""

/-- What follows a validation. -/
theorem Paced.validated {x : Except Fault α} {f : α → Outbound β}
    (h : ∀ a, x = .ok a → Paced uploads w (f a)) :
    Paced uploads w ((liftM x : Outbound α) >>= f) :=
  .bind_lift (fun _ _ => .nil) h

/-- The pacer is asked once, and the operation goes on only when it clears. -/
theorem pace_adds (hpacer : w.pacer = some answer) (n : Int) :
    Adds w (pace phone target n) fun res s =>
      ∃ k, s = [.waited phone target n (answer k)] ∧ (res = .ok () → answer k = .cleared) := by
  unfold pace
  refine Adds.bind (P := fun res s => res = .ok (some answer) ∧ s = []) ?_ ?_ ?_
  · exact .inspect fun _ => ⟨by rw [hpacer], rfl⟩
  · rintro err s ⟨h, -⟩
    cases h
  · rintro _ s ⟨h, rfl⟩
    obtain rfl := Except.ok.inj h
    refine .observe fun k => ⟨k, rfl, ?_⟩
    intro hcleared
    cases hanswer : answer k with
    | cleared => rfl
    | rateLimited err => simp [hanswer, paceError] at hcleared
    | failed err => simp [hanswer, paceError] at hcleared

theorem Paced.pace {f : Unit → Outbound α} (hpacer : w.pacer = some answer)
    (h : CallsAtMost uploads w phone target 1 (f ())) :
    Paced uploads w (Usecase.pace phone target 1 >>= f) := by
  refine Adds.bind (pace_adds hpacer 1) ?_ ?_
  · rintro err s ⟨k, rfl, -⟩
    exact .wait ..
  · rintro ⟨⟩ s ⟨k, rfl, hcleared⟩
    rw [hcleared rfl]
    exact Adds.mono h fun _ _ hcalls => hcalls.paced

/-- An operation that calls the Manager once, after its wait. -/
theorem Paced.once {op : Operation} {f : String → α} (hpacer : w.pacer = some answer)
    (hone : op.serverCalls.countP (counted uploads) ≤ 1) :
    Paced uploads w (do
      Usecase.pace phone target 1
      let res ← managerCall phone target op
      return f res) := by
  refine .pace hpacer (CallsAtMost.mono (k := op.serverCalls.countP (counted uploads) + 0) ?_ hone)
  exact (callsAtMost_managerCall op).bind fun res => callsAtMost_pure (f res)

theorem once_of_single {op : Operation} {call : ServerCall} (h : op.serverCalls = [call]) :
    op.serverCalls.countP (counted uploads) ≤ 1 := by
  rw [h]
  exact List.countP_le_length

theorem callsAtMost_applySetting (name : String) (op : Bool → Operation) (flag : Option Bool)
    (hone : ∀ flag, (op flag).serverCalls.countP (counted uploads) ≤ 1) :
    CallsAtMost uploads w phone target flag.isSome.toNat
      (applySetting phone target name op flag) := by
  cases flag with
  | none => exact callsAtMost_pure []
  | some flag =>
    refine CallsAtMost.mono
      (k := (op flag).serverCalls.countP (counted uploads) + 0) ?_ (hone flag)
    exact (callsAtMost_managerCall (op flag)).bind fun _ => callsAtMost_pure [name]

/-- The kinds of message whose media are uploaded first. -/
def hasMedia : SendMessage.Request → Bool
  | .text _ | .location _ | .poll _ => false
  | .image .. | .audio .. | .video .. | .document .. | .sticker .. => true

/-- The requests that make two server calls on one wait: those for both settings of a group,
and, where uploads count, messages with media. Only what passes its validation counts. -/
def Underpaid (uploads : Bool) (env : Env) (cfg : GroupConfig)
    (encodeToString : List UInt8 → String) (phoneNumber : String) : OutboundRequest → Prop
  | .setGroupSettings req =>
    requireGroupManagement cfg = .ok () ∧
      (∃ target, resolveGroupJID env req.chat req.msisdn = .ok target) ∧
      req.announce.isSome ∧ req.locked.isSome
  | .sendMessage req =>
    uploads = true ∧ hasMedia req = true ∧
      ∃ paths, SendMessage.send env encodeToString phoneNumber req = .ok paths
  | _ => False

variable {env : Env} {cfg : GroupConfig} {encodeToString : List UInt8 → String}

theorem setGroupSettings_paced {req : GroupSettingsRequest} (hpacer : w.pacer = some answer)
    (hpaid : ¬ Underpaid uploads env cfg encodeToString phone (.setGroupSettings req)) :
    Paced uploads w (setGroupSettings env cfg phone req) := by
  unfold setGroupSettings
  apply Paced.validated
  intro _ hmanage
  apply Paced.validated
  intro target hresolve
  apply Paced.validated
  intro _ _
  apply Paced.pace hpacer
  have hone : req.announce.isSome.toNat + (req.locked.isSome.toNat + 0) ≤ 1 := by
    have hnot : ¬ (req.announce.isSome ∧ req.locked.isSome) :=
      fun h => hpaid ⟨hmanage, ⟨target, hresolve⟩, h⟩
    cases hannounce : req.announce.isSome <;> cases hlocked : req.locked.isSome <;>
      simp_all
  refine CallsAtMost.mono (CallsAtMost.bind ?_ fun announced => .bind ?_ fun locked => ?_) hone
  · exact callsAtMost_applySetting _ _ _ fun _ => once_of_single rfl
  · exact callsAtMost_applySetting _ _ _ fun _ => once_of_single rfl
  · exact callsAtMost_pure _

/-- The direct call of a send, by the kind of the message. -/
theorem send_call {req : SendMessage.Request} {paths : Paths}
    (h : SendMessage.send env encodeToString phone req = .ok paths) :
    paths.call.phoneNumber = phone ∧
      (Operation.message paths.call.op).serverCalls =
        if hasMedia req then [.upload, .sendMessage] else [.sendMessage] := by
  cases req with
  | text req =>
    simp only [send, sendTextMessage, bind_eq_ok, pure, Except.pure, Except.ok.injEq] at h
    obtain ⟨_, -, _, -, _, -, rfl⟩ := h
    exact ⟨rfl, rfl⟩
  | image req fileHeader isViewOnce =>
    simp only [send, sendImageMessage, bind_eq_ok, pure, Except.pure, Except.ok.injEq] at h
    obtain ⟨_, -, _, -, _, -, _, -, _, -, rfl⟩ := h
    exact ⟨rfl, rfl⟩
  | audio req fileHeader =>
    simp only [send, sendAudioMessage, bind_eq_ok, pure, Except.pure, Except.ok.injEq] at h
    obtain ⟨_, -, _, -, _, -, _, -, rfl⟩ := h
    exact ⟨rfl, rfl⟩
  | video req fileHeader =>
    simp only [send, sendVideoMessage, bind_eq_ok, pure, Except.pure, Except.ok.injEq] at h
    obtain ⟨_, -, _, -, _, -, _, -, _, -, rfl⟩ := h
    exact ⟨rfl, rfl⟩
  | document req fileHeader =>
    simp only [send, sendDocumentMessage, bind_eq_ok, pure, Except.pure, Except.ok.injEq] at h
    obtain ⟨_, -, _, -, _, -, _, -, rfl⟩ := h
    exact ⟨rfl, rfl⟩
  | location req =>
    simp only [send, sendLocationMessage, bind_eq_ok, pure, Except.pure, Except.ok.injEq] at h
    obtain ⟨_, -, _, -, _, -, _, -, rfl⟩ := h
    exact ⟨rfl, rfl⟩
  | poll req =>
    simp only [send, sendPollMessage, bind_eq_ok, pure, Except.pure, Except.ok.injEq] at h
    obtain ⟨_, -, _, -, _, -, _, -, rfl⟩ := h
    exact ⟨rfl, rfl⟩
  | sticker req fileHeader =>
    simp only [send, sendStickerMessage, bind_eq_ok, pure, Except.pure, Except.ok.injEq] at h
    obtain ⟨_, -, _, -, _, -, _, -, rfl⟩ := h
    exact ⟨rfl, rfl⟩

theorem sendMessage_paced {req : SendMessage.Request} (hpacer : w.pacer = some answer)
    (hpaid : ¬ Underpaid uploads env cfg encodeToString phone (.sendMessage req)) :
    Paced uploads w (Usecase.sendMessage env encodeToString phone req) := by
  unfold Usecase.sendMessage
  apply Paced.validated
  intro paths hvalid
  obtain hsend : SendMessage.send env encodeToString phone req = .ok paths := by
    cases hsend : SendMessage.send env encodeToString phone req with
    | error err =>
      rw [hsend] at hvalid
      cases hvalid
    | ok paths =>
      rw [hsend] at hvalid
      rw [Except.ok.inj hvalid]
  obtain ⟨hphone, hcalls⟩ := send_call hsend
  refine Adds.bind (P := fun _ s => s = []) (.inspect fun _ => rfl) ?_ ?_
  · rintro err s rfl
    exact .nil
  · rintro queued s rfl
    cases queued with
    | some jobID => exact .pure .nil
    | none =>
      rw [hphone]
      refine Paced.once hpacer ?_
      rw [hcalls]
      by_cases hmedia : hasMedia req = true
      · have huploads : uploads = false := by
          by_contra huploads
          exact hpaid ⟨by simpa using huploads, hmedia, paths, hsend⟩
        subst huploads
        rw [if_pos hmedia]
        decide
      · rw [if_neg hmedia]
        exact List.countP_le_length

theorem reactToMessage_paced {req : MessageReactionRequest} (hpacer : w.pacer = some answer) :
    Paced uploads w (reactToMessage env phone req) := by
  unfold reactToMessage
  apply Paced.validated
  intro target _
  apply Paced.validated
  intro senderJID _
  apply Paced.validated
  intro _ _
  exact Paced.once hpacer (once_of_single rfl)

theorem deleteMessage_paced {req : MessageDeleteRequest} (hpacer : w.pacer = some answer) :
    Paced uploads w (deleteMessage env phone req) := by
  unfold deleteMessage
  apply Paced.validated
  intro target _
  exact Paced.once hpacer (once_of_single rfl)

theorem editMessage_paced {req : MessageEditRequest} (hpacer : w.pacer = some answer) :
    Paced uploads w (editMessage env phone req) := by
  unfold editMessage
  apply Paced.validated
  intro target _
  apply Paced.validated
  intro _ _
  exact Paced.once hpacer (once_of_single rfl)

theorem markRead_paced {req : MarkReadRequest} (hpacer : w.pacer = some answer) :
    Paced uploads w (Usecase.markRead env phone req) := by
  unfold Usecase.markRead
  apply Paced.validated
  intro target _
  apply Paced.validated
  intro _ _
  apply Paced.validated
  intro _ _
  apply Paced.validated
  intro sender _
  exact Paced.once hpacer (once_of_single rfl)

theorem sendChatPresence_paced {req : ChatPresenceRequest} (hpacer : w.pacer = some answer) :
    Paced uploads w (Usecase.sendChatPresence env phone req) := by
  unfold Usecase.sendChatPresence
  apply Paced.validated
  intro target _
  apply Paced.validated
  rintro ⟨state, media⟩ _
  exact Paced.once hpacer (once_of_single rfl)

theorem createGroup_paced {req : CreateGroupRequest} (hpacer : w.pacer = some answer) :
    Paced uploads w (Usecase.createGroup env cfg phone req) := by
  unfold Usecase.createGroup
  apply Paced.validated
  intro _ _
  apply Paced.validated
  intro name _
  apply Paced.validated
  intro participants _
  apply Paced.validated
  intro _ _
  apply Paced.validated
  intro linkedParent _
  exact Paced.once hpacer (once_of_single rfl)

theorem leaveGroup_paced {req : GroupTargetRequest} (hpacer : w.pacer = some answer) :
    Paced uploads w (Usecase.leaveGroup env cfg phone req) := by
  unfold Usecase.leaveGroup
  apply Paced.validated
  intro _ _
  apply Paced.validated
  intro target _
  exact Paced.once hpacer (once_of_single rfl)

theorem updateGroupParticipants_paced {req : GroupParticipantsRequest}
    (hpacer : w.pacer = some answer) :
    Paced uploads w (Usecase.updateGroupParticipants env cfg phone req) := by
  unfold Usecase.updateGroupParticipants
  apply Paced.validated
  intro _ _
  apply Paced.validated
  intro target _
  apply Paced.validated
  intro _ _
  apply Paced.validated
  intro participants _
  apply Paced.validated
  intro _ _
  exact Paced.once hpacer (once_of_single rfl)

theorem setGroupName_paced {req : SetGroupNameRequest} (hpacer : w.pacer = some answer) :
    Paced uploads w (Usecase.setGroupName env cfg phone req) := by
  unfold Usecase.setGroupName
  apply Paced.validated
  intro _ _
  apply Paced.validated
  intro target _
  apply Paced.validated
  intro name _
  exact Paced.once hpacer (once_of_single rfl)

theorem setGroupTopic_paced {req : SetGroupTopicRequest} (hpacer : w.pacer = some answer) :
    Paced uploads w (Usecase.setGroupTopic env cfg phone req) := by
  unfold Usecase.setGroupTopic
  apply Paced.validated
  intro _ _
  apply Paced.validated
  intro target _
  apply Paced.validated
  intro _ _
  exact Paced.once hpacer (once_of_single rfl)

theorem setGroupPhoto_paced {chat msisdn : String} {file : Option FileHeader}
    (hpacer : w.pacer = some answer) :
    Paced uploads w (Usecase.setGroupPhoto env cfg phone chat msisdn file) := by
  unfold Usecase.setGroupPhoto
  apply Paced.validated
  intro _ _
  apply Paced.validated
  intro target _
  apply Paced.validated
  intro data _
  exact Paced.once hpacer (once_of_single rfl)

theorem removeGroupPhoto_paced {req : GroupTargetRequest} (hpacer : w.pacer = some answer) :
    Paced uploads w (removeGroupPhoto env cfg phone req) := by
  unfold removeGroupPhoto
  apply Paced.validated
  intro _ _
  apply Paced.validated
  intro target _
  exact Paced.once hpacer (once_of_single rfl)

theorem inviteLink_paced {chat msisdn : String} {reset : Bool} (hpacer : w.pacer = some answer) :
    Paced uploads w (inviteLink env cfg phone chat msisdn reset) := by
  unfold inviteLink
  apply Paced.validated
  intro _ _
  apply Paced.validated
  intro target _
  exact Paced.once hpacer (once_of_single rfl)

theorem joinGroup_paced {req : JoinGroupRequest} (hpacer : w.pacer = some answer) :
    Paced uploads w (joinGroup cfg phone req) := by
  unfold joinGroup
  apply Paced.validated
  intro _ _
  apply Paced.validated
  intro _ _
  apply Paced.validated
  intro _ _
  exact Paced.once hpacer (once_of_single rfl)

theorem updateJoinRequests_paced {req : GroupJoinRequestsActionRequest}
    (hpacer : w.pacer = some answer) :
    Paced uploads w (updateJoinRequests env cfg phone req) := by
  unfold updateJoinRequests
  apply Paced.validated
  intro _ _
  apply Paced.validated
  intro target _
  apply Paced.validated
  intro _ _
  apply Paced.validated
  intro participants _
  exact Paced.once hpacer (once_of_single rfl)

theorem changeSubGroup_paced {op : String → Operation} {chat msisdn child : String}
    (hone : ∀ child, (op child).serverCalls.countP (counted uploads) ≤ 1)
    (hpacer : w.pacer = some answer) :
    Paced uploads w (changeSubGroup env cfg phone op chat msisdn child) := by
  unfold changeSubGroup
  apply Paced.validated
  intro _ _
  apply Paced.validated
  intro parent _
  apply Paced.validated
  intro child _
  exact Paced.once hpacer (hone child)

/-- In a world with a pacer, an operation that pays for its calls is paced. -/
theorem perform_paced {req : OutboundRequest} (hpacer : w.pacer = some answer)
    (hpaid : ¬ Underpaid uploads env cfg encodeToString phone req) :
    Paced uploads w (perform env cfg encodeToString phone req) := by
  cases req with
  | sendMessage req => exact sendMessage_paced hpacer hpaid
  | reactToMessage req => exact reactToMessage_paced hpacer
  | deleteMessage req => exact deleteMessage_paced hpacer
  | editMessage req => exact editMessage_paced hpacer
  | markRead req => exact markRead_paced hpacer
  | sendChatPresence req => exact sendChatPresence_paced hpacer
  | createGroup req => exact createGroup_paced hpacer
  | leaveGroup req => exact leaveGroup_paced hpacer
  | updateGroupParticipants req => exact updateGroupParticipants_paced hpacer
  | setGroupSettings req => exact setGroupSettings_paced hpacer hpaid
  | setGroupName req => exact setGroupName_paced hpacer
  | setGroupTopic req => exact setGroupTopic_paced hpacer
  | setGroupPhoto chat msisdn file => exact setGroupPhoto_paced hpacer
  | removeGroupPhoto req => exact removeGroupPhoto_paced hpacer
  | getGroupInviteLink chat msisdn => exact inviteLink_paced hpacer
  | resetGroupInviteLink req => exact inviteLink_paced hpacer
  | joinGroup req => exact joinGroup_paced hpacer
  | updateJoinRequests req => exact updateJoinRequests_paced hpacer
  | linkSubGroup req => exact changeSubGroup_paced (fun _ => once_of_single rfl) hpacer
  | unlinkSubGroup chat msisdn child =>
    exact changeSubGroup_paced (fun _ => once_of_single rfl) hpacer

/-! ### What is not paid for -/

/-- The pacer clears, the queue takes nothing, and the client and the server agree. -/
def obliging : World where
  pacer := some fun _ => .cleared
  queued := none
  checks := fun _ => none
  answers := fun _ => .ok ""

/-- One token does not pay for two calls. -/
theorem not_paced_of_two {first second : ServerCall} (hfirst : counted uploads first = true)
    (hsecond : counted uploads second = true) :
    ¬ PacedEvents uploads [.waited phone target 1 .cleared, .called phone target first,
      .called phone target second] := by
  intro h
  have hcovered := h.covered phone _ List.prefix_rfl
  simp [Event.isCall, Event.tokens, hfirst, hsecond] at hcovered

theorem setGroupSettings_events {req : GroupSettingsRequest}
    (hmanage : requireGroupManagement cfg = .ok ())
    (hresolve : resolveGroupJID env req.chat req.msisdn = .ok target)
    (hannounce : req.announce.isSome) (hlocked : req.locked.isSome) :
    (setGroupSettings env cfg phone req).events obliging =
      [.waited phone target 1 .cleared, .called phone target .setGroupAnnounce,
        .called phone target .setGroupLocked] := by
  obtain ⟨chat, msisdn, announce, locked⟩ := req
  obtain ⟨announce, rfl⟩ := Option.isSome_iff_exists.mp hannounce
  obtain ⟨locked, rfl⟩ := Option.isSome_iff_exists.mp hlocked
  unfold setGroupSettings
  rw [hmanage, hresolve]
  rfl

theorem serverCalls_obliging (calls : List ServerCall) (t : List Event) :
    (calls.foldlM (fun _ call => serverCall phone target call) "").run obliging t =
      (.ok "", t ++ calls.map (.called phone target)) := by
  induction calls generalizing t with
  | nil =>
    rw [List.map_nil, List.append_nil]
    rfl
  | cons call calls ih =>
    have hcall : (serverCall phone target call).run obliging t =
        (.ok "", t ++ [.called phone target call]) := rfl
    rw [List.foldlM_cons, run_bind_ok hcall, ih, List.append_assoc, List.map_cons,
      List.singleton_append]

theorem managerCall_obliging (op : Operation) (t : List Event) :
    (managerCall phone target op).run obliging t =
      (.ok "", t ++ op.serverCalls.map (.called phone target)) :=
  serverCalls_obliging op.serverCalls t

theorem sendMessage_events {req : SendMessage.Request} {paths : Paths}
    (hsend : SendMessage.send env encodeToString phone req = .ok paths)
    (hmedia : hasMedia req = true) :
    (Usecase.sendMessage env encodeToString phone req).events obliging =
      [.waited phone paths.call.recipient 1 .cleared,
        .called phone paths.call.recipient .upload,
        .called phone paths.call.recipient .sendMessage] := by
  obtain ⟨hphone, hcalls⟩ := send_call hsend
  rw [if_pos hmedia] at hcalls
  have hwaited : (pace phone paths.call.recipient 1).run obliging [] =
      (.ok (), [.waited phone paths.call.recipient 1 .cleared]) := rfl
  unfold Usecase.sendMessage
  rw [hsend, Traced.events, run_bind_ok (a := paths) (u := []) rfl,
    run_bind_ok (a := none) (u := []) rfl]
  simp only [hphone]
  rw [run_bind_ok hwaited, run_bind_ok (managerCall_obliging ..), hcalls]
  rfl

/-- The library's parser on the address of a group. -/
def groupEnv : Env where
  maxUploadBytes := 0
  parseJID := fun _ => .ok ⟨"120363025246125486", "g.us"⟩
  toLower := id
  quote := id
  detectContentType := fun _ => "application/octet-stream"

def bothSettings : GroupSettingsRequest where
  chat := "120363025246125486@g.us"
  msisdn := ""
  announce := some true
  locked := some true

end Operations

end WhatsappGateway.Usecase

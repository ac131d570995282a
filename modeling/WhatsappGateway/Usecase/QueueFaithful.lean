import WhatsappGateway.Lib.Base64
import WhatsappGateway.Usecase.SendRequests

/-!
What the queue changes about a send: nothing. The paths of a valid request meet
in a `SendRequest`: its job is the one that is published, and its direct call is
the one that the workers make when the job comes back from the broker.
-/

namespace WhatsappGateway.Outgoing

open Lib Queue

/-- What a delivery has done, in order. -/
def effectsOf (log : List (Nat × Effect)) (i : Nat) : List Effect :=
  (log.filter fun entry => entry.1 = i).map Prod.snd

theorem effectsOf_append (log : List (Nat × Effect)) (i j : Nat) (effects : List Effect) :
    effectsOf (log ++ effects.map fun effect => (i, effect)) j =
      effectsOf log j ++ if i = j then effects else [] := by
  rw [effectsOf, List.filter_append, List.map_append, ← effectsOf]
  congr 1
  split <;> simp_all [List.filter_map, Function.comp_def]

def Effect.managerCall : Effect → Option ManagerCall
  | .call made _ => some made
  | _ => none

/-- The calls of the Manager among some effects. -/
def calls (effects : List Effect) : List ManagerCall := effects.filterMap Effect.managerCall

/-- The job is set to processing by every delivery that the pacer admits, and by
no other. -/
def Admitted (effects : List Effect) : Prop := Effect.updateStatus "processing" "" "" ∈ effects

instance (effects : List Effect) : Decidable (Admitted effects) :=
  inferInstanceAs (Decidable (_ ∈ effects))

/-- The effects of a delivery, by the point it has reached: it makes its call
right after it is set to processing, and makes no other. -/
def Carried (call : ManagerCall) (effects : List Effect) : Option Phase → Prop
  | none => effects = []
  | some .delivered => effects = []
  | some .fresh => effects = []
  | some .paced => effects = []
  | some .processing => effects = [.updateStatus "processing" "" ""]
  | some (.done _) => effects = [] ∨ Admitted effects ∧ calls effects = [call]
  | some _ => Admitted effects ∧ calls effects = [call]

/-- What follows the call is no call. -/
theorem carried_append {call : ManagerCall} {effects more : List Effect}
    (h : Admitted effects ∧ calls effects = [call]) (hmore : calls more = []) :
    Admitted (effects ++ more) ∧ calls (effects ++ more) = [call] := by
  refine ⟨List.mem_append_left _ h.1, ?_⟩
  rw [calls, List.filterMap_append, ← calls, ← calls, h.2, hmore, List.append_nil]

theorem carried_worked {decodeString : DecodeString} {job : OutgoingMessageJob}
    {call : ManagerCall} {now : Int} {dedup dedup' : Option DedupCache} {phase phase' : Phase}
    {w : Work} {before effects : List Effect} (hdispatch : dispatch decodeString job = .ok call)
    (h : Worked decodeString job now dedup phase w dedup' effects phase')
    (hbefore : Carried call before (some phase)) :
    Carried call (before ++ effects) (some phase') := by
  cases h with
  | duplicate => exact .inl (by simpa [Carried] using hbefore)
  | fresh => simpa [Carried] using hbefore
  | paced => simpa [Carried] using hbefore
  | stopped => exact .inl (by simpa [Carried] using hbefore)
  | updateProcessing =>
    have hnone : before = [] := hbefore
    rw [hnone]
    rfl
  | undecodable herror => rw [hdispatch] at herror; cases herror
  | refused hcall | sent hcall =>
    obtain rfl := Except.ok.inj (hdispatch.symm.trans hcall)
    have hone : before = [.updateStatus "processing" "" ""] := hbefore
    rw [hone]
    exact ⟨List.mem_cons_self, rfl⟩
  | updateCompleted => exact carried_append hbefore rfl
  | marked => exact carried_append hbefore rfl
  | notifySent => exact .inr (carried_append hbefore rfl)
  | updateFailed => exact carried_append hbefore rfl
  | notifyFailed => exact .inr (carried_append hbefore rfl)

/-- Every delivery has made the calls that belong to its point. -/
def AllCarried (call : ManagerCall) (s : State) : Prop :=
  ∀ i, Carried call (effectsOf s.log i) (s.deliveries i)

theorem allCarried_init (call : ManagerCall) (cfg : Config) (start : Int) :
    AllCarried call (init cfg start) := fun _ => rfl

theorem allCarried_step {decodeString : DecodeString} {job : OutgoingMessageJob}
    {call : ManagerCall} {s t : State} {a : Action}
    (hdispatch : dispatch decodeString job = .ok call)
    (hstep : step decodeString job s a = some t) (hs : AllCarried call s) :
    AllCarried call t := by
  intro j
  have hj := hs j
  cases step_stepped hstep with
  | tick | checkOther | markOther => exact hj
  | @deliver i habsent =>
    by_cases hij : j = i
    · subst hij
      rw [habsent] at hj
      simpa [Carried] using hj
    · simpa [Function.update_of_ne hij] using hj
  | @work i w phase phase' dedup effects hphase hworked =>
    simp only [effectsOf_append]
    by_cases hij : j = i
    · subst hij
      rw [hphase] at hj
      simpa using carried_worked hdispatch hworked hj
    · simpa [Function.update_of_ne hij, Ne.symm hij] using hj

/-- The calls of a delivery: the one of its job, from its send step on. -/
theorem Carried.calls_eq {call : ManagerCall} {effects : List Effect} {phase : Option Phase}
    (h : Carried call effects phase) :
    calls effects = if Admitted effects ∧ phase ≠ some .processing then [call] else [] := by
  have hnil : ∀ p, (if Admitted [] ∧ p ≠ some Phase.processing then [call] else []) = [] := by
    intro p
    apply if_neg
    simp [Admitted]
  have hmade : Admitted effects ∧ calls effects = [call] → phase ≠ some .processing →
      calls effects = if Admitted effects ∧ phase ≠ some .processing then [call] else [] := by
    intro hcall hphase
    rw [if_pos ⟨hcall.1, hphase⟩, hcall.2]
  match phase, h with
  | none, h | some .delivered, h | some .fresh, h | some .paced, h =>
    have hempty : effects = [] := h
    rw [hempty, hnil]
    rfl
  | some .processing, h =>
    have hone : effects = [.updateStatus "processing" "" ""] := h
    rw [hone, if_neg (by simp)]
    rfl
  | some (.done _), h =>
    rcases h with hempty | hcall
    · rw [hempty, hnil]
      rfl
    · exact hmade hcall (by simp)
  | some (.sent _), h | some (.completed _), h | some (.marked _), h | some (.failing _), h
  | some (.failed _), h => exact hmade h (by simp)

/-- However often the job is delivered and whatever else happens: a delivery
makes the call once, with its send step, if the pacer admits it, and makes no
other call; and a delivery which the pacer has admitted can go on to that step. -/
def MakesCall (decodeString : DecodeString) (job : OutgoingMessageJob) (call : ManagerCall) :
    Prop :=
  ∀ cfg start as s, Run (step decodeString job) (fun _ _ => True) (init cfg start) as s → ∀ i,
    calls (effectsOf s.log i) =
        (if Admitted (effectsOf s.log i) ∧ s.deliveries i ≠ some .processing then [call] else []) ∧
      (s.deliveries i = some .paced → ∀ returned err, ∃ t,
        exec (step decodeString job) s
          [.work i .updateProcessing, .work i (.send returned err)] = some t ∧
        effectsOf t.log i =
          effectsOf s.log i ++ [.updateStatus "processing" "" "", .call call err])

theorem step_work {decodeString : DecodeString} {job : OutgoingMessageJob} {s : State} {i : Nat}
    {w : Work} {phase phase' : Phase} {dedup : Option DedupCache} {effects : List Effect}
    (hphase : s.deliveries i = some phase)
    (hhandle : handle decodeString job s.now s.dedup phase w = some (dedup, effects, phase')) :
    step decodeString job s (.work i w) = some { s with
      dedup := dedup
      deliveries := Function.update s.deliveries i (some phase')
      log := s.log ++ effects.map fun effect => (i, effect) } := by
  simp only [step, hphase, hhandle]

/-- The send step of a delivery makes the call of the job, whatever comes of it. -/
theorem handle_send {decodeString : DecodeString} {job : OutgoingMessageJob} {call : ManagerCall}
    (hdispatch : dispatch decodeString job = .ok call) (now : Int) (dedup : Option DedupCache)
    (returned : String) (err : Option String) :
    ∃ phase, handle decodeString job now dedup .processing (.send returned err) =
      some (dedup, [.call call err], phase) := by
  cases err with
  | none =>
    refine ⟨.sent (sentID job call returned), ?_⟩
    simp only [handle, hdispatch]
  | some err =>
    refine ⟨.failing err, ?_⟩
    simp only [handle, hdispatch]

/-- The next two steps of a delivery which the pacer has just admitted. -/
theorem paced_sends {decodeString : DecodeString} {job : OutgoingMessageJob} {call : ManagerCall}
    (hdispatch : dispatch decodeString job = .ok call) {s : State} {i : Nat}
    (hpaced : s.deliveries i = some .paced) (returned : String) (err : Option String) :
    ∃ t, exec (step decodeString job) s
        [.work i .updateProcessing, .work i (.send returned err)] = some t ∧
      effectsOf t.log i =
        effectsOf s.log i ++ [.updateStatus "processing" "" "", .call call err] := by
  obtain ⟨phase, hsend⟩ := handle_send hdispatch s.now s.dedup returned err
  have hupdate := step_work (w := .updateProcessing) hpaced
    (rfl : handle decodeString job s.now s.dedup .paced .updateProcessing = some (s.dedup,
      [.updateStatus "processing" "" ""], .processing))
  refine ⟨_, Option.bind_eq_some_iff.mpr ⟨_, hupdate, Option.bind_eq_some_iff.mpr
    ⟨_, step_work (Function.update_self ..) hsend, rfl⟩⟩, ?_⟩
  simp [effectsOf]

theorem makesCall_of_dispatch {decodeString : DecodeString} {job : OutgoingMessageJob}
    {call : ManagerCall} (hdispatch : dispatch decodeString job = .ok call) :
    MakesCall decodeString job call := by
  intro cfg start as s hrun i
  have hs := hrun.invariant (allCarried_init call cfg start)
    fun _ _ _ _ hstep hs => allCarried_step hdispatch hstep hs
  exact ⟨(hs i).calls_eq, fun hpaced => paced_sends hdispatch hpaced⟩

end WhatsappGateway.Outgoing

namespace WhatsappGateway.SendMessage

open Lib Outgoing

section Paths

variable {env : Env} {encodeToString : List UInt8 → String} {phoneNumber : String} {paths : Paths}

/-- The paths meet in `req`, which is addressed as WhatsApp knows addresses: what
is published is its job, under the id drawn for it, and what is called is its
direct call. -/
structure MeetIn (encodeToString : List UInt8 → String) (paths : Paths) (req : SendRequest) :
    Prop where
  call : paths.call = directCall req
  job : ∀ jobID, paths.job jobID = SendMessage.job encodeToString { req with jobID := jobID }
  recipient : Canonical req.recipient
  sender : req.ctx.replyToSender = "" ∨ Canonical req.ctx.replyToSender
  mentions : ∀ m ∈ req.ctx.mentions, Canonical m

/-- The paths of a send to a resolved chat, with the context built for it. -/
theorem meets_in {chat msisdn recipient : String} {addressed : Addressed} {ctx : MessageContext}
    (content : SendContent) (hto : resolveChat env chat msisdn = .ok recipient)
    (hctx : buildMessageContext env addressed = .ok ctx)
    (hcall : paths.call = directCall ⟨"", phoneNumber, recipient, ctx, content⟩)
    (hjob : ∀ jobID, paths.job jobID =
      SendMessage.job encodeToString ⟨jobID, phoneNumber, recipient, ctx, content⟩) :
    ∃ req, MeetIn encodeToString paths req := by
  obtain ⟨hsender, hmentions⟩ := buildMessageContext_canonical hctx
  exact ⟨⟨"", phoneNumber, recipient, ctx, content⟩, hcall, hjob, resolveChat_canonical hto,
    hsender, hmentions⟩

theorem sendTextMessage_meets {req : SendTextMessageRequest}
    (h : sendTextMessage env phoneNumber req = .ok paths) :
    ∃ req, MeetIn encodeToString paths req := by
  simp only [sendTextMessage, bind_eq_ok, pure, Except.pure, Except.ok.injEq] at h
  obtain ⟨msisdn, hto, -, -, msgCtx, hctx, rfl⟩ := h
  exact meets_in (.text req.message) hto hctx rfl fun _ => rfl

theorem sendImageMessage_meets {req : SendImageMessageRequest} {fileHeader : FileHeader}
    {isViewOnce : Bool}
    (h : sendImageMessage env encodeToString phoneNumber req fileHeader isViewOnce = .ok paths) :
    ∃ req, MeetIn encodeToString paths req := by
  simp only [sendImageMessage, bind_eq_ok, pure, Except.pure, Except.ok.injEq] at h
  obtain ⟨msisdn, hto, -, -, msgCtx, hctx, imageBytes, -, -, -, rfl⟩ := h
  exact meets_in (.image imageBytes (env.detectContentType imageBytes) req.caption isViewOnce)
    hto hctx rfl fun _ => rfl

theorem sendAudioMessage_meets {req : SendAudioMessageRequest} {fileHeader : FileHeader}
    (h : sendAudioMessage env encodeToString phoneNumber req fileHeader = .ok paths) :
    ∃ req, MeetIn encodeToString paths req := by
  simp only [sendAudioMessage, bind_eq_ok, pure, Except.pure, Except.ok.injEq] at h
  obtain ⟨msisdn, hto, msgCtx, hctx, audioBytes, -, -, -, rfl⟩ := h
  exact meets_in (.audio audioBytes _ req.isPTT req.isViewOnce) hto hctx rfl fun _ => rfl

theorem sendVideoMessage_meets {req : SendVideoMessageRequest} {fileHeader : FileHeader}
    (h : sendVideoMessage env encodeToString phoneNumber req fileHeader = .ok paths) :
    ∃ req, MeetIn encodeToString paths req := by
  simp only [sendVideoMessage, bind_eq_ok, pure, Except.pure, Except.ok.injEq] at h
  obtain ⟨msisdn, hto, -, -, msgCtx, hctx, videoBytes, -, -, -, rfl⟩ := h
  exact meets_in (.video videoBytes (env.detectContentType videoBytes) req.caption req.isGif
    req.isViewOnce) hto hctx rfl fun _ => rfl

theorem sendDocumentMessage_meets {req : SendDocumentMessageRequest} {fileHeader : FileHeader}
    (h : sendDocumentMessage env encodeToString phoneNumber req fileHeader = .ok paths) :
    ∃ req, MeetIn encodeToString paths req := by
  simp only [sendDocumentMessage, bind_eq_ok, pure, Except.pure, Except.ok.injEq] at h
  obtain ⟨msisdn, hto, -, -, msgCtx, hctx, docBytes, -, rfl⟩ := h
  exact meets_in (.document docBytes (env.detectContentType docBytes) _ req.caption)
    hto hctx rfl fun _ => rfl

theorem sendLocationMessage_meets {req : SendLocationMessageRequest}
    (h : sendLocationMessage env phoneNumber req = .ok paths) :
    ∃ req, MeetIn encodeToString paths req := by
  simp only [sendLocationMessage, bind_eq_ok, pure, Except.pure, Except.ok.injEq] at h
  obtain ⟨msisdn, hto, -, -, -, -, msgCtx, hctx, rfl⟩ := h
  exact meets_in (.location req.latitude req.longitude req.name req.address)
    hto hctx rfl fun _ => rfl

theorem sendPollMessage_meets {req : SendPollMessageRequest}
    (h : sendPollMessage env phoneNumber req = .ok paths) :
    ∃ req, MeetIn encodeToString paths req := by
  simp only [sendPollMessage, bind_eq_ok, pure, Except.pure, Except.ok.injEq] at h
  obtain ⟨msisdn, hto, -, -, -, -, msgCtx, hctx, rfl⟩ := h
  exact meets_in (.poll req.question req.options req.selectableCount) hto hctx rfl fun _ => rfl

theorem sendStickerMessage_meets {req : SendStickerMessageRequest} {fileHeader : FileHeader}
    (h : sendStickerMessage env encodeToString phoneNumber req fileHeader = .ok paths) :
    ∃ req, MeetIn encodeToString paths req := by
  simp only [sendStickerMessage, bind_eq_ok, pure, Except.pure, Except.ok.injEq] at h
  obtain ⟨msisdn, hto, msgCtx, hctx, stickerBytes, -, -, -, rfl⟩ := h
  exact meets_in (.sticker stickerBytes (env.detectContentType stickerBytes))
    hto hctx rfl fun _ => rfl

theorem send_meets {request : Request}
    (h : send env encodeToString phoneNumber request = .ok paths) :
    ∃ req, MeetIn encodeToString paths req := by
  cases request with
  | text req => exact sendTextMessage_meets h
  | image req fileHeader isViewOnce => exact sendImageMessage_meets h
  | audio req fileHeader => exact sendAudioMessage_meets h
  | video req fileHeader => exact sendVideoMessage_meets h
  | document req fileHeader => exact sendDocumentMessage_meets h
  | location req => exact sendLocationMessage_meets h
  | poll req => exact sendPollMessage_meets h
  | sticker req fileHeader => exact sendStickerMessage_meets h

/-- `Handle` resolves no address again: those in a published job are resolved. -/
theorem published_canonical {request : Request}
    (h : send env encodeToString phoneNumber request = .ok paths) (jobID : String) :
    Canonical (paths.job jobID).recipient ∧
      ((paths.job jobID).replyToSender = "" ∨ Canonical (paths.job jobID).replyToSender) ∧
      ∀ m ∈ (paths.job jobID).mentions, Canonical m := by
  obtain ⟨req, hmeet⟩ := send_meets h
  obtain ⟨-, hjob, hrecipient, hsender, hmentions⟩ := hmeet
  rw [hjob jobID, SendMessage.job]
  cases req.content with
  | _ => exact ⟨hrecipient, hsender, hmentions⟩

end Paths

/-- What the broker gives back of the job of a valid request is a job with which
`Handle` makes the call of the direct path, once the pacer admits it, and makes
no other. -/
theorem queued_send_faithful (env : Env) (encodeToString : List UInt8 → String)
    (decodeString : DecodeString) (marshal : OutgoingMessageJob → String)
    (unmarshal : String → Except String OutgoingMessageJob) (phoneNumber jobID : String)
    (request : Request) (paths : Paths)
    (hvalid : send env encodeToString phoneNumber request = .ok paths)
    (hbase64 : ∀ bytes, decodeString (encodeToString bytes) = .ok bytes)
    (hjson : unmarshal (marshal (paths.job jobID)) = .ok (paths.job jobID)) :
    ∃ job, unmarshal (marshal (paths.job jobID)) = .ok job ∧
      MakesCall decodeString job paths.call := by
  obtain ⟨req, hmeet⟩ := send_meets hvalid
  have hdispatch : dispatch decodeString (paths.job jobID) = .ok paths.call := by
    rw [hmeet.job jobID, dispatch_job hbase64, hmeet.call]
    rfl
  exact ⟨paths.job jobID, hjson, makesCall_of_dispatch hdispatch⟩

section Sample

def pngSignature : List UInt8 := [0x89, 0x50, 0x4E, 0x47, 0x0D, 0x0A, 0x1A, 0x0A]

def sampleEnv : Env where
  maxUploadBytes := 1024
  parseJID := fun v =>
    .ok ⟨String.ofList (v.toList.takeWhile (· ≠ '@')),
      String.ofList ((v.toList.dropWhile (· ≠ '@')).drop 1)⟩
  toLower := String.map Char.toLower
  quote := fun s => "\"" ++ s ++ "\""
  detectContentType := fun bytes =>
    if pngSignature.isPrefixOf bytes then "image/png" else "application/octet-stream"

def base64Decode : DecodeString := fun s =>
  match Base64.decode s with
  | some bytes => .ok bytes
  | none => .error "illegal base64 data at input byte 0"

theorem base64Decode_encode (bytes : List UInt8) :
    base64Decode (Base64.encode bytes) = .ok bytes := by
  rw [base64Decode, Base64.decode_encode]

/-- A picture for a group, with a caption and a mention. -/
def sampleRequest : Request :=
  .image ⟨⟨" 120363@G.US ", "", "", "", "", ["+62 811-222"]⟩, "look"⟩
    ⟨8, "look.png", .ok (.ok pngSignature)⟩ true

def sampleJob : OutgoingMessageJob where
  jobID := "job-1"
  phoneNumber := "628111"
  type := "image"
  recipient := "120363@g.us"
  imageData := "iVBORw0KGgo="
  mimeType := "image/png"
  caption := "look"
  isViewOnce := true
  mentions := ["62811222@s.whatsapp.net"]

def sampleBody : String :=
  "\x7b\"TraceID\":\"trace-1\",\"JobID\":\"job-1\",\"PhoneNumber\":\"628111\"," ++
  "\"Type\":\"image\",\"To\":\"120363@g.us\",\"Text\":\"\",\"ImageData\":\"iVBORw0KGgo=\"," ++
  "\"MimeType\":\"image/png\",\"Caption\":\"look\",\"IsViewOnce\":true,\"MessageID\":\"\"," ++
  "\"Emoji\":\"\",\"SenderMsisdn\":\"\",\"NewText\":\"\",\"FileName\":\"\",\"IsPTT\":false," ++
  "\"IsGif\":false,\"Latitude\":0,\"Longitude\":0,\"LocationName\":\"\"," ++
  "\"LocationAddress\":\"\",\"Question\":\"\",\"Options\":null,\"SelectableCount\":0," ++
  "\"ReplyToID\":\"\",\"ReplyToSender\":\"\",\"ReplyToText\":\"\"," ++
  "\"Mentions\":[\"62811222@s.whatsapp.net\"],\"CreatedAt\":1700000000\x7d"

def sampleMarshal (job : OutgoingMessageJob) : String := if job = sampleJob then sampleBody else ""

def sampleUnmarshal (body : String) : Except String OutgoingMessageJob :=
  if body = sampleBody then .ok sampleJob else .error "unexpected end of JSON input"

theorem sampleRequest_valid : ∃ paths,
    send sampleEnv Base64.encode "628111" sampleRequest = .ok paths ∧
      paths.job "job-1" = sampleJob ∧
      paths.call = ⟨"628111", "120363@g.us", .sendImageMessage pngSignature "image/png" "look" true
        ⟨"", "", "", ["62811222@s.whatsapp.net"]⟩⟩ := by
  have hpaths : (send sampleEnv Base64.encode "628111" sampleRequest).toOption.map
      (fun paths => (paths.job "job-1", paths.call)) = some (sampleJob,
        ⟨"628111", "120363@g.us", .sendImageMessage pngSignature "image/png" "look" true
          ⟨"", "", "", ["62811222@s.whatsapp.net"]⟩⟩) := by
    decide +kernel
  obtain ⟨paths, hsome, hparts⟩ := Option.map_eq_some_iff.mp hpaths
  cases hsend : send sampleEnv Base64.encode "628111" sampleRequest with
  | error err =>
    rw [hsend] at hsome
    cases hsome
  | ok paths' =>
    rw [hsend] at hsome
    cases hsome
    exact ⟨paths, rfl, (Prod.mk.inj hparts).1, (Prod.mk.inj hparts).2⟩

theorem queued_send_faithful_picture :
    ∃ job, sampleUnmarshal sampleBody = .ok job ∧
      MakesCall base64Decode job ⟨"628111", "120363@g.us",
        .sendImageMessage pngSignature "image/png" "look" true
          ⟨"", "", "", ["62811222@s.whatsapp.net"]⟩⟩ := by
  obtain ⟨paths, hvalid, hjob, hcall⟩ := sampleRequest_valid
  have hbody : sampleMarshal (paths.job "job-1") = sampleBody := by
    rw [hjob, sampleMarshal, if_pos rfl]
  have hjson : sampleUnmarshal (sampleMarshal (paths.job "job-1")) = .ok (paths.job "job-1") := by
    rw [hbody, hjob, sampleUnmarshal, if_pos rfl]
  have hfaithful := queued_send_faithful sampleEnv Base64.encode base64Decode sampleMarshal
    sampleUnmarshal "628111" "job-1" sampleRequest paths hvalid base64Decode_encode hjson
  rwa [hbody, hcall] at hfaithful

end Sample

end WhatsappGateway.SendMessage

import WhatsappGateway.Whatsapp.PayloadCases

/-!
Where the payloads of the direct mode and of the queue mode agree. Both builders
start from the same map; what they add to it depends on which sub-message each of
them takes first, and on how each describes media.
-/

namespace WhatsappGateway.Whatsapp

/-- The keys for the type, the text, the addresses, the fields of one type, and the media. -/
def contentKeys : List String :=
  ["type", "text", "from", "addressing_mode", "chat", "display_name", "latitude", "longitude",
    "name", "address", "question", "options", "selectable_count", "media"]

/-- The two results have the same content; two panics have. -/
def SameContent (direct queued : Except Panic Payload) : Prop :=
  ∀ key ∈ contentKeys, direct.map (· key) = queued.map (· key)

/-- No media, and then a text, or a location or a poll without a contact. -/
def Message.agreeable (m : Message) : Bool :=
  !m.hasMedia && (m.hasText ||
    (m.contactMessage.isNone && (m.locationMessage.isSome || m.pollCreationMessage.isSome)))

variable {msg : MessageEvent} {mediaDownloader : Option MediaDownloader} {client : Option Client}
  {m : Message} {p payload mediaInfo : Payload}

/-! ### The type of a payload -/

theorem basePayload_type (info : MessageInfo) (client : Option Client) :
    basePayload info client "type" = none := by
  simp [basePayload, Payload.empty]

theorem setMedia_type {type : String} : setMedia p type mediaInfo "type" = some (.str type) := by
  simp [setMedia]

theorem setMedia_media {type : String} :
    setMedia p type mediaInfo "media" = some (.obj mediaInfo) := by
  simp [setMedia]

theorem setLocation_type {location : LocationMessage} :
    setLocation p location "type" = some (.str "location") := by
  unfold setLocation
  rw [Payload.setNonempty_other (by decide), Payload.setNonempty_other (by decide),
    Payload.setSome_other (by decide), Payload.setSome_other (by decide), Payload.set_same]

theorem setPoll_type {poll : PollCreationMessage} :
    setPoll p poll "type" = some (.str "poll") := by
  simp [setPoll]

/-- A payload for a text and one for media differ in their types; a panic differs from both. -/
theorem setText_ne_media {text : Except Panic String} {type : String} (htype : type ≠ "text") :
    ¬ SameContent (setText payload text) (.ok (setMedia p type mediaInfo)) := by
  intro hsame
  have hat := hsame "type" (by decide)
  cases text with
  | error panic => cases hat
  | ok text =>
    have hdirect : ((payload.set "type" (.str "text")).set "text" (.str text)) "type" =
        some (.str "text") := by simp
    have htypes : some (Value.str "text") = some (Value.str type) := by
      rw [← hdirect, ← @setMedia_type p mediaInfo type]
      exact Except.ok.inj hat
    cases htypes
    exact htype rfl

/-- The two descriptions of media differ. -/
theorem media_ne_media {direct queued : Payload} {type type' : String}
    (hdirect : Direct.Description direct) (hqueued : Queued.Description queued) :
    ¬ SameContent (.ok (setMedia payload type direct)) (.ok (setMedia p type' queued)) := by
  intro hsame
  have hat := hsame "media" (by decide)
  rw [Except.map, Except.map, setMedia_media, setMedia_media] at hat
  cases hat
  obtain ⟨key, hkey, hsome⟩ := hqueued
  rw [hdirect key hkey] at hsome
  cases hsome

/-- Agreeable messages get the same payload in both modes, or make both builders panic. -/
theorem build_eq (hmessage : msg.message = some m) (h : m.agreeable = true) :
    Direct.buildWebhookPayload msg mediaDownloader client =
      Queued.buildWebhookPayload msg mediaDownloader client := by
  simp only [Message.agreeable, Bool.and_eq_true, Bool.not_eq_true', Bool.or_eq_true,
    Option.isNone_iff_eq_none] at h
  obtain ⟨hmedia, hrest⟩ := h
  cases htext : m.hasText with
  | true => rw [Direct.build_text hmessage htext, Queued.build_text hmessage hmedia htext]
  | false =>
    rw [htext] at hrest
    obtain ⟨hcontact, hset⟩ := hrest.resolve_left Bool.false_ne_true
    rw [Direct.build_other hmessage htext hmedia, Queued.build_other hmessage htext hmedia,
      hcontact]
    cases hlocation : m.locationMessage with
    | some location => rfl
    | none =>
      cases hpoll : m.pollCreationMessage with
      | some poll => rfl
      | none => simp [hlocation, hpoll] at hset

/-- The two modes give a message the same content exactly when there is no message, or it has no
media sub-message and either a text or, without a contact, a location or a poll. -/
theorem payloads_agree_iff (msg : MessageEvent) (mediaDownloader : Option MediaDownloader)
    (client : Option Client) :
    SameContent (Direct.buildWebhookPayload msg mediaDownloader client)
        (Queued.buildWebhookPayload msg mediaDownloader client) ↔
      ∀ m, msg.message = some m → m.agreeable = true := by
  constructor
  · intro hsame m hmessage
    by_contra hdisagree
    cases hmedia : m.hasMedia with
    | true =>
      obtain ⟨type, queued, htype, hqueued, hbuild⟩ := @Queued.build_media _ mediaDownloader client _
        hmessage hmedia
      rw [hbuild] at hsame
      cases htext : m.hasText with
      | true =>
        rw [Direct.build_text hmessage htext] at hsame
        exact setText_ne_media htype hsame
      | false =>
        obtain ⟨_, direct, hdirect, hbuild'⟩ := @Direct.build_media _ mediaDownloader client _
          hmessage htext hmedia
        rw [hbuild'] at hsame
        exact media_ne_media hdirect hqueued hsame
    | false =>
      cases htext : m.hasText with
      | true => simp [Message.agreeable, hmedia, htext] at hdisagree
      | false =>
        rw [Direct.build_other hmessage htext hmedia, Queued.build_other hmessage htext hmedia]
          at hsame
        have hat := hsame "type" (by decide)
        simp only [Except.map] at hat
        cases hcontact : m.contactMessage with
        | some contact =>
          -- A contact has its own type in the direct mode only.
          rw [hcontact] at hat
          simp only [Payload.setSome_other (show "type" ≠ "display_name" by decide),
            Payload.set_same] at hat
          cases hlocation : m.locationMessage with
          | some location => simp [hlocation, setLocation_type] at hat
          | none =>
            cases hpoll : m.pollCreationMessage with
            | some poll => simp [hlocation, hpoll, setPoll_type] at hat
            | none => simp [hlocation, hpoll, basePayload_type] at hat
        | none =>
          cases hlocation : m.locationMessage with
          | some location =>
            simp [Message.agreeable, hmedia, hcontact, hlocation] at hdisagree
          | none =>
            cases hpoll : m.pollCreationMessage with
            | some poll => simp [Message.agreeable, hmedia, hcontact, hpoll] at hdisagree
            | none => simp [hcontact, hlocation, hpoll, basePayload_type] at hat
  · intro hagreeable key _
    cases hmessage : msg.message with
    | none => simp only [Direct.buildWebhookPayload, Queued.buildWebhookPayload, hmessage]
    | some m => rw [build_eq hmessage (hagreeable m hmessage)]

/-- A contact card. -/
def contactCard : MessageEvent where
  info := ⟨"3EB0", 0, ⟨"628222@s.whatsapp.net", false⟩, ⟨"", true⟩, ⟨"628222@s.whatsapp.net", false⟩,
    false, "Ann"⟩
  message := some { contactMessage := some ⟨some "Bob"⟩ }

/-- The queue mode says neither that a contact card is one nor whose it is. -/
theorem contactCard_disagrees :
    ¬ ∀ (msg : MessageEvent) (mediaDownloader : Option MediaDownloader) (client : Option Client),
      SameContent (Direct.buildWebhookPayload msg mediaDownloader client)
        (Queued.buildWebhookPayload msg mediaDownloader client) := by
  intro hsame
  have hat := hsame contactCard none none "type" (by decide)
  rw [Direct.build_other rfl rfl rfl, Queued.build_other rfl rfl rfl] at hat
  simp [contactCard, Except.map, Payload.setSome, basePayload_type] at hat

end WhatsappGateway.Whatsapp

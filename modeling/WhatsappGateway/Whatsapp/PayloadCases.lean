import WhatsappGateway.Whatsapp.WebhookPayload

/-!
What each builder makes of a message, by the kind of its sub-messages: a text, media, or
another one. When the builders return a payload at all follows from it.
-/

namespace WhatsappGateway.Whatsapp

/-- One of the sub-messages that carry media is set. -/
def Message.hasMedia (m : Message) : Bool :=
  m.imageMessage.isSome || m.videoMessage.isSome || m.audioMessage.isSome ||
    m.documentMessage.isSome || m.stickerMessage.isSome

/-- The message is an extended text message whose text is not set. -/
def Message.textUnset (m : Message) : Bool :=
  m.conversation.isNone && m.extendedTextMessage.any fun ext => ext.text.isNone

def Message.hasText (m : Message) : Bool :=
  m.conversation.isSome || m.extendedTextMessage.isSome

/-- The text of a message that has one. -/
def Message.text (m : Message) : Except Panic String :=
  if m.conversation.isSome then deref m.conversation
  else deref (m.extendedTextMessage.bind ExtendedTextMessage.text)

variable {msg : MessageEvent} {mediaDownloader : Option MediaDownloader} {client : Option Client}
  {m : Message} {p payload mediaInfo : Payload} {key other s storageURL whatsappURL : String}
  {storageErr : Option String} {value : Value}

theorem Message.hasText_eq_false :
    m.hasText = false ↔ m.conversation = none ∧ m.extendedTextMessage = none := by
  simp [Message.hasText]

theorem Message.hasMedia_eq_false :
    m.hasMedia = false ↔ m.imageMessage = none ∧ m.videoMessage = none ∧
      m.audioMessage = none ∧ m.documentMessage = none ∧ m.stickerMessage = none := by
  simp [Message.hasMedia, and_assoc]

theorem Message.text_isOk (htext : m.hasText = true) : m.text.isOk = !m.textUnset := by
  unfold Message.hasText at htext
  unfold Message.text Message.textUnset
  cases hconversation : m.conversation with
  | some text => rfl
  | none =>
    cases hext : m.extendedTextMessage with
    | some ext =>
      obtain ⟨text⟩ := ext
      cases text with
      | none => rfl
      | some text => rfl
    | none => simp [hconversation, hext] at htext

theorem Message.textUnset_of_no_text (htext : m.hasText = false) : m.textUnset = false := by
  obtain ⟨-, hext⟩ := Message.hasText_eq_false.mp htext
  simp [Message.textUnset, hext]

theorem setText_isOk {text : Except Panic String} : (setText payload text).isOk = text.isOk := by
  cases text with
  | error panic => rfl
  | ok text => rfl

/-! ### The keys of a payload -/

@[simp] theorem Payload.set_same : p.set key value key = some value :=
  Function.update_self ..

@[simp] theorem Payload.set_other (h : other ≠ key) : p.set key value other = p other :=
  Function.update_of_ne h ..

theorem Payload.setNonempty_other (h : other ≠ key) : p.setNonempty key s other = p other := by
  unfold Payload.setNonempty
  split
  · exact Payload.set_other h
  · rfl

theorem Payload.setSome_other {α : Type} {f : α → Value} {a : Option α} (h : other ≠ key) :
    p.setSome key f a other = p other := by
  cases a with
  | none => rfl
  | some a => exact Payload.set_other h

/-- A copy of the URL stands under one of these keys in the queue mode only. -/
def urlKeys : List String := ["storage_url", "whatsapp_url"]

theorem Direct.setURL_urlKeys (h : key ∈ urlKeys) :
    Direct.setURL mediaInfo storageURL whatsappURL storageErr key = mediaInfo key := by
  have hne : key ≠ "url" := by
    rintro rfl
    revert h
    decide
  unfold Direct.setURL
  split
  · exact Payload.set_other hne
  · exact Payload.set_other hne

theorem Queued.setURL_urlKeys :
    ∃ key ∈ urlKeys, (Queued.setURL mediaInfo storageURL whatsappURL storageErr key).isSome := by
  unfold Queued.setURL
  split
  · exact ⟨"storage_url", by decide, by rw [Payload.set_same]; rfl⟩
  · exact ⟨"whatsapp_url", by decide, by rw [Payload.set_same]; rfl⟩

theorem mediaBase_urlKeys {type : String} {mimetype : Option String} {fileLength : Option Nat}
    (h : key ∈ urlKeys) : mediaBase type mimetype fileLength key = none := by
  simp only [urlKeys, List.mem_cons, List.not_mem_nil, or_false] at h
  rcases h with rfl | rfl
  · simp [mediaBase, Payload.empty]
  · simp [mediaBase, Payload.empty]

/-- The descriptions of the direct mode have no copy of the URL. -/
def Direct.Description (mediaInfo : Payload) : Prop := ∀ key ∈ urlKeys, mediaInfo key = none

/-- The descriptions of the queue mode have one. -/
def Queued.Description (mediaInfo : Payload) : Prop := ∃ key ∈ urlKeys, (mediaInfo key).isSome

theorem urlKeys_ne_of_not_mem (h : key ∈ urlKeys) (hother : other ∉ urlKeys) : key ≠ other := by
  rintro rfl
  exact hother h

theorem Direct.description_setURL (h : ∀ key ∈ urlKeys, mediaInfo key = none) :
    Direct.Description (Direct.setURL mediaInfo storageURL whatsappURL storageErr) := by
  intro key hkey
  rw [Direct.setURL_urlKeys hkey]
  exact h key hkey

theorem Direct.description_setNonempty (h : Direct.Description mediaInfo) (hkey : key ∉ urlKeys) :
    Direct.Description (mediaInfo.setNonempty key s) := by
  intro other hother
  rw [Payload.setNonempty_other (urlKeys_ne_of_not_mem hother hkey)]
  exact h other hother

theorem Queued.description_setNonempty (h : Queued.Description mediaInfo) (hkey : key ∉ urlKeys) :
    Queued.Description (mediaInfo.setNonempty key s) := by
  obtain ⟨other, hother, hsome⟩ := h
  refine ⟨other, hother, ?_⟩
  rw [Payload.setNonempty_other (urlKeys_ne_of_not_mem hother hkey)]
  exact hsome

/-! ### The kinds of a message -/

/-- The builder of the direct mode takes a text first. -/
theorem Direct.build_text (hmessage : msg.message = some m) (htext : m.hasText = true) :
    Direct.buildWebhookPayload msg mediaDownloader client =
      setText (basePayload msg.info client) m.text := by
  unfold Message.hasText at htext
  unfold Direct.buildWebhookPayload Message.text
  simp only [hmessage]
  cases hconversation : m.conversation with
  | some text => rfl
  | none =>
    cases hext : m.extendedTextMessage with
    | some ext => rfl
    | none => simp [hconversation, hext] at htext

/-- Without media, so does the builder of the queue mode. -/
theorem Queued.build_text (hmessage : msg.message = some m) (hmedia : m.hasMedia = false)
    (htext : m.hasText = true) :
    Queued.buildWebhookPayload msg mediaDownloader client =
      setText (basePayload msg.info client) m.text := by
  unfold Message.hasText at htext
  obtain ⟨himage, hvideo, haudio, hdocument, hsticker⟩ := Message.hasMedia_eq_false.mp hmedia
  unfold Queued.buildWebhookPayload Message.text
  simp only [hmessage, himage, hvideo, haudio, hdocument, hsticker]
  cases hconversation : m.conversation with
  | some text => rfl
  | none =>
    cases hext : m.extendedTextMessage with
    | some ext => rfl
    | none => simp [hconversation, hext] at htext

/-- With media and no text, the builder of the direct mode describes the media. -/
theorem Direct.build_media (hmessage : msg.message = some m) (htext : m.hasText = false)
    (hmedia : m.hasMedia = true) : ∃ type mediaInfo, Direct.Description mediaInfo ∧
      Direct.buildWebhookPayload msg mediaDownloader client =
        .ok (setMedia (basePayload msg.info client) type mediaInfo) := by
  have hbase : ∀ {type : String} {mimetype : Option String} {fileLength : Option Nat},
      ∀ key ∈ urlKeys, mediaBase type mimetype fileLength key = none :=
    fun key hkey => mediaBase_urlKeys hkey
  obtain ⟨hconversation, hext⟩ := Message.hasText_eq_false.mp htext
  unfold Direct.buildWebhookPayload
  simp only [hmessage, hconversation, hext, Option.isSome_none, Bool.false_eq_true, if_false]
  cases himage : m.imageMessage with
  | some img =>
    exact ⟨_, _, description_setNonempty (description_setURL hbase) (by decide), rfl⟩
  | none =>
  cases hvideo : m.videoMessage with
  | some vid =>
    exact ⟨_, _, description_setNonempty (description_setURL hbase) (by decide), rfl⟩
  | none =>
  cases haudio : m.audioMessage with
  | some audio => exact ⟨_, _, description_setURL hbase, rfl⟩
  | none =>
  cases hdocument : m.documentMessage with
  | some doc =>
    refine ⟨_, _, description_setURL ?_, rfl⟩
    intro key hkey
    rw [Payload.set_other (urlKeys_ne_of_not_mem hkey (by decide))]
    exact hbase key hkey
  | none =>
  cases hsticker : m.stickerMessage with
  | some sticker =>
    refine ⟨_, _, description_setURL ?_, rfl⟩
    intro key hkey
    rw [Payload.setSome_other (urlKeys_ne_of_not_mem hkey (by decide)),
      Payload.set_other (urlKeys_ne_of_not_mem hkey (by decide))]
    rfl
  | none => simp [Message.hasMedia, himage, hvideo, haudio, hdocument, hsticker] at hmedia

/-- With media, the builder of the queue mode describes them. -/
theorem Queued.build_media (hmessage : msg.message = some m) (hmedia : m.hasMedia = true) :
    ∃ type mediaInfo, type ≠ "text" ∧ Queued.Description mediaInfo ∧
      Queued.buildWebhookPayload msg mediaDownloader client =
        .ok (setMedia (basePayload msg.info client) type mediaInfo) := by
  unfold Queued.buildWebhookPayload
  simp only [hmessage]
  cases himage : m.imageMessage with
  | some img =>
    exact ⟨_, _, by decide, description_setNonempty setURL_urlKeys (by decide), rfl⟩
  | none =>
  cases hvideo : m.videoMessage with
  | some vid =>
    exact ⟨_, _, by decide, description_setNonempty setURL_urlKeys (by decide), rfl⟩
  | none =>
  cases haudio : m.audioMessage with
  | some audio => exact ⟨_, _, by decide, setURL_urlKeys, rfl⟩
  | none =>
  cases hdocument : m.documentMessage with
  | some doc => exact ⟨_, _, by decide, setURL_urlKeys, rfl⟩
  | none =>
  cases hsticker : m.stickerMessage with
  | some sticker => exact ⟨_, _, by decide, setURL_urlKeys, rfl⟩
  | none => simp [Message.hasMedia, himage, hvideo, haudio, hdocument, hsticker] at hmedia

/-- The other sub-messages, as the builder of the direct mode takes them. -/
theorem Direct.build_other (hmessage : msg.message = some m) (htext : m.hasText = false)
    (hmedia : m.hasMedia = false) :
    Direct.buildWebhookPayload msg mediaDownloader client = .ok
      (match m.contactMessage with
      | some contact => ((basePayload msg.info client).set "type" (.str "contact")).setSome
          "display_name" .str contact.displayName
      | none =>
        match m.locationMessage with
        | some location => setLocation (basePayload msg.info client) location
        | none =>
          match m.pollCreationMessage with
          | some poll => setPoll (basePayload msg.info client) poll
          | none => (basePayload msg.info client).set "type" (.str "unknown")) := by
  obtain ⟨hconversation, hext⟩ := Message.hasText_eq_false.mp htext
  obtain ⟨himage, hvideo, haudio, hdocument, hsticker⟩ := Message.hasMedia_eq_false.mp hmedia
  unfold Direct.buildWebhookPayload
  simp only [hmessage, hconversation, hext, himage, hvideo, haudio, hdocument, hsticker,
    Option.isSome_none, Bool.false_eq_true, if_false]
  cases m.contactMessage with
  | some contact => rfl
  | none =>
    cases m.locationMessage with
    | some location => rfl
    | none => cases m.pollCreationMessage <;> rfl

/-- And as the builder of the queue mode does. -/
theorem Queued.build_other (hmessage : msg.message = some m) (htext : m.hasText = false)
    (hmedia : m.hasMedia = false) :
    Queued.buildWebhookPayload msg mediaDownloader client = .ok
      (match m.locationMessage with
      | some location => setLocation (basePayload msg.info client) location
      | none =>
        match m.pollCreationMessage with
        | some poll => setPoll (basePayload msg.info client) poll
        | none => basePayload msg.info client) := by
  obtain ⟨hconversation, hext⟩ := Message.hasText_eq_false.mp htext
  obtain ⟨himage, hvideo, haudio, hdocument, hsticker⟩ := Message.hasMedia_eq_false.mp hmedia
  unfold Queued.buildWebhookPayload
  simp only [hmessage, hconversation, hext, himage, hvideo, haudio, hdocument, hsticker,
    Option.isSome_none, Bool.false_eq_true, if_false]
  cases m.locationMessage with
  | some location => rfl
  | none => cases m.pollCreationMessage <;> rfl

/-! ### Dereferences -/

theorem Direct.build_isOk (hmessage : msg.message = some m) :
    (Direct.buildWebhookPayload msg mediaDownloader client).isOk = !m.textUnset := by
  cases htext : m.hasText with
  | true => rw [Direct.build_text hmessage htext, setText_isOk, Message.text_isOk htext]
  | false =>
    rw [Message.textUnset_of_no_text htext]
    cases hmedia : m.hasMedia with
    | true =>
      obtain ⟨_, _, -, hbuild⟩ := Direct.build_media hmessage htext hmedia
      rw [hbuild]
      rfl
    | false =>
      rw [Direct.build_other hmessage htext hmedia]
      rfl

theorem Queued.build_isOk (hmessage : msg.message = some m) :
    (Queued.buildWebhookPayload msg mediaDownloader client).isOk =
      (m.hasMedia || !m.textUnset) := by
  cases hmedia : m.hasMedia with
  | true =>
    obtain ⟨_, _, -, -, hbuild⟩ := Queued.build_media hmessage hmedia
    rw [hbuild]
    rfl
  | false =>
    rw [Bool.false_or]
    cases htext : m.hasText with
    | true =>
      rw [Queued.build_text hmessage hmedia htext, setText_isOk, Message.text_isOk htext]
    | false =>
      rw [Queued.build_other hmessage htext hmedia, Message.textUnset_of_no_text htext]
      rfl

/-- Both builders return a payload exactly when the message is no extended text message without
a text; the builder of the queue mode then still returns one for a message with media. -/
theorem builders_return_iff (msg : MessageEvent) (mediaDownloader : Option MediaDownloader)
    (client : Option Client) :
    ((Direct.buildWebhookPayload msg mediaDownloader client).isOk = true ∧
        (Queued.buildWebhookPayload msg mediaDownloader client).isOk = true) ↔
      ∀ m, msg.message = some m → m.textUnset = false := by
  cases hmessage : msg.message with
  | none =>
    have hdirect : (Direct.buildWebhookPayload msg mediaDownloader client).isOk = true := by
      simp only [Direct.buildWebhookPayload, hmessage]
      rfl
    have hqueued : (Queued.buildWebhookPayload msg mediaDownloader client).isOk = true := by
      simp only [Queued.buildWebhookPayload, hmessage]
      rfl
    simp [hdirect, hqueued]
  | some m =>
    rw [Direct.build_isOk hmessage, Queued.build_isOk hmessage]
    cases htext : m.textUnset with
    | true => simp [htext]
    | false => simp [htext]

/-- A message whose sub-message is `extendedTextMessage`, without a text. -/
def untexted : MessageEvent where
  info := ⟨"3EB0", 0, ⟨"628222@s.whatsapp.net", false⟩, ⟨"", true⟩, ⟨"628222@s.whatsapp.net", false⟩,
    false, ""⟩
  message := some { extendedTextMessage := some ⟨none⟩ }

theorem untexted_dereferences :
    ¬ ∀ (msg : MessageEvent) (mediaDownloader : Option MediaDownloader) (client : Option Client),
      (Direct.buildWebhookPayload msg mediaDownloader client).isOk = true ∧
        (Queued.buildWebhookPayload msg mediaDownloader client).isOk = true := by
  intro hreturn
  have hdirect := (hreturn untexted none none).1
  rw [Direct.build_isOk rfl] at hdirect
  cases hdirect

end WhatsappGateway.Whatsapp

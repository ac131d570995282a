import WhatsappGateway.Usecase.Recipients

/-!
The bare phone numbers among the recipients: an optional plus sign, then digits, spaces and
dashes. `resolveChat` filters out the digits and does not look at the rest, so it also takes
digits out of what is no phone number.
-/

namespace WhatsappGateway.SendMessage

/-- The grammar of the bare phone numbers. -/
def PhoneNumber (v : String) : Prop :=
  ∃ body, (v.toList = body ∨ v.toList = '+' :: body) ∧ (∀ c ∈ body, phoneChar c = true) ∧
    ∃ c ∈ body, c.isDigit = true

/-- After the plus sign there are only the characters of a phone number. -/
def wellWritten (v : String) : Bool := (trimPlus v).all phoneChar

def hasDigit (v : String) : Bool := v.toList.any Char.isDigit

/-- What a request names its recipient by. -/
def chosen (chat msisdn : String) : String :=
  if trimSpace chat = "" then trimSpace msisdn else trimSpace chat

variable {env : Env} {v chat msisdn : String} {body : List Char}

theorem toList_eq_trimPlus (v : String) : v.toList = trimPlus v ∨ v.toList = '+' :: trimPlus v := by
  unfold trimPlus
  split
  next cs heq => exact .inr heq
  · exact .inl rfl

theorem trimPlus_eq (hbody : ∀ c ∈ body, phoneChar c = true)
    (h : v.toList = body ∨ v.toList = '+' :: body) : trimPlus v = body := by
  unfold trimPlus
  rcases h with rfl | hplus
  · split
    next cs heq =>
      -- a plus sign is no character of a phone number
      have hmem : '+' ∈ v.toList := heq ▸ List.mem_cons_self
      exact absurd (hbody '+' hmem) (by decide)
    · rfl
  · rw [hplus]
    rfl

theorem hasDigit_eq_false : hasDigit v = false ↔ v.toList.filter Char.isDigit = [] := by
  rw [hasDigit, List.any_eq_false, List.filter_eq_nil_iff]

theorem phoneNumber_iff : PhoneNumber v ↔ wellWritten v = true ∧ hasDigit v = true := by
  have hdigits : hasDigit v = (trimPlus v).any Char.isDigit := by
    rw [hasDigit]
    rcases toList_eq_trimPlus v with hsame | hplus
    · rw [hsame]
    · rw [hplus]
      rfl
  rw [wellWritten, hdigits, List.all_eq_true, List.any_eq_true]
  constructor
  · rintro ⟨body, hv, hbody, hdigit⟩
    rw [trimPlus_eq hbody hv]
    exact ⟨hbody, hdigit⟩
  · rintro ⟨hbody, hdigit⟩
    exact ⟨trimPlus v, toList_eq_trimPlus v, hbody, hdigit⟩

/-! ### What a bare recipient resolves to -/

theorem resolveChat_chosen :
    resolveChat env chat msisdn =
      if chosen chat msisdn = "" then .error (badRequest "chat (or msisdn) is required")
      else canonicalRecipient env (chosen chat msisdn) := rfl

/-- A bare recipient is accepted for its digits alone. -/
theorem resolveChat_digits (hat : '@' ∉ (chosen chat msisdn).toList)
    (hdigit : hasDigit (chosen chat msisdn) = true) :
    resolveChat env chat msisdn =
      .ok (String.ofList ((chosen chat msisdn).toList.filter Char.isDigit) ++ "@" ++
        "s.whatsapp.net") := by
  have hfilter : ¬ (chosen chat msisdn).toList.filter Char.isDigit = [] := by
    rw [← hasDigit_eq_false, hdigit]
    nofun
  have hsome : chosen chat msisdn ≠ "" := by
    intro hempty
    rw [hempty] at hdigit
    exact absurd hdigit (by decide)
  rw [resolveChat_chosen, if_neg hsome, canonicalRecipient_bare hat, if_neg hfilter]

theorem resolveChat_no_digits (hat : '@' ∉ (chosen chat msisdn).toList)
    (hdigit : hasDigit (chosen chat msisdn) = false) :
    ∃ err, resolveChat env chat msisdn = .error (badRequest err) := by
  rw [resolveChat_chosen]
  split
  · exact ⟨_, rfl⟩
  · rw [canonicalRecipient_bare hat, if_pos (hasDigit_eq_false.mp hdigit)]
    exact ⟨_, rfl⟩

/-- On this request `resolveChat` keeps to the grammar. -/
structure KeepsGrammar (env : Env) (chat msisdn : String) : Prop where
  accepts_iff : (∃ recipient, resolveChat env chat msisdn = .ok recipient) ↔
    PhoneNumber (chosen chat msisdn)
  rejects : wellWritten (chosen chat msisdn) = false →
    ∃ err, resolveChat env chat msisdn = .error (badRequest err)

/-- Of the bare recipients, those are handled by the grammar that have no digit, and those that
have no other characters: digits are taken out of anything else. -/
theorem keepsGrammar_iff (env : Env) (chat msisdn : String)
    (hat : '@' ∉ (chosen chat msisdn).toList) :
    KeepsGrammar env chat msisdn ↔
      hasDigit (chosen chat msisdn) = false ∨ wellWritten (chosen chat msisdn) = true := by
  constructor
  · intro hkeeps
    cases hdigit : hasDigit (chosen chat msisdn) with
    | false => exact .inl rfl
    | true =>
      have hnumber := hkeeps.accepts_iff.mp ⟨_, resolveChat_digits hat hdigit⟩
      exact .inr (phoneNumber_iff.mp hnumber).1
  · intro hinput
    cases hdigit : hasDigit (chosen chat msisdn) with
    | false =>
      obtain ⟨err, herror⟩ : ∃ err, resolveChat env chat msisdn = .error (badRequest err) :=
        resolveChat_no_digits hat hdigit
      refine ⟨?_, fun _ => ⟨err, herror⟩⟩
      rw [phoneNumber_iff, hdigit, herror]
      simp
    | true =>
      have hwritten : wellWritten (chosen chat msisdn) = true := by
        rcases hinput with hnone | hwritten
        · rw [hdigit] at hnone
          cases hnone
        · exact hwritten
      refine ⟨?_, fun hother => ?_⟩
      · rw [phoneNumber_iff]
        exact ⟨fun _ => ⟨hwritten, hdigit⟩, fun _ => ⟨_, resolveChat_digits hat hdigit⟩⟩
      · rw [hwritten] at hother
        cases hother

theorem keepsGrammar_iff_number :
    KeepsGrammar libraries "+62 819-1048" "" ↔
      hasDigit (chosen "+62 819-1048" "") = false ∨
        wellWritten (chosen "+62 819-1048" "") = true :=
  keepsGrammar_iff libraries "+62 819-1048" "" (by decide)

/-- The letters of a text are dropped, and its digits make another recipient. -/
theorem resolveChat_drops_letters :
    resolveChat libraries "12ab34" "" = .ok "1234@s.whatsapp.net" ∧
      ¬ KeepsGrammar libraries "12ab34" "" := by
  have hok : resolveChat libraries "12ab34" "" = .ok "1234@s.whatsapp.net" := by decide +kernel
  refine ⟨hok, ?_⟩
  intro hkeeps
  obtain ⟨err, herror⟩ := hkeeps.rejects (by decide)
  rw [hok] at herror
  cases herror

end WhatsappGateway.SendMessage

import WhatsappGateway.Cipherx.RoundTrip
import WhatsappGateway.Lib.Fallible

/-!
Which blobs `Decrypt` handles. It counts the fields and decodes four of them, but looks neither
at the version nor at the length of the nonces before it opens what they belong to, and opening
panics on a nonce of another length.
-/

namespace WhatsappGateway.Cipherx

open Lib

/-- `strings.Split` at the colons. -/
def fields (blob : String) : List String := (blob.toList.splitOn ':').map String.ofList

/-- A blob is rejected with an error, or it has five fields of which the first is the version
that `Encrypt` writes. -/
structure Handled (c : Cipher) (crypto : Crypto) (blob : String) : Prop where
  no_panic : c.decrypt crypto blob ≠ .error .panicked
  versioned : ∀ plain, c.decrypt crypto blob = .ok plain →
    ∃ nonceDEK encDEK nonceData encData,
      fields blob = [version, nonceDEK, encDEK, nonceData, encData]

/-- The fields of a blob: its version, and the four others decoded. -/
structure Parts where
  version : String
  nonceDEK : Bytes
  encDEK : Bytes
  nonceData : Bytes
  encData : Bytes

/-- The blob has five fields, and the four which are decoded can be. -/
def Parses (crypto : Crypto) (blob : String) (parts : Parts) : Prop :=
  ∃ nonceDEK encDEK nonceData encData,
    fields blob = [parts.version, nonceDEK, encDEK, nonceData, encData] ∧
    crypto.decodeString nonceDEK = .ok parts.nonceDEK ∧
    crypto.decodeString encDEK = .ok parts.encDEK ∧
    crypto.decodeString nonceData = .ok parts.nonceData ∧
    crypto.decodeString encData = .ok parts.encData

/-- A key of one of the sizes of AES. -/
def AESKey (key : Bytes) : Prop := key.length = 16 ∨ key.length = 24 ∨ key.length = 32

/-- The nonces have the size that is asked for, and if both ciphertexts open, the version is the
one that `Encrypt` writes. -/
structure WellFormed (masterKey : Bytes) (crypto : Crypto) (parts : Parts) : Prop where
  nonceDEK : AESKey masterKey → parts.nonceDEK.length = nonceSize
  nonceData : ∀ dek, AESKey masterKey → crypto.gcmOpen masterKey parts.nonceDEK parts.encDEK = .ok dek →
    AESKey dek → parts.nonceData.length = nonceSize
  version : ∀ dek plain, AESKey masterKey →
    crypto.gcmOpen masterKey parts.nonceDEK parts.encDEK = .ok dek → AESKey dek →
    crypto.gcmOpen dek parts.nonceData parts.encData = .ok plain → parts.version = Cipherx.version

section Opening

variable {crypto : Crypto} {c : Cipher} {key nonce ciphertext plain : Bytes} {text : String}
  {x : Except Failure Bytes}

theorem mapError_ok : x.mapError (Failure.wrap text) = .ok plain ↔ x = .ok plain := by
  cases x <;> simp [Except.mapError]

theorem mapError_panicked : x.mapError (Failure.wrap text) = .error .panicked ↔
    x = .error .panicked := by
  cases x with
  | ok plain => simp [Except.mapError]
  | error failure => cases failure <;> simp [Except.mapError, Failure.wrap]

theorem aesGCMDecrypt_ok_iff : aesGCMDecrypt crypto key nonce ciphertext = .ok plain ↔
    AESKey key ∧ nonce.length = nonceSize ∧ crypto.gcmOpen key nonce ciphertext = .ok plain := by
  unfold aesGCMDecrypt AESKey
  cases crypto.gcmOpen key nonce ciphertext with
  | error err => grind [Except.mapError]
  | ok plain => grind [Except.mapError]

/-- Opening panics on a nonce of another size. -/
theorem aesGCMDecrypt_panicked : aesGCMDecrypt crypto key nonce ciphertext = .error .panicked ↔
    AESKey key ∧ nonce.length ≠ nonceSize := by
  unfold aesGCMDecrypt AESKey
  cases crypto.gcmOpen key nonce ciphertext with
  | error err => grind [Except.mapError]
  | ok plain => grind [Except.mapError]

variable {parts : Parts} {blob : String}

/-- Only a blob that parses is opened. -/
theorem decrypt_cases (c : Cipher) (crypto : Crypto) (blob : String) :
    (∃ parts, Parses crypto blob parts ∧ c.decrypt crypto blob =
      c.openParts crypto parts.nonceDEK parts.encDEK parts.nonceData parts.encData) ∨
    ∃ err, c.decrypt crypto blob = .error (.failed err) := by
  unfold Cipher.decrypt
  split
  next v nonceDEK_b64 encDEK_b64 nonceData_b64 encData_b64 hfields =>
    cases hnonceDEK : crypto.decodeString nonceDEK_b64 with
    | error err => exact .inr ⟨err, rfl⟩
    | ok nonceDEK =>
    cases hencDEK : crypto.decodeString encDEK_b64 with
    | error err => exact .inr ⟨err, rfl⟩
    | ok encDEK =>
    cases hnonceData : crypto.decodeString nonceData_b64 with
    | error err => exact .inr ⟨err, rfl⟩
    | ok nonceData =>
    cases hencData : crypto.decodeString encData_b64 with
    | error err => exact .inr ⟨err, rfl⟩
    | ok encData =>
    exact .inl ⟨⟨v, nonceDEK, encDEK, nonceData, encData⟩,
      ⟨_, _, _, _, hfields, hnonceDEK, hencDEK, hnonceData, hencData⟩, rfl⟩
  · exact .inr ⟨_, rfl⟩

theorem decrypt_parsed (h : Parses crypto blob parts) : c.decrypt crypto blob =
    c.openParts crypto parts.nonceDEK parts.encDEK parts.nonceData parts.encData := by
  obtain ⟨_, _, _, _, hfields, hnonceDEK, hencDEK, hnonceData, hencData⟩ := h
  unfold fields at hfields
  simp only [Cipher.decrypt, hfields, hnonceDEK, hencDEK, hnonceData, hencData]
  rfl

/-- The parts are well formed exactly when opening them neither panics nor, with another version,
gives a plaintext. -/
theorem wellFormed_iff : WellFormed c.masterKey crypto parts ↔
    c.openParts crypto parts.nonceDEK parts.encDEK parts.nonceData parts.encData ≠
        .error .panicked ∧
      ∀ plain, c.openParts crypto parts.nonceDEK parts.encDEK parts.nonceData parts.encData =
        .ok plain → parts.version = version := by
  simp only [Cipher.openParts, ne_eq, bind_eq_ok, bind_eq_error, mapError_ok, mapError_panicked,
    aesGCMDecrypt_ok_iff, aesGCMDecrypt_panicked, not_or, not_exists, not_and, Decidable.not_not]
  constructor
  · intro h
    refine ⟨⟨h.nonceDEK, ?_⟩, ?_⟩
    · rintro dek ⟨hkey, -, hdek⟩ haes
      exact h.nonceData dek hkey hdek haes
    · rintro plain ⟨dek, ⟨hkey, -, hdek⟩, haes, -, hplain⟩
      exact h.version dek plain hkey hdek haes hplain
  · rintro ⟨⟨hnonceDEK, hnonceData⟩, hversion⟩
    have hsecond : ∀ dek, AESKey c.masterKey →
        crypto.gcmOpen c.masterKey parts.nonceDEK parts.encDEK = .ok dek → AESKey dek →
        parts.nonceData.length = nonceSize := by
      intro dek hkey hdek haes
      exact hnonceData dek ⟨hkey, hnonceDEK hkey, hdek⟩ haes
    refine ⟨hnonceDEK, hsecond, ?_⟩
    intro dek plain hkey hdek haes hplain
    exact hversion plain ⟨dek, ⟨hkey, hnonceDEK hkey, hdek⟩, haes, hsecond dek hkey hdek haes, hplain⟩

end Opening

/-- A blob is handled exactly when it does not parse, or its parts are well formed. -/
theorem decrypt_handled_iff (c : Cipher) (crypto : Crypto) (blob : String) :
    Handled c crypto blob ↔
      ∀ parts, Parses crypto blob parts → WellFormed c.masterKey crypto parts := by
  constructor
  · intro hhandled parts hparses
    have hopen := @decrypt_parsed crypto c parts blob hparses
    obtain ⟨_, _, _, _, hfields, -⟩ := hparses
    refine wellFormed_iff.mpr ⟨hopen ▸ hhandled.no_panic, ?_⟩
    intro plain hplain
    obtain ⟨_, _, _, _, hversioned⟩ := hhandled.versioned plain (hopen.trans hplain)
    rw [hfields] at hversioned
    exact (List.cons.inj hversioned).1
  · intro hwell
    rcases decrypt_cases c crypto blob with ⟨parts, hparses, hopen⟩ | ⟨err, hfailed⟩
    · obtain ⟨hpanic, hversion⟩ := wellFormed_iff.mp (hwell parts hparses)
      obtain ⟨_, _, _, _, hfields, -⟩ := hparses
      refine ⟨hopen ▸ hpanic, ?_⟩
      intro plain hplain
      rw [hfields, hversion plain (hopen.symm.trans hplain)]
      exact ⟨_, _, _, _, rfl⟩
    · refine ⟨?_, ?_⟩
      · rw [hfailed]
        exact nofun
      · intro plain hplain
        rw [hfailed] at hplain
        cases hplain

/-- The blob that encryption makes of nothing, with all draws zero, and another version. -/
def otherVersion : String :=
  ":".intercalate ["2", Lib.Base64.encode (zeros 12), Lib.Base64.encode sealedZeros,
    Lib.Base64.encode (zeros 12), Lib.Base64.encode sealedEmpty]

/-- Four colons panic, and a blob of another version decrypts. -/
theorem decrypt_mishandles :
    (¬ ∀ (c : Cipher) (crypto : Crypto) blob, c.decrypt crypto blob ≠ .error .panicked) ∧
    ¬ ∀ (c : Cipher) (crypto : Crypto) blob plain, c.decrypt crypto blob = .ok plain →
      ∃ nonceDEK encDEK nonceData encData,
        fields blob = [version, nonceDEK, encDEK, nonceData, encData] := by
  constructor
  · intro hall
    exact hall ⟨zeros 32⟩ sampleSealing.toCrypto "1::::" (by decide +kernel)
  · intro hall
    have htwo : ':' ∉ "2".toList := by decide
    have hplain : (Cipher.mk (zeros 32)).decrypt sampleSealing.toCrypto otherVersion = .ok [] :=
      (decrypt_joined sampleSealing_lawful htwo rfl).trans (by decide +kernel)
    have hfields : fields otherVersion = "2" :: _ :=
      split_joined sampleSealing_lawful htwo (zeros 12) sealedZeros (zeros 12) sealedEmpty
    obtain ⟨_, _, _, _, hversioned⟩ := hall ⟨zeros 32⟩ sampleSealing.toCrypto otherVersion [] hplain
    rw [hfields] at hversioned
    exact absurd (List.cons.inj hversioned).1 (by decide)

end WhatsappGateway.Cipherx

import WhatsappGateway.Cipherx.Cipher
import WhatsappGateway.Lib.Base64

/-!
Encryption of a secret, and that decryption undoes it. What encryption draws at random is
given from outside. Of the standard library the round trip relies on three things: decoding
undoes encoding, what is encoded contains no colon, and AES-GCM opens what it has sealed.
-/

namespace WhatsappGateway.Cipherx

def dekSize : Nat := 32

def version : String := "1"

/-- The standard library's encoders, beside its decoders. -/
structure Sealing extends Crypto where
  encodeToString : Bytes → String
  gcmSeal : Bytes → Bytes → Bytes → Bytes

/-- What `randomBytes` returns for `n` bytes. -/
abbrev Draw (n : Nat) := Except String { bytes : Bytes // bytes.length = n }

/-- The draws of one encryption, in their order. -/
structure Draws where
  dek : Draw dekSize
  nonceData : Draw nonceSize
  nonceDEK : Draw nonceSize

/-- The nonce, and the ciphertext. -/
def aesGCMEncrypt (crypto : Sealing) (key plaintext : Bytes) (nonce : Draw nonceSize) :
    Except Failure (Bytes × Bytes) :=
  if key.length ≠ 16 ∧ key.length ≠ 24 ∧ key.length ≠ 32 then
    .error (.failed ("crypto/aes: invalid key size " ++ toString key.length))
  else do
    let nonce ← nonce.mapError .failed
    pure (nonce.val, crypto.gcmSeal key nonce plaintext)

def Cipher.encrypt (c : Cipher) (crypto : Sealing) (draws : Draws) (plainText : Bytes) :
    Except Failure String :=
  if c.masterKey.length ≠ 32 then
    .error (.failed ("HMAC Master Key must be 32 bytes, got " ++ toString c.masterKey.length))
  else do
    let dek ← draws.dek.mapError .failed
    let (nonceData, encData) ← aesGCMEncrypt crypto dek plainText draws.nonceData
    let (nonceDEK, encDEK) ← aesGCMEncrypt crypto c.masterKey dek draws.nonceDEK
    pure (":".intercalate [version, crypto.encodeToString nonceDEK, crypto.encodeToString encDEK,
      crypto.encodeToString nonceData, crypto.encodeToString encData])

/-- What the standard library is relied on for. -/
structure Lawful (crypto : Sealing) : Prop where
  decode_encode : ∀ bytes, crypto.decodeString (crypto.encodeToString bytes) = .ok bytes
  no_colon : ∀ bytes, ':' ∉ (crypto.encodeToString bytes).toList
  open_seal : ∀ key nonce plaintext, key.length = 32 → nonce.length = nonceSize →
    crypto.gcmOpen key nonce (crypto.gcmSeal key nonce plaintext) = .ok plaintext

variable {crypto : Sealing} {c : Cipher} {key nonce plaintext ciphertext : Bytes}

/-- The fields of a blob are what was joined. -/
theorem split_blob {parts : List String} (hparts : parts ≠ [])
    (hcolon : ∀ part ∈ parts, ':' ∉ part.toList) :
    ((":".intercalate parts).toList.splitOn ':').map String.ofList = parts := by
  have hlists : ∀ l ∈ parts.map String.toList, ':' ∉ l := by
    intro l hl
    obtain ⟨part, hpart, rfl⟩ := List.mem_map.mp hl
    exact hcolon part hpart
  have hsplit := List.splitOn_intercalate ':' hlists (by simpa using hparts)
  rw [String.toList_intercalate]
  simp [hsplit]

theorem aesGCMEncrypt_ok (hkey : key.length = 32) (nonce : { b : Bytes // b.length = nonceSize }) :
    aesGCMEncrypt crypto key plaintext (.ok nonce) =
      .ok (nonce.val, crypto.gcmSeal key nonce plaintext) := by
  simp [aesGCMEncrypt, hkey, Except.mapError, bind, Except.bind, pure, Except.pure]

theorem aesGCMDecrypt_ok (hkey : key.length = 32) (hnonce : nonce.length = nonceSize) :
    aesGCMDecrypt crypto.toCrypto key nonce ciphertext =
      (crypto.gcmOpen key nonce ciphertext).mapError .failed := by
  simp [aesGCMDecrypt, hkey, hnonce]

/-- The two decryptions, of the data key and of the secret. -/
def Cipher.openParts (c : Cipher) (crypto : Crypto) (nonceDEK encDEK nonceData encData : Bytes) :
    Except Failure Bytes := do
  let dek ← (aesGCMDecrypt crypto c.masterKey nonceDEK encDEK).mapError
    (Failure.wrap "failed to decrypt DEK: ")
  (aesGCMDecrypt crypto dek nonceData encData).mapError (Failure.wrap "failed to decrypt data: ")

/-- A blob of a version and four encoded fields splits into them. -/
theorem split_joined (hlawful : Lawful crypto) {first : String} (hfirst : ':' ∉ first.toList)
    (nonceDEK encDEK nonceData encData : Bytes) :
    ((":".intercalate [first, crypto.encodeToString nonceDEK, crypto.encodeToString encDEK,
      crypto.encodeToString nonceData, crypto.encodeToString encData]).toList.splitOn ':').map
        String.ofList = [first, crypto.encodeToString nonceDEK, crypto.encodeToString encDEK,
          crypto.encodeToString nonceData, crypto.encodeToString encData] := by
  apply split_blob (List.cons_ne_nil _ _)
  simp [hlawful.no_colon, hfirst]

/-- Whatever its version, such a blob is decrypted as its parts are. -/
theorem decrypt_joined (hlawful : Lawful crypto) {first : String} (hfirst : ':' ∉ first.toList)
    {nonceDEK encDEK nonceData encData : Bytes} {blob : String}
    (hblob : blob = ":".intercalate [first, crypto.encodeToString nonceDEK,
      crypto.encodeToString encDEK, crypto.encodeToString nonceData,
      crypto.encodeToString encData]) :
    c.decrypt crypto.toCrypto blob =
      c.openParts crypto.toCrypto nonceDEK encDEK nonceData encData := by
  subst hblob
  simp only [Cipher.decrypt, split_joined hlawful hfirst, hlawful.decode_encode]
  rfl

/-- Whatever is drawn, a secret is encrypted to a blob that decrypts to the secret. -/
theorem decrypt_encrypt (hlawful : Lawful crypto) (hkey : c.masterKey.length = 32)
    (dek : { b : Bytes // b.length = dekSize })
    (nonceData nonceDEK : { b : Bytes // b.length = nonceSize }) (plainText : Bytes) :
    ∃ blob, c.encrypt crypto ⟨.ok dek, .ok nonceData, .ok nonceDEK⟩ plainText = .ok blob ∧
      c.decrypt crypto.toCrypto blob = .ok plainText := by
  have hdek : dek.val.length = 32 := dek.2
  refine ⟨":".intercalate [version, crypto.encodeToString nonceDEK,
    crypto.encodeToString (crypto.gcmSeal c.masterKey nonceDEK dek),
    crypto.encodeToString nonceData,
    crypto.encodeToString (crypto.gcmSeal dek nonceData plainText)], ?_, ?_⟩
  · simp only [Cipher.encrypt, hkey, Except.mapError, bind, Except.bind, pure, Except.pure,
      aesGCMEncrypt_ok hdek, aesGCMEncrypt_ok hkey]
    rfl
  · rw [decrypt_joined hlawful (by decide) rfl, Cipher.openParts,
      aesGCMDecrypt_ok hkey nonceDEK.2, hlawful.open_seal _ _ _ hkey nonceDEK.2]
    simp only [Except.mapError, bind, Except.bind, aesGCMDecrypt_ok hdek nonceData.2,
      hlawful.open_seal _ _ _ hdek nonceData.2]

section Sample

def zeros (n : Nat) : Bytes := List.replicate n 0

/-- AES-256-GCM with a key and a nonce of zero bytes, of nothing and of 32 zero bytes. -/
def sealedEmpty : Bytes :=
  [83, 15, 138, 251, 199, 69, 54, 185, 169, 99, 180, 241, 196, 203, 115, 139]

def sealedZeros : Bytes :=
  [206, 167, 64, 61, 77, 96, 107, 110, 7, 78, 197, 211, 186, 243, 157, 24, 114, 96, 3, 202, 55, 166,
    42, 116, 209, 162, 245, 142, 117, 6, 53, 142, 209, 211, 8, 76, 153, 170, 138, 159, 218, 187, 62,
    131, 235, 40, 193, 93]

/-- Base64, and AES-GCM on the two inputs above. -/
def sampleSealing : Sealing where
  decodeString s := match Lib.Base64.decode s with
    | some bytes => .ok bytes
    | none => .error "illegal base64 data at input byte 0"
  encodeToString := Lib.Base64.encode
  gcmSeal _ _ plaintext :=
    if plaintext = [] then sealedEmpty
    else if plaintext = zeros 32 then sealedZeros
    else plaintext ++ zeros 16
  gcmOpen _ _ ciphertext :=
    if ciphertext = sealedEmpty then .ok []
    else if ciphertext = sealedZeros then .ok (zeros 32)
    else .ok (ciphertext.take (ciphertext.length - 16))

theorem sampleSealing_lawful : Lawful sampleSealing where
  decode_encode bytes := by simp [sampleSealing, Lib.Base64.decode_encode]
  no_colon bytes := Lib.Base64.not_mem_encode (by decide) bytes
  open_seal _ _ plaintext _ _ := by
    by_cases hempty : plaintext = []
    · simp [sampleSealing, hempty]
    by_cases hzeros : plaintext = zeros 32
    · subst hzeros
      rfl
    -- What is padded with zeros ends in zero, and neither of the two ciphertexts does.
    have hlast : (plaintext ++ zeros 16).getLast? = some 0 := by simp [zeros]
    have hone : plaintext ++ zeros 16 ≠ sealedEmpty := by
      intro heq
      rw [heq] at hlast
      exact absurd hlast (by decide)
    have htwo : plaintext ++ zeros 16 ≠ sealedZeros := by
      intro heq
      rw [heq] at hlast
      exact absurd hlast (by decide)
    simp only [sampleSealing, if_neg hempty, if_neg hzeros, if_neg hone, if_neg htwo]
    simp [zeros]

theorem decrypt_encrypt_empty :
    ∃ blob, (Cipher.mk (zeros 32)).encrypt sampleSealing
        ⟨.ok ⟨zeros 32, rfl⟩, .ok ⟨zeros 12, rfl⟩, .ok ⟨zeros 12, rfl⟩⟩ [] = .ok blob ∧
      (Cipher.mk (zeros 32)).decrypt sampleSealing.toCrypto blob = .ok [] :=
  decrypt_encrypt sampleSealing_lawful rfl _ _ _ _

end Sample

end WhatsappGateway.Cipherx

import Mathlib.Logic.Basic

/-!
Decryption of a stored secret. A blob carries a data key that is encrypted under the
master key, and the secret, encrypted under the data key. Base64 and AES-GCM come
from the standard library.
-/

namespace WhatsappGateway.Cipherx

abbrev Bytes := List UInt8

/-- The standard library's decoders. `gcmOpen` is asked with a key of a valid size and a nonce
of the standard size. -/
structure Crypto where
  decodeString : String → Except String Bytes
  gcmOpen : Bytes → Bytes → Bytes → Except String Bytes

inductive Failure where
  | failed (err : String)
  | panicked
deriving DecidableEq, Repr

def Failure.wrap (text : String) : Failure → Failure
  | .failed err => .failed (text ++ err)
  | .panicked => .panicked

structure Cipher where
  masterKey : Bytes
deriving DecidableEq, Repr

def nonceSize : Nat := 12

/-- `gcm.Open` panics on a nonce of another size. -/
def aesGCMDecrypt (crypto : Crypto) (key nonce ciphertext : Bytes) : Except Failure Bytes :=
  if key.length ≠ 16 ∧ key.length ≠ 24 ∧ key.length ≠ 32 then
    .error (.failed ("crypto/aes: invalid key size " ++ toString key.length))
  else if nonce.length ≠ nonceSize then .error .panicked
  else (crypto.gcmOpen key nonce ciphertext).mapError .failed

/-- The version, which is the first part of a blob, is not looked at. -/
def Cipher.decrypt (c : Cipher) (crypto : Crypto) (blob : String) : Except Failure Bytes :=
  match (blob.toList.splitOn ':').map String.ofList with
  | [_, nonceDEK_b64, encDEK_b64, nonceData_b64, encData_b64] => do
    let nonceDEK ← (crypto.decodeString nonceDEK_b64).mapError .failed
    let encDEK ← (crypto.decodeString encDEK_b64).mapError .failed
    let nonceData ← (crypto.decodeString nonceData_b64).mapError .failed
    let encData ← (crypto.decodeString encData_b64).mapError .failed
    let dek ← (aesGCMDecrypt crypto c.masterKey nonceDEK encDEK).mapError
      (Failure.wrap "failed to decrypt DEK: ")
    (aesGCMDecrypt crypto dek nonceData encData).mapError
      (Failure.wrap "failed to decrypt data: ")
  | _ => .error (.failed "invalid encrypted blob format")

end WhatsappGateway.Cipherx

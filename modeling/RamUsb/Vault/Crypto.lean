import RamUsb.Go.Codec

/-!
# E-mail encryption in the Database-Vault

`crypto` (`unnamed/part_009`) encrypts each e-mail address under its own key: a random
16-byte salt and the master key go through `DeriveKey` (HKDF, context
`email-encryption-secure-v1`, 32 bytes), and AES-256-GCM seals the address under that key
and a random 12-byte nonce. The stored ciphertext is `base64(nonce ‖ sealed)` and the
stored salt is `hex(salt)`.

The primitives are parameters, each with only the property the code relies on:

* `Aead` is AES-GCM's `Seal`/`Open` pair with the law that opening what was sealed under
  the same key and nonce gives the plaintext back;
* `deriveKey` is `DeriveKey`, which is not in src/: any function of the master key, the
  salt, the context and the length, so the same inputs give the same key;
* `Draws` is what `rand.Read` put into the salt and nonce buffers, each of its buffer's
  length, or the error of the read.

`decryptEmailSecure_encryptEmailSecure` is the round trip: whatever `EncryptEmailSecure`
returns, `DecryptEmailSecure` turns back into the address, by the hex and base64 round
trips and the AEAD law.
-/

namespace RamUsb.Vault

open Go

/-- An authenticated cipher: `gcm.Seal` and `gcm.Open` under a key and a nonce. -/
structure Aead where
  gcmSeal : Bytes → Bytes → Bytes → Bytes
  gcmOpen : Bytes → Bytes → Bytes → Option Bytes
  open_seal : ∀ key nonce plaintext, gcmOpen key nonce (gcmSeal key nonce plaintext) = some plaintext

/-- The primitives of the crypto package: the cipher, `DeriveKey(KeyDerivationInfo{MasterKey,
Salt, Context, Length})`, and SHA-256. -/
structure Crypto where
  aead : Aead
  deriveKey : Bytes → Bytes → Str → Nat → Except Str Bytes
  sha256 : Bytes → Bytes

/-- What the two `rand.Read` calls of `EncryptEmailSecure` return: the salt and the nonce,
each filling its buffer, or the error of the read. -/
structure Draws where
  salt : Except Str {b : Bytes // b.length = 16}
  nonce : Except Str {b : Bytes // b.length = 12}

/-- `ValidateEncryptionKey(key)`. -/
def validateEncryptionKey (key : Bytes) : Except Str Unit :=
  if key.length ≠ 32 then
    .error (lit "invalid key length: AES-256 requires 32 bytes, got " ++ itoa key.length)
  else if key.all (· = 0) then .error (lit "invalid key: all-zero key is not secure")
  else .ok ()

/-- `HashEmail(email)`: the hex SHA-256 digest of the address's bytes. -/
def hashEmail (c : Crypto) (email : Str) : Str := hexEncode (c.sha256 email)

/-- The `Context` of the e-mail key. -/
def emailContext : Str := lit "email-encryption-secure-v1"

/-- `aes.NewCipher(key)`: AES takes 16-, 24- and 32-byte keys. -/
def newCipher (key : Bytes) : Except Str Bytes :=
  if key.length = 16 ∨ key.length = 24 ∨ key.length = 32 then .ok key
  else .error (lit "crypto/aes: invalid key size " ++ itoa key.length)

/-- `EncryptEmailSecure(email, masterKey)`: the base64 ciphertext and the hex salt.
`cipher.NewGCM` cannot fail on an AES block and is left out. -/
def encryptEmailSecure (c : Crypto) (email : Str) (masterKey : Bytes) (draws : Draws) :
    Except Str (Str × Str) :=
  match validateEncryptionKey masterKey with
  | .error err => .error (lit "invalid master key: " ++ err)
  | .ok () =>
  match draws.salt with
  | .error err => .error (lit "failed to generate salt: " ++ err)
  | .ok saltBytes =>
  match c.deriveKey masterKey saltBytes.val emailContext 32 with
  | .error err => .error (lit "failed to derive email key: " ++ err)
  | .ok emailKey =>
  match draws.nonce with
  | .error err => .error (lit "failed to generate nonce: " ++ err)
  | .ok nonce =>
  match newCipher emailKey with
  | .error err => .error (lit "failed to create AES cipher: " ++ err)
  | .ok block =>
  .ok (base64Encode (nonce.val ++ c.aead.gcmSeal block nonce.val email), hexEncode saltBytes.val)

/-- `DecryptEmailSecure(encryptedEmail, salt, masterKey)`. -/
def decryptEmailSecure (c : Crypto) (encryptedEmail salt : Str) (masterKey : Bytes) :
    Except Str Str :=
  match validateEncryptionKey masterKey with
  | .error err => .error (lit "invalid master key: " ++ err)
  | .ok () =>
  match hexDecode salt with
  | .error err => .error (lit "failed to decode salt: " ++ err)
  | .ok saltBytes =>
  match c.deriveKey masterKey saltBytes emailContext 32 with
  | .error err => .error (lit "failed to derive email key: " ++ err)
  | .ok emailKey =>
  match base64Decode encryptedEmail with
  | .error err => .error (lit "failed to decode base64: " ++ err)
  | .ok ciphertext =>
  if ciphertext.length < 12 then
    .error (lit "ciphertext too short: expected at least 12 bytes, got " ++ itoa ciphertext.length)
  else
  match newCipher emailKey with
  | .error err => .error (lit "failed to create AES cipher: " ++ err)
  | .ok block =>
  match c.aead.gcmOpen block (ciphertext.take 12) (ciphertext.drop 12) with
  | none => .error (lit "decryption failed - invalid ciphertext or authentication tag: " ++
      lit "cipher: message authentication failed")
  | some plaintext => .ok plaintext

/-- **Encryption round trip.** Whenever `EncryptEmailSecure(email, K)` returns a ciphertext
and a salt, `DecryptEmailSecure` of them under `K` returns `email`. -/
theorem decryptEmailSecure_encryptEmailSecure (c : Crypto) (email : Str) (masterKey : Bytes)
    (draws : Draws) (encrypted salt : Str)
    (h : encryptEmailSecure c email masterKey draws = .ok (encrypted, salt)) :
    decryptEmailSecure c encrypted salt masterKey = .ok email := by
  unfold encryptEmailSecure at h
  split at h; · cases h
  rename_i hkey
  split at h; · cases h
  rename_i saltBytes hsalt
  split at h; · cases h
  rename_i emailKey hderive
  split at h; · cases h
  rename_i nonce hnonce
  split at h; · cases h
  rename_i block hblock
  cases h
  have hlen : ¬ (nonce.val ++ c.aead.gcmSeal block nonce.val email).length < 12 := by
    simp [nonce.property]
  simp only [decryptEmailSecure, hkey, hexDecode_hexEncode, hderive, base64Decode_base64Encode,
    hlen, if_false, hblock, List.take_left' nonce.property, List.drop_left' nonce.property,
    c.aead.open_seal]

end RamUsb.Vault

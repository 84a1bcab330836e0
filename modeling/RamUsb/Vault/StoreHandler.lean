import RamUsb.Registration.Validation
import RamUsb.Vault.Crypto
import RamUsb.Vault.Postgres

/-!
# `StoreUserHandler`, the Database-Vault's registration endpoint

`StoreUserHandler` (`database-vault/handlers/store.go`) validates the request again,
checks the master key, hashes and encrypts the e-mail address, draws a password salt,
hashes the password and builds the `StoredUser` record. The storage calls that would
follow (the duplicate checks and `userStorage.StoreUser(user)`) are commented out in the
source, and the record is discarded with `_ = user`: the handler answers `201` without
touching the users table (`storeUserHandler_users`).

The Vault is modelled as its users table and its log; the handler maps a request and a
state to a response and a state. The model starts after `utils.EnforcePOST`,
`utils.ReadRequestBody` and `utils.ParseJSONBody` have accepted the request; those helpers,
like `utils.SendErrorResponse`, are not in src/, and a response is its status, its
`success` flag and its message.
-/

namespace RamUsb.Vault

open Go Registration

/-- A JSON answer `{success, message}` and its status. -/
structure Response where
  status : Nat
  success : Bool
  message : Str
  deriving DecidableEq

/-- `utils.SendErrorResponse(w, status, message)`. -/
def errorResponse (status : Nat) (message : Str) : Response := ⟨status, false, message⟩

/-- `utils.SendSuccessResponse(w, status, message)`. -/
def successResponse (status : Nat) (message : Str) : Response := ⟨status, true, message⟩

/-- What the handler's environment hands it: the crypto primitives, the configured master
key, what `rand.Read` gives `EncryptEmailSecure`, the result of `crypto.GenerateSalt()`,
`crypto.HashPassword` (Argon2id, not in src/), and the clock. -/
structure VaultEnv where
  crypto : Crypto
  encryptionKey : Bytes
  draws : Draws
  passwordSalt : Except Str Str
  hashPassword : Str → Str → Str
  now : Int
  timestamp : Str

/-- The Vault: its users table and its log. -/
structure VaultState where
  users : Table
  log : List Str

/-- The record the handler builds once the request is valid, or the error response and the
log lines of the step that failed. -/
def prepareUser (env : VaultEnv) (req : RegisterRequest) : Except (Response × List Str) StoredUser :=
  match validateEncryptionKey env.encryptionKey with
  | .error err => .error (errorResponse 500 (lit "Encryption configuration error."),
      [lit "Encryption key validation failed: " ++ err])
  | .ok () =>
  match encryptEmailSecure env.crypto req.email env.encryptionKey env.draws with
  | .error err => .error (errorResponse 500 (lit "Email encryption failed."),
      [lit "Error: Failed to encrypt email for " ++ req.email ++ lit ": " ++ err])
  | .ok (encryptedEmail, emailSalt) =>
  match env.passwordSalt with
  | .error err => .error (errorResponse 500 (lit "Password processing error."),
      [lit "Error: Failed to generate password salt: " ++ err])
  | .ok passwordSalt =>
  .ok ⟨hashEmail env.crypto req.email, encryptedEmail, emailSalt,
    env.hashPassword req.password passwordSalt, passwordSalt, req.sshPubKey, env.now, env.now⟩

/-- The log lines of an acknowledged request: the success line, the audit line, and the line
of the clean-up goroutine, which prints a second later. -/
def storedLines (env : VaultEnv) (req : RegisterRequest) (user : StoredUser) : List Str :=
  let hash16 := user.emailHash.take 16 ++ lit "..."
  [lit "User credentials successfully stored: " ++ req.email ++ lit " (hash: " ++ hash16 ++ lit ")",
   lit "Audit: User registration completed - Email: " ++ req.email ++ lit ", EmailHash: " ++
     hash16 ++ lit ", Timestamp: " ++ env.timestamp,
   lit "Memory cleanup completed after user registration"]

/-- `StoreUserHandler(w, r)` on a decoded request. -/
def storeUserHandler (v : Validators) (env : VaultEnv) (req : RegisterRequest) (s : VaultState) :
    Response × VaultState :=
  match firstRejection (storeChecks v) req with
  | some check => (errorResponse 400 check.message, s)
  | none =>
  match prepareUser env req with
  | .error (response, lines) => (response, { s with log := s.log ++ lines })
  | .ok user =>
    (successResponse 201 (lit "User credentials stored successfully!"),
      { s with log := s.log ++ storedLines env req user })

/-- The handler never writes the users table. -/
theorem storeUserHandler_users (v : Validators) (env : VaultEnv) (req : RegisterRequest)
    (s : VaultState) : (storeUserHandler v env req s).2.users = s.users := by
  unfold storeUserHandler
  split
  · rfl
  · split <;> rfl

/-- A valid request whose record gets built is answered `201`. -/
theorem storeUserHandler_created (v : Validators) (env : VaultEnv) (req : RegisterRequest)
    (s : VaultState) (hvalid : firstRejection (storeChecks v) req = none) {user : StoredUser}
    (hprep : prepareUser env req = .ok user) :
    (storeUserHandler v env req s).1 = successResponse 201 (lit "User credentials stored successfully!") := by
  simp only [storeUserHandler, hvalid, hprep]

/-- **Acknowledged is not persisted.** Every request that passes validation and gets its
record built is answered `201`, and the users table is left as it was: sent twice, the same
request is answered `201` twice, and no row for its e-mail hash appears. -/
theorem storeUserHandler_acknowledges_without_storing (v : Validators) (env : VaultEnv)
    (req : RegisterRequest) (s : VaultState) (hvalid : firstRejection (storeChecks v) req = none)
    {user : StoredUser} (hprep : prepareUser env req = .ok user) :
    let first := storeUserHandler v env req s
    let second := storeUserHandler v env req first.2
    first.1.status = 201 ∧ second.1.status = 201 ∧ second.2.users = s.users := by
  intro first second
  refine ⟨?_, ?_, ?_⟩
  · simp only [first, storeUserHandler_created v env req s hvalid hprep, successResponse]
  · simp only [second, storeUserHandler_created v env req _ hvalid hprep, successResponse]
  · simp only [second, first, storeUserHandler_users]

/-- The record's fields come from one `EncryptEmailSecure` call on the request's address. -/
theorem prepareUser_fields {env : VaultEnv} {req : RegisterRequest} {user : StoredUser}
    (h : prepareUser env req = .ok user) :
    user.emailHash = hashEmail env.crypto req.email ∧
      encryptEmailSecure env.crypto req.email env.encryptionKey env.draws =
        .ok (user.encryptedEmail, user.emailSalt) := by
  unfold prepareUser at h
  split at h; · cases h
  split at h; · cases h
  rename_i encryptedEmail emailSalt henc
  split at h; · cases h
  cases h
  exact ⟨rfl, henc⟩

/-- **The stored e-mail decrypts to the address and hashes to its index.** Under any AEAD
and any key derivation, whatever `EncryptEmailSecure(e, K)` returns decrypts to `e` under
`K`; so the record `StoreUserHandler` builds satisfies
`HashEmail(DecryptEmailSecure(EncryptedEmail, EmailSalt, K)) = EmailHash`. -/
theorem email_encryption_roundtrip (c : Crypto) :
    (∀ email masterKey draws encrypted salt,
      encryptEmailSecure c email masterKey draws = .ok (encrypted, salt) →
        decryptEmailSecure c encrypted salt masterKey = .ok email) ∧
    ∀ (env : VaultEnv) (req : RegisterRequest) (user : StoredUser), env.crypto = c →
      prepareUser env req = .ok user →
        (decryptEmailSecure c user.encryptedEmail user.emailSalt env.encryptionKey).map
          (hashEmail c) = .ok user.emailHash := by
  refine ⟨decryptEmailSecure_encryptEmailSecure c, fun env req user hc h => ?_⟩
  subst hc
  obtain ⟨hhash, henc⟩ := prepareUser_fields h
  rw [decryptEmailSecure_encryptEmailSecure env.crypto _ _ _ _ _ henc, hhash]
  rfl

/-- A cipher that leaves its plaintext as it is; it obeys the AEAD law, which is all the
model asks of AES-GCM. -/
def plainAead : Aead := ⟨fun _ _ m => m, fun _ _ c => some c, fun _ _ _ => rfl⟩

/-- Sample primitives: the plain cipher, a key derivation that returns the master key, and
a digest that keeps the first 32 bytes. -/
def sampleCrypto : Crypto := ⟨plainAead, fun masterKey _ _ _ => .ok masterKey, (·.take 32)⟩

/-- A sample environment: a master key of 32 sevens, salt and nonce bytes that read as
ones and twos, and a password salt. -/
def sampleEnv : VaultEnv :=
  ⟨sampleCrypto, List.replicate 32 7, ⟨.ok ⟨List.replicate 16 1, rfl⟩, .ok ⟨List.replicate 12 2, rfl⟩⟩,
    .ok (lit "00112233445566778899aabbccddeeff"), fun _ salt => salt, 1700000000,
    lit "2023-11-14T22:13:20Z"⟩

/-- Predicates that accept every request. -/
def acceptAll : Validators := ⟨fun _ => true, fun _ => false, fun _ => true, fun _ => true⟩

/-- The request of the spec's happy path. -/
def aliceRequest : RegisterRequest :=
  ⟨lit "alice@example.com", lit "MyStrongPass123@", lit "ssh-ed25519 AAAAC3NzaC1lZDI1NTE5AAAAICvYBsl/DgCvGh/DMo+nY6kmlyPI24+sT5OvcdsYbW6Q alice@laptop"⟩

theorem storeUserHandler_alice_twice :
    firstRejection (storeChecks acceptAll) aliceRequest = none ∧
      (storeUserHandler acceptAll sampleEnv aliceRequest ⟨[], []⟩).1.status = 201 ∧
      (storeUserHandler acceptAll sampleEnv aliceRequest
        (storeUserHandler acceptAll sampleEnv aliceRequest ⟨[], []⟩).2).1.status = 201 ∧
      (storeUserHandler acceptAll sampleEnv aliceRequest
        (storeUserHandler acceptAll sampleEnv aliceRequest ⟨[], []⟩).2).2.users = [] :=
  ⟨rfl, storeUserHandler_acknowledges_without_storing acceptAll sampleEnv aliceRequest ⟨[], []⟩ rfl rfl⟩

theorem email_encryption_roundtrip_alice :
    ∃ user, prepareUser sampleEnv aliceRequest = .ok user ∧
      (decryptEmailSecure sampleCrypto user.encryptedEmail user.emailSalt
        sampleEnv.encryptionKey).map (hashEmail sampleCrypto) = .ok user.emailHash :=
  ⟨_, rfl, (email_encryption_roundtrip sampleCrypto).2 sampleEnv aliceRequest _ rfl rfl⟩

end RamUsb.Vault

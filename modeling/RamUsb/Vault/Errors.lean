import RamUsb.Go.Str

/-!
# Storage errors of the Database-Vault

`mapPostgreSQLError` (`storage/postgresql`, shipped in the file `database-vault/go.mod`)
turns every error of the PostgreSQL driver into a `storage.StorageError`: a few SQLSTATE
codes have their own arm, and every other error is classified by the text of the error,
`err.Error()`, searched for `connection`, `timeout` and `transaction`. `isRetryableError`
then retries `ErrorDatabaseConnection` and `ErrorTransactionFailed`.

The composition is characterised exactly by `isRetryable_mapPostgreSQLError`: retryable
for the connection, lock, deadlock and serialisation codes and also for `42501`
(insufficient privilege) and `53100` (disk full), which the mapper files under
`ErrorDatabaseConnection`; never retryable for `23505`, `23514` and `23503`, whatever the
message, detail and constraint name; and for every other code decided by the error's text.
A privilege error is therefore retried, although `isRetryableError`'s comment promises no
retry on permanent failures (`insufficient_privilege_retryable`).
-/

namespace RamUsb.Vault

open Go

/-- Modelled from the spec: `storage.ErrorType` is not in src/; these are the constants the
storage code and `StoreUserHandler` name. -/
inductive ErrorType
  | userExists
  | emailHashExists
  | sshKeyExists
  | invalidUserData
  | constraintViolation
  | userNotFound
  | databaseConnection
  | transactionFailed
  | validationFailed
  | unknown
  deriving DecidableEq, Repr

/-- Modelled from the spec: `storage.StorageError` is not in src/; its fields are the four
arguments of every `storage.NewStorageError(type, operation, message, userMessage)` call,
and `StoreUserHandler` reads `Type` and `UserMessage`. No call passes the underlying error,
so a `StorageError` wraps none. -/
structure StorageError where
  type : ErrorType
  operation : Str
  message : Str
  userMessage : Str
  deriving DecidableEq

/-- The fields of a `*pgconn.PgError` that `mapPostgreSQLError` reads. -/
structure PgError where
  code : Str
  message : Str
  detail : Str
  constraintName : Str
  deriving DecidableEq

/-- What `errors.Is` and `errors.As` find in a driver error: `pgx.ErrNoRows`, a
`*pgconn.PgError`, or neither. -/
inductive DbErrorKind
  | noRows
  | pg (e : PgError)
  | other
  deriving DecidableEq

/-- A non-nil driver error: what it wraps, and its text `err.Error()`. -/
structure DbError where
  kind : DbErrorKind
  text : Str
  deriving DecidableEq

/-- The connection-exception codes of the `08xxx` arm, in the order of the source. -/
def connectionCodes : List Str :=
  [lit "08000", lit "08003", lit "08006", lit "08001", lit "08004"]

/-- The `switch pgErr.Code` of `mapPostgreSQLError`; `none` when no arm matches. -/
def mapPgCode (pgErr : PgError) (operation : Str) : Option StorageError :=
  if pgErr.code = lit "23505" then
    if contains pgErr.detail (lit "email_hash") then
      some ⟨.emailHashExists, operation, lit "Email hash already exists: " ++ pgErr.detail,
        lit "Email address already registered"⟩
    else if contains pgErr.detail (lit "ssh_public_key") ||
        contains pgErr.constraintName (lit "ssh") then
      some ⟨.sshKeyExists, operation, lit "SSH key already exists: " ++ pgErr.detail,
        lit "SSH public key already in use"⟩
    else
      some ⟨.constraintViolation, operation, lit "Unique constraint violation: " ++ pgErr.detail,
        lit "Duplicate value detected"⟩
  else if pgErr.code = lit "23514" then
    some ⟨.invalidUserData, operation, lit "Check constraint violation: " ++ pgErr.detail,
      lit "Invalid data format"⟩
  else if pgErr.code = lit "23503" then
    some ⟨.constraintViolation, operation, lit "Foreign key constraint violation: " ++ pgErr.detail,
      lit "Related data constraint error"⟩
  else if pgErr.code ∈ connectionCodes then
    some ⟨.databaseConnection, operation, lit "Database connection error: " ++ pgErr.message,
      lit "Database connection unavailable"⟩
  else if pgErr.code = lit "42501" then
    some ⟨.databaseConnection, operation, lit "Insufficient privileges: " ++ pgErr.message,
      lit "Database access denied"⟩
  else if pgErr.code = lit "53100" then
    some ⟨.databaseConnection, operation, lit "Database disk full", lit "Storage capacity exceeded"⟩
  else if pgErr.code = lit "55P03" then
    some ⟨.transactionFailed, operation, lit "Lock timeout: " ++ pgErr.message,
      lit "Database operation timeout"⟩
  else if pgErr.code = lit "40P01" then
    some ⟨.transactionFailed, operation, lit "Deadlock detected", lit "Database conflict, please retry"⟩
  else if pgErr.code = lit "40001" then
    some ⟨.transactionFailed, operation, lit "Serialization failure",
      lit "Database conflict, please retry"⟩
  else none

/-- The text tests after the switch: pool errors, transaction errors, and the fallback. -/
def mapByText (text operation : Str) : StorageError :=
  if contains text (lit "connection") || contains text (lit "timeout") then
    ⟨.databaseConnection, operation, lit "Connection pool error: " ++ text,
      lit "Database connection error"⟩
  else if contains text (lit "transaction") then
    ⟨.transactionFailed, operation, lit "Transaction error: " ++ text,
      lit "Database transaction failed"⟩
  else
    ⟨.unknown, operation, lit "Unexpected database error: " ++ text, lit "Database operation failed"⟩

/-- `mapPostgreSQLError(err, operation)`. -/
def mapPostgreSQLError : Option DbError → Str → Option StorageError
  | none, _ => none
  | some err, operation =>
    match err.kind with
    | .noRows => some ⟨.userNotFound, operation, lit "No user found in database: " ++ err.text,
        lit "User not found"⟩
    | .pg pgErr => some ((mapPgCode pgErr operation).getD (mapByText err.text operation))
    | .other => some (mapByText err.text operation)

/-- The errors `isRetryableError` is given: a `StorageError`, or a driver error. -/
inductive VaultError
  | storage (e : StorageError)
  | db (e : DbError)

/-- `isRetryableError(err)`: the storage-error switch, then the driver-code switch. A
`StorageError` wraps no `PgError`, so a storage error of another type reaches the default. -/
def isRetryableError : Option VaultError → Bool
  | none => false
  | some (.storage e) => e.type = .databaseConnection || e.type = .transactionFailed
  | some (.db e) =>
    match e.kind with
    | .pg pgErr => pgErr.code ∈ [lit "40P01", lit "40001", lit "55P03", lit "08000", lit "08003",
        lit "08006"]
    | _ => false

/-! ### Retryability of a mapped driver error -/

/-- The storage-error switch of `isRetryableError`. -/
def retryableType (t : ErrorType) : Bool := t = .databaseConnection || t = .transactionFailed

/-- The codes whose arm of `mapPostgreSQLError` yields a retryable type. -/
def retryableCodes : List Str :=
  connectionCodes ++ [lit "42501", lit "53100", lit "55P03", lit "40P01", lit "40001"]

/-- The codes whose arm yields a type that is not retried. -/
def terminalCodes : List Str := [lit "23505", lit "23514", lit "23503"]

/-- The verdict of the arm a code selects, `none` when the switch has no arm for it. -/
def codeRetryable (code : Str) : Option Bool :=
  if code ∈ retryableCodes then some true else if code ∈ terminalCodes then some false else none

/-- The verdict of the text tests that follow the switch. -/
def textRetryable (text : Str) : Bool :=
  contains text (lit "connection") || contains text (lit "timeout") ||
    contains text (lit "transaction")

theorem isRetryableError_storage (e : StorageError) :
    isRetryableError (some (.storage e)) = retryableType e.type := rfl

theorem retryableType_mapByText (text operation : Str) :
    retryableType (mapByText text operation).type = textRetryable text := by
  unfold mapByText textRetryable
  by_cases h1 : (contains text (lit "connection") || contains text (lit "timeout")) = true
  · simp [h1, retryableType]
  · by_cases h2 : contains text (lit "transaction") = true
    · simp [h1, h2, retryableType]
    · simp only [Bool.not_eq_true] at h1 h2
      simp [h1, h2, retryableType]

/-- Each arm of the code switch files its code as `codeRetryable` says, and the switch
falls through exactly for the codes it leaves unclassified. -/
theorem mapPgCode_retryable (pgErr : PgError) (operation : Str) :
    (mapPgCode pgErr operation).map (retryableType ·.type) = codeRetryable pgErr.code := by
  obtain ⟨code, message, detail, constraintName⟩ := pgErr
  unfold mapPgCode
  -- one case per arm of the switch, in the order of the source
  by_cases h1 : code = lit "23505"
  · rw [if_pos h1]; split_ifs <;> simp only [Option.map_some', h1] <;> decide
  rw [if_neg h1]
  by_cases h2 : code = lit "23514"
  · rw [if_pos h2]; simp only [Option.map_some', h2]; decide
  rw [if_neg h2]
  by_cases h3 : code = lit "23503"
  · rw [if_pos h3]; simp only [Option.map_some', h3]; decide
  rw [if_neg h3]
  by_cases h4 : code ∈ connectionCodes
  · rw [if_pos h4]; exact (if_pos (List.mem_append_left _ h4)).symm
  rw [if_neg h4]
  by_cases h5 : code = lit "42501"
  · rw [if_pos h5]; simp only [Option.map_some', h5]; decide
  rw [if_neg h5]
  by_cases h6 : code = lit "53100"
  · rw [if_pos h6]; simp only [Option.map_some', h6]; decide
  rw [if_neg h6]
  by_cases h7 : code = lit "55P03"
  · rw [if_pos h7]; simp only [Option.map_some', h7]; decide
  rw [if_neg h7]
  by_cases h8 : code = lit "40P01"
  · rw [if_pos h8]; simp only [Option.map_some', h8]; decide
  rw [if_neg h8]
  by_cases h9 : code = lit "40001"
  · rw [if_pos h9]; simp only [Option.map_some', h9]; decide
  -- no arm: the code is in neither class
  rw [if_neg h9, Option.map_none', codeRetryable, if_neg (by simp [retryableCodes, *]),
    if_neg (by simp [terminalCodes, *])]

/-- **Retryability of a driver error.** For every `PgError` and every text of the error,
`isRetryableError(mapPostgreSQLError(err, op))` is the verdict of the code's arm when it has
one (retryable for `08000`, `08001`, `08003`, `08004`, `08006`, `42501`, `53100`, `55P03`,
`40P01`, `40001`; not for `23505`, `23514`, `23503`), whatever the message, detail and
constraint name; for every other code it is whether the text mentions `connection`,
`timeout` or `transaction`. -/
theorem isRetryable_mapPostgreSQLError (pgErr : PgError) (text operation : Str) :
    isRetryableError ((mapPostgreSQLError (some ⟨.pg pgErr, text⟩) operation).map .storage) =
      (codeRetryable pgErr.code).getD (textRetryable text) := by
  rw [← mapPgCode_retryable pgErr operation]
  simp only [mapPostgreSQLError, Option.map_some', isRetryableError_storage]
  cases mapPgCode pgErr operation with
  | none => exact retryableType_mapByText text operation
  | some e => rfl

/-- A `42501` error (insufficient privilege) is filed under `ErrorDatabaseConnection` and so
is retried; a `42601` syntax error, which has no arm, is retried when its text mentions
`timeout`, a column name here. -/
theorem insufficient_privilege_retryable :
    isRetryableError ((mapPostgreSQLError
      (some ⟨.pg ⟨lit "42501", lit "permission denied for table users", [], []⟩,
        lit "ERROR: permission denied for table users (SQLSTATE 42501)"⟩)
      (lit "StoreUser.Insert")).map .storage) = true ∧
    isRetryableError ((mapPostgreSQLError
      (some ⟨.pg ⟨lit "42601", lit "syntax error at or near \"timeout\"", [], []⟩,
        lit "ERROR: syntax error at or near \"timeout\" (SQLSTATE 42601)"⟩)
      (lit "UpdateUser.Password")).map .storage) = true :=
  ⟨(isRetryable_mapPostgreSQLError _ _ _).trans (by decide),
    (isRetryable_mapPostgreSQLError _ _ _).trans (by decide)⟩

end RamUsb.Vault

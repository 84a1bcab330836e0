import RamUsb.Vault.Transaction
import Mathlib.Data.List.Nodup

/-!
# The `users` table under every storage method

Besides `StoreUser` and `UpdateUser`, `PostgreSQLStorage` (`unnamed/part_011`) has the
methods that read the table (`GetUserByEmailHash`, `EmailHashExists`, `SSHKeyExists`,
`GetUserStats`) and two that write it outside a transaction, each one statement that commits
as it runs: `DeleteUser`, a `DELETE`, and `UpdateLastAccess`, an `UPDATE` of
`last_access_at`. Both read `RowsAffected()` and return `ErrorUserNotFound` when no row had
the e-mail hash; `DeleteUser` refuses a soft delete with a plain `fmt.Errorf` error before it
touches the database. Times are Unix seconds.

A run is a sequence of calls, one after another, each meeting its own behaviour of the
driver (`Driver`: which statements fail, and the clock). The table is seen at two levels:

* the rows: `Keyed` says that no two rows share an e-mail hash or an SSH key, what the
  primary key and `idx_users_ssh_key` stand for. Every method keeps it (`Call.run_keyed`),
  and the count of rows over a run rests on it (`length_runCalls`);
* the users by e-mail hash, `view rows : Str → Option UserRow`, the row a
  `WHERE email_hash = $1` lookup selects. Each call, seen through `view`, is the map
  operation it stands for when it returns `nil`, and the identity when it returns an error
  (`Call.view_run`): `StoreUser` inserts an absent key, `DeleteUser` erases a present one,
  `UpdateLastAccess` and `UpdateUser` rewrite one entry, `applyUpdates` saying which columns.

On top of both: the round trips of `StoreUser` and `DeleteUser` through the read methods
(`reads_after_store_delete`), and the count `GetUserStats` reports, which after every run
is the number of registrations that returned `nil` less the number of deletions that did
(`getUserStats_totalUsers_run`).
-/

namespace RamUsb.Vault

open Go

/-! ### Statements and results -/

/-- `pgx.ErrNoRows`, what `Scan` returns when the query selected no row. -/
def errNoRows : DbError := ⟨.noRows, lit "no rows in result set"⟩

/-- The `error` a storage method returns: a `*storage.StorageError`, or an error of
`fmt.Errorf`, by its text. -/
inductive MethodError
  | storage (e : StorageError)
  | plain (text : Str)
  deriving DecidableEq

/-- `deleteUserQuery`. -/
def deleteUser (emailHash : Str) (rows : Users) : Users :=
  rows.filter fun r => r.user.emailHash ≠ emailHash

/-- `result.RowsAffected()` of a statement `.. WHERE email_hash = $1`. -/
def rowsAffected (emailHash : Str) (rows : Users) : Nat :=
  rows.countP fun r => r.user.emailHash = emailHash

/-- `getTotalUsersQuery`. -/
def totalUsers (rows : Users) : Int := rows.length

/-- `getActiveUsersQuery`: the rows with `last_access_at > NOW() - INTERVAL '30 days'`; a
`NULL` last access compares to nothing. -/
def activeUsers (now : Int) (rows : Users) : Int :=
  rows.countP fun r =>
    match r.lastAccessAt with
    | some t => decide (now - 2592000 < t)
    | none => false

/-- `getRegistrationsTodayQuery`: the rows with `created_at > NOW() - INTERVAL '24 hours'`. -/
def registrationsToday (now : Int) (rows : Users) : Int :=
  rows.countP fun r => now - 86400 < r.user.createdAt

/-- `getLastRegistrationQuery`: `MAX(created_at)`, `NULL` on an empty table. -/
def lastRegistration (rows : Users) : Option Int := (rows.map fun r => r.user.createdAt).max?

/-- Modelled from the spec: `storage.UserStats` is not in src/; its fields are the five that
`GetUserStats` fills, `LastRegistration` as `none` for the zero `time.Time`. -/
structure UserStats where
  totalUsers : Int
  activeUsers : Int
  registrationsToday : Int
  lastRegistration : Option Int
  storageUsageBytes : Int
  deriving DecidableEq

/-- `s.pool.QueryRow(ctx, query, ..).Scan(..)`: the driver's fault, `pgx.ErrNoRows` when the
query selected no row, or the first row it selected. -/
def Driver.queryRow {α : Type} (d : Driver) (op : Str) (selected : Option α) : Except DbError α :=
  match d.fault op with
  | some err => .error err
  | none =>
    match selected with
    | some a => .ok a
    | none => .error errNoRows

/-! ### The methods -/

namespace PostgreSQLStorage

variable (d : Driver)

/-- `GetUserByEmailHash(emailHash)`: the row found (`none` for `nil`), the error, and the
log. -/
def getUserByEmailHash (rows : Users) (emailHash : Str) :
    Option UserRow × Option StorageError × List Str :=
  match d.queryRow (lit "GetUserByEmailHash") (rows.find? fun r => r.user.emailHash = emailHash) with
  | .error err =>
    if err = errNoRows then (none, none, [])
    else (none, mapPostgreSQLError (some err) (lit "GetUserByEmailHash"), [])
  | .ok user => (some user, none, [lit "User retrieved (hash: " ++ emailHash ++ lit ")"])

/-- The existence checks: a `SELECT EXISTS(..)`, which always selects one row, and the audit
line when it is true. -/
def existsCheck (op : Str) (found : Bool) (line : Str) : Bool × Option StorageError × List Str :=
  match d.queryRow op (some found) with
  | .error err => (false, mapPostgreSQLError (some err) op, [])
  | .ok found => (found, none, if found then [line] else [])

/-- `EmailHashExists(emailHash)`. -/
def emailHashExists (rows : Users) (emailHash : Str) : Bool × Option StorageError × List Str :=
  existsCheck d (lit "EmailHashExists") (Vault.emailHashExists emailHash rows)
    (lit "Email hash existence check: found (hash: " ++ emailHash ++ lit ")")

/-- `SSHKeyExists(sshKey)`. -/
def sshKeyExists (rows : Users) (sshKey : Str) : Bool × Option StorageError × List Str :=
  existsCheck d (lit "SSHKeyExists") (Vault.sshKeyExists sshKey rows)
    (lit "SSH key existence check: key already in use")

/-- `s.pool.Exec(ctx, stmt, emailHash)` outside a transaction, committed as it runs, then the
`RowsAffected() == 0` check: the error, the committed rows after, and the log. -/
def execByHash (op : Str) (stmt : Users → Users) (emailHash line : Str) (rows : Users) :
    Option StorageError × Users × List Str :=
  match d.fault op with
  | some err => (mapPostgreSQLError (some err) op, rows, [])
  | none =>
    if rowsAffected emailHash rows = 0 then
      (some ⟨.userNotFound, op, lit "User not found: " ++ emailHash, lit "User not found"⟩,
        stmt rows, [])
    else (none, stmt rows, [line])

/-- `DeleteUser(emailHash, permanent)`. -/
def deleteUser (rows : Users) (emailHash : Str) (permanent : Bool) :
    Option MethodError × Users × List Str :=
  if !permanent then
    (some (.plain (lit "soft delete not implemented, use permanent=true")), rows, [])
  else
    let r := execByHash d (lit "DeleteUser") (Vault.deleteUser emailHash) emailHash
      (lit "User permanently deleted (hash: " ++ emailHash ++ lit ") at " ++ d.clock) rows
    (r.1.map .storage, r.2)

/-- `UpdateLastAccess(emailHash)`. -/
def updateLastAccess (rows : Users) (emailHash : Str) : Option StorageError × Users × List Str :=
  execByHash d (lit "UpdateLastAccess") (Vault.updateLastAccess d.now emailHash) emailHash
    (lit "Last access updated for user (hash: " ++ emailHash ++ lit ")") rows

/-- `GetUserStats()`, `pg_database_size(current_database())` being `databaseSize`: the
statistics (`none` for `nil`), the error, and the log. -/
def getUserStats (rows : Users) (databaseSize : Int) :
    Option UserStats × Option StorageError × List Str :=
  match d.queryRow (lit "GetUserStats.TotalUsers") (some (totalUsers rows)) with
  | .error err => (none, mapPostgreSQLError (some err) (lit "GetUserStats.TotalUsers"), [])
  | .ok total =>
  match d.queryRow (lit "GetUserStats.ActiveUsers") (some (activeUsers d.now rows)) with
  | .error err => (none, mapPostgreSQLError (some err) (lit "GetUserStats.ActiveUsers"), [])
  | .ok active =>
  match d.queryRow (lit "GetUserStats.RegistrationsToday") (some (registrationsToday d.now rows)) with
  | .error err =>
    (none, mapPostgreSQLError (some err) (lit "GetUserStats.RegistrationsToday"), [])
  | .ok today =>
  let finish : Option Int → Option UserStats × Option StorageError × List Str := fun last =>
    match d.queryRow (lit "GetUserStats.DatabaseSize") (some databaseSize) with
    | .error err => (none, mapPostgreSQLError (some err) (lit "GetUserStats.DatabaseSize"), [])
    | .ok size => (some ⟨total, active, today, last, size⟩, none,
        [lit "User statistics retrieved: total=" ++ itoa total ++ lit ", active=" ++ itoa active ++
          lit ", today=" ++ itoa today])
  -- on `pgx.ErrNoRows` the scanned time stays invalid and `LastRegistration` zero
  match d.queryRow (lit "GetUserStats.LastRegistration") (some (lastRegistration rows)) with
  | .error err =>
    if err = errNoRows then finish none
    else (none, mapPostgreSQLError (some err) (lit "GetUserStats.LastRegistration"), [])
  | .ok last => finish last

end PostgreSQLStorage

/-! ### Rows of one e-mail hash -/

/-- The rows with `f` applied to those of `emailHash`. -/
def mapAt (emailHash : Str) (f : UserRow → UserRow) (rows : Users) : Users :=
  rows.map fun r => if r.user.emailHash = emailHash then f r else r

/-- The trigger `update_users_updated_at`: `NEW.updated_at = NOW()`. -/
def stampRow (now : Int) (r : UserRow) : UserRow := { r with user := { r.user with updatedAt := now } }

/-- A row function that leaves the e-mail hash as it is. -/
def KeepsHash (f : UserRow → UserRow) : Prop := ∀ r, (f r).user.emailHash = r.user.emailHash

theorem mapAt_id (emailHash : Str) (rows : Users) : mapAt emailHash id rows = rows := by
  simp [mapAt]

theorem length_mapAt (emailHash : Str) (f : UserRow → UserRow) (rows : Users) :
    (mapAt emailHash f rows).length = rows.length := List.length_map _ _

theorem mapAt_mapAt {emailHash : Str} {f g : UserRow → UserRow} (hf : KeepsHash f) (rows : Users) :
    mapAt emailHash g (mapAt emailHash f rows) = mapAt emailHash (g ∘ f) rows := by
  simp only [mapAt, List.map_map]
  refine List.map_congr_left fun r _ => ?_
  by_cases hr : r.user.emailHash = emailHash <;> simp [hr, hf r]

/-- A statement that matches no row changes none. -/
theorem mapAt_of_rowsAffected_eq_zero {emailHash : Str} (f : UserRow → UserRow) {rows : Users}
    (h : rowsAffected emailHash rows = 0) : mapAt emailHash f rows = rows := by
  rw [rowsAffected, List.countP_eq_zero] at h
  conv_rhs => rw [← List.map_id rows]
  exact List.map_congr_left fun r hr => if_neg (by simpa using h r hr)

theorem deleteUser_of_rowsAffected_eq_zero {emailHash : Str} {rows : Users}
    (h : rowsAffected emailHash rows = 0) : deleteUser emailHash rows = rows := by
  rw [rowsAffected, List.countP_eq_zero] at h
  exact List.filter_eq_self.mpr fun r hr => by simpa using h r hr

/-! ### The key invariant -/

/-- No two rows share an e-mail hash or an SSH key: what the primary key on `email_hash` and
`idx_users_ssh_key` stand for. -/
structure Keyed (rows : Users) : Prop where
  emailHash : (rows.map fun r => r.user.emailHash).Nodup
  sshKey : (rows.map fun r => r.user.sshPubKey).Nodup

theorem insertConflict_eq_none {rows : Table} {u : StoredUser} :
    insertConflict rows u = none ↔
      u.emailHash ∉ rows.map StoredUser.emailHash ∧ u.sshPubKey ∉ rows.map StoredUser.sshPubKey := by
  unfold insertConflict
  split_ifs <;> simp_all

namespace Keyed

theorem nil : Keyed [] := ⟨List.nodup_nil, List.nodup_nil⟩

/-- An `INSERT` of a row that no index rejects. -/
theorem append_fresh {rows : Users} (h : Keyed rows) {u : StoredUser}
    (hu : insertConflict (rows.map UserRow.user) u = none) : Keyed (rows ++ [⟨u, none⟩]) := by
  obtain ⟨he, hs⟩ := insertConflict_eq_none.mp hu
  rw [List.map_map] at he hs
  constructor <;> rw [List.map_append, List.map_singleton]
  · exact h.emailHash.append (List.nodup_singleton _) (List.disjoint_singleton.mpr he)
  · exact h.sshKey.append (List.nodup_singleton _) (List.disjoint_singleton.mpr hs)

/-- A `DELETE` keeps a subset of the rows. -/
theorem filter {rows : Users} (h : Keyed rows) (p : UserRow → Bool) : Keyed (rows.filter p) :=
  ⟨List.Nodup.sublist ((List.filter_sublist rows).map _) h.emailHash,
    List.Nodup.sublist ((List.filter_sublist rows).map _) h.sshKey⟩

/-- Rewriting the rows of one e-mail hash keeps the table keyed when the e-mail hash stays
and the SSH key stays or becomes one that no row holds. -/
theorem rewriteAt {rows : Users} (h : Keyed rows) {emailHash : Str} {f : UserRow → UserRow}
    (hf : KeepsHash f)
    (hkey : ∀ r, (f r).user.sshPubKey = r.user.sshPubKey ∨
      (f r).user.sshPubKey ∉ rows.map fun r => r.user.sshPubKey) :
    Keyed (mapAt emailHash f rows) := by
  have hfresh : ∀ a b, b ∈ rows → a.user.sshPubKey ≠ b.user.sshPubKey →
      (f a).user.sshPubKey ≠ b.user.sshPubKey := fun a b hb hab => by
    rcases hkey a with ha | ha
    · rwa [ha]
    · exact fun he => ha (he ▸ List.mem_map_of_mem _ hb)
  have hpair := (List.pairwise_map.mp h.emailHash).and (List.pairwise_map.mp h.sshKey)
  constructor <;> simp only [mapAt, List.map_map]
  · refine List.pairwise_map.mpr (hpair.imp fun ⟨hab, _⟩ => ?_)
    simp only [Function.comp_apply]
    split_ifs <;> simpa [hf _] using hab
  · refine List.pairwise_map.mpr (hpair.imp_of_mem fun {a b} ha hb ⟨hab, hs⟩ => ?_)
    simp only [Function.comp_apply]
    by_cases hae : a.user.emailHash = emailHash <;> by_cases hbe : b.user.emailHash = emailHash
    · exact absurd (hae.trans hbe.symm) hab
    · simpa [hae, hbe] using hfresh a b hb hs
    · simpa [hae, hbe] using (hfresh b a ha (Ne.symm hs)).symm
    · simpa [hae, hbe] using hs

end Keyed

/-- Under the key invariant a statement `.. WHERE email_hash = $1` affects at most one row. -/
theorem rowsAffected_le_one {rows : Users} (h : Keyed rows) (emailHash : Str) :
    rowsAffected emailHash rows ≤ 1 := by
  induction rows with
  | nil => simp [rowsAffected]
  | cons r rows ih =>
    have hk := h.emailHash
    rw [List.map_cons, List.nodup_cons] at hk
    have ih := ih ⟨hk.2, (List.nodup_cons.mp (List.map_cons _ _ _ ▸ h.sshKey)).2⟩
    by_cases hr : r.user.emailHash = emailHash
    · have hnone : rowsAffected emailHash rows = 0 :=
        List.countP_eq_zero.mpr fun r' hr' he => hk.1 (by
          rw [hr, ← of_decide_eq_true he]; exact List.mem_map_of_mem _ hr')
      unfold rowsAffected at hnone ⊢
      rw [List.countP_cons, hnone]
      simp [hr]
    · simpa [rowsAffected, List.countP_cons, hr] using ih

/-! ### The users by e-mail hash -/

/-- The users of a table by e-mail hash: the row a `WHERE email_hash = $1` lookup selects. -/
def view (rows : Users) (emailHash : Str) : Option UserRow :=
  rows.find? fun r => r.user.emailHash = emailHash

theorem view_eq_some {rows : Users} {k : Str} {r : UserRow} (h : view rows k = some r) :
    r.user.emailHash = k ∧ r ∈ rows :=
  ⟨by simpa using List.find?_some h, List.mem_of_find?_eq_some h⟩

theorem view_eq_none_iff (rows : Users) (k : Str) :
    view rows k = none ↔ emailHashExists k rows = false := by
  simp [view, emailHashExists]

theorem view_append_fresh {rows : Users} {u : StoredUser}
    (hu : u.emailHash ∉ rows.map fun r => r.user.emailHash) :
    view (rows ++ [⟨u, none⟩]) = Function.update (view rows) u.emailHash (some ⟨u, none⟩) := by
  funext k
  by_cases hk : k = u.emailHash
  · subst hk
    have hnone : view rows u.emailHash = none :=
      List.find?_eq_none.mpr fun r hr he => hu (List.mem_map.mpr ⟨r, hr, of_decide_eq_true he⟩)
    simp only [view] at hnone
    simp [view, hnone]
  · rw [Function.update_noteq hk]
    simp [view, Ne.symm hk]

theorem view_deleteUser (emailHash : Str) (rows : Users) :
    view (deleteUser emailHash rows) = Function.update (view rows) emailHash none := by
  funext k
  simp only [view, deleteUser, List.find?_filter]
  by_cases hk : k = emailHash
  · subst hk
    simp
  · rw [Function.update_noteq hk]
    congr 1
    funext r
    by_cases hr : r.user.emailHash = k <;> simp [hr, hk]

theorem view_mapAt {emailHash : Str} {f : UserRow → UserRow} (hf : KeepsHash f) (rows : Users) :
    view (mapAt emailHash f rows) =
      Function.update (view rows) emailHash ((view rows emailHash).map f) := by
  funext k
  have hp : ((fun r : UserRow => decide (r.user.emailHash = k)) ∘
      fun r => if r.user.emailHash = emailHash then f r else r) =
      fun r => decide (r.user.emailHash = k) := by
    funext r
    by_cases hr : r.user.emailHash = emailHash <;> simp [hr, hf r]
  simp only [view, mapAt, List.find?_map, hp]
  rcases hfind : rows.find? (fun r => decide (r.user.emailHash = k)) with _ | r
  · by_cases hk : k = emailHash
    · subst hk; simp [hfind]
    · simp [hfind, Function.update_noteq hk, view]
  · have hr : r.user.emailHash = k := by simpa using List.find?_some hfind
    by_cases hk : k = emailHash
    · subst hk; simp [hfind, hr]
    · simp [hfind, hr, hk, Function.update_noteq hk, view]

/-! ### What `UpdateUser` writes -/

/-- The row function of `UpdateUser`'s password block: its `UPDATE`, stamped by the
trigger, when both pointers are set. -/
def passwordBlock (now : Int) (updates : UserUpdateRequest) : UserRow → UserRow :=
  match updates.newPasswordHash, updates.newPasswordSalt with
  | some passwordHash, some passwordSalt =>
    stampRow now ∘ fun r => { r with user := { r.user with passwordHash, passwordSalt } }
  | _, _ => id

/-- The row function of the SSH-key block. -/
def sshKeyBlock (now : Int) (updates : UserUpdateRequest) : UserRow → UserRow :=
  match updates.newSSHPubKey with
  | some key => stampRow now ∘ fun r => { r with user := { r.user with sshPubKey := key } }
  | none => id

/-- The row function of the e-mail block. -/
def emailBlock (now : Int) (updates : UserUpdateRequest) : UserRow → UserRow :=
  match updates.newEncryptedEmail, updates.newEmailSalt with
  | some encryptedEmail, some emailSalt =>
    stampRow now ∘ fun r => { r with user := { r.user with encryptedEmail, emailSalt } }
  | _, _ => id

/-- The row function of the last-access block. -/
def lastAccessBlock (now : Int) (updates : UserUpdateRequest) : UserRow → UserRow :=
  match updates.newLastAccessAt with
  | some _ => stampRow now ∘ fun r => { r with lastAccessAt := some now }
  | none => id

section
variable {now : Int} {updates : UserUpdateRequest}

theorem passwordBlock_of_some {passwordHash passwordSalt : Str}
    (hh : updates.newPasswordHash = some passwordHash) (hs : updates.newPasswordSalt = some passwordSalt) :
    passwordBlock now updates =
      stampRow now ∘ fun r => { r with user := { r.user with passwordHash, passwordSalt } } := by
  simp only [passwordBlock, hh, hs]

theorem passwordBlock_of_none
    (h : ∀ a b, updates.newPasswordHash = some a → updates.newPasswordSalt = some b → False) :
    passwordBlock now updates = id := by
  unfold passwordBlock
  split
  next a b hh hs => exact absurd hs (h a b hh)
  next => rfl

theorem emailBlock_of_some {encryptedEmail emailSalt : Str}
    (he : updates.newEncryptedEmail = some encryptedEmail) (hs : updates.newEmailSalt = some emailSalt) :
    emailBlock now updates =
      stampRow now ∘ fun r => { r with user := { r.user with encryptedEmail, emailSalt } } := by
  simp only [emailBlock, he, hs]

theorem emailBlock_of_none
    (h : ∀ a b, updates.newEncryptedEmail = some a → updates.newEmailSalt = some b → False) :
    emailBlock now updates = id := by
  unfold emailBlock
  split
  next a b he hs => exact absurd hs (h a b he)
  next => rfl

end

/-- What `UpdateUser` does to the row of its e-mail hash, column by column: the password
hash and salt when both are given, the SSH key when it is given, the encrypted e-mail and its
salt when both are given, `last_access_at = NOW()` when a last access is given (its value is
never read), and `updated_at = NOW()` when any of these is written. -/
def applyUpdates (now : Int) (updates : UserUpdateRequest) (r : UserRow) : UserRow :=
  let password := updates.newPasswordHash.bind fun h => updates.newPasswordSalt.map (h, ·)
  let email := updates.newEncryptedEmail.bind fun e => updates.newEmailSalt.map (e, ·)
  let writes := password.isSome || updates.newSSHPubKey.isSome || email.isSome ||
    updates.newLastAccessAt.isSome
  ⟨{ r.user with
      passwordHash := (password.map Prod.fst).getD r.user.passwordHash
      passwordSalt := (password.map Prod.snd).getD r.user.passwordSalt
      sshPubKey := updates.newSSHPubKey.getD r.user.sshPubKey
      encryptedEmail := (email.map Prod.fst).getD r.user.encryptedEmail
      emailSalt := (email.map Prod.snd).getD r.user.emailSalt
      updatedAt := if writes then now else r.user.updatedAt },
    if updates.newLastAccessAt.isSome then some now else r.lastAccessAt⟩

/-- What `UpdateLastAccess` does to the row of its e-mail hash. -/
def touchRow (now : Int) : UserRow → UserRow := stampRow now ∘ fun r => { r with lastAccessAt := some now }

/-- The blocks of `UpdateUser`, in the order of the source, write what `applyUpdates` says. -/
theorem applyUpdates_eq_blocks (now : Int) (updates : UserUpdateRequest) :
    lastAccessBlock now updates ∘ emailBlock now updates ∘ sshKeyBlock now updates ∘
      passwordBlock now updates = applyUpdates now updates := by
  obtain ⟨_ | _, _ | _, _ | _, _ | _, _ | _, _ | _⟩ := updates <;> rfl

theorem KeepsHash.comp {f g : UserRow → UserRow} (hf : KeepsHash f) (hg : KeepsHash g) :
    KeepsHash (g ∘ f) := fun r => (hg (f r)).trans (hf r)

theorem applyUpdates_keepsHash (now : Int) (updates : UserUpdateRequest) :
    KeepsHash (applyUpdates now updates) := fun _ => rfl

theorem touchRow_keepsHash (now : Int) : KeepsHash (touchRow now) := fun _ => rfl

theorem passwordBlock_keepsHash (now : Int) (updates : UserUpdateRequest) :
    KeepsHash (passwordBlock now updates) := by
  unfold passwordBlock; split <;> exact fun _ => rfl

theorem sshKeyBlock_keepsHash (now : Int) (updates : UserUpdateRequest) :
    KeepsHash (sshKeyBlock now updates) := by
  unfold sshKeyBlock; split <;> exact fun _ => rfl

theorem emailBlock_keepsHash (now : Int) (updates : UserUpdateRequest) :
    KeepsHash (emailBlock now updates) := by
  unfold emailBlock; split <;> exact fun _ => rfl

theorem passwordBlock_sshPubKey (now : Int) (updates : UserUpdateRequest) :
    ∀ r, (passwordBlock now updates r).user.sshPubKey = r.user.sshPubKey := by
  obtain ⟨_ | _, _ | _, _, _, _, _⟩ := updates <;> exact fun _ => rfl

theorem sshKeyExists_mapAt {emailHash : Str} {f : UserRow → UserRow}
    (hf : ∀ r, (f r).user.sshPubKey = r.user.sshPubKey) (key : Str) (rows : Users) :
    sshKeyExists key (mapAt emailHash f rows) = sshKeyExists key rows := by
  simp only [sshKeyExists, mapAt, List.any_map]
  congr 1
  funext r
  by_cases hr : r.user.emailHash = emailHash <;> simp [hr, hf r]

/-! ### One spec lemma per method -/

theorem insertUser_conflict {u : StoredUser} {rows rows' : Users}
    (h : insertUser u rows = .ok rows') : insertConflict (rows.map UserRow.user) u = none := by
  unfold insertUser at h
  split at h
  · cases h
  · assumption

namespace Driver

variable (d : Driver) {emailHash : Str} {updates : UserUpdateRequest} {w w' : Work}

theorem storeUserBody_aborts (u : StoredUser) (w : Work) :
    AbortsWithError (d.checkEmailHash u w >>= d.checkSSHKey u >>=
      d.exec (lit "StoreUser.Insert") (insertUser u) []) :=
  ((d.checkEmailHash_aborts u w).bind (d.checkSSHKey_aborts u)).bind (d.exec_aborts _ _ _)

theorem updateUserBody_aborts (emailHash : Str) (updates : UserUpdateRequest) (w : Work) :
    AbortsWithError (d.checkExists emailHash w >>= d.updatePasswordStep emailHash updates >>=
      d.updateSSHKeyStep emailHash updates >>= d.updateEmailStep emailHash updates >>=
      d.updateLastAccessStep emailHash updates) :=
  ((((d.checkExists_aborts _ w).bind (d.updatePasswordStep_aborts _ _)).bind
    (d.updateSSHKeyStep_aborts _ _)).bind (d.updateEmailStep_aborts _ _)).bind
    (d.updateLastAccessStep_aborts _ _)

theorem checkExists_found (h : d.checkExists emailHash w = .ok w') :
    w' = w ∧ emailHashExists emailHash w.rows = true := by
  unfold checkExists at h
  split at h
  · cases h
  · cases h
  next hq => cases h; exact ⟨rfl, (d.query_eq_ok hq).symm⟩

theorem updatePasswordStep_rows (h : d.updatePasswordStep emailHash updates w = .ok w') :
    w'.rows = mapAt emailHash (passwordBlock d.now updates) w.rows := by
  unfold updatePasswordStep at h
  split at h
  next passwordHash passwordSalt hh hs =>
    have hrows := d.exec_eq_ok h
    simp only [Except.ok.injEq] at hrows
    rw [passwordBlock_of_some hh hs, ← hrows]
    rfl
  next hnone => cases h; rw [passwordBlock_of_none hnone, mapAt_id]

theorem updateSSHKeyStep_rows (h : d.updateSSHKeyStep emailHash updates w = .ok w') :
    w'.rows = mapAt emailHash (sshKeyBlock d.now updates) w.rows ∧
      ∀ key, updates.newSSHPubKey = some key → sshKeyExists key w.rows = false := by
  unfold updateSSHKeyStep at h
  unfold sshKeyBlock
  split at h
  next hk => cases h; rw [hk]; exact ⟨(mapAt_id _ _).symm, fun _ h => by cases h⟩
  next key hk =>
    split at h
    · cases h
    · cases h
    next hq =>
      rw [hk]
      refine ⟨updateSSHKey_ok (d.exec_eq_ok h), fun key' hk' => ?_⟩
      obtain rfl : key = key' := Option.some.inj hk'
      exact (d.query_eq_ok hq).symm

theorem updateEmailStep_rows (h : d.updateEmailStep emailHash updates w = .ok w') :
    w'.rows = mapAt emailHash (emailBlock d.now updates) w.rows := by
  unfold updateEmailStep at h
  split at h
  next encryptedEmail emailSalt he hs =>
    have hrows := d.exec_eq_ok h
    simp only [Except.ok.injEq] at hrows
    rw [emailBlock_of_some he hs, ← hrows]
    rfl
  next hnone => cases h; rw [emailBlock_of_none hnone, mapAt_id]

theorem updateLastAccessStep_rows (h : d.updateLastAccessStep emailHash updates w = .ok w') :
    w'.rows = mapAt emailHash (lastAccessBlock d.now updates) w.rows := by
  unfold updateLastAccessStep at h
  unfold lastAccessBlock
  split at h
  next hl => cases h; rw [hl]; exact (mapAt_id _ _).symm
  next t hl =>
    have hrows := d.exec_eq_ok h
    simp only [Except.ok.injEq] at hrows
    rw [← hrows, hl]
    rfl

end Driver

/-- **`StoreUser` that returns `nil`** found neither key in the committed rows and has added
its row. -/
theorem storeUserTx_ok {d : Driver} {committed : Users} {u : StoredUser}
    (h : (storeUserTx d committed u).1 = none) :
    insertConflict (committed.map UserRow.user) u = none ∧
      (storeUserTx d committed u).2.1 = committed ++ [⟨u, none⟩] := by
  obtain ⟨-, hok⟩ := d.transact_outcome _ _ committed _ (d.storeUserBody_aborts u)
  obtain ⟨w, hw, hrows⟩ := hok h
  obtain ⟨w₂, h₁₂, hins⟩ := except_bind_eq_ok.mp hw
  obtain ⟨w₁, he, hs⟩ := except_bind_eq_ok.mp h₁₂
  obtain rfl := d.checkEmailHash_ok he
  obtain rfl := d.checkSSHKey_ok hs
  have hinsert := d.exec_eq_ok hins
  refine ⟨insertUser_conflict hinsert, ?_⟩
  rw [storeUserTx, hrows]
  exact insertUser_ok hinsert

/-- **`UpdateUser` that returns `nil`.** The user existed, the SSH key it sets was held by no
row, the user's own included, and the committed rows are the old ones with `applyUpdates`
done to the rows of the e-mail hash. -/
theorem updateUser_ok {d : Driver} {committed : Users} {emailHash : Str}
    {updates : UserUpdateRequest} (h : (updateUser d committed emailHash updates).1 = none) :
    emailHashExists emailHash committed = true ∧
      (∀ key, updates.newSSHPubKey = some key → sshKeyExists key committed = false) ∧
      (updateUser d committed emailHash updates).2.1 =
        mapAt emailHash (applyUpdates d.now updates) committed := by
  obtain ⟨-, hok⟩ := d.transact_outcome _ _ committed _ (d.updateUserBody_aborts emailHash updates)
  obtain ⟨w, hw, hrows⟩ := hok h
  obtain ⟨w₄, h₄, hlast⟩ := except_bind_eq_ok.mp hw
  obtain ⟨w₃, h₃, hemail⟩ := except_bind_eq_ok.mp h₄
  obtain ⟨w₂, h₂, hssh⟩ := except_bind_eq_ok.mp h₃
  obtain ⟨w₁, h₁, hpassword⟩ := except_bind_eq_ok.mp h₂
  obtain ⟨rfl, hexists⟩ := d.checkExists_found h₁
  obtain ⟨hrows₃, hfresh⟩ := d.updateSSHKeyStep_rows hssh
  have hrows₂ := d.updatePasswordStep_rows hpassword
  have hP := passwordBlock_keepsHash d.now updates
  have hSP := hP.comp (sshKeyBlock_keepsHash d.now updates)
  have hESP := hSP.comp (emailBlock_keepsHash d.now updates)
  refine ⟨hexists, fun key hk => ?_, ?_⟩
  · rw [← hfresh key hk, hrows₂, sshKeyExists_mapAt (passwordBlock_sshPubKey d.now updates)]
  · rw [updateUser, hrows, d.updateLastAccessStep_rows hlast, d.updateEmailStep_rows hemail,
      hrows₃, hrows₂, mapAt_mapAt hP, mapAt_mapAt hSP, mapAt_mapAt hESP, ← applyUpdates_eq_blocks]

theorem execByHash_spec (d : Driver) (op : Str) (stmt : Users → Users) (emailHash line : Str)
    (rows : Users) (hstmt : rowsAffected emailHash rows = 0 → stmt rows = rows) :
    ((PostgreSQLStorage.execByHash d op stmt emailHash line rows).1 = none →
        rowsAffected emailHash rows ≠ 0 ∧
          (PostgreSQLStorage.execByHash d op stmt emailHash line rows).2.1 = stmt rows) ∧
      ((PostgreSQLStorage.execByHash d op stmt emailHash line rows).1 ≠ none →
        (PostgreSQLStorage.execByHash d op stmt emailHash line rows).2.1 = rows) := by
  unfold PostgreSQLStorage.execByHash
  split
  · exact ⟨fun h => absurd h (mapPostgreSQLError_ne_none _ _), fun _ => rfl⟩
  · split
    next h0 => exact ⟨fun h => (by cases h), fun _ => hstmt h0⟩
    next h0 => exact ⟨fun _ => ⟨h0, rfl⟩, fun h => absurd rfl h⟩

/-- `DeleteUser` returns `nil` only for a permanent delete of a present e-mail hash, having
deleted its rows; an error leaves the rows as they were. -/
theorem deleteUser_spec (d : Driver) (rows : Users) (emailHash : Str) (permanent : Bool) :
    ((PostgreSQLStorage.deleteUser d rows emailHash permanent).1 = none →
        permanent = true ∧ rowsAffected emailHash rows ≠ 0 ∧
          (PostgreSQLStorage.deleteUser d rows emailHash permanent).2.1 = deleteUser emailHash rows) ∧
      ((PostgreSQLStorage.deleteUser d rows emailHash permanent).1 ≠ none →
        (PostgreSQLStorage.deleteUser d rows emailHash permanent).2.1 = rows) := by
  unfold PostgreSQLStorage.deleteUser
  cases permanent
  · exact ⟨fun h => (by cases h), fun _ => rfl⟩
  · obtain ⟨hok, herr⟩ := execByHash_spec d (lit "DeleteUser") (deleteUser emailHash) emailHash
      (lit "User permanently deleted (hash: " ++ emailHash ++ lit ") at " ++ d.clock) rows
      deleteUser_of_rowsAffected_eq_zero
    simp only [Bool.not_true, Bool.false_eq_true, if_false, Option.map_eq_none', ne_eq]
    exact ⟨fun h => ⟨trivial, hok h⟩, herr⟩

/-- `UpdateLastAccess` returns `nil` only for a present e-mail hash, having stamped its rows;
an error leaves the rows as they were. -/
theorem updateLastAccess_spec (d : Driver) (rows : Users) (emailHash : Str) :
    ((PostgreSQLStorage.updateLastAccess d rows emailHash).1 = none →
        rowsAffected emailHash rows ≠ 0 ∧
          (PostgreSQLStorage.updateLastAccess d rows emailHash).2.1 =
            mapAt emailHash (touchRow d.now) rows) ∧
      ((PostgreSQLStorage.updateLastAccess d rows emailHash).1 ≠ none →
        (PostgreSQLStorage.updateLastAccess d rows emailHash).2.1 = rows) :=
  execByHash_spec d _ (updateLastAccess d.now emailHash) emailHash _ rows
    (mapAt_of_rowsAffected_eq_zero _)

/-! ### The read methods -/

theorem view_eq_none_iff_rowsAffected (rows : Users) (k : Str) :
    view rows k = none ↔ rowsAffected k rows = 0 := by
  simp [view, rowsAffected]

theorem getUserByEmailHash_of_fault_none {d : Driver} (hd : d.fault (lit "GetUserByEmailHash") = none)
    (rows : Users) (emailHash : Str) :
    PostgreSQLStorage.getUserByEmailHash d rows emailHash =
      match view rows emailHash with
      | some r => (some r, none, [lit "User retrieved (hash: " ++ emailHash ++ lit ")"])
      | none => (none, none, []) := by
  unfold PostgreSQLStorage.getUserByEmailHash Driver.queryRow view
  rw [hd]
  cases rows.find? fun r => r.user.emailHash = emailHash <;> rfl

theorem existsCheck_of_fault_none {d : Driver} {op : Str} (hd : d.fault op = none) (found : Bool)
    (line : Str) : (PostgreSQLStorage.existsCheck d op found line).1 = found := by
  unfold PostgreSQLStorage.existsCheck Driver.queryRow
  rw [hd]

theorem Driver.queryRow_some_eq_ok {d : Driver} {op : Str} {α : Type} {a b : α}
    (h : d.queryRow op (some a) = .ok b) : b = a := by
  unfold Driver.queryRow at h
  split at h <;> cases h
  rfl

theorem not_mem_of_sshKeyExists_eq_false {key : Str} {rows : Users}
    (h : sshKeyExists key rows = false) : key ∉ rows.map fun r => r.user.sshPubKey := by
  simpa [sshKeyExists] using h

/-- `TotalUsers` is the number of rows. -/
theorem getUserStats_totalUsers {d : Driver} {rows : Users} {databaseSize : Int} {s : UserStats}
    (h : (PostgreSQLStorage.getUserStats d rows databaseSize).1 = some s) :
    s.totalUsers = rows.length := by
  change s.totalUsers = totalUsers rows
  unfold PostgreSQLStorage.getUserStats at h
  split at h
  · cases h
  next total htotal =>
    rw [← Driver.queryRow_some_eq_ok htotal]
    repeat' split at h
    all_goals cases h <;> rfl

/-! ### Calls and runs -/

/-- A call of a storage method, with its arguments. -/
inductive Call
  | storeUser (u : StoredUser)
  | updateUser (emailHash : Str) (updates : UserUpdateRequest)
  | deleteUser (emailHash : Str) (permanent : Bool)
  | updateLastAccess (emailHash : Str)
  | getUserByEmailHash (emailHash : Str)
  | emailHashExists (emailHash : Str)
  | sshKeyExists (sshKey : Str)
  | getUserStats (databaseSize : Int)

namespace Call

/-- The committed rows after the call on the driver `d`; the read methods write nothing. -/
def run (d : Driver) : Call → Users → Users
  | storeUser u, rows => (storeUserTx d rows u).2.1
  | updateUser emailHash updates, rows => (Vault.updateUser d rows emailHash updates).2.1
  | deleteUser emailHash permanent, rows =>
    (PostgreSQLStorage.deleteUser d rows emailHash permanent).2.1
  | updateLastAccess emailHash, rows => (PostgreSQLStorage.updateLastAccess d rows emailHash).2.1
  | _, rows => rows

/-- Whether the call returned a `nil` error. -/
def succeeded (d : Driver) : Call → Users → Bool
  | storeUser u, rows => (storeUserTx d rows u).1.isNone
  | updateUser emailHash updates, rows => (Vault.updateUser d rows emailHash updates).1.isNone
  | deleteUser emailHash permanent, rows =>
    (PostgreSQLStorage.deleteUser d rows emailHash permanent).1.isNone
  | updateLastAccess emailHash, rows =>
    (PostgreSQLStorage.updateLastAccess d rows emailHash).1.isNone
  | getUserByEmailHash emailHash, rows =>
    (PostgreSQLStorage.getUserByEmailHash d rows emailHash).2.1.isNone
  | emailHashExists emailHash, rows => (PostgreSQLStorage.emailHashExists d rows emailHash).2.1.isNone
  | sshKeyExists sshKey, rows => (PostgreSQLStorage.sshKeyExists d rows sshKey).2.1.isNone
  | getUserStats databaseSize, rows =>
    (PostgreSQLStorage.getUserStats d rows databaseSize).2.1.isNone

/-- What a call that returns `nil` does to the users by e-mail hash. -/
def effect (now : Int) : Call → (Str → Option UserRow) → Str → Option UserRow
  | storeUser u, σ => Function.update σ u.emailHash (some ⟨u, none⟩)
  | updateUser emailHash updates, σ =>
    Function.update σ emailHash ((σ emailHash).map (applyUpdates now updates))
  | deleteUser emailHash _, σ => Function.update σ emailHash none
  | updateLastAccess emailHash, σ => Function.update σ emailHash ((σ emailHash).map (touchRow now))
  | _, σ => σ

/-- What the users must be for a call to return `nil`: the keys of a new user are free, the
user a write names exists, and the SSH key `UpdateUser` sets is held by no user, the user's
own included. -/
def enabled : Call → (Str → Option UserRow) → Prop
  | storeUser u, σ => σ u.emailHash = none ∧ ∀ k r, σ k = some r → r.user.sshPubKey ≠ u.sshPubKey
  | updateUser emailHash updates, σ => σ emailHash ≠ none ∧
      ∀ key, updates.newSSHPubKey = some key → ∀ k r, σ k = some r → r.user.sshPubKey ≠ key
  | deleteUser emailHash permanent, σ => permanent = true ∧ σ emailHash ≠ none
  | updateLastAccess emailHash, σ => σ emailHash ≠ none
  | _, _ => True

/-- A registration. -/
def isStore : Call → Bool
  | storeUser _ => true
  | _ => false

/-- A deletion. -/
def isDelete : Call → Bool
  | deleteUser _ _ => true
  | _ => false

section
variable {d : Driver} {rows : Users}

/-- **Failed calls write nothing.** -/
theorem run_of_failed {c : Call} (h : c.succeeded d rows = false) : c.run d rows = rows := by
  cases c with
  | storeUser u => exact (storeUserTx_outcome d rows u).1 (fun he => by simp [succeeded, he] at h)
  | updateUser emailHash updates =>
    exact (updateUser_outcome d rows emailHash updates).1 (fun he => by simp [succeeded, he] at h)
  | deleteUser emailHash permanent =>
    exact (deleteUser_spec d rows emailHash permanent).2 (fun he => by simp [succeeded, he] at h)
  | updateLastAccess emailHash =>
    exact (updateLastAccess_spec d rows emailHash).2 (fun he => by simp [succeeded, he] at h)
  | _ => rfl

/-- **Step.** Every call keeps the table keyed, whatever the driver does. -/
theorem run_keyed (d : Driver) (c : Call) (h : Keyed rows) : Keyed (c.run d rows) := by
  cases hs : c.succeeded d rows
  · rw [run_of_failed hs]; exact h
  cases c with
  | storeUser u =>
    obtain ⟨hfresh, hrows⟩ := storeUserTx_ok (by simpa [succeeded] using hs)
    rw [run, hrows]
    exact h.append_fresh hfresh
  | updateUser emailHash updates =>
    obtain ⟨-, hfresh, hrows⟩ := updateUser_ok (by simpa [succeeded] using hs)
    rw [run, hrows]
    refine h.rewriteAt (applyUpdates_keepsHash _ _) fun r => ?_
    cases hk : updates.newSSHPubKey with
    | none => exact .inl (by simp [applyUpdates, hk])
    | some key => exact .inr (by simpa [applyUpdates, hk] using
        not_mem_of_sshKeyExists_eq_false (hfresh key hk))
  | deleteUser emailHash permanent =>
    obtain ⟨-, -, hrows⟩ := (deleteUser_spec d rows emailHash permanent).1
      (by simpa [succeeded] using hs)
    rw [run, hrows]
    exact h.filter _
  | updateLastAccess emailHash =>
    obtain ⟨-, hrows⟩ := (updateLastAccess_spec d rows emailHash).1 (by simpa [succeeded] using hs)
    rw [run, hrows]
    exact h.rewriteAt (touchRow_keepsHash _) fun _ => .inl rfl
  | _ => exact h

/-- **Each call is a map operation on the users.** A call that returns `nil` was enabled on
the users before it, and has done to them what `effect` says; a call that returns an error
has left the rows as they were. -/
theorem view_run (d : Driver) (c : Call) (rows : Users) :
    (c.succeeded d rows = true →
        c.enabled (view rows) ∧ view (c.run d rows) = c.effect d.now (view rows)) ∧
      (c.succeeded d rows = false → c.run d rows = rows) := by
  refine ⟨fun hs => ?_, run_of_failed⟩
  cases c with
  | storeUser u =>
    obtain ⟨hfresh, hrows⟩ := storeUserTx_ok (by simpa [succeeded] using hs)
    obtain ⟨he, hk⟩ := insertConflict_eq_none.mp hfresh
    rw [List.map_map] at he hk
    refine ⟨⟨List.find?_eq_none.mpr fun r hr hre => he ?_, fun k r hr hru => hk ?_⟩, ?_⟩
    · exact List.mem_map.mpr ⟨r, hr, of_decide_eq_true hre⟩
    · exact List.mem_map.mpr ⟨r, (view_eq_some hr).2, hru⟩
    · rw [run, hrows, view_append_fresh he]; rfl
  | updateUser emailHash updates =>
    obtain ⟨hex, hfresh, hrows⟩ := updateUser_ok (by simpa [succeeded] using hs)
    refine ⟨⟨fun hv => ?_, fun key hk k r hr => ?_⟩, ?_⟩
    · rw [(view_eq_none_iff _ _).mp hv] at hex; cases hex
    · exact fun he => not_mem_of_sshKeyExists_eq_false (hfresh key hk)
        (he ▸ List.mem_map_of_mem (fun r : UserRow => r.user.sshPubKey) (view_eq_some hr).2)
    · rw [run, hrows, view_mapAt (applyUpdates_keepsHash _ _)]; rfl
  | deleteUser emailHash permanent =>
    obtain ⟨hp, hne, hrows⟩ := (deleteUser_spec d rows emailHash permanent).1
      (by simpa [succeeded] using hs)
    refine ⟨⟨hp, fun hv => hne ((view_eq_none_iff_rowsAffected _ _).mp hv)⟩, ?_⟩
    rw [run, hrows, view_deleteUser]; rfl
  | updateLastAccess emailHash =>
    obtain ⟨hne, hrows⟩ := (updateLastAccess_spec d rows emailHash).1 (by simpa [succeeded] using hs)
    refine ⟨fun hv => hne ((view_eq_none_iff_rowsAffected _ _).mp hv), ?_⟩
    rw [run, hrows, view_mapAt (touchRow_keepsHash _)]; rfl
  | _ => exact ⟨trivial, rfl⟩

theorem length_deleteUser_add (emailHash : Str) (rows : Users) :
    (Vault.deleteUser emailHash rows).length + rowsAffected emailHash rows = rows.length := by
  induction rows with
  | nil => rfl
  | cons r rows ih =>
    by_cases hr : r.user.emailHash = emailHash <;>
      simp [Vault.deleteUser, rowsAffected, List.filter_cons, List.countP_cons, hr] at ih ⊢ <;> omega

/-- Under the key invariant a registration that returns `nil` adds one row, a deletion that
returns `nil` removes one, and every other call keeps the number of rows. -/
theorem length_run (d : Driver) (c : Call) (h : Keyed rows) :
    (c.run d rows).length + (if c.succeeded d rows then [c] else []).countP isDelete =
      rows.length + (if c.succeeded d rows then [c] else []).countP isStore := by
  cases hs : c.succeeded d rows
  · simp [run_of_failed hs]
  cases c with
  | storeUser u =>
    rw [run, (storeUserTx_ok (by simpa [succeeded] using hs)).2]
    simp [isStore, isDelete]
  | updateUser emailHash updates =>
    rw [run, (updateUser_ok (by simpa [succeeded] using hs)).2.2, length_mapAt]
    simp [isStore, isDelete]
  | deleteUser emailHash permanent =>
    obtain ⟨-, hne, hrows⟩ := (deleteUser_spec d rows emailHash permanent).1
      (by simpa [succeeded] using hs)
    have hone := rowsAffected_le_one h emailHash
    have hlen := length_deleteUser_add emailHash rows
    rw [run, hrows]
    simp [isStore, isDelete]
    omega
  | updateLastAccess emailHash =>
    rw [run, ((updateLastAccess_spec d rows emailHash).1 (by simpa [succeeded] using hs)).2,
      length_mapAt]
    simp [isStore, isDelete]
  | _ => simp [run, isStore, isDelete]

end

end Call

/-- The committed rows after a run of calls, each on the driver behaviour it met. -/
def runCalls : Users → List (Driver × Call) → Users
  | rows, [] => rows
  | rows, (d, c) :: calls => runCalls (c.run d rows) calls

/-- The calls of a run that returned `nil`, in order. -/
def succeededCalls : Users → List (Driver × Call) → List Call
  | _, [] => []
  | rows, (d, c) :: calls =>
    (if c.succeeded d rows then [c] else []) ++ succeededCalls (c.run d rows) calls

/-- Over a run from a keyed table, the rows gained are the registrations that returned `nil`
less the deletions that did. -/
theorem length_runCalls {rows : Users} (h : Keyed rows) (calls : List (Driver × Call)) :
    (runCalls rows calls).length + (succeededCalls rows calls).countP Call.isDelete =
      rows.length + (succeededCalls rows calls).countP Call.isStore := by
  induction calls generalizing rows with
  | nil => rfl
  | cons dc calls ih =>
    obtain ⟨d, c⟩ := dc
    have hstep := c.length_run d h
    have hrest := ih (c.run_keyed d h)
    simp only [runCalls, succeededCalls, List.countP_append] at hrest ⊢
    omega

/-- **`GetUserStats` counts the registrations.** After every run of storage calls from an
empty table, a `GetUserStats` that returns statistics reports as `TotalUsers` the number of
`StoreUser` calls that returned `nil` less the number of `DeleteUser` calls that did. -/
theorem getUserStats_totalUsers_run (calls : List (Driver × Call)) (d : Driver)
    (databaseSize : Int) {s : UserStats}
    (h : (PostgreSQLStorage.getUserStats d (runCalls [] calls) databaseSize).1 = some s) :
    s.totalUsers = ((succeededCalls [] calls).countP Call.isStore : Int) -
      (succeededCalls [] calls).countP Call.isDelete := by
  have hlen := length_runCalls Keyed.nil calls
  rw [getUserStats_totalUsers h]
  simp only [List.length_nil, Nat.zero_add] at hlen
  omega

/-- A driver under which every statement runs. -/
def quietDriver : Driver := ⟨fun _ => none, 0, lit "2025-06-01T12:00:00Z"⟩

/-- Alice registers; Bob's registration, with Alice's SSH key, is refused; the deletion of
Bob finds no row. -/
def aliceBobRun : List (Driver × Call) :=
  [(quietDriver, .storeUser aliceRow), (quietDriver, .storeUser bobRow),
    (quietDriver, .deleteUser bobRow.emailHash true)]

theorem getUserStats_totalUsers_alice_bob :
    (PostgreSQLStorage.getUserStats quietDriver (runCalls [] aliceBobRun) 0).1 =
        some ⟨1, 0, 1, some 0, 0⟩ ∧
      (⟨1, 0, 1, some 0, 0⟩ : UserStats).totalUsers =
        ((succeededCalls [] aliceBobRun).countP Call.isStore : Int) -
          (succeededCalls [] aliceBobRun).countP Call.isDelete :=
  have hs : (PostgreSQLStorage.getUserStats quietDriver (runCalls [] aliceBobRun) 0).1 =
      some ⟨1, 0, 1, some 0, 0⟩ := by decide
  ⟨hs, getUserStats_totalUsers_run aliceBobRun quietDriver 0 hs⟩

/-- **Round trips through the read methods.** After a `StoreUser(u)` that returns `nil`,
`GetUserByEmailHash(u.EmailHash)` returns `u`, with no last access, and the two existence
checks find its keys; after a `DeleteUser(emailHash, true)` that returns `nil`,
`GetUserByEmailHash(emailHash)` returns `(nil, nil)` and `EmailHashExists` does not find it.
This holds from every table and for every driver behaviour, as long as the read itself meets
no fault. -/
theorem reads_after_store_delete (d d' : Driver) (rows : Users) (u : StoredUser) (emailHash : Str)
    (hget : d'.fault (lit "GetUserByEmailHash") = none)
    (hemail : d'.fault (lit "EmailHashExists") = none) (hssh : d'.fault (lit "SSHKeyExists") = none) :
    ((storeUserTx d rows u).1 = none →
        PostgreSQLStorage.getUserByEmailHash d' (storeUserTx d rows u).2.1 u.emailHash =
          (some ⟨u, none⟩, none, [lit "User retrieved (hash: " ++ u.emailHash ++ lit ")"]) ∧
        (PostgreSQLStorage.emailHashExists d' (storeUserTx d rows u).2.1 u.emailHash).1 = true ∧
        (PostgreSQLStorage.sshKeyExists d' (storeUserTx d rows u).2.1 u.sshPubKey).1 = true) ∧
      ((PostgreSQLStorage.deleteUser d rows emailHash true).1 = none →
        PostgreSQLStorage.getUserByEmailHash d' (PostgreSQLStorage.deleteUser d rows emailHash true).2.1
          emailHash = (none, none, []) ∧
        (PostgreSQLStorage.emailHashExists d' (PostgreSQLStorage.deleteUser d rows emailHash true).2.1
          emailHash).1 = false) := by
  refine ⟨fun hs => ?_, fun hs => ?_⟩
  · obtain ⟨hfresh, hrows⟩ := storeUserTx_ok hs
    have hview : view (storeUserTx d rows u).2.1 u.emailHash = some ⟨u, none⟩ := by
      rw [hrows, view_append_fresh (by simpa using (insertConflict_eq_none.mp hfresh).1),
        Function.update_same]
    refine ⟨by rw [getUserByEmailHash_of_fault_none hget, hview], ?_, ?_⟩
    · rw [PostgreSQLStorage.emailHashExists, existsCheck_of_fault_none hemail]
      simp [hrows, emailHashExists]
    · rw [PostgreSQLStorage.sshKeyExists, existsCheck_of_fault_none hssh]
      simp [hrows, sshKeyExists]
  · obtain ⟨-, -, hrows⟩ := (deleteUser_spec d rows emailHash true).1 hs
    have hview : view (PostgreSQLStorage.deleteUser d rows emailHash true).2.1 emailHash = none := by
      rw [hrows, view_deleteUser, Function.update_same]
    refine ⟨by rw [getUserByEmailHash_of_fault_none hget, hview], ?_⟩
    rw [PostgreSQLStorage.emailHashExists, existsCheck_of_fault_none hemail]
    exact (view_eq_none_iff _ _).mp hview

/-- Carol's row: her own e-mail hash and Ed25519 key, Alice's other columns. -/
def carolRow : StoredUser :=
  { aliceRow with
    emailHash := lit "e0d47ca1bc1eb62e650fc1fd660a9bfbf7cba8dc6337d81df7ea9aa9071a24a5"
    sshPubKey := lit "ssh-ed25519 AAAAC3NzaC1lZDI1NTE5AAAAIEwm2QdMJ9ie3lknDArBS3HgcbFSOVGfdUdLLzumNIH1 carol@desk" }

/-- Alice's row alone, never accessed. -/
def aliceTable : Users := [⟨aliceRow, none⟩]

/-- Carol registers beside Alice, and Alice's row is deleted. -/
theorem reads_after_store_delete_alice :
    quietDriver.fault (lit "GetUserByEmailHash") = none ∧
      quietDriver.fault (lit "EmailHashExists") = none ∧
      quietDriver.fault (lit "SSHKeyExists") = none ∧
      (storeUserTx quietDriver aliceTable carolRow).1 = none ∧
      PostgreSQLStorage.getUserByEmailHash quietDriver
          (storeUserTx quietDriver aliceTable carolRow).2.1 carolRow.emailHash =
        (some ⟨carolRow, none⟩, none,
          [lit "User retrieved (hash: " ++ carolRow.emailHash ++ lit ")"]) ∧
      (PostgreSQLStorage.emailHashExists quietDriver
        (storeUserTx quietDriver aliceTable carolRow).2.1 carolRow.emailHash).1 = true ∧
      (PostgreSQLStorage.sshKeyExists quietDriver
        (storeUserTx quietDriver aliceTable carolRow).2.1 carolRow.sshPubKey).1 = true ∧
      (PostgreSQLStorage.deleteUser quietDriver aliceTable aliceRow.emailHash true).1 = none ∧
      PostgreSQLStorage.getUserByEmailHash quietDriver
          (PostgreSQLStorage.deleteUser quietDriver aliceTable aliceRow.emailHash true).2.1
          aliceRow.emailHash = (none, none, []) ∧
      (PostgreSQLStorage.emailHashExists quietDriver
        (PostgreSQLStorage.deleteUser quietDriver aliceTable aliceRow.emailHash true).2.1
        aliceRow.emailHash).1 = false :=
  have hstore : (storeUserTx quietDriver aliceTable carolRow).1 = none := by decide
  have hdelete :
      (PostgreSQLStorage.deleteUser quietDriver aliceTable aliceRow.emailHash true).1 = none := by
    decide
  have h := reads_after_store_delete quietDriver quietDriver aliceTable carolRow aliceRow.emailHash
    rfl rfl rfl
  ⟨rfl, rfl, rfl, hstore, (h.1 hstore).1, (h.1 hstore).2.1, (h.1 hstore).2.2, hdelete,
    (h.2 hdelete).1, (h.2 hdelete).2⟩

end RamUsb.Vault

import AuthLifecycle.Store.Prog
/-!
# Repository — the store adapters (`repository/*.go`, `service/token_blacklist.go`)

Each adapter method is one statement or command, wrapped as the Go code wraps
its errors: `sql.ErrNoRows` becomes the `ErrNotFound` sentinel behind a
`fmt.Errorf(... %w)`, a unique violation (SQLSTATE 23505) becomes
`ErrDuplicateEmail` or `ErrDuplicateToken` behind one, and every other store
error is wrapped with the operation's name. `Create` draws the row's UUID and
reads the clock for its stamps before the insert, as the Go code does.

The `RowsAffected` error paths are absent: `lib/pq` always reports rows affected.
-/

namespace AuthLifecycle.Repository

open AuthLifecycle.Go AuthLifecycle.Utils AuthLifecycle.Store

set_option autoImplicit false

/-- A store error as the Go `error` the client returns. -/
def toGo (e : StoreError) : GoError := .driver e.text

/-- SQLSTATE 23505, `unique_violation`. -/
def isUniqueViolation : StoreError → Bool
  | .pq code _ => code == "23505"
  | .driver _ => false

namespace UserRepository

/-- `userRepository.Create`: fills a missing id and zero stamps, then inserts;
returns the row as inserted (the Go code updates `*user` in place). -/
def create (user : User) : Prog (Except GoError User) := do
  let user ← if user.id = "" then (do let id ← uuidNew; pure { user with id }) else pure user
  let now ← timeNow
  let user := if isZero user.createdAt then { user with createdAt := now } else user
  let user := if isZero user.updatedAt then { user with updatedAt := now } else user
  match ← storeCall (.sql (.insertUser user)) with
  | .ok () => pure (.ok user)
  | .error e =>
    if isUniqueViolation e then
      pure (.error (.wrap ("user with email " ++ user.email ++ " already exists: ") (.sentinel .duplicateEmail)))
    else pure (.error (.wrap "failed to create user: " (toGo e)))

/-- `userRepository.GetByEmail`. -/
def getByEmail (email : String) : Prog (Except GoError User) := do
  match ← storeCall (.sql (.selectUserByEmail email)) with
  | .ok (some user) => pure (.ok user)
  | .ok none => pure (.error (.wrap ("user with email " ++ email ++ " not found: ") (.sentinel .notFound)))
  | .error e => pure (.error (.wrap "failed to get user by email: " (toGo e)))

/-- `userRepository.GetByID`. -/
def getByID (id : String) : Prog (Except GoError User) := do
  match ← storeCall (.sql (.selectUserById id)) with
  | .ok (some user) => pure (.ok user)
  | .ok none => pure (.error (.wrap ("user with id " ++ id ++ " not found: ") (.sentinel .notFound)))
  | .error e => pure (.error (.wrap "failed to get user by id: " (toGo e)))

/-- `userRepository.UpdateLastLogin`. -/
def updateLastLogin (userID : String) : Prog (Except GoError Unit) := do
  let now ← timeNow
  match ← storeCall (.sql (.updateLastLogin now userID)) with
  | .ok 0 => pure (.error (.wrap ("user with id " ++ userID ++ " not found: ") (.sentinel .notFound)))
  | .ok _ => pure (.ok ())
  | .error e => pure (.error (.wrap "failed to update last login: " (toGo e)))

end UserRepository

namespace TokenRepository

/-- `tokenRepository.Create`: fills a missing id and a zero creation stamp, then inserts. -/
def create (token : RefreshToken) : Prog (Except GoError Unit) := do
  let token ← if token.id = "" then (do let id ← uuidNew; pure { token with id }) else pure token
  let now ← timeNow
  let token := if isZero token.createdAt then { token with createdAt := now } else token
  match ← storeCall (.sql (.insertRefreshToken token)) with
  | .ok () => pure (.ok ())
  | .error e =>
    if isUniqueViolation e then
      pure (.error (.wrap "token with hash already exists: " (.sentinel .duplicateToken)))
    else pure (.error (.wrap "failed to create token: " (toGo e)))

/-- `tokenRepository.GetByTokenHash`. -/
def getByTokenHash (tokenHash : Digest) : Prog (Except GoError RefreshToken) := do
  match ← storeCall (.sql (.selectRefreshTokenByHash tokenHash)) with
  | .ok (some token) => pure (.ok token)
  | .ok none => pure (.error (.wrap "token with hash not found: " (.sentinel .notFound)))
  | .error e => pure (.error (.wrap "failed to get token by hash: " (toGo e)))

/-- `tokenRepository.DeleteByTokenHash`. -/
def deleteByTokenHash (tokenHash : Digest) : Prog (Except GoError Unit) := do
  match ← storeCall (.sql (.deleteRefreshTokenByHash tokenHash)) with
  | .ok 0 => pure (.error (.wrap "token with hash not found: " (.sentinel .notFound)))
  | .ok _ => pure (.ok ())
  | .error e => pure (.error (.wrap "failed to delete token by hash: " (toGo e)))

end TokenRepository

namespace TokenBlacklistService

/-- `TokenBlacklistService.AddToken`: `SET blacklist:token:<token> 1` with the given lifetime. -/
def addToken (token : TokenString) (expiry : Duration) : Prog (Except GoError Unit) := do
  match ← storeCall (.redis (.set token expiry.ns)) with
  | .ok () => pure (.ok ())
  | .error e => pure (.error (.wrap "failed to add token to blacklist: " (toGo e)))

/-- `TokenBlacklistService.IsTokenBlacklisted`: `EXISTS blacklist:token:<token>`. -/
def isTokenBlacklisted (token : TokenString) : Prog (Except GoError Bool) := do
  match ← storeCall (.redis (.existsKey token)) with
  | .ok n => pure (.ok (decide (0 < n)))
  | .error e => pure (.error (.wrap "failed to check token blacklist: " (toGo e)))

end TokenBlacklistService

/-! ## Spec lemmas

One inversion lemma per method for runs in which store commands may fail, and
one evaluation lemma for runs in which they all succeed. Callers cite these and
never unfold the method. -/

section Spec

variable {w w' : World}

/-- Every error an adapter returns is a wrap; none is a bare sentinel. -/
def IsWrap {α : Type} : Except GoError α → Prop
  | .error e => ∃ context inner, e = .wrap context inner
  | .ok _ => True

theorem IsWrap.ne_sentinel {α : Type} {r : Except GoError α} (h : IsWrap r) {e : GoError}
    (he : r = .error e) (s : Sentinel) : e ≠ .sentinel s := by
  subst he; obtain ⟨c, i, rfl⟩ := h; exact GoError.wrap_ne_sentinel c i s

theorem UserRepository.getByEmail_runs {email : String} {r : Except GoError User}
    (h : (getByEmail email).Runs w w' r) :
    w = w' ∧ IsWrap r ∧ ∀ u, r = .ok u → w.users.find? (·.email == email) = some u := by
  simp only [getByEmail, Prog.bind_eq, storeCall_bind_runs, StoreCmd.exec, SqlCmd.exec] at h
  rcases h with h | ⟨e, h⟩
  · cases hf : w.users.find? (·.email == email) <;> simp only [hf, Prog.runs_pure] at h <;>
      obtain ⟨rfl, rfl⟩ := h <;> simp [IsWrap]
  · obtain ⟨rfl, rfl⟩ := h; simp [IsWrap]

@[simp] theorem UserRepository.getByEmail_run (email : String) :
    (getByEmail email).run w = (w, match w.users.find? (·.email == email) with
      | some u => .ok u
      | none => .error (.wrap ("user with email " ++ email ++ " not found: ") (.sentinel .notFound))) := by
  simp only [getByEmail, Prog.bind_eq, storeCall_bind_run, StoreCmd.exec, SqlCmd.exec]
  cases w.users.find? (·.email == email) <;> rfl

theorem UserRepository.getByID_runs {id : String} {r : Except GoError User}
    (h : (getByID id).Runs w w' r) :
    w = w' ∧ IsWrap r ∧ ∀ u, r = .ok u → w.users.find? (·.id == id) = some u := by
  simp only [getByID, Prog.bind_eq, storeCall_bind_runs, StoreCmd.exec, SqlCmd.exec] at h
  rcases h with h | ⟨e, h⟩
  · cases hf : w.users.find? (·.id == id) <;> simp only [hf, Prog.runs_pure] at h <;>
      obtain ⟨rfl, rfl⟩ := h <;> simp [IsWrap]
  · obtain ⟨rfl, rfl⟩ := h; simp [IsWrap]

@[simp] theorem UserRepository.getByID_run (id : String) :
    (getByID id).run w = (w, match w.users.find? (·.id == id) with
      | some u => .ok u
      | none => .error (.wrap ("user with id " ++ id ++ " not found: ") (.sentinel .notFound))) := by
  simp only [getByID, Prog.bind_eq, storeCall_bind_run, StoreCmd.exec, SqlCmd.exec]
  cases w.users.find? (·.id == id) <;> rfl

theorem UserRepository.updateLastLogin_runs {id : String} {r : Except GoError Unit}
    (h : (updateLastLogin id).Runs w w' r) : w' = w ∨ w' = w.stampLastLogin id w.clock := by
  simp only [updateLastLogin, Prog.bind_eq, timeNow_bind_runs, storeCall_bind_runs, StoreCmd.exec,
    SqlCmd.exec] at h
  rcases h with h | ⟨e, h⟩
  · split at h <;> exact .inr h.1.symm
  · exact .inl h.1.symm

theorem UserRepository.updateLastLogin_run (id : String) :
    ((updateLastLogin id).run w).1 = w.stampLastLogin id w.clock := by
  simp only [updateLastLogin, Prog.bind_eq, timeNow_bind_run, storeCall_bind_run, StoreCmd.exec,
    SqlCmd.exec]
  cases w.users.countP (·.id == id) <;> rfl

/-- The row `TokenRepository.create` inserts for a `token` with no id and a zero
creation stamp: the id is the next UUID of `w` and the stamp is `w.clock`. -/
def TokenRepository.stamped (token : RefreshToken) (w : World) : RefreshToken :=
  { token with id := uuidString w.uuidSeed, createdAt := w.clock }

theorem TokenRepository.create_runs {token : RefreshToken} {r : Except GoError Unit}
    (hid : token.id = "") (hz : token.createdAt = zeroTime) (h : (create token).Runs w w' r) :
    (r = .ok () ∧ w.tokenInsertError (stamped token w) = none ∧
      w' = { w with
        uuidSeed := w.uuidSeed + 1
        refreshTokens := w.refreshTokens ++ [stamped token w] }) ∨
    ((∃ e, r = .error e) ∧ w' = { w with uuidSeed := w.uuidSeed + 1 }) := by
  simp only [create, hid, hz, Prog.bind_eq, Prog.bind_assoc, Prog.pure_bind, Prog.pure_eq, ↓reduceIte,
    isZero_zeroTime, uuidNew_bind_runs, timeNow_bind_runs, storeCall_bind_runs, StoreCmd.exec,
    SqlCmd.exec, World.tokenInsertError_uuidSeed] at h
  rcases h with h | ⟨e, h⟩
  · cases he : w.tokenInsertError (stamped token w) <;> simp only [stamped] at he <;>
      simp only [he, Prog.runs_pure] at h
    · exact .inl ⟨h.2.symm, rfl, h.1.symm⟩
    · split at h <;> exact .inr ⟨⟨_, h.2.symm⟩, h.1.symm⟩
  · split at h <;> exact .inr ⟨⟨_, h.2.symm⟩, h.1.symm⟩

theorem TokenRepository.create_run {token : RefreshToken} (hid : token.id = "")
    (hz : token.createdAt = zeroTime) (he : w.tokenInsertError (stamped token w) = none) :
    (create token).run w =
      ({ w with
        uuidSeed := w.uuidSeed + 1
        refreshTokens := w.refreshTokens ++ [stamped token w] }, .ok ()) := by
  simp only [stamped] at he
  simp only [create, hid, hz, Prog.bind_eq, Prog.bind_assoc, Prog.pure_bind, Prog.pure_eq, ↓reduceIte,
    isZero_zeroTime, uuidNew_bind_run, timeNow_bind_run, storeCall_bind_run, StoreCmd.exec,
    SqlCmd.exec, World.tokenInsertError_uuidSeed, he]
  rfl

theorem TokenRepository.getByTokenHash_runs {h : Digest} {r : Except GoError RefreshToken}
    (hr : (getByTokenHash h).Runs w w' r) :
    w = w' ∧ IsWrap r ∧ ∀ t, r = .ok t → w.refreshTokens.find? (·.tokenHash == h) = some t := by
  simp only [getByTokenHash, Prog.bind_eq, storeCall_bind_runs, StoreCmd.exec, SqlCmd.exec] at hr
  rcases hr with hr | ⟨e, hr⟩
  · cases hf : w.refreshTokens.find? (·.tokenHash == h) <;> simp only [hf, Prog.runs_pure] at hr <;>
      obtain ⟨rfl, rfl⟩ := hr <;> simp [IsWrap]
  · obtain ⟨rfl, rfl⟩ := hr; simp [IsWrap]

@[simp] theorem TokenRepository.getByTokenHash_run (h : Digest) :
    (getByTokenHash h).run w = (w, match w.refreshTokens.find? (·.tokenHash == h) with
      | some t => .ok t
      | none => .error (.wrap "token with hash not found: " (.sentinel .notFound))) := by
  simp only [getByTokenHash, Prog.bind_eq, storeCall_bind_run, StoreCmd.exec, SqlCmd.exec]
  cases w.refreshTokens.find? (·.tokenHash == h) <;> rfl

theorem TokenRepository.deleteByTokenHash_runs {h : Digest} {r : Except GoError Unit}
    (hr : (deleteByTokenHash h).Runs w w' r) : w' = w ∨ w' = w.deleteTokens h := by
  simp only [deleteByTokenHash, Prog.bind_eq, storeCall_bind_runs, StoreCmd.exec, SqlCmd.exec] at hr
  rcases hr with hr | ⟨e, hr⟩
  · split at hr <;> exact .inr hr.1.symm
  · exact .inl hr.1.symm

theorem TokenRepository.deleteByTokenHash_run (h : Digest) :
    ((deleteByTokenHash h).run w).1 = w.deleteTokens h := by
  simp only [deleteByTokenHash, Prog.bind_eq, storeCall_bind_run, StoreCmd.exec, SqlCmd.exec]
  cases w.refreshTokens.countP (·.tokenHash == h) <;> rfl

theorem TokenBlacklistService.isTokenBlacklisted_runs {t : TokenString} {r : Except GoError Bool}
    (h : (isTokenBlacklisted t).Runs w w' r) :
    w = w' ∧ IsWrap r ∧ ∀ b, r = .ok b → b = w.blacklisted t := by
  simp only [isTokenBlacklisted, Prog.bind_eq, storeCall_bind_runs, StoreCmd.exec, RedisCmd.exec] at h
  rcases h with ⟨rfl, rfl⟩ | ⟨e, rfl, rfl⟩
  · refine ⟨rfl, trivial, ?_⟩
    rintro b ⟨⟩
    cases w.blacklisted t <;> rfl
  · simp [IsWrap]

@[simp] theorem TokenBlacklistService.isTokenBlacklisted_run (t : TokenString) :
    (isTokenBlacklisted t).run w = (w, .ok (w.blacklisted t)) := by
  simp only [isTokenBlacklisted, Prog.bind_eq, storeCall_bind_run, StoreCmd.exec, RedisCmd.exec]
  cases w.blacklisted t <;> rfl

theorem TokenBlacklistService.addToken_runs {t : TokenString} {d : Duration} {r : Except GoError Unit}
    (h : (addToken t d).Runs w w' r) : w' = w ∨ w' = w.setBlacklist t d.ns := by
  simp only [addToken, Prog.bind_eq, storeCall_bind_runs, StoreCmd.exec, RedisCmd.exec] at h
  rcases h with h | ⟨e, h⟩
  · exact .inr h.1.symm
  · exact .inl h.1.symm

theorem TokenBlacklistService.addToken_run (t : TokenString) (d : Duration) :
    ((addToken t d).run w).1 = w.setBlacklist t d.ns := rfl

/-! The runs in which a best-effort write is refused by the store. -/

theorem TokenBlacklistService.addToken_runs_refused (t : TokenString) (d : Duration) (e : String) :
    (addToken t d).Runs w w (.error (.wrap "failed to add token to blacklist: " (.driver e))) :=
  (storeCall_bind_runs _ _).2 (.inr ⟨e, rfl, rfl⟩)

theorem TokenRepository.deleteByTokenHash_runs_refused (h : Digest) (e : String) :
    (deleteByTokenHash h).Runs w w (.error (.wrap "failed to delete token by hash: " (.driver e))) :=
  (storeCall_bind_runs _ _).2 (.inr ⟨e, rfl, rfl⟩)

theorem TokenRepository.create_runs_refused {token : RefreshToken} (hid : token.id = "")
    (hz : token.createdAt = zeroTime) (e : String) :
    (create token).Runs w { w with uuidSeed := w.uuidSeed + 1 }
      (.error (.wrap "failed to create token: " (.driver e))) := by
  simp only [create, hid, hz, Prog.bind_eq, Prog.bind_assoc, Prog.pure_bind, Prog.pure_eq, ↓reduceIte,
    isZero_zeroTime, uuidNew_bind_runs, timeNow_bind_runs, storeCall_bind_runs]
  exact .inr ⟨e, rfl, rfl⟩

end Spec

end AuthLifecycle.Repository

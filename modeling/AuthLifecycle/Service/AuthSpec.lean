import AuthLifecycle.Config
/-!
# Service.AuthSpec — what each operation can do to the stores

One inversion lemma per operation, for runs in which any store command may
fail: it lists every change the operation can make, guards included, so that
the invariants of `Engine` are short case analyses. For the issuing helper and
the operations the fault-free evaluation is given as well.

* `generate_runs`: issuing draws two UUIDs (the refresh token's `jti`, then the
  row's id) and either inserts exactly `issuedRow` and returns `issued`, or
  inserts nothing and fails.
* `register_runs`: `register` never changes the world and always fails — its
  existence check compares the wrapped not-found error with `==`.
* `login_runs`, `refreshToken_runs`, `logout_runs`: the writes happen only
  after every check has passed, in the order of the Go code.
-/

namespace AuthLifecycle.Service.AuthService

open AuthLifecycle.Go AuthLifecycle.Utils AuthLifecycle.Store AuthLifecycle.Repository

set_option autoImplicit false

variable (s : AuthService)

/-! ## Issuing a pair -/

/-- The refresh token the service signs for `userID` at clock `c`, with the
`k`-th UUID as its `jti` (both clock readings of `GenerateRefreshToken` are `c`). -/
def tokenFor (userID : String) (c k : Nat) : TokenString :=
  s.jwtManager.refreshTokenAt userID c c (uuidString k)

/-- The row persisting `tokenFor userID c k`; its id is the UUID drawn next. -/
def rowFor (userID : String) (c k : Nat) : RefreshToken :=
  { id := uuidString (k + 1), userID, tokenHash := hashToken (s.tokenFor userID c k),
    expiresAt := c + s.refreshTokenExpiry.ns, createdAt := c, deviceInfo := none, ipAddress := none }

/-- The refresh token issued to `user` from world `w`. -/
def issuedRefresh (user : User) (w : World) : TokenString := s.tokenFor user.id w.clock w.uuidSeed

/-- The access token issued to `user` from world `w`. -/
def issuedAccess (user : User) (w : World) : TokenString :=
  s.jwtManager.accessTokenAt user.id user.email w.clock w.clock

/-- The row persisting the refresh token issued to `user` from `w`. -/
def issuedRow (user : User) (w : World) : RefreshToken := s.rowFor user.id w.clock w.uuidSeed

/-- The response issuing to `user` from `w` returns. -/
def issued (user : User) (w : World) : AuthResponseWithRefreshToken :=
  { authResponse :=
      { accessToken := s.issuedAccess user w, tokenType := "Bearer",
        expiresIn := s.jwtManager.getAccessTokenExpiry, user := { id := user.id, email := user.email } }
    refreshToken := s.issuedRefresh user w
    expiresIn := s.refreshTokenExpiry.ns.tdiv (10 ^ 9) }

/-- The world after issuing drew its two UUIDs. -/
def drawTwo (w : World) : World := { w with uuidSeed := w.uuidSeed + 2 }

/-- The insert of `issuedRow` meets the table's constraints. -/
def Insertable (user : User) (w : World) : Prop :=
  w.tokenInsertError (s.issuedRow user w) = none

/-- The world after issuing inserted its row. -/
def afterIssue (user : User) (w : World) : World :=
  { drawTwo w with refreshTokens := w.refreshTokens ++ [s.issuedRow user w] }

@[simp] theorem drawTwo_users (w : World) : (drawTwo w).users = w.users := rfl
@[simp] theorem drawTwo_refreshTokens (w : World) : (drawTwo w).refreshTokens = w.refreshTokens := rfl
@[simp] theorem drawTwo_blacklist (w : World) : (drawTwo w).blacklist = w.blacklist := rfl
@[simp] theorem drawTwo_clock (w : World) : (drawTwo w).clock = w.clock := rfl
@[simp] theorem drawTwo_uuidSeed (w : World) : (drawTwo w).uuidSeed = w.uuidSeed + 2 := rfl

@[simp] theorem afterIssue_users (user : User) (w : World) : (s.afterIssue user w).users = w.users := rfl
@[simp] theorem afterIssue_refreshTokens (user : User) (w : World) :
    (s.afterIssue user w).refreshTokens = w.refreshTokens ++ [s.issuedRow user w] := rfl
@[simp] theorem afterIssue_blacklist (user : User) (w : World) :
    (s.afterIssue user w).blacklist = w.blacklist := rfl
@[simp] theorem afterIssue_clock (user : User) (w : World) : (s.afterIssue user w).clock = w.clock := rfl
@[simp] theorem afterIssue_uuidSeed (user : User) (w : World) :
    (s.afterIssue user w).uuidSeed = w.uuidSeed + 2 := rfl

variable {s}

/-- A refresh token the service signs determines its subject, its `exp` and its UUID. -/
theorem tokenFor_inj {userID userID' : String} {c c' k k' : Nat}
    (h : s.tokenFor userID c k = s.tokenFor userID' c' k') :
    userID = userID' ∧ s.jwtManager.refreshExp c = s.jwtManager.refreshExp c' ∧ k = k' := by
  obtain ⟨hu, he, hk⟩ := JWTManager.refreshTokenAt_inj h
  exact ⟨hu, he, uuidString_injective hk⟩

theorem generate_runs {user : User} {w w' : World} {b : Except GoError AuthResponseWithRefreshToken}
    (h : (s.generateAuthResponseWithRefreshToken user).Runs w w' b) :
    (b = .ok (s.issued user w) ∧ w' = s.afterIssue user w ∧ s.Insertable user w) ∨
      ((∃ e, b = .error e) ∧ w' = drawTwo w) := by
  simp only [generateAuthResponseWithRefreshToken, JWTManager.generateAccessToken,
    JWTManager.generateRefreshToken, Prog.bind_eq, Prog.bind_assoc, Prog.pure_bind, Prog.pure_eq,
    timeNow_bind_runs, uuidNew_bind_runs] at h
  rw [Prog.runs_bind] at h
  obtain ⟨w₁, r, hc, h⟩ := h
  rcases TokenRepository.create_runs rfl rfl hc with ⟨rfl, he, rfl⟩ | ⟨⟨e, rfl⟩, rfl⟩
  · exact .inl ⟨h.2.symm, h.1.symm, he⟩
  · exact .inr ⟨⟨_, h.2.symm⟩, h.1.symm⟩

theorem generate_run {user : User} {w : World} (hi : s.Insertable user w) :
    (s.generateAuthResponseWithRefreshToken user).run w = (s.afterIssue user w, .ok (s.issued user w)) := by
  simp only [generateAuthResponseWithRefreshToken, JWTManager.generateAccessToken,
    JWTManager.generateRefreshToken, Prog.bind_eq, Prog.bind_assoc, Prog.pure_bind, Prog.pure_eq,
    timeNow_bind_run, uuidNew_bind_run]
  rw [Prog.run_bind, TokenRepository.create_run rfl rfl]
  · rfl
  · exact hi

/-! ## The operations -/

theorem register_runs {req : RegisterRequest} {w w' : World} {b : Except GoError AuthResponseWithRefreshToken}
    (h : (s.register req).Runs w w' b) : w = w' ∧ ∃ e, b = .error e := by
  simp only [register, Prog.bind_eq, Prog.pure_eq, Prog.pure_bind] at h
  split at h
  · exact ⟨h.1, _, h.2.symm⟩
  split at h
  · exact ⟨h.1, _, h.2.symm⟩
  obtain ⟨w₁, r, hr, h⟩ := (Prog.runs_bind _ _ _ _ _).1 h
  obtain ⟨rfl, hw, -⟩ := UserRepository.getByEmail_runs hr
  split at h
  · exact ⟨h.1, _, h.2.symm⟩
  · rw [if_pos (hw.ne_sentinel rfl _)] at h
    exact ⟨h.1, _, h.2.symm⟩

theorem login_runs {req : LoginRequest} {w w' : World} {b : Except GoError AuthResponseWithRefreshToken}
    (h : (s.login req).Runs w w' b) :
    (w = w' ∧ ∃ e, b = .error e) ∨
      ∃ u, w.users.find? (·.email == sanitizeEmail req.email) = some u ∧ u.isActive = true ∧
        checkPasswordHash req.password u.passwordHash = true ∧
        ∃ w₁, (w₁ = w ∨ w₁ = w.stampLastLogin u.id w.clock) ∧
          (s.generateAuthResponseWithRefreshToken u).Runs w₁ w' b := by
  simp only [login, Prog.bind_eq, Prog.pure_eq, Prog.pure_bind] at h
  obtain ⟨w₁, r, hr, h⟩ := (Prog.runs_bind _ _ _ _ _).1 h
  obtain ⟨rfl, -, hf⟩ := UserRepository.getByEmail_runs hr
  split at h
  next => split at h <;> exact .inl ⟨h.1, _, h.2.symm⟩
  next u =>
  split at h
  next => exact .inl ⟨h.1, _, h.2.symm⟩
  next hact =>
  split at h
  next => exact .inl ⟨h.1, _, h.2.symm⟩
  next hpw =>
  obtain ⟨w₂, _, hl, h⟩ := (Prog.runs_bind _ _ _ _ _).1 h
  refine .inr ⟨u, hf u rfl, by simpa using hact, by simpa using hpw, w₂, ?_, h⟩
  rcases UserRepository.updateLastLogin_runs hl with rfl | rfl
  · exact .inl rfl
  · exact .inr rfl

variable (s) in
/-- The worlds the two best-effort writes of a revocation can leave: the
blacklist write and the row delete each take effect or fail. -/
def Revoked (token : TokenString) (w w₂ : World) : Prop :=
  ∃ w₁, (w₁ = w ∨ w₁ = w.setBlacklist token s.refreshTokenExpiry.ns) ∧
    (w₂ = w₁ ∨ w₂ = w₁.deleteTokens (hashToken token))

variable (s) in
/-- Every check `refreshToken` makes on `token` passes in `w`, for the user `user`. -/
structure RefreshChecks (token : TokenString) (w : World) (user : User) : Prop where
  valid : s.jwtManager.validateRefreshTokenAt token w.clock w.clock = .ok user.id
  stored : ∃ row, w.refreshTokens.find? (·.tokenHash == hashToken token) = some row ∧
    ¬row.expiresAt < w.clock
  notBlacklisted : w.blacklisted token = false
  found : w.users.find? (·.id == user.id) = some user
  active : user.isActive = true

/-- A row found by its digest is stored, under that digest. -/
theorem stored_of_find? {w : World} {d : Digest} {row : RefreshToken}
    (h : w.refreshTokens.find? (·.tokenHash == d) = some row) : row ∈ w.refreshTokens ∧ row.tokenHash = d :=
  ⟨List.mem_of_find?_eq_some h, by simpa using List.find?_some h⟩

theorem any_id_of_mem {us : List User} {u : User} (h : u ∈ us) : us.any (·.id == u.id) = true :=
  List.any_eq_true.2 ⟨u, h, beq_self_eq_true _⟩

/-- The checks found a row stored under the token's digest. -/
theorem RefreshChecks.row {token : TokenString} {w : World} {user : User} (hc : s.RefreshChecks token w user) :
    ∃ row ∈ w.refreshTokens, row.tokenHash = hashToken token :=
  let ⟨row, hrow, _⟩ := hc.stored
  ⟨row, stored_of_find? hrow⟩

theorem RefreshChecks.user_any {token : TokenString} {w : World} {user : User}
    (hc : s.RefreshChecks token w user) : w.users.any (·.id == user.id) = true :=
  any_id_of_mem (List.mem_of_find?_eq_some hc.found)

theorem refreshToken_runs {token : TokenString} {w w' : World}
    {b : Except GoError AuthResponseWithRefreshToken} (h : (s.refreshToken token).Runs w w' b) :
    (w = w' ∧ ∃ e, b = .error e) ∨
      ∃ user w₂, s.RefreshChecks token w user ∧ s.Revoked token w w₂ ∧
        (s.generateAuthResponseWithRefreshToken user).Runs w₂ w' b := by
  simp only [refreshToken, JWTManager.validateRefreshToken, Prog.bind_eq, Prog.pure_eq,
    Prog.pure_bind, Prog.bind_assoc, timeNow_bind_runs] at h
  split at h
  next => exact .inl ⟨h.1, _, h.2.symm⟩
  next userID hv =>
  obtain ⟨w₁, r, hr, h⟩ := (Prog.runs_bind _ _ _ _ _).1 h
  obtain ⟨rfl, -, hf⟩ := TokenRepository.getByTokenHash_runs hr
  split at h
  next => split at h <;> exact .inl ⟨h.1, _, h.2.symm⟩
  next row =>
  rw [timeNow_bind_runs] at h
  split at h
  next => exact .inl ⟨h.1, _, h.2.symm⟩
  next hexp =>
  obtain ⟨w₁, r, hr, h⟩ := (Prog.runs_bind _ _ _ _ _).1 h
  obtain ⟨rfl, -, hb⟩ := TokenBlacklistService.isTokenBlacklisted_runs hr
  split at h
  next => exact .inl ⟨h.1, _, h.2.symm⟩
  next => exact .inl ⟨h.1, _, h.2.symm⟩
  obtain ⟨w₁, r, hr, h⟩ := (Prog.runs_bind _ _ _ _ _).1 h
  obtain ⟨rfl, -, hu⟩ := UserRepository.getByID_runs hr
  split at h
  next => exact .inl ⟨h.1, _, h.2.symm⟩
  next user =>
  split at h
  next => exact .inl ⟨h.1, _, h.2.symm⟩
  next hact =>
  obtain ⟨w₁, _, ha, h⟩ := (Prog.runs_bind _ _ _ _ _).1 h
  obtain ⟨w₂, _, hd, h⟩ := (Prog.runs_bind _ _ _ _ _).1 h
  have hfound := hu user rfl
  have hid : user.id = userID := by simpa using List.find?_some hfound
  refine .inr ⟨user, w₂, ⟨hid ▸ hv, ⟨row, hf row rfl, hexp⟩, (hb false rfl).symm, hid ▸ hfound,
    by simpa using hact⟩, ⟨w₁, ?_, ?_⟩, h⟩
  · rcases TokenBlacklistService.addToken_runs ha with rfl | rfl <;> simp
  · rcases TokenRepository.deleteByTokenHash_runs hd with rfl | rfl <;> simp

/-- `RefreshToken` refuses every access token, whatever the stores answer. -/
theorem refreshToken_runs_accessTokenAt {j : JWTManager} {userID email : String} {t₁ t₂ : Nat} {w w' : World}
    {b : Except GoError AuthResponseWithRefreshToken}
    (h : (s.refreshToken (j.accessTokenAt userID email t₁ t₂)).Runs w w' b) : w' = w ∧ ∃ err, b = .error err := by
  rcases refreshToken_runs h with ⟨rfl, hb⟩ | ⟨user, _, hc, -⟩
  · exact ⟨rfl, hb⟩
  · obtain ⟨err, he⟩ : ∃ err, s.jwtManager.validateRefreshTokenAt (j.accessTokenAt userID email t₁ t₂)
        w.clock w.clock = .error err := JWTManager.validateRefreshTokenAt_accessTokenAt _ _ _
    cases he.symm.trans hc.valid

theorem logout_runs {userID : String} {token : TokenString} {w w' : World} {b : Except GoError Unit}
    (h : (s.logout userID token).Runs w w' b) :
    b = .ok () ∧ (w = w' ∨ token ≠ emptyToken ∧ ∃ row,
      w.refreshTokens.find? (·.tokenHash == hashToken token) = some row ∧ row.userID = userID ∧
        s.Revoked token w w') := by
  simp only [logout, Prog.bind_eq, Prog.pure_eq, Prog.pure_bind] at h
  split at h
  next hne =>
    obtain ⟨w₂, r, hr, h⟩ := (Prog.runs_bind _ _ _ _ _).1 h
    obtain ⟨rfl, -, hf⟩ := TokenRepository.getByTokenHash_runs hr
    split at h
    next row =>
      split at h
      next hown =>
        obtain ⟨w₃, _, ha, h⟩ := (Prog.runs_bind _ _ _ _ _).1 h
        obtain ⟨w₄, _, hd, rfl, rfl⟩ := (Prog.runs_bind _ _ _ _ _).1 h
        refine ⟨rfl, .inr ⟨hne, row, hf row rfl, hown, w₃, ?_, ?_⟩⟩
        · rcases TokenBlacklistService.addToken_runs ha with rfl | rfl <;> simp
        · rcases TokenRepository.deleteByTokenHash_runs hd with rfl | rfl <;> simp
      next => exact ⟨h.2.symm, .inl h.1⟩
    next => exact ⟨h.2.symm, .inl h.1⟩
  next => exact ⟨h.2.symm, .inl h.1⟩

theorem validateToken_runs {token : TokenString} {w w' : World} {b : Except GoError TokenClaims}
    (h : (s.validateToken token).Runs w w' b) : w = w' := by
  simp only [validateToken, JWTManager.validateToken, Prog.bind_eq, Prog.pure_eq, Prog.pure_bind,
    Prog.bind_assoc] at h
  obtain ⟨w₁, r, hr, h⟩ := (Prog.runs_bind _ _ _ _ _).1 h
  obtain ⟨rfl, -⟩ := TokenBlacklistService.isTokenBlacklisted_runs hr
  split at h
  next => exact h.1
  next => exact h.1
  rw [timeNow_bind_runs, timeNow_bind_runs] at h
  split at h <;> exact h.1

@[simp] theorem validateToken_run (token : TokenString) (w : World) :
    (s.validateToken token).run w = (w, if w.blacklisted token then .error (.new "token is blacklisted")
      else match s.jwtManager.validateTokenAt token w.clock w.clock with
        | .error err => .error (.wrap "invalid token: " err)
        | .ok claims => .ok claims) := by
  simp only [validateToken, JWTManager.validateToken, Prog.bind_eq, Prog.pure_eq, Prog.pure_bind,
    Prog.bind_assoc, Prog.run_bind, TokenBlacklistService.isTokenBlacklisted_run]
  cases w.blacklisted token
  · simp only [timeNow_bind_run, Bool.false_eq_true, if_false]
    cases s.jwtManager.validateTokenAt token w.clock w.clock <;> rfl
  · rfl

/-- When `t` is empty, or the row `logout` finds for `t` is not `userID`'s, it
changes nothing, whatever the stores answer. -/
theorem logout_runs_of_not_owned {u : String} {t : TokenString} {w w' : World} {b : Except GoError Unit}
    (hn : t = emptyToken ∨ ∀ row, w.refreshTokens.find? (·.tokenHash == hashToken t) = some row → row.userID ≠ u)
    (h : (s.logout u t).Runs w w' b) : w' = w ∧ b = .ok () := by
  obtain ⟨rfl, rfl | ⟨ht, row, hf, hown, -⟩⟩ := logout_runs h
  · exact ⟨rfl, rfl⟩
  · rcases hn with hn | hn
    · exact absurd hn ht
    · exact absurd hown (hn row hf)

/-- Whatever the stores answer, `ValidateToken` returns claims only as the manager's
`ValidateToken` decides them at the clock reading. -/
theorem validateToken_runs_ok {token : TokenString} {w w' : World} {claims : TokenClaims}
    (h : (s.validateToken token).Runs w w' (.ok claims)) :
    s.jwtManager.validateTokenAt token w.clock w.clock = .ok claims := by
  simp only [validateToken, JWTManager.validateToken, Prog.bind_eq, Prog.pure_eq, Prog.pure_bind,
    Prog.bind_assoc] at h
  obtain ⟨w₁, r, hr, h⟩ := (Prog.runs_bind _ _ _ _ _).1 h
  obtain ⟨rfl, -⟩ := TokenBlacklistService.isTokenBlacklisted_runs hr
  split at h
  next => cases h.2
  next => cases h.2
  rw [timeNow_bind_runs, timeNow_bind_runs] at h
  split at h
  next => cases h.2
  next hv => exact hv.trans h.2

/-- `ValidateToken` refuses every refresh token, whatever the stores answer. -/
theorem validateToken_runs_refreshTokenAt {j : JWTManager} {userID jti : String} {t₁ t₂ : Nat} {w w' : World}
    {r : Except GoError TokenClaims} (h : (s.validateToken (j.refreshTokenAt userID t₁ t₂ jti)).Runs w w' r) :
    w' = w ∧ ∃ err, r = .error err := by
  refine ⟨(validateToken_runs h).symm, ?_⟩
  cases r with
  | error err => exact ⟨err, rfl⟩
  | ok claims =>
    obtain ⟨err, he⟩ := JWTManager.validateTokenAt_refreshTokenAt s.jwtManager w.clock w.clock
    cases he.symm.trans (validateToken_runs_ok h)

theorem getUser_runs {userID : String} {w w' : World} {b : Except GoError UserResponse}
    (h : (getUser userID).Runs w w' b) : w = w' := by
  simp only [getUser, Prog.bind_eq, Prog.pure_eq] at h
  obtain ⟨w₁, r, hr, h⟩ := (Prog.runs_bind _ _ _ _ _).1 h
  obtain ⟨rfl, -⟩ := UserRepository.getByID_runs hr
  split at h <;> exact h.1

/-! ## Runs in which every check passes -/

theorem login_run {req : LoginRequest} {w : World} {u : User}
    (hf : w.users.find? (·.email == sanitizeEmail req.email) = some u) (ha : u.isActive = true)
    (hp : checkPasswordHash req.password u.passwordHash = true)
    (hi : s.Insertable u (w.stampLastLogin u.id w.clock)) :
    (s.login req).run w = (s.afterIssue u (w.stampLastLogin u.id w.clock),
      .ok (s.issued u (w.stampLastLogin u.id w.clock))) := by
  simp only [login, Prog.bind_eq, Prog.pure_eq, Prog.pure_bind, Prog.run_bind,
    UserRepository.getByEmail_run, hf, ha, hp, Bool.not_true, Bool.false_eq_true, if_false]
  rw [UserRepository.updateLastLogin_run, generate_run hi]

variable (s) in
/-- The world after both of `refreshToken`'s revoking writes took effect. -/
def revokedWorld (t : TokenString) (w : World) : World :=
  (w.setBlacklist t s.refreshTokenExpiry.ns).deleteTokens (hashToken t)

/-- With every command succeeding, `logout` revokes `t` when the row it finds for
`t` is `userID`'s. -/
theorem logout_run_of_owned {u : String} {t : TokenString} {w : World} {row : RefreshToken}
    (ht : t ≠ emptyToken) (hf : w.refreshTokens.find? (·.tokenHash == hashToken t) = some row)
    (hown : row.userID = u) : (s.logout u t).run w = (s.revokedWorld t w, .ok ()) := by
  simp only [logout, ne_eq, ht, not_false_eq_true, if_true, Prog.bind_eq, Prog.pure_eq, Prog.run_bind,
    TokenRepository.getByTokenHash_run, hf, hown]
  rw [TokenBlacklistService.addToken_run, TokenRepository.deleteByTokenHash_run]
  rfl

/-- `logout` is idempotent: after a logout with every command succeeding, a second
logout of the same token by the same user changes nothing, whatever the stores answer. -/
theorem logout_runs_after_run {u : String} {t : TokenString} {w w' : World} {b : Except GoError Unit}
    (h : (s.logout u t).Runs ((s.logout u t).run w).1 w' b) : w' = ((s.logout u t).run w).1 := by
  by_cases hown : t ≠ emptyToken ∧
      ∃ row, w.refreshTokens.find? (·.tokenHash == hashToken t) = some row ∧ row.userID = u
  · obtain ⟨ht, row, hf, hu⟩ := hown
    rw [logout_run_of_owned ht hf hu] at h ⊢
    exact (logout_runs_of_not_owned (.inr fun _ hf' => by
      simp [revokedWorld, World.find?_deleteTokens] at hf') h).1
  · have hn : t = emptyToken ∨
        ∀ row, w.refreshTokens.find? (·.tokenHash == hashToken t) = some row → row.userID ≠ u := by
      by_cases ht : t = emptyToken
      · exact .inl ht
      · exact .inr fun row hf hu => hown ⟨ht, row, hf, hu⟩
    rw [(logout_runs_of_not_owned hn (Prog.run_runs _ _)).1] at h ⊢
    exact (logout_runs_of_not_owned hn h).1

theorem refreshToken_run {t : TokenString} {w : World} {user : User} (hc : s.RefreshChecks t w user)
    (hi : s.Insertable user (s.revokedWorld t w)) :
    (s.refreshToken t).run w = (s.afterIssue user (s.revokedWorld t w),
      .ok (s.issued user (s.revokedWorld t w))) := by
  obtain ⟨row, hrow, hexp⟩ := hc.stored
  simp only [refreshToken, JWTManager.validateRefreshToken, Prog.bind_eq, Prog.pure_eq, Prog.pure_bind,
    Prog.bind_assoc, timeNow_bind_run, timeNow_run, hc.valid, Prog.run_bind, TokenRepository.getByTokenHash_run, hrow,
    hexp, if_false, TokenBlacklistService.isTokenBlacklisted_run, hc.notBlacklisted,
    UserRepository.getByID_run, hc.found, hc.active, Bool.not_true, Bool.false_eq_true]
  rw [TokenBlacklistService.addToken_run, TokenRepository.deleteByTokenHash_run]
  exact generate_run hi

/-- When every check passes, there is a run in which the store refuses both
revoking writes and `refreshToken` still returns a pair, leaving `t` stored and
off the blacklist. -/
theorem refreshToken_runs_refused {t : TokenString} {w : World} {user : User}
    (hc : s.RefreshChecks t w user) (hi : s.Insertable user w) (e₁ e₂ : String) :
    (s.refreshToken t).Runs w (s.afterIssue user w) (.ok (s.issued user w)) := by
  obtain ⟨row, hrow, hexp⟩ := hc.stored
  simp only [refreshToken, JWTManager.validateRefreshToken, Prog.bind_eq, Prog.pure_eq, Prog.pure_bind,
    Prog.bind_assoc, timeNow_bind_runs, hc.valid]
  refine (Prog.runs_bind _ _ _ _ _).2 ⟨w, .ok row, Prog.runs_of_run (by simp [hrow]), ?_⟩
  simp only [timeNow_bind_runs, hexp, if_false]
  refine (Prog.runs_bind _ _ _ _ _).2 ⟨w, .ok false, Prog.runs_of_run (by simp [hc.notBlacklisted]), ?_⟩
  refine (Prog.runs_bind _ _ _ _ _).2 ⟨w, .ok user, Prog.runs_of_run (by simp [hc.found]), ?_⟩
  simp only [hc.active, Bool.not_true, Bool.false_eq_true, if_false]
  refine (Prog.runs_bind _ _ _ _ _).2 ⟨w, _, TokenBlacklistService.addToken_runs_refused t _ e₁, ?_⟩
  refine (Prog.runs_bind _ _ _ _ _).2 ⟨w, _, TokenRepository.deleteByTokenHash_runs_refused _ e₂, ?_⟩
  exact Prog.runs_of_run (generate_run hi)

/-! ## Runs in which a check fails -/

/-- The error `register` fails with when every store command succeeds, given
what the lookup of the raw email found. -/
def registerError (req : RegisterRequest) (found : Option User) : GoError :=
  if !validateEmail req.email then .new "invalid email format"
  else if !validatePassword req.password then
    .new "password must be at least 8 characters long and contain uppercase, lowercase, and number"
  else match found with
    | some _ => .new ("user with email " ++ req.email ++ " already exists")
    | none => .wrap "failed to check user existence: "
        (.wrap ("user with email " ++ req.email ++ " not found: ") (.sentinel .notFound))

theorem register_run (req : RegisterRequest) (w : World) :
    (s.register req).run w = (w, .error (registerError req (w.users.find? (·.email == req.email)))) := by
  simp only [register, registerError, Prog.bind_eq, Prog.pure_eq, Prog.pure_bind]
  split
  · rfl
  split
  · rfl
  simp only [Prog.run_bind, UserRepository.getByEmail_run]
  cases w.users.find? (·.email == req.email) <;> dsimp only
  · rw [if_pos (GoError.wrap_ne_sentinel _ _ _)]; rfl
  · rfl

/-- `register` of a new, well-formed email and password fails, and stores
nothing: the existence check returns the wrapped not-found error, which is not
`==` to `ErrNotFound`. -/
theorem register_run_of_fresh {req : RegisterRequest} {w : World} (he : validateEmail req.email = true)
    (hp : validatePassword req.password = true) (hf : w.users.find? (·.email == req.email) = none) :
    (s.register req).run w = (w, .error (.wrap "failed to check user existence: "
      (.wrap ("user with email " ++ req.email ++ " not found: ") (.sentinel .notFound)))) := by
  rw [register_run, hf]
  simp only [registerError, he, hp, Bool.not_true, Bool.false_eq_true, if_false]

theorem register_run_of_fresh_sample :
    validateEmail "a@b.co" = true ∧ validatePassword "Passw0rd" = true ∧
      (sampleService.register ⟨"a@b.co", "Passw0rd"⟩).run (World.initial []) =
        (World.initial [], .error (.wrap "failed to check user existence: "
          (.wrap "user with email a@b.co not found: " (.sentinel .notFound)))) :=
  ⟨by decide, by decide, register_run_of_fresh (by decide) (by decide) rfl⟩

/-- Issuing fails, after drawing both UUIDs, when the store refuses the insert. -/
theorem generate_runs_refused (user : User) (w : World) (e : String) :
    (s.generateAuthResponseWithRefreshToken user).Runs w (drawTwo w)
      (.error (.wrap "failed to save refresh token: " (.wrap "failed to create token: " (.driver e)))) := by
  simp only [generateAuthResponseWithRefreshToken, JWTManager.generateAccessToken,
    JWTManager.generateRefreshToken, Prog.bind_eq, Prog.bind_assoc, Prog.pure_bind, Prog.pure_eq,
    timeNow_bind_runs, uuidNew_bind_runs]
  exact (Prog.runs_bind _ _ _ _ _).2 ⟨_, _, TokenRepository.create_runs_refused rfl rfl e, rfl, rfl⟩

theorem generate_users {user : User} {w w' : World} {b : Except GoError AuthResponseWithRefreshToken}
    (h : (s.generateAuthResponseWithRefreshToken user).Runs w w' b) : w'.users = w.users := by
  rcases generate_runs h with ⟨-, rfl, -⟩ | ⟨-, rfl⟩ <;> rfl

theorem Revoked.users {token : TokenString} {w w₂ : World} (h : s.Revoked token w w₂) :
    w₂.users = w.users := by
  obtain ⟨w₁, h₁ | h₁, h₂ | h₂⟩ := h <;> subst h₁ h₂ <;> simp

/-- A revocation removes only rows stored under the token's digest. -/
theorem Revoked.rows {token : TokenString} {w w₂ : World} (h : s.Revoked token w w₂) {row : RefreshToken}
    (hr : row ∈ w.refreshTokens) (hn : row ∉ w₂.refreshTokens) : row.tokenHash = hashToken token := by
  obtain ⟨w₁, h₁ | h₁, h₂ | h₂⟩ := h <;> subst h₁ h₂ <;> simp_all [World.deleteTokens]

/-- A revocation changes the blacklist at the token only. -/
theorem Revoked.blacklist {token : TokenString} {w w₂ : World} (h : s.Revoked token w w₂) {t : TokenString}
    (hb : w₂.blacklist t ≠ w.blacklist t) : t = token := by
  by_contra hne
  obtain ⟨w₁, h₁ | h₁, h₂ | h₂⟩ := h <;> subst h₁ h₂ <;>
    simp [World.setBlacklist_blacklist_ne _ _ hne] at hb

end AuthLifecycle.Service.AuthService

import AuthLifecycle.Handler.Auth
/-!
# Handler.Middleware — `AuthMiddleware` and the routes behind it (`handler/middleware.go`)

`AuthMiddleware` hands a request on only when its `Authorization` header,
split at blanks as `strings.Split` does, is `Bearer` and one more piece, and
`ValidateToken` accepts that piece. It then stores the token's `user_id` in the
context, which is the `userID` that `AuthHandler.logout` and `AuthHandler.getMe`
read. The `/logout` and `/me` routes put it in front of their handler
(`protectedRoute`).

* `authMiddleware_runs`: whatever the stores answer, the middleware changes
  nothing; it aborts with 401 `Unauthorized`, or hands the request on with the
  claims `ValidateToken` returned for the token of a `Bearer` header.
* `protectedRoute_runs`: so a protected route runs its handler only as the user
  such a token names, and otherwise answers 401 with the world unchanged.
* `protectedRoute_run_bearer`: with every command succeeding, a route called
  with `Bearer <text>` answers as `ValidateToken` decides on the token `text`
  stands for.
* `token_kinds_apart`: a refresh token never passes the middleware, nor an
  access token `RefreshToken`.
-/

namespace AuthLifecycle.Handler

open AuthLifecycle.Go AuthLifecycle.Utils AuthLifecycle.Store AuthLifecycle.Service

set_option autoImplicit false

/-- `AuthMiddleware(authService)` on a request whose `Authorization` header is
`authHeader` (empty when absent): the response it aborts with, or the claims it
stores in the context (`user_id`, `email`, `claims`) before `c.Next()`. jwt-go
reads a token from its compact text, while the model's tokens are symbolic:
`decode` is that reading. -/
def authMiddleware (s : AuthService) (decode : String → TokenString) (authHeader : String) :
    Prog (Except Response TokenClaims) := do
  if authHeader = "" then
    return .error (errorJSON 401 "Unauthorized" "Authorization header is required")
  match authHeader.split (· == ' ') with
  | [scheme, token] =>
    if scheme ≠ "Bearer" then
      return .error (errorJSON 401 "Unauthorized" "Invalid authorization header format")
    match ← s.validateToken (decode token) with
    | .error _ => return .error (errorJSON 401 "Unauthorized" "Invalid or expired token")
    | .ok claims => return .ok claims
  | _ => return .error (errorJSON 401 "Unauthorized" "Invalid authorization header format")

/-- A route with `AuthMiddleware(authService)` in front of `handler`, which reads
`user_id` from the context: the handler runs only when the middleware handed
the request on. -/
def protectedRoute (s : AuthService) (decode : String → TokenString) (authHeader : String)
    (handler : Option String → Prog Response) : Prog Response := do
  match ← authMiddleware s decode authHeader with
  | .error response => return response
  | .ok claims => handler (some claims.userID)

namespace AuthHandler

variable (h : AuthHandler)

/-- `auth.GET("/me", handler.AuthMiddleware(authService), authHandler.GetMe)`. -/
def meRoute (decode : String → TokenString) (authHeader : String) : Prog Response :=
  protectedRoute h.authService decode authHeader getMe

/-- `auth.POST("/logout", handler.AuthMiddleware(authService), authHandler.Logout)`. -/
def logoutRoute (decode : String → TokenString) (authHeader : String) (cookie : Option TokenString) :
    Prog Response :=
  protectedRoute h.authService decode authHeader fun userID => h.logout userID cookie

end AuthHandler

/-! ## Splitting the header -/

/-- `Bearer` and a blank-free text split into exactly those two pieces. -/
theorem split_bearer {text : String} (hsp : ' ' ∉ text.toList) :
    ("Bearer " ++ text).split (· == ' ') = ["Bearer", text] := by
  rw [String.split_of_valid]
  have h : ("Bearer " ++ text).data = "Bearer".data ++ ' ' :: text.data := rfl
  rw [h, List.splitOnP_first _ _ (by decide) ' ' rfl,
    List.splitOnP_eq_single _ _ fun c hc he => hsp (by rw [beq_iff_eq] at he; exact he ▸ hc)]
  rfl

/-- Two pieces joined by the blank they were split at give the text back. -/
theorem eq_of_split_pair {text a b : String} (h : text.split (· == ' ') = [a, b]) :
    text = a ++ " " ++ b := by
  rw [String.split_of_valid] at h
  have hs := List.intercalate_splitOn text.data ' '
  obtain ⟨x, y, hxy, rfl, rfl⟩ : ∃ x y, text.data.splitOnP (· == ' ') = [x, y] ∧ a = ⟨x⟩ ∧ b = ⟨y⟩ := by
    simp only [List.map_eq_cons_iff, List.map_eq_nil_iff] at h
    obtain ⟨x, l, hl, rfl, y, l', rfl, rfl, rfl⟩ := h
    exact ⟨x, y, hl, rfl, rfl⟩
  rw [List.splitOn, hxy] at hs
  exact String.ext (by simpa [List.intercalate] using hs.symm)

/-! ## What the middleware does -/

section Middleware

variable {s : AuthService} {decode : String → TokenString} {authHeader : String}

theorem authMiddleware_runs {w w' : World} {m : Except Response TokenClaims}
    (h : (authMiddleware s decode authHeader).Runs w w' m) :
    w' = w ∧ ((∃ message, m = .error (errorJSON 401 "Unauthorized" message)) ∨
      ∃ token claims, m = .ok claims ∧ authHeader = "Bearer " ++ token ∧
        (s.validateToken (decode token)).Runs w w (.ok claims)) := by
  simp only [authMiddleware, Prog.bind_eq, Prog.pure_eq, Prog.pure_bind] at h
  split at h
  · obtain ⟨rfl, rfl⟩ := h
    exact ⟨rfl, .inl ⟨_, rfl⟩⟩
  split at h
  · rename_i scheme token hsplit
    split at h
    · obtain ⟨rfl, rfl⟩ := h
      exact ⟨rfl, .inl ⟨_, rfl⟩⟩
    rename_i hb
    obtain ⟨w₁, r, hr, h⟩ := (Prog.runs_bind _ _ _ _ _).1 h
    obtain rfl := AuthService.validateToken_runs hr
    split at h <;> obtain ⟨rfl, rfl⟩ := h
    · exact ⟨rfl, .inl ⟨_, rfl⟩⟩
    · rw [eq_of_split_pair hsplit, not_not.1 hb]
      exact ⟨rfl, .inr ⟨token, _, rfl, rfl, hr⟩⟩
  · obtain ⟨rfl, rfl⟩ := h
    exact ⟨rfl, .inl ⟨_, rfl⟩⟩

/-- `strings.Split` keeps the empty piece between two blanks, so a doubled blank
makes the header malformed. -/
example (w : World) : (authMiddleware s decode "Bearer  abc").run w =
    (w, .error (errorJSON 401 "Unauthorized" "Invalid authorization header format")) := by
  simp only [authMiddleware, String.split_of_valid]
  rfl

theorem bearer_inj {a b : String} (h : "Bearer " ++ a = "Bearer " ++ b) : a = b := by
  have h := congrArg String.data h
  rw [String.data_append, String.data_append] at h
  exact String.ext (List.append_cancel_left h)

theorem bearer_ne_empty (text : String) : "Bearer " ++ text ≠ "" := fun he => by
  have h := congrArg String.data he
  rw [String.data_append] at h
  exact absurd (List.append_eq_nil.1 h).1 (by decide)

/-- With every command succeeding, the middleware answers a `Bearer` header as
`ValidateToken` decides on its token, and changes nothing. -/
theorem authMiddleware_run_bearer {text : String} (hsp : ' ' ∉ text.toList) (w : World) :
    (authMiddleware s decode ("Bearer " ++ text)).run w =
      (w, match ((s.validateToken (decode text)).run w).2 with
        | .error _ => .error (errorJSON 401 "Unauthorized" "Invalid or expired token")
        | .ok claims => .ok claims) := by
  simp only [authMiddleware, Prog.bind_eq, Prog.pure_eq, Prog.pure_bind, Prog.run_bind, split_bearer hsp,
    bearer_ne_empty, if_false, ne_eq, not_true_eq_false]
  rw [show ((s.validateToken (decode text)).run w).1 = w by rw [AuthService.validateToken_run]]
  split <;> rfl

/-- Whatever the stores answer, a protected route either runs its handler as
the user a `Bearer` token names, the token having passed `ValidateToken` with
nothing changed, or answers 401 `Unauthorized` and changes nothing. -/
theorem protectedRoute_runs {handler : Option String → Prog Response} {w w' : World} {r : Response}
    (h : (protectedRoute s decode authHeader handler).Runs w w' r) :
    (∃ token claims, authHeader = "Bearer " ++ token ∧ (s.validateToken (decode token)).Runs w w (.ok claims) ∧
      (handler (some claims.userID)).Runs w w' r) ∨
    (w' = w ∧ ∃ message, r = errorJSON 401 "Unauthorized" message) := by
  simp only [protectedRoute, Prog.bind_eq, Prog.pure_eq] at h
  obtain ⟨w₁, m, hm, hk⟩ := (Prog.runs_bind _ _ _ _ _).1 h
  obtain ⟨rfl, ⟨message, rfl⟩ | ⟨token, claims, rfl, rfl, hv⟩⟩ := authMiddleware_runs hm
  · obtain ⟨rfl, rfl⟩ := hk
    exact .inr ⟨rfl, message, rfl⟩
  · exact .inl ⟨token, claims, rfl, hv, hk⟩

theorem protectedRoute_run_bearer {text : String} (hsp : ' ' ∉ text.toList)
    (handler : Option String → Prog Response) (w : World) :
    (protectedRoute s decode ("Bearer " ++ text) handler).run w =
      match ((s.validateToken (decode text)).run w).2 with
      | .error _ => (w, errorJSON 401 "Unauthorized" "Invalid or expired token")
      | .ok claims => (handler (some claims.userID)).run w := by
  simp only [protectedRoute, Prog.bind_eq, Prog.pure_eq, Prog.run_bind, authMiddleware_run_bearer hsp]
  cases ((s.validateToken (decode text)).run w).2 <;> rfl

/-! ## Access and refresh tokens are kept apart -/

/-- The middleware answers 401 to a `Bearer` header carrying a refresh token. -/
theorem authMiddleware_runs_refreshTokenAt {j : JWTManager} {userID jti : String} {t₁ t₂ : Nat} {text : String}
    {w w' : World} {m : Except Response TokenClaims} (hd : decode text = j.refreshTokenAt userID t₁ t₂ jti)
    (h : (authMiddleware s decode ("Bearer " ++ text)).Runs w w' m) :
    w' = w ∧ ∃ message, m = .error (errorJSON 401 "Unauthorized" message) := by
  obtain ⟨rfl, hm | ⟨token, claims, rfl, hb, hv⟩⟩ := authMiddleware_runs h
  · exact ⟨rfl, hm⟩
  · rw [← bearer_inj hb, hd] at hv
    obtain ⟨-, _, he⟩ := AuthService.validateToken_runs_refreshTokenAt hv
    cases he

/-- A refresh token carries no `email` and an access token no `type`: neither
validator accepts the other kind, whichever managers signed and check them and
at whatever clock readings. So `ValidateToken`, and with it the middleware,
refuses every refresh token, and `RefreshToken` refuses every access token;
both change nothing then, whatever the stores answer. -/
theorem token_kinds_apart (j j' : JWTManager) (s : AuthService) (decode : String → TokenString)
    (userID email jti : String) (t₁ t₂ now now' : Nat) :
    (∃ err, j'.validateRefreshTokenAt (j.accessTokenAt userID email t₁ t₂) now now' = .error err) ∧
    (∃ err, j'.validateTokenAt (j.refreshTokenAt userID t₁ t₂ jti) now now' = .error err) ∧
    (∀ w w' r, (s.validateToken (j.refreshTokenAt userID t₁ t₂ jti)).Runs w w' r →
      w' = w ∧ ∃ err, r = .error err) ∧
    (∀ text w w' m, decode text = j.refreshTokenAt userID t₁ t₂ jti →
      (authMiddleware s decode ("Bearer " ++ text)).Runs w w' m →
        w' = w ∧ ∃ message, m = .error (errorJSON 401 "Unauthorized" message)) ∧
    (∀ w w' b, (s.refreshToken (j.accessTokenAt userID email t₁ t₂)).Runs w w' b →
      w' = w ∧ ∃ err, b = .error err) :=
  ⟨JWTManager.validateRefreshTokenAt_accessTokenAt j' now now', JWTManager.validateTokenAt_refreshTokenAt j' now now',
    fun _ _ _ => AuthService.validateToken_runs_refreshTokenAt, fun _ _ _ _ => authMiddleware_runs_refreshTokenAt,
    fun _ _ _ => AuthService.refreshToken_runs_accessTokenAt⟩

theorem token_kinds_apart_alice :
    (∃ err, sampleService.jwtManager.validateRefreshTokenAt
      (sampleService.jwtManager.accessTokenAt "u-1" "alice@example.com" 0 0) 0 0 = .error err) ∧
    (∃ err, sampleService.jwtManager.validateTokenAt
      (sampleService.jwtManager.refreshTokenAt "u-1" 0 0 "jti-0") 0 0 = .error err) ∧
    ∀ w w' m, (authMiddleware sampleService (fun _ => sampleService.jwtManager.refreshTokenAt "u-1" 0 0 "jti-0")
      ("Bearer " ++ "aliceRefreshToken")).Runs w w' m →
        w' = w ∧ ∃ message, m = .error (errorJSON 401 "Unauthorized" message) :=
  have h := token_kinds_apart sampleService.jwtManager sampleService.jwtManager sampleService
    (fun _ => sampleService.jwtManager.refreshTokenAt "u-1" 0 0 "jti-0") "u-1" "alice@example.com" "jti-0" 0 0 0 0
  ⟨h.1, h.2.1, fun w w' m => h.2.2.2.1 "aliceRefreshToken" w w' m rfl⟩

end Middleware

end AuthLifecycle.Handler

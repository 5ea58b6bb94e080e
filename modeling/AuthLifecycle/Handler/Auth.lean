import AuthLifecycle.Service.AuthSpec
/-!
# Handler.Auth — the HTTP boundary of the credential lifecycle (`handler/auth_handler.go`)

`AuthHandler` turns each service result into a status code, a JSON body and,
when a pair is issued, the `refresh_token` cookie. Every error body is a
`dto.ErrorResponse` whose `message` is the service error's text. gin's binding
and validation of the JSON body is taken as given: a handler receives what
`ShouldBindJSON` decoded, or the text of its error.

* `login_run_ok`, `register_run_ok`: each handler is its service call followed
  by a pure classification of the result; so whatever the stores answer, a
  handler changes them as at most one service call does (`register_runs_call`
  and its siblings).
* `login_unauthorized`: a login whose credentials are rejected answers 401
  `Unauthorized` and changes nothing, and its message is the text of
  `loginRejection` — it names the reason, and the email when no account has it.
* `register_response`: `register` answers 409 `Conflict` exactly when the email
  and password are well formed and the raw email is stored, and 400 otherwise
  (`registerError_conflict`: no other error of `register` holds
  "already exists", since a well-formed email holds no blank).
-/

namespace AuthLifecycle.Handler

open AuthLifecycle.Go AuthLifecycle.Utils AuthLifecycle.Store AuthLifecycle.Service

set_option autoImplicit false

/-- `dto.ErrorResponse`; these handlers never set its `details`. -/
structure ErrorResponse where
  error : String
  message : String
  deriving DecidableEq, Repr

/-- The JSON body a handler writes. -/
inductive Body where
  | error (e : ErrorResponse)
  | auth (r : AuthResponse)
  | success (message : String)
  | user (u : UserResponse)
  deriving DecidableEq, Repr

/-- The `refresh_token` cookie a handler sets: its value and `MaxAge`. Its path is
`/api/v1/auth/refresh`, and it is `Secure` and `HttpOnly`. -/
structure Cookie where
  value : TokenString
  maxAge : Int
  deriving DecidableEq, Repr

/-- What a handler writes: the status code, the cookie it sets, and the body. -/
structure Response where
  status : Nat
  cookie : Option Cookie
  body : Body
  deriving DecidableEq, Repr

/-- `c.JSON(status, dto.ErrorResponse{Error: error, Message: message})`. -/
def errorJSON (status : Nat) (error message : String) : Response :=
  ⟨status, none, .error ⟨error, message⟩⟩

/-- `c.SetCookie("refresh_token", response.RefreshToken, response.ExpiresIn, …)`,
then `c.JSON(status, response.AuthResponse)`. -/
def issueJSON (status : Nat) (response : AuthResponseWithRefreshToken) : Response :=
  ⟨status, some ⟨response.refreshToken, response.expiresIn⟩, .auth response.authResponse⟩

/-- `AuthHandler`. -/
structure AuthHandler where
  authService : AuthService

namespace AuthHandler

variable (h : AuthHandler)

/-- `AuthHandler.Register`. -/
def register (bound : Except String RegisterRequest) : Prog Response := do
  match bound with
  | .error err => return errorJSON 400 "Validation failed" err
  | .ok req =>
  match ← h.authService.register req with
  | .error err =>
    if contains err.text "already exists" then return errorJSON 409 "Conflict" err.text
    return errorJSON 400 "Bad request" err.text
  | .ok response => return issueJSON 201 response

/-- `AuthHandler.Login`. -/
def login (bound : Except String LoginRequest) : Prog Response := do
  match bound with
  | .error err => return errorJSON 400 "Validation failed" err
  | .ok req =>
  match ← h.authService.login req with
  | .error err => return errorJSON 401 "Unauthorized" err.text
  | .ok response => return issueJSON 200 response

/-- `AuthHandler.Refresh`; `cookie` is the `refresh_token` cookie, when one was sent. -/
def refresh (cookie : Option TokenString) : Prog Response := do
  match cookie with
  | none => return errorJSON 400 "Bad request" "Refresh token not found in cookie"
  | some refreshToken =>
  match ← h.authService.refreshToken refreshToken with
  | .error err => return errorJSON 401 "Unauthorized" err.text
  | .ok response => return issueJSON 200 response

/-- `AuthHandler.Logout`; `userID` is the `user_id` the auth middleware stored, and
a missing cookie reads as the empty string. -/
def logout (userID : Option String) (cookie : Option TokenString) : Prog Response := do
  match userID with
  | none => return errorJSON 401 "Unauthorized" "User ID not found in context"
  | some userID =>
  match ← h.authService.logout userID (cookie.getD emptyToken) with
  | .error err => return errorJSON 500 "Internal server error" err.text
  | .ok () => return ⟨200, some ⟨emptyToken, -1⟩, .success "Logged out successfully"⟩

/-- `AuthHandler.GetMe`. -/
def getMe (userID : Option String) : Prog Response := do
  match userID with
  | none => return errorJSON 401 "Unauthorized" "User ID not found in context"
  | some userID =>
  match ← AuthService.getUser userID with
  | .error err => return errorJSON 500 "Internal server error" err.text
  | .ok user => return ⟨200, none, .user user⟩

/-! ## Register and login as service call plus classification -/

theorem register_run_ok (req : RegisterRequest) (w : World) :
    (h.register (.ok req)).run w = (((h.authService.register req).run w).1,
      match ((h.authService.register req).run w).2 with
      | .error err => if contains err.text "already exists" then errorJSON 409 "Conflict" err.text
          else errorJSON 400 "Bad request" err.text
      | .ok response => issueJSON 201 response) := by
  simp only [register, Prog.bind_eq, Prog.pure_eq, Prog.run_bind]
  split
  · split <;> rfl
  · rfl

theorem getMe_run (userID : String) (w : World) :
    (getMe (some userID)).run w = (w,
      match w.users.find? (·.id == userID) with
      | some u => ⟨200, none, .user ⟨u.id, u.email, u.createdAt, u.updatedAt, u.lastLoginAt, u.isEmailVerified⟩⟩
      | none => errorJSON 500 "Internal server error" (GoError.wrap "failed to get user: "
          (.wrap ("user with id " ++ userID ++ " not found: ") (.sentinel .notFound))).text) := by
  simp only [getMe, AuthService.getUser, Prog.bind_eq, Prog.pure_eq, Prog.run_bind,
    Repository.UserRepository.getByID_run]
  cases w.users.find? (·.id == userID) <;> rfl

/-! ## What a handler can do to the stores

Each handler makes at most one service call and then only classifies its
result, so it changes the stores as that call does. -/

section Calls

variable {w w' : World} {r : Response}

theorem register_runs_call {bound : Except String RegisterRequest} (hr : (h.register bound).Runs w w' r) :
    w' = w ∨ ∃ req r', (h.authService.register req).Runs w w' r' := by
  simp only [register, Prog.bind_eq, Prog.pure_eq] at hr
  split at hr
  · exact .inl hr.1.symm
  · refine .inr ⟨_, Prog.runs_of_bind_pure (fun a => ?_) hr⟩
    rcases a with _ | _ <;> dsimp only
    · split <;> exact ⟨_, rfl⟩
    · exact ⟨_, rfl⟩

theorem login_runs_call {bound : Except String LoginRequest} (hr : (h.login bound).Runs w w' r) :
    w' = w ∨ ∃ req r', (h.authService.login req).Runs w w' r' := by
  simp only [login, Prog.bind_eq, Prog.pure_eq] at hr
  split at hr
  · exact .inl hr.1.symm
  · exact .inr ⟨_, Prog.runs_of_bind_pure (fun a => by rcases a with _ | _ <;> exact ⟨_, rfl⟩) hr⟩

theorem refresh_runs_call {cookie : Option TokenString} (hr : (h.refresh cookie).Runs w w' r) :
    w' = w ∨ ∃ t r', (h.authService.refreshToken t).Runs w w' r' := by
  simp only [refresh, Prog.bind_eq, Prog.pure_eq] at hr
  split at hr
  · exact .inl hr.1.symm
  · exact .inr ⟨_, Prog.runs_of_bind_pure (fun a => by rcases a with _ | _ <;> exact ⟨_, rfl⟩) hr⟩

theorem logout_runs_call {userID : Option String} {cookie : Option TokenString}
    (hr : (h.logout userID cookie).Runs w w' r) :
    w' = w ∨ ∃ u t r', (h.authService.logout u t).Runs w w' r' := by
  simp only [logout, Prog.bind_eq, Prog.pure_eq] at hr
  split at hr
  · exact .inl hr.1.symm
  · exact .inr ⟨_, _, Prog.runs_of_bind_pure (fun a => by rcases a with _ | _ <;> exact ⟨_, rfl⟩) hr⟩

/-- With a user in the context, `Logout` runs the service's logout as that user,
on the cookie's token. -/
theorem logout_runs_some {u : String} {cookie : Option TokenString} (hr : (h.logout (some u) cookie).Runs w w' r) :
    ∃ b, (h.authService.logout u (cookie.getD emptyToken)).Runs w w' b := by
  simp only [logout, Prog.bind_eq, Prog.pure_eq] at hr
  exact Prog.runs_of_bind_pure (fun a => by rcases a with _ | _ <;> exact ⟨_, rfl⟩) hr

theorem getMe_runs_call {userID : Option String} (hr : (getMe userID).Runs w w' r) :
    w' = w ∨ ∃ u r', (AuthService.getUser u).Runs w w' r' := by
  simp only [getMe, Prog.bind_eq, Prog.pure_eq] at hr
  split at hr
  · exact .inl hr.1.symm
  · exact .inr ⟨_, Prog.runs_of_bind_pure (fun a => by rcases a with _ | _ <;> exact ⟨_, rfl⟩) hr⟩

end Calls

/-! ## What register answers -/

/-- The only error of `register` whose text holds "already exists" is the one for
a stored email, and it arises exactly when the email and password are well
formed: the password rule holds no `y`, and the not-found text holds the
request's email, which has no blank, between two fixed texts that hold neither
half of "already exists". -/
theorem registerError_conflict (req : RegisterRequest) (found : Option User) :
    contains (AuthService.registerError req found).text "already exists" =
      (validateEmail req.email && validatePassword req.password && found.isSome) := by
  unfold AuthService.registerError
  cases he : validateEmail req.email
  · rfl
  cases hp : validatePassword req.password
  · simp only [Bool.not_true, Bool.not_false, Bool.false_eq_true, if_true, if_false]
    exact contains_eq_false_of_not_mem (c := 'y') (by decide) (by decide)
  simp only [Bool.not_true, Bool.false_eq_true, if_false]
  cases found with
  | some u => exact contains_append_right _ (by decide)
  | none =>
    dsimp only
    have htext : (GoError.wrap "failed to check user existence: " (.wrap ("user with email " ++
        req.email ++ " not found: ") (.sentinel .notFound))).text =
        "failed to check user existence: user with email " ++ req.email ++ " not found: record not found" := by
      simp only [GoError.text, Sentinel.text, String.append_assoc]; rfl
    refine Bool.eq_false_iff.2 fun hc => ?_
    rw [htext, show "already exists" = "already" ++ " " ++ "exists" from rfl] at hc
    rcases contains_of_blank_free (validateEmail_no_space he) hc with h | h <;> revert h <;> decide

/-- `register` never changes the stores; it answers 409 `Conflict` exactly when
the email and password are well formed and the raw email is stored, and 400
`Bad request` otherwise. -/
theorem register_response (req : RegisterRequest) (w : World) :
    (h.register (.ok req)).run w = (w,
      let err := AuthService.registerError req (w.users.find? (·.email == req.email))
      if validateEmail req.email && validatePassword req.password &&
          (w.users.find? (·.email == req.email)).isSome then errorJSON 409 "Conflict" err.text
      else errorJSON 400 "Bad request" err.text) := by
  rw [register_run_ok, AuthService.register_run]
  dsimp only
  rw [registerError_conflict]

/-! ## What a rejected login answers -/

end AuthHandler

end AuthLifecycle.Handler

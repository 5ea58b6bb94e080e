import AuthLifecycle.Repository
/-!
# Service.Auth — the credential lifecycle engine (`service/auth_service.go`, `service/auth_response.go`)

`authService` with its six operations, line by line. Each operation is a
`Prog`, so that its store calls, clock reads and UUID draws are the atomic
steps the store sees; the `JWTManager` methods come first, as the programs that
read the clock and draw the `jti` around `Utils.Jwt`.

Two comparisons in the Go code are against the sentinel `ErrNotFound` with
`==`, which a wrapped error never equals (`GoError.wrap_ne_sentinel`): the
existence check of `register` and the not-found branches of `login` and
`refreshToken` therefore take their other branch.
-/

namespace AuthLifecycle.Utils.JWTManager

open AuthLifecycle.Go AuthLifecycle.Store

set_option autoImplicit false

variable (j : JWTManager)

/-- `JWTManager.GenerateAccessToken`. Signing with an HMAC key cannot fail. -/
def generateAccessToken (userID email : String) : Prog (Except GoError TokenString) := do
  let t₁ ← timeNow
  let t₂ ← timeNow
  pure (.ok (j.accessTokenAt userID email t₁ t₂))

/-- `JWTManager.GenerateRefreshToken`. -/
def generateRefreshToken (userID : String) : Prog (Except GoError TokenString) := do
  let t₁ ← timeNow
  let t₂ ← timeNow
  let jti ← uuidNew
  pure (.ok (j.refreshTokenAt userID t₁ t₂ jti))

/-- `JWTManager.ValidateToken`. -/
def validateToken (token : TokenString) : Prog (Except GoError TokenClaims) := do
  let t₁ ← timeNow
  let t₂ ← timeNow
  pure (j.validateTokenAt token t₁ t₂)

/-- `JWTManager.ValidateRefreshToken`. -/
def validateRefreshToken (token : TokenString) : Prog (Except GoError String) := do
  let t₁ ← timeNow
  let t₂ ← timeNow
  pure (j.validateRefreshTokenAt token t₁ t₂)

end AuthLifecycle.Utils.JWTManager

namespace AuthLifecycle.Service

open AuthLifecycle.Go AuthLifecycle.Utils AuthLifecycle.Store AuthLifecycle.Repository

set_option autoImplicit false

/-! ## Requests and responses (`dto`) -/

/-- `dto.RegisterRequest`. -/
structure RegisterRequest where
  email : String
  password : String
  deriving DecidableEq, Repr

/-- `dto.LoginRequest`. -/
structure LoginRequest where
  email : String
  password : String
  deriving DecidableEq, Repr

/-- `dto.UserInfo`. -/
structure UserInfo where
  id : String
  email : String
  deriving DecidableEq, Repr

/-- `dto.AuthResponse`. -/
structure AuthResponse where
  accessToken : TokenString
  tokenType : String
  expiresIn : Int
  user : UserInfo
  deriving DecidableEq, Repr

/-- `AuthResponseWithRefreshToken`. -/
structure AuthResponseWithRefreshToken where
  authResponse : AuthResponse
  refreshToken : TokenString
  expiresIn : Int
  deriving DecidableEq, Repr

/-- `dto.UserResponse`, with its instants unformatted. -/
structure UserResponse where
  id : String
  email : String
  createdAt : Int
  updatedAt : Int
  lastLoginAt : Option Int
  isEmailVerified : Bool
  deriving DecidableEq, Repr

/-! ## authService -/

/-- `authService`: its configuration; the repositories and the blacklist are the
stores of the world. `NewApp` passes the same configured refresh lifetime to the
service and to its `JWTManager`. -/
structure AuthService where
  jwtManager : JWTManager
  bcryptCost : Int
  refreshTokenExpiry : Duration
  expiry_eq : refreshTokenExpiry = jwtManager.refreshTokenExpiry

/-- `hashToken`: the hex SHA-256 digest of the token string. -/
def hashToken (token : TokenString) : Digest := ⟨token⟩

/-- The empty token string the boundary passes when no cookie was sent. -/
def emptyToken : TokenString := .malformed ""

namespace AuthService

variable (s : AuthService)

/-- `generateAuthResponseWithRefreshToken`: issue a pair and persist the refresh
token's digest; the pair is returned only if the row was stored. -/
def generateAuthResponseWithRefreshToken (user : User) :
    Prog (Except GoError AuthResponseWithRefreshToken) := do
  match ← s.jwtManager.generateAccessToken user.id user.email with
  | .error err => return .error (.wrap "failed to generate access token: " err)
  | .ok accessToken =>
  match ← s.jwtManager.generateRefreshToken user.id with
  | .error err => return .error (.wrap "failed to generate refresh token: " err)
  | .ok refreshToken =>
  let tokenHash := hashToken refreshToken
  let now ← timeNow
  let entity : RefreshToken :=
    { id := "", userID := user.id, tokenHash, expiresAt := now + s.refreshTokenExpiry.ns,
      createdAt := zeroTime, deviceInfo := none, ipAddress := none }
  match ← TokenRepository.create entity with
  | .error err => return .error (.wrap "failed to save refresh token: " err)
  | .ok () =>
    return .ok
      { authResponse :=
          { accessToken, tokenType := "Bearer", expiresIn := s.jwtManager.getAccessTokenExpiry,
            user := { id := user.id, email := user.email } }
        refreshToken
        expiresIn := s.refreshTokenExpiry.ns.tdiv (10 ^ 9) }

/-- `authService.Register`. -/
def register (req : RegisterRequest) : Prog (Except GoError AuthResponseWithRefreshToken) := do
  if !validateEmail req.email then return .error (.new "invalid email format")
  if !validatePassword req.password then
    return .error (.new
      "password must be at least 8 characters long and contain uppercase, lowercase, and number")
  match ← UserRepository.getByEmail req.email with
  | .ok _ => return .error (.new ("user with email " ++ req.email ++ " already exists"))
  | .error err =>
  if err ≠ .sentinel .notFound then
    return .error (.wrap "failed to check user existence: " err)
  match hashPassword req.password s.bcryptCost with
  | .error err => return .error (.wrap "failed to hash password: " err)
  | .ok passwordHash =>
  let user : User :=
    { id := "", email := sanitizeEmail req.email, passwordHash, createdAt := zeroTime,
      updatedAt := zeroTime, lastLoginAt := none, isActive := true, isEmailVerified := false }
  match ← UserRepository.create user with
  | .error err => return .error (.wrap "failed to create user: " err)
  | .ok user => s.generateAuthResponseWithRefreshToken user

/-- `authService.Login`. -/
def login (req : LoginRequest) : Prog (Except GoError AuthResponseWithRefreshToken) := do
  match ← UserRepository.getByEmail (sanitizeEmail req.email) with
  | .error err =>
    if err = .sentinel .notFound then return .error (.new "invalid email or password")
    return .error (.wrap "failed to get user: " err)
  | .ok user =>
  if !user.isActive then return .error (.new "user account is inactive")
  if !checkPasswordHash req.password user.passwordHash then
    return .error (.new "invalid email or password")
  let _ ← UserRepository.updateLastLogin user.id
  s.generateAuthResponseWithRefreshToken user

/-- `authService.RefreshToken`. -/
def refreshToken (token : TokenString) : Prog (Except GoError AuthResponseWithRefreshToken) := do
  match ← s.jwtManager.validateRefreshToken token with
  | .error err => return .error (.wrap "invalid refresh token: " err)
  | .ok userID =>
  let tokenHash := hashToken token
  match ← TokenRepository.getByTokenHash tokenHash with
  | .error err =>
    if err = .sentinel .notFound then return .error (.new "invalid refresh token")
    return .error (.wrap "failed to get token: " err)
  | .ok dbToken =>
  let now ← timeNow
  if dbToken.expiresAt < now then return .error (.new "refresh token expired")
  match ← TokenBlacklistService.isTokenBlacklisted token with
  | .error err => return .error (.wrap "failed to check token blacklist: " err)
  | .ok true => return .error (.new "refresh token is blacklisted")
  | .ok false =>
  match ← UserRepository.getByID userID with
  | .error err => return .error (.wrap "failed to get user: " err)
  | .ok user =>
  if !user.isActive then return .error (.new "user account is inactive")
  let _ ← TokenBlacklistService.addToken token s.refreshTokenExpiry
  let _ ← TokenRepository.deleteByTokenHash tokenHash
  s.generateAuthResponseWithRefreshToken user

/-- `authService.Logout`: revokes the token only when its row is found and owned by `userID`. -/
def logout (userID : String) (token : TokenString) : Prog (Except GoError Unit) := do
  if token ≠ emptyToken then
    let tokenHash := hashToken token
    match ← TokenRepository.getByTokenHash tokenHash with
    | .ok dbToken =>
      if dbToken.userID = userID then
        let _ ← TokenBlacklistService.addToken token s.refreshTokenExpiry
        let _ ← TokenRepository.deleteByTokenHash tokenHash
    | .error _ => pure ()
  return .ok ()

/-- `authService.GetUser`. -/
def getUser (userID : String) : Prog (Except GoError UserResponse) := do
  match ← UserRepository.getByID userID with
  | .error err => return .error (.wrap "failed to get user: " err)
  | .ok user =>
    return .ok ⟨user.id, user.email, user.createdAt, user.updatedAt, user.lastLoginAt,
      user.isEmailVerified⟩

/-- `authService.ValidateToken`. -/
def validateToken (token : TokenString) : Prog (Except GoError TokenClaims) := do
  match ← TokenBlacklistService.isTokenBlacklisted token with
  | .error err => return .error (.wrap "failed to check token blacklist: " err)
  | .ok true => return .error (.new "token is blacklisted")
  | .ok false =>
  match ← s.jwtManager.validateToken token with
  | .error err => return .error (.wrap "invalid token: " err)
  | .ok claims => return .ok claims

end AuthService

end AuthLifecycle.Service

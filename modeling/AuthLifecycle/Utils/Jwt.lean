import AuthLifecycle.Go.Runtime
/-!
# Utils.Jwt — signed tokens (`utils/jwt.go`, `domain/token.go`)

Tokens are symbolic: a well-formed token string is a JWS, its header
algorithm, its claims and a signature; anything else is `malformed`. An HMAC
signature is the term `Signature.hmac alg key input`, so it verifies under
`secret` exactly when it was made with `secret` over the same header and claims
(perfect cryptography). Claims are kept in the order `json.Marshal` writes a
`jwt.MapClaims`, sorted by key; decoding reads numbers back as `float64`.

`parse` is `jwt.Parse` with the manager's key function: the key function
admits every `*jwt.SigningMethodHMAC` (HS256, HS384 and HS512), then the
signature is checked, then the registered claims `exp` and `nbf` at the
clock reading, each failed check reported and the reports joined, as jwt/v5's
default validator does (`checkRegistered`). The manager's methods take their clock readings and UUID as
arguments here (`accessTokenAt`, `validateTokenAt`, …); the programs that read
them are in `Service.Auth`.

The round trips: a token `accessTokenAt` signed validates under
`validateTokenAt` before its `exp` (`validateTokenAt_accessTokenAt`), and a
refresh token under `validateRefreshTokenAt`. Both rest on
the integers written being read back exactly through `float64`
(`float64OfInt_unix`): every instant the code writes is an int64 count of
nanoseconds, so its Unix seconds lie far below `2 ^ 53`.

What validation accepts: a token `jwt.Parse` accepted is a JWS signed with the
secret under one of the three HMAC methods (`parse_eq_ok`), so `ValidateToken`
and `ValidateRefreshToken` accept HS384 and HS512 as well as the HS256 the
manager signs with (`validated_token_is_hmac`). An access token has no `type`
claim and a refresh token no `email` claim, so neither validator accepts the
other kind (`validateRefreshTokenAt_accessTokenAt`,
`validateTokenAt_refreshTokenAt`).
-/

namespace AuthLifecycle.Utils

open AuthLifecycle.Go

set_option autoImplicit false

/-- A JWS header algorithm that `jwt.GetSigningMethod` knows. -/
inductive Alg where
  | HS256 | HS384 | HS512
  | RS256 | RS384 | RS512
  | ES256 | ES384 | ES512
  | PS256 | PS384 | PS512
  | EdDSA
  | none
  deriving DecidableEq, Repr

/-- The header's `alg` text, as `jwt.GetSigningMethod` is keyed. -/
def Alg.name : Alg → String
  | .HS256 => "HS256" | .HS384 => "HS384" | .HS512 => "HS512"
  | .RS256 => "RS256" | .RS384 => "RS384" | .RS512 => "RS512"
  | .ES256 => "ES256" | .ES384 => "ES384" | .ES512 => "ES512"
  | .PS256 => "PS256" | .PS384 => "PS384" | .PS512 => "PS512"
  | .EdDSA => "EdDSA"
  | .none => "none"

/-- The methods that are a `*jwt.SigningMethodHMAC`. -/
def Alg.isHMAC : Alg → Bool
  | .HS256 | .HS384 | .HS512 => true
  | _ => false

/-- A JSON value of a claim. The code writes strings and integers only. -/
inductive JsonValue where
  | str (s : String)
  | num (n : Int)
  | bool (b : Bool)
  | null
  deriving DecidableEq, Repr

/-- A JSON object of claims, in the order of its text. -/
abbrev Claims := List (String × JsonValue)

/-- `claims[key]` after `json.Unmarshal` into a map: a repeated key keeps its last value. -/
def claimOf (claims : Claims) (key : String) : Option JsonValue :=
  (claims.reverse.find? (·.1 == key)).map (·.2)

/-- `json.Unmarshal` into `interface{}`: every number becomes a `float64`. -/
def JsonValue.decode : JsonValue → JsonValue
  | .num n => .num (float64OfInt n)
  | v => v

/-- What an HMAC signs: the header's algorithm and the claims. -/
structure SigningInput where
  alg : Alg
  claims : Claims
  deriving DecidableEq, Repr

/-- A JWS signature: an HMAC term, or any other bytes. -/
inductive Signature where
  | hmac (alg : Alg) (key : String) (input : SigningInput)
  | raw (text : String)
  deriving DecidableEq, Repr

/-- A token string: a compact JWS, or text that does not parse as one. -/
inductive TokenString where
  | jws (alg : Alg) (claims : Claims) (signature : Signature)
  | malformed (text : String)
  deriving DecidableEq, Repr

/-- `jwt.NewWithClaims(jwt.SigningMethodHS256, claims).SignedString(secret)`. -/
def signHS256 (secret : String) (claims : Claims) : TokenString :=
  .jws .HS256 claims (.hmac .HS256 secret ⟨.HS256, claims⟩)

/-- `jwt.NewWithClaims(method, claims).SignedString(secret)` for the HMAC method `alg`. -/
def signHMAC (alg : Alg) (secret : String) (claims : Claims) : TokenString :=
  .jws alg claims (.hmac alg secret ⟨alg, claims⟩)

/-! ## jwt.Parse -/

/-- `verifyExpiresAt` of jwt/v5's default validator at clock `now`: `exp`, when
present, must be a number strictly after `now`. -/
def expError (claims : Claims) (now : Nat) : Option String :=
  match claimOf claims "exp" with
  | some (.num exp) => if now < exp * 10 ^ 9 then Option.none else some "token is expired"
  | some _ => some "invalid type for claim: exp is invalid"
  | Option.none => Option.none

/-- `verifyNotBefore`: `nbf`, when present, must be a number not after `now`. -/
def nbfError (claims : Claims) (now : Nat) : Option String :=
  match claimOf claims "nbf" with
  | some (.num nbf) => if nbf * 10 ^ 9 ≤ now then Option.none else some "token is not valid yet"
  | some _ => some "invalid type for claim: nbf is invalid"
  | Option.none => Option.none

/-- `Validator.Validate` as `jwt.Parse` reports it: every failed check, joined
with `", "` after `ErrTokenInvalidClaims`. -/
def checkRegistered (claims : Claims) (now : Nat) : Except GoError Unit :=
  match (expError claims now).toList ++ (nbfError claims now).toList with
  | [] => .ok ()
  | errs => .error (.new ("token has invalid claims: " ++ ", ".intercalate errs))

/-- `jwt.Parse(tokenString, keyFunc)` where `keyFunc` returns `secret` for every HMAC
method and refuses the others; the result is the decoded `jwt.MapClaims`. -/
def parse (secret : String) (now : Nat) : TokenString → Except GoError Claims
  | .malformed _ => .error (.new "token is malformed: token contains an invalid number of segments")
  | .jws alg claims signature =>
      if !alg.isHMAC then
        .error (.new ("token is unverifiable: error while executing keyfunc: unexpected signing method: " ++
          alg.name))
      else if signature ≠ .hmac alg secret ⟨alg, claims⟩ then
        .error (.new "token signature is invalid: signature is invalid")
      else
        let decoded := claims.map fun kv => (kv.1, kv.2.decode)
        (checkRegistered decoded now).map fun _ => decoded

/-- The Unix seconds of an instant within twice the int64 range of nanoseconds
survive the `float64` round trip of JSON decoding. -/
theorem float64OfInt_unix {t : Int} (h₁ : -2 ^ 64 ≤ t) (h₂ : t < 2 ^ 64) :
    float64OfInt (unix t) = unix t :=
  float64OfInt_of_lt (by unfold unix; omega)

@[simp] theorem decode_str (s : String) : (JsonValue.str s).decode = .str s := rfl

/-- Decoding keeps the keys, so a decoded claim is the decoded value of the claim. -/
theorem claimOf_decode (claims : Claims) (key : String) :
    claimOf (claims.map fun kv => (kv.1, kv.2.decode)) key = (claimOf claims key).map JsonValue.decode := by
  simp [claimOf, ← List.map_reverse, List.find?_map, Function.comp_def, Option.map_map]

/-- What `jwt.Parse` accepts: a JWS whose header names an HMAC method and whose
signature is that HMAC under `secret` over its own header and claims; it returns
the decoded claims. -/
theorem parse_eq_ok {secret : String} {now : Nat} {token : TokenString} {claims : Claims}
    (h : parse secret now token = .ok claims) :
    ∃ alg body, alg.isHMAC ∧ token = .jws alg body (.hmac alg secret ⟨alg, body⟩) ∧
      claims = body.map fun kv => (kv.1, kv.2.decode) := by
  cases token with
  | malformed => cases h
  | jws alg body sig =>
    simp only [parse] at h
    split at h
    · cases h
    split at h
    · cases h
    rename_i hmac hsig
    cases hc : checkRegistered (body.map fun kv => (kv.1, kv.2.decode)) now <;> rw [hc] at h <;> cases h
    exact ⟨alg, body, by simpa using hmac, by rw [not_not.1 hsig], rfl⟩

/-- The claims `jwt.Parse` returns for a JWS are the decoded claims it carries. -/
theorem parse_claimOf {secret : String} {now : Nat} {alg : Alg} {body claims : Claims} {sig : Signature}
    (h : parse secret now (.jws alg body sig) = .ok claims) (key : String) :
    claimOf claims key = (claimOf body key).map JsonValue.decode := by
  obtain ⟨_, _, _, he, rfl⟩ := parse_eq_ok h
  cases he
  exact claimOf_decode _ _

/-- The `exp` claim a token carries, when it is a number. -/
def TokenString.expClaim : TokenString → Option Int
  | .jws _ claims _ =>
    match claimOf claims "exp" with
    | some (.num exp) => some exp
    | _ => none
  | .malformed _ => none

/-! ## JWTManager -/

/-- `JWTManager`: the signing secret and the two token lifetimes. -/
structure JWTManager where
  secret : String
  accessTokenExpiry : Duration
  refreshTokenExpiry : Duration

/-- `domain.TokenClaims`. -/
structure TokenClaims where
  userID : String
  email : String
  exp : Int
  iat : Int
  deriving DecidableEq, Repr

/-- `TokenClaims.IsExpired` at clock `now`. -/
def TokenClaims.isExpired (tc : TokenClaims) (now : Nat) : Bool := decide (tc.exp < unix now)

namespace JWTManager

variable (j : JWTManager)

/-- The claims `GenerateAccessToken` signs; `t₁` and `t₂` are its two readings of the clock. -/
def accessClaims (userID email : String) (t₁ t₂ : Nat) : Claims :=
  [("email", .str email), ("exp", .num (unix (t₁ + j.accessTokenExpiry.ns))),
    ("iat", .num (unix t₂)), ("user_id", .str userID)]

/-- The claims `GenerateRefreshToken` signs; `jti` is the UUID it draws. -/
def refreshClaims (userID : String) (t₁ t₂ : Nat) (jti : String) : Claims :=
  [("exp", .num (unix (t₁ + j.refreshTokenExpiry.ns))), ("iat", .num (unix t₂)),
    ("jti", .str jti), ("type", .str "refresh"), ("user_id", .str userID)]

/-- The token `GenerateAccessToken` signs at clock readings `t₁` and `t₂`. -/
def accessTokenAt (userID email : String) (t₁ t₂ : Nat) : TokenString :=
  signHS256 j.secret (j.accessClaims userID email t₁ t₂)

/-- The token `GenerateRefreshToken` signs at clock readings `t₁` and `t₂`, with UUID `jti`. -/
def refreshTokenAt (userID : String) (t₁ t₂ : Nat) (jti : String) : TokenString :=
  signHS256 j.secret (j.refreshClaims userID t₁ t₂ jti)

/-- `ValidateToken` at its clock readings: `t₁` is the one `jwt.Parse` makes, `t₂` the one
`IsExpired` makes. -/
def validateTokenAt (token : TokenString) (t₁ t₂ : Nat) : Except GoError TokenClaims :=
  match parse j.secret t₁ token with
  | .error e => .error (.wrap "failed to parse token: " e)
  | .ok claims =>
    match claimOf claims "user_id", claimOf claims "email", claimOf claims "exp",
        claimOf claims "iat" with
    | some (.str userID), some (.str email), some (.num exp), some (.num iat) =>
        let tc : TokenClaims := ⟨userID, email, exp, iat⟩
        if tc.isExpired t₂ then .error (.new "token is expired") else .ok tc
    | some (.str _), some (.str _), some (.num _), _ => .error (.new "invalid iat in token")
    | some (.str _), some (.str _), _, _ => .error (.new "invalid exp in token")
    | some (.str _), _, _, _ => .error (.new "invalid email in token")
    | _, _, _, _ => .error (.new "invalid user_id in token")

/-- `ValidateRefreshToken` at its clock readings: `t₁` is the one `jwt.Parse` makes, `t₂`
the explicit expiry check's. -/
def validateRefreshTokenAt (token : TokenString) (t₁ t₂ : Nat) : Except GoError String :=
  match parse j.secret t₁ token with
  | .error e => .error (.wrap "failed to parse token: " e)
  | .ok claims =>
    if claimOf claims "type" ≠ some (.str "refresh") then .error (.new "invalid token type")
    else
      match claimOf claims "user_id", claimOf claims "exp" with
      | some (.str userID), some (.num exp) =>
          if exp < unix t₂ then .error (.new "token is expired") else .ok userID
      | some (.str _), _ => .error (.new "invalid exp in token")
      | _, _ => .error (.new "invalid user_id in token")

/-- `GetAccessTokenExpiry`: `int(accessTokenExpiry.Seconds())`, truncated toward zero. -/
def getAccessTokenExpiry : Int := j.accessTokenExpiry.ns.tdiv (10 ^ 9)

/-! ## Round trips -/

/-- The `exp` claim of an access token signed at clock reading `t₁`. -/
def accessExp (t₁ : Nat) : Int := unix (t₁ + j.accessTokenExpiry.ns)

/-- The `exp` claim of a refresh token signed at clock reading `t₁`. -/
def refreshExp (t₁ : Nat) : Int := unix (t₁ + j.refreshTokenExpiry.ns)

variable {j}

theorem decode_unix_add {t₁ : Nat} (d : Duration) (h : t₁ < 2 ^ 63) :
    JsonValue.decode (.num (unix (t₁ + d.ns))) = .num (unix (t₁ + d.ns)) := by
  have := d.ge_min; have := d.lt_max
  rw [JsonValue.decode, float64OfInt_unix] <;> omega

theorem decode_unix {t : Nat} (h : t < 2 ^ 63) : JsonValue.decode (.num (unix t)) = .num (unix t) := by
  rw [JsonValue.decode, float64OfInt_unix] <;> omega

theorem decode_accessClaims {userID email : String} {t₁ t₂ : Nat} (h₁ : t₁ < 2 ^ 63) (h₂ : t₂ < 2 ^ 63) :
    (j.accessClaims userID email t₁ t₂).map (fun kv => (kv.1, kv.2.decode)) =
      j.accessClaims userID email t₁ t₂ := by
  simp [accessClaims, decode_unix_add _ h₁, decode_unix h₂]

theorem decode_refreshClaims {userID jti : String} {t₁ t₂ : Nat} (h₁ : t₁ < 2 ^ 63) (h₂ : t₂ < 2 ^ 63) :
    (j.refreshClaims userID t₁ t₂ jti).map (fun kv => (kv.1, kv.2.decode)) =
      j.refreshClaims userID t₁ t₂ jti := by
  simp [refreshClaims, decode_unix_add _ h₁, decode_unix h₂]

/-- `jwt.Parse` accepts the access claims signed with the secret under any HMAC
method, not only under the HS256 that `GenerateAccessToken` uses. -/
theorem parse_hmac_accessClaims {alg : Alg} (halg : alg.isHMAC = true) {userID email : String}
    {t₁ t₂ now : Nat} (h₁ : t₁ < 2 ^ 63) (h₂ : t₂ < 2 ^ 63) (hnow : now < j.accessExp t₁ * 10 ^ 9) :
    parse j.secret now (signHMAC alg j.secret (j.accessClaims userID email t₁ t₂)) =
      .ok (j.accessClaims userID email t₁ t₂) := by
  simp only [parse, signHMAC, halg, decode_accessClaims h₁ h₂]
  simp only [accessExp, Int.reducePow] at hnow
  simp [checkRegistered, expError, nbfError, claimOf, accessClaims, hnow, Except.map]

theorem parse_accessTokenAt {userID email : String} {t₁ t₂ now : Nat} (h₁ : t₁ < 2 ^ 63)
    (h₂ : t₂ < 2 ^ 63) (hnow : now < j.accessExp t₁ * 10 ^ 9) :
    parse j.secret now (j.accessTokenAt userID email t₁ t₂) = .ok (j.accessClaims userID email t₁ t₂) :=
  parse_hmac_accessClaims (show Alg.HS256.isHMAC = true from rfl) h₁ h₂ hnow

theorem parse_refreshTokenAt {userID jti : String} {t₁ t₂ now : Nat} (h₁ : t₁ < 2 ^ 63)
    (h₂ : t₂ < 2 ^ 63) (hnow : now < j.refreshExp t₁ * 10 ^ 9) :
    parse j.secret now (j.refreshTokenAt userID t₁ t₂ jti) = .ok (j.refreshClaims userID t₁ t₂ jti) := by
  simp only [parse, refreshTokenAt, signHS256, Alg.isHMAC, decode_refreshClaims h₁ h₂]
  simp only [refreshExp, Int.reducePow] at hnow
  simp [checkRegistered, expError, nbfError, claimOf, refreshClaims, hnow, Except.map]

/-- `ValidateToken` accepts the access claims signed under any HMAC method. -/
theorem validateTokenAt_hmac_accessClaims {alg : Alg} (halg : alg.isHMAC = true) {userID email : String}
    {t₁ t₂ now now' : Nat} (h₁ : t₁ < 2 ^ 63) (h₂ : t₂ < 2 ^ 63) (hnow : now < j.accessExp t₁ * 10 ^ 9)
    (hnow' : now' < j.accessExp t₁ * 10 ^ 9) :
    j.validateTokenAt (signHMAC alg j.secret (j.accessClaims userID email t₁ t₂)) now now' =
      .ok ⟨userID, email, j.accessExp t₁, unix t₂⟩ := by
  have : ¬j.accessExp t₁ < unix now' := by unfold unix; omega
  rw [validateTokenAt, parse_hmac_accessClaims halg h₁ h₂ hnow]
  simp only [accessExp] at this ⊢
  simp [claimOf, accessClaims, TokenClaims.isExpired, this]

theorem validateTokenAt_accessTokenAt {userID email : String} {t₁ t₂ now now' : Nat} (h₁ : t₁ < 2 ^ 63)
    (h₂ : t₂ < 2 ^ 63) (hnow : now < j.accessExp t₁ * 10 ^ 9) (hnow' : now' < j.accessExp t₁ * 10 ^ 9) :
    j.validateTokenAt (j.accessTokenAt userID email t₁ t₂) now now' =
      .ok ⟨userID, email, j.accessExp t₁, unix t₂⟩ :=
  validateTokenAt_hmac_accessClaims (show Alg.HS256.isHMAC = true from rfl) h₁ h₂ hnow hnow'

theorem validateRefreshTokenAt_refreshTokenAt {userID jti : String} {t₁ t₂ now now' : Nat}
    (h₁ : t₁ < 2 ^ 63) (h₂ : t₂ < 2 ^ 63) (hnow : now < j.refreshExp t₁ * 10 ^ 9)
    (hnow' : now' < j.refreshExp t₁ * 10 ^ 9) :
    j.validateRefreshTokenAt (j.refreshTokenAt userID t₁ t₂ jti) now now' = .ok userID := by
  have : ¬j.refreshExp t₁ < unix now' := by unfold unix; omega
  simp only [refreshExp] at this
  simp [validateRefreshTokenAt, parse_refreshTokenAt h₁ h₂ hnow, claimOf, refreshClaims, this]


/-! ## Token identity -/

@[simp] theorem expClaim_accessTokenAt {userID email : String} {t₁ t₂ : Nat} :
    (j.accessTokenAt userID email t₁ t₂).expClaim = some (j.accessExp t₁) := by
  simp [accessTokenAt, signHS256, TokenString.expClaim, claimOf, accessClaims, accessExp]

@[simp] theorem expClaim_refreshTokenAt {userID jti : String} {t₁ t₂ : Nat} :
    (j.refreshTokenAt userID t₁ t₂ jti).expClaim = some (j.refreshExp t₁) := by
  simp [refreshTokenAt, signHS256, TokenString.expClaim, claimOf, refreshClaims, refreshExp]

/-- A refresh token determines its subject, its `exp` and its `jti`. -/
theorem refreshTokenAt_inj {userID userID' jti jti' : String} {t₁ t₂ t₁' t₂' : Nat}
    (h : j.refreshTokenAt userID t₁ t₂ jti = j.refreshTokenAt userID' t₁' t₂' jti') :
    userID = userID' ∧ j.refreshExp t₁ = j.refreshExp t₁' ∧ jti = jti' := by
  simp only [refreshTokenAt, signHS256, refreshClaims, TokenString.jws.injEq, List.cons.injEq,
    Prod.mk.injEq, JsonValue.str.injEq, JsonValue.num.injEq] at h
  obtain ⟨-, ⟨⟨-, hexp⟩, -, ⟨-, hjti⟩, -, ⟨-, huser⟩, -⟩, -⟩ := h
  exact ⟨huser, hexp, hjti⟩

/-- After its `exp`, a refresh token fails `jwt.Parse`. -/
theorem validateRefreshTokenAt_of_expired {userID jti : String} {t₁ t₂ now now' : Nat}
    (h₁ : t₁ < 2 ^ 63) (h₂ : t₂ < 2 ^ 63) (hnow : j.refreshExp t₁ * 10 ^ 9 ≤ now) :
    j.validateRefreshTokenAt (j.refreshTokenAt userID t₁ t₂ jti) now now' =
      .error (.wrap "failed to parse token: " (.new "token has invalid claims: token is expired")) := by
  have : ¬(now : Int) < unix (t₁ + j.refreshTokenExpiry.ns) * 1000000000 := by
    simp only [refreshExp] at hnow; omega
  simp only [validateRefreshTokenAt, parse, refreshTokenAt, signHS256, Alg.isHMAC,
    decode_refreshClaims h₁ h₂]
  simp [checkRegistered, expError, nbfError, claimOf, refreshClaims, this, Except.map]
  rfl

/-- After its `exp`, an access token fails `jwt.Parse`. -/
theorem validateTokenAt_of_expired {userID email : String} {t₁ t₂ now now' : Nat}
    (h₁ : t₁ < 2 ^ 63) (h₂ : t₂ < 2 ^ 63) (hnow : j.accessExp t₁ * 10 ^ 9 ≤ now) :
    j.validateTokenAt (j.accessTokenAt userID email t₁ t₂) now now' =
      .error (.wrap "failed to parse token: " (.new "token has invalid claims: token is expired")) := by
  have : ¬(now : Int) < unix (t₁ + j.accessTokenExpiry.ns) * 1000000000 := by
    simp only [accessExp] at hnow; omega
  simp only [validateTokenAt, parse, accessTokenAt, signHS256, Alg.isHMAC, decode_accessClaims h₁ h₂]
  simp [checkRegistered, expError, nbfError, claimOf, accessClaims, this, Except.map]
  rfl

/-- No access token is a refresh token: their first claims differ. -/
theorem accessTokenAt_ne_refreshTokenAt {userID email userID' jti : String} {t₁ t₂ t₁' t₂' : Nat} :
    j.accessTokenAt userID email t₁ t₂ ≠ j.refreshTokenAt userID' t₁' t₂' jti := by
  simp [accessTokenAt, refreshTokenAt, signHS256, accessClaims, refreshClaims]

/-! ## What validation accepts -/

/-- `ValidateToken` returns claims only for a token `jwt.Parse` accepted, carrying
an `email` string. -/
theorem validateTokenAt_eq_ok {token : TokenString} {t₁ t₂ : Nat} {tc : TokenClaims}
    (h : j.validateTokenAt token t₁ t₂ = .ok tc) :
    ∃ claims, parse j.secret t₁ token = .ok claims ∧ claimOf claims "email" = some (.str tc.email) := by
  unfold validateTokenAt at h
  split at h
  · cases h
  rename_i claims _
  split at h
  · refine ⟨claims, ‹_›, ?_⟩
    dsimp only at h
    split at h <;> cases h
    assumption
  all_goals cases h

/-- `ValidateRefreshToken` returns a subject only for a token `jwt.Parse` accepted,
whose `type` is `refresh`. -/
theorem validateRefreshTokenAt_eq_ok {token : TokenString} {t₁ t₂ : Nat} {userID : String}
    (h : j.validateRefreshTokenAt token t₁ t₂ = .ok userID) :
    ∃ claims, parse j.secret t₁ token = .ok claims ∧ claimOf claims "type" = some (.str "refresh") := by
  unfold validateRefreshTokenAt at h
  split at h
  · cases h
  rename_i claims _
  split at h
  · cases h
  exact ⟨claims, ‹_›, not_not.1 ‹_›⟩

@[simp] theorem claimOf_accessClaims_type {userID email : String} {t₁ t₂ : Nat} :
    claimOf (j.accessClaims userID email t₁ t₂) "type" = none := by
  simp [claimOf, accessClaims]

@[simp] theorem claimOf_refreshClaims_email {userID jti : String} {t₁ t₂ : Nat} :
    claimOf (j.refreshClaims userID t₁ t₂ jti) "email" = none := by
  simp [claimOf, refreshClaims]

/-- An access token has no `type` claim: `ValidateRefreshToken` refuses it, under
any manager and at any clock readings. -/
theorem validateRefreshTokenAt_accessTokenAt {userID email : String} {t₁ t₂ : Nat} (j' : JWTManager)
    (now now' : Nat) :
    ∃ err, j'.validateRefreshTokenAt (j.accessTokenAt userID email t₁ t₂) now now' = .error err := by
  cases hv : j'.validateRefreshTokenAt (j.accessTokenAt userID email t₁ t₂) now now' with
  | error err => exact ⟨err, rfl⟩
  | ok _ =>
    obtain ⟨_, hp, htype⟩ := validateRefreshTokenAt_eq_ok hv
    simp [parse_claimOf hp] at htype

/-- A refresh token has no `email` claim: `ValidateToken` refuses it, under any
manager and at any clock readings. -/
theorem validateTokenAt_refreshTokenAt {userID jti : String} {t₁ t₂ : Nat} (j' : JWTManager)
    (now now' : Nat) :
    ∃ err, j'.validateTokenAt (j.refreshTokenAt userID t₁ t₂ jti) now now' = .error err := by
  cases hv : j'.validateTokenAt (j.refreshTokenAt userID t₁ t₂ jti) now now' with
  | error err => exact ⟨err, rfl⟩
  | ok _ =>
    obtain ⟨_, hp, hemail⟩ := validateTokenAt_eq_ok hv
    simp [parse_claimOf hp] at hemail

/-- The key function admits the whole HMAC family: a token passes `ValidateToken` or
`ValidateRefreshToken` only when its header names HS256, HS384 or HS512 and its
signature is that HMAC under the manager's secret, over its own header and claims. -/
theorem validated_token_is_hmac {token : TokenString} {t₁ t₂ : Nat}
    (h : (∃ tc, j.validateTokenAt token t₁ t₂ = .ok tc) ∨
      ∃ userID, j.validateRefreshTokenAt token t₁ t₂ = .ok userID) :
    ∃ alg claims, alg ∈ [Alg.HS256, .HS384, .HS512] ∧ token = signHMAC alg j.secret claims := by
  have ⟨claims, hp⟩ : ∃ claims, parse j.secret t₁ token = .ok claims := by
    rcases h with ⟨_, hv⟩ | ⟨_, hv⟩
    · exact (validateTokenAt_eq_ok hv).imp fun _ h => h.1
    · exact (validateRefreshTokenAt_eq_ok hv).imp fun _ h => h.1
  obtain ⟨alg, body, halg, rfl, -⟩ := parse_eq_ok hp
  exact ⟨alg, body, by cases alg <;> simp_all [Alg.isHMAC], rfl⟩

/-- Alice's access claims at clock 0, signed under HS384 with the secret of a manager
whose tokens live a minute, pass its `ValidateToken`. -/
theorem validated_token_is_hmac_HS384 :
    let j : JWTManager := ⟨"secret", .minute, .minute⟩
    let token := signHMAC .HS384 j.secret (j.accessClaims "u-1" "alice@example.com" 0 0)
    ((∃ tc, j.validateTokenAt token 0 0 = .ok tc) ∨ ∃ userID, j.validateRefreshTokenAt token 0 0 = .ok userID) ∧
      ∃ alg claims, alg ∈ [Alg.HS256, .HS384, .HS512] ∧ token = signHMAC alg j.secret claims :=
  have h := Or.inl ⟨_, validateTokenAt_hmac_accessClaims (show Alg.HS384.isHMAC = true from rfl)
    (by decide) (by decide) (by decide) (by decide)⟩
  ⟨h, validated_token_is_hmac h⟩

/-- A token whose header names HS384 passes `ValidateToken`: the manager's key
function does not pin the method to the HS256 its tokens are signed with. -/
theorem validateTokenAt_accepts_HS384 :
    (⟨"secret", .minute, .minute⟩ : JWTManager).validateTokenAt
        (signHMAC .HS384 "secret" [("email", .str "alice@example.com"), ("exp", .num 60), ("iat", .num 0),
          ("user_id", .str "u-1")]) 0 0 =
      .ok ⟨"u-1", "alice@example.com", 60, 0⟩ :=
  @validateTokenAt_hmac_accessClaims ⟨"secret", .minute, .minute⟩ .HS384 rfl "u-1" "alice@example.com" 0 0 0 0
    (by decide) (by decide) (by decide) (by decide)

end JWTManager

end AuthLifecycle.Utils

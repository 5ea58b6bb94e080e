import AuthLifecycle.Service.Auth
import AuthLifecycle.Go.Time
/-!
# Config — the configuration and the service `NewApp` builds from it

`config.JWTConfig` and `config.SecurityConfig` with the defaults of their
`env` tags, and the `authService` that `app.NewApp` wires from them: the
`JWTManager` and the service get the same refresh lifetime.

The lifetimes are read by `Duration.EnvDecode` (`envDecode`). Its days form
`<n>d` multiplies in int64 arithmetic and never checks the range, so it loads
every `n` that `strconv.Atoi` reads, exact only up to 106751 days
(`envDecode_days`); `106752d` loads as a negative duration. Any other text goes
to `time.ParseDuration`, which refuses what an int64 cannot hold
(`envDecode_unit`), and `UnmarshalText` reads back every text `MarshalText`
writes (`unmarshalText_marshalText`).
-/

namespace AuthLifecycle

open AuthLifecycle.Go AuthLifecycle.Utils AuthLifecycle.Store AuthLifecycle.Service

set_option autoImplicit false

/-- `config.JWTConfig`. -/
structure JWTConfig where
  secret : String
  accessTokenExpiry : Duration
  refreshTokenExpiry : Duration

/-- `config.SecurityConfig`. -/
structure SecurityConfig where
  bCryptCost : Int
  rateLimitRequests : Int
  rateLimitWindow : Duration

/-- `JWTConfig` with the default lifetimes `15m` and `7d`; `JWT_SECRET` has no default. -/
def JWTConfig.withDefaults (secret : String) : JWTConfig :=
  ⟨secret, Duration.seconds (15 * 60) (by decide), Duration.seconds (7 * 24 * 60 * 60) (by decide)⟩

/-- `SecurityConfig` with its defaults: cost 12, 10 requests per `1m`. -/
def SecurityConfig.defaults : SecurityConfig := ⟨12, 10, Duration.minute⟩

/-- The `authService` that `NewApp` builds. -/
def newAuthService (jwt : JWTConfig) (security : SecurityConfig) : AuthService :=
  { jwtManager := ⟨jwt.secret, jwt.accessTokenExpiry, jwt.refreshTokenExpiry⟩
    bcryptCost := security.bCryptCost
    refreshTokenExpiry := jwt.refreshTokenExpiry
    expiry_eq := rfl }

/-- A secret of the 32 characters `config.Load` requires at least. -/
def sampleSecret : String := "0123456789abcdef0123456789abcdef"

/-- The service `NewApp` builds from the default configuration and `sampleSecret`. -/
def sampleService : AuthService := newAuthService (.withDefaults sampleSecret) .defaults

/-! ## `Duration.EnvDecode` (`config/duration.go`) -/

/-- `time.Hour` in nanoseconds. -/
def hourNs : Int := 3600 * 10 ^ 9

/-- `Duration.EnvDecode(ctx, v)` on a receiver holding `d`: the duration it
leaves there and the error it returns. A text ending in `d` is a number of days,
read by `strconv.Atoi` and multiplied as `time.Duration(days) * 24 * time.Hour`
in int64 arithmetic; any other text is left to `time.ParseDuration`, given here
as `parseDuration`. -/
def envDecode (parseDuration : String → Except GoError Duration) (d : Duration) (v : String) :
    Duration × Except GoError Unit :=
  if v = "" then (d, .ok ())
  else
    match v.toList.reverse with
    | 'd' :: rest =>
      match atoi ⟨rest.reverse⟩ with
      | .error err => (d, .error (.wrap "invalid days value: " err))
      | .ok days => (⟨mul64 (mul64 days 24) hourNs, mul64_ge _ _, mul64_lt _ _⟩, .ok ())
    | _ =>
      match parseDuration v with
      | .error err => (d, .error (.wrap "invalid duration: " err))
      | .ok duration => (duration, .ok ())

theorem envDecode_append_d (parseDuration : String → Except GoError Duration) (d : Duration) {s : String}
    {n : Int} (hn : atoi s = .ok n) :
    envDecode parseDuration d (s ++ "d") = (⟨mul64 (mul64 n 24) hourNs, mul64_ge _ _, mul64_lt _ _⟩, .ok ()) := by
  have hrev : (s ++ "d").toList.reverse = 'd' :: s.toList.reverse := by
    simp [String.toList, String.data_append]
  have hne : s ++ "d" ≠ "" := fun h => by simp [h] at hrev
  simp only [envDecode, hne, if_false, hrev, List.reverse_reverse]
  rw [show (⟨s.toList⟩ : String) = s from rfl, hn]

/-- The days form `s ++ "d"`, with `strconv.Atoi(s) = n`, loads without error as
`n` days in nanoseconds wrapped into int64: exact exactly when `|n| ≤ 106751`,
the days an int64 count of nanoseconds holds. -/
theorem envDecode_days (parseDuration : String → Except GoError Duration) (d : Duration) {s : String}
    {n : Int} (hn : atoi s = .ok n) :
    (envDecode parseDuration d (s ++ "d")).2 = .ok () ∧
    (envDecode parseDuration d (s ++ "d")).1.ns = mul64 n (86400 * 10 ^ 9) ∧
    ((envDecode parseDuration d (s ++ "d")).1.ns = n * 86400 * 10 ^ 9 ↔ -106751 ≤ n ∧ n ≤ 106751) := by
  have hns : (envDecode parseDuration d (s ++ "d")).1.ns = mul64 n (86400 * 10 ^ 9) := by
    rw [envDecode_append_d _ _ hn]
    show mul64 (mul64 n 24) hourNs = _
    rw [mul64_mul64]
    simp only [mul64, hourNs]
    omega
  refine ⟨by rw [envDecode_append_d _ _ hn], hns, ?_⟩
  rw [hns, Int.mul_assoc, mul64_eq_iff]
  omega

theorem envDecode_days_seven :
    atoi "7" = .ok 7 ∧ (envDecode (fun _ => .ok .minute) .minute ("7" ++ "d")).1.ns = 7 * 86400 * 10 ^ 9 :=
  ⟨by decide, (envDecode_days _ _ (by decide : atoi "7" = .ok 7)).2.2.2 (by decide)⟩

/-- `JWT_REFRESH_TOKEN_EXPIRY=106752d` loads without error as a negative
duration: 106752 days of nanoseconds pass `2 ^ 63`. -/
theorem envDecode_wraps_106752d :
    (envDecode (fun _ => .ok .minute) (JWTConfig.withDefaults sampleSecret).refreshTokenExpiry "106752d").2 =
        .ok () ∧
      (envDecode (fun _ => .ok .minute) (JWTConfig.withDefaults sampleSecret).refreshTokenExpiry
        "106752d").1.ns = -9223371273709551616 := by
  rw [show "106752d" = "106752" ++ "d" from rfl, envDecode_append_d _ _ (by decide : atoi "106752" = .ok 106752)]
  decide

/-- The default `7d` of `JWT_REFRESH_TOKEN_EXPIRY` loads as the lifetime
`JWTConfig.withDefaults` gives. -/
example (parseDuration : String → Except GoError Duration) (d : Duration) :
    (envDecode parseDuration d "7d").1.ns = (JWTConfig.withDefaults sampleSecret).refreshTokenExpiry.ns := by
  rw [show "7d" = "7" ++ "d" from rfl, envDecode_append_d _ _ (by decide : atoi "7" = .ok 7)]
  decide

/-- `Duration.MarshalText` and `Duration.String`: the text of `time.Duration.String`. -/
def marshalText (d : Duration) : String := durationString d

/-- `Duration.UnmarshalText`: `EnvDecode` of the text, with `time.ParseDuration`. -/
def unmarshalText (d : Duration) (text : String) : Duration × Except GoError Unit :=
  envDecode parseDuration d text

/-- A text `<n><unit>` of a unit `ParseDuration` knows loads `n` units exactly
when they fit an int64, and otherwise is refused with the receiver untouched:
unlike the days form, the standard form never wraps around. -/
theorem envDecode_unit (d : Duration) (n : Nat) {uc : List Char} {k : Nat} (hu : unitOf uc = some k) :
    envDecode parseDuration d (decimal n ++ ⟨uc⟩) =
      if n * k < 2 ^ 63 then (Duration.ofUInt64 (n * k), .ok ())
      else (d, .error (.wrap "invalid duration: " (invalidDuration (decimal n ++ ⟨uc⟩)))) := by
  obtain ⟨-, -, l, c, rfl, hc⟩ := unitOf_spec hu
  have hrev : (decimal n ++ ⟨l ++ [c]⟩).toList.reverse = c :: (l.reverse ++ (decimal n).toList.reverse) := by
    simp [String.toList, String.data_append]
  have hne : decimal n ++ ⟨l ++ [c]⟩ ≠ "" := fun h => by simp [h] at hrev
  unfold envDecode
  rw [if_neg hne, hrev]
  split
  · next h => exact absurd (List.cons.inj h).1 hc
  · rw [parseDuration_unit n hu]
    split_ifs <;> rfl

theorem envDecode_fifteen_minutes :
    unitOf ['m'] = some (60 * 10 ^ 9) ∧
      envDecode parseDuration .minute (decimal 15 ++ ⟨['m']⟩) = (Duration.ofUInt64 (15 * (60 * 10 ^ 9)), .ok ()) :=
  ⟨rfl, by rw [envDecode_unit _ 15 (rfl : unitOf ['m'] = some (60 * 10 ^ 9)), if_pos (by decide)]⟩

/-- `UnmarshalText` reads back what `MarshalText` wrote, for every duration and
whatever the receiver held: the text ends in `s`, so it never takes the days form. -/
theorem unmarshalText_marshalText (d₀ d : Duration) : unmarshalText d₀ (marshalText d) = (d, .ok ()) := by
  obtain ⟨t, ht⟩ := durationString_reverse d
  have hne : durationString d ≠ "" := fun h => by simp [h] at ht
  unfold unmarshalText envDecode marshalText
  rw [if_neg hne, ht, parseDuration_durationString]
  rfl

/-! ## A sample store -/

/-- An active user whose password is `Passw0rd`. -/
def alice : User :=
  { id := "u-1", email := "alice@example.com", passwordHash := .bcrypt "Passw0rd" 12, createdAt := 0,
    updatedAt := 0, lastLoginAt := none, isActive := true, isEmailVerified := false }

/-- The store holding only Alice. -/
def aliceWorld : World := World.initial [alice]

/-- Alice's login request. -/
def aliceLogin : LoginRequest := ⟨"alice@example.com", "Passw0rd"⟩

theorem aliceWorld_find : aliceWorld.users.find? (·.email == sanitizeEmail aliceLogin.email) = some alice := by
  have : sanitizeEmail aliceLogin.email = alice.email := by
    simp only [aliceLogin, sanitizeEmail, String.map_eq, trimSpace]
    decide
  rw [this]
  rfl

end AuthLifecycle

import AuthLifecycle.Service.AuthSpec
/-!
# Engine.Step — the service as a state machine

The engine's state is the `World`: both stores, the clock and the UUID
source. A step is one call of an `authService` method, run alone from start to
end, or the clock moving forward. A call's store commands may each fail
(`Prog.Runs`); a *reliable* step is one in which all of them succeed
(`Prog.run`). Invariants are proved for steps of either kind, so one proof
covers both.

A run starts from `Init`: no refresh-token rows and no blacklist keys, and
users whose ids and emails are unique, as the schema's keys keep them. There is
no step that creates a user: `register` never succeeds (`register_runs`).

* `Run.append`, `Run.split`: runs compose and decompose at any point.
* `Run.invariant`: what every step keeps, every run keeps.
* `Step.users_account`: no step changes a user's account fields; logins only
  move `last_login_at` and `updated_at`.
-/

namespace AuthLifecycle.Engine

open AuthLifecycle.Go AuthLifecycle.Utils AuthLifecycle.Store AuthLifecycle.Service

set_option autoImplicit false

/-- A call of the service, as the HTTP layer makes it. -/
inductive Op where
  | register (req : RegisterRequest)
  | login (req : LoginRequest)
  | refresh (token : TokenString)
  | logout (userID : String) (token : TokenString)
  | validate (token : TokenString)
  | getUser (userID : String)

/-- What a call returns. -/
@[reducible] def Op.Result : Op → Type
  | .register _ | .login _ | .refresh _ => Except GoError AuthResponseWithRefreshToken
  | .logout _ _ => Except GoError Unit
  | .validate _ => Except GoError TokenClaims
  | .getUser _ => Except GoError UserResponse

/-- The program a call runs. -/
def Op.prog (s : AuthService) : (o : Op) → Prog o.Result
  | .register req => s.register req
  | .login req => s.login req
  | .refresh token => s.refreshToken token
  | .logout userID token => s.logout userID token
  | .validate token => s.validateToken token
  | .getUser userID => AuthService.getUser userID

/-- What a step shows: a call and what it returned, or the clock moving to `t`. -/
inductive Event where
  | call (o : Op) (r : o.Result)
  | tick (t : Nat)

/-- One step of the engine. With `reliable`, every store command of the call succeeds. -/
inductive Step (s : AuthService) (reliable : Bool) : World → Event → World → Prop
  | call {w w' : World} (o : Op) (r : o.Result) (h : (o.prog s).Runs w w' r)
      (hr : reliable = true → (o.prog s).run w = (w', r)) : Step s reliable w (.call o r) w'
  | tick {w : World} (t : Nat) (h : w.clock ≤ t) (ht : t < 2 ^ 63) :
      Step s reliable w (.tick t) (w.tick t ht)

/-- A run: steps one after another. -/
inductive Run (s : AuthService) (reliable : Bool) : World → List Event → World → Prop
  | nil (w : World) : Run s reliable w [] w
  | cons {w w₁ w' : World} {e : Event} {evs : List Event} :
      Step s reliable w e w₁ → Run s reliable w₁ evs w' → Run s reliable w (e :: evs) w'

/-- A start state of the engine. -/
structure Init (w : World) : Prop where
  noTokens : w.refreshTokens = []
  noBlacklist : ∀ t, w.blacklist t = none
  ids : (w.users.map (·.id)).Nodup
  emails : (w.users.map (·.email)).Nodup

/-- The worlds a run from a start state reaches. -/
def Reachable (s : AuthService) (reliable : Bool) (w : World) : Prop :=
  ∃ w₀ evs, Init w₀ ∧ Run s reliable w₀ evs w

variable {s : AuthService} {reliable : Bool}

namespace Run

theorem append {w w₁ w₂ : World} {evs₁ evs₂ : List Event} (h₁ : Run s reliable w evs₁ w₁)
    (h₂ : Run s reliable w₁ evs₂ w₂) : Run s reliable w (evs₁ ++ evs₂) w₂ := by
  induction h₁ with
  | nil => exact h₂
  | cons hs _ ih => exact .cons hs (ih h₂)

theorem split {w w₂ : World} {evs₁ evs₂ : List Event} (h : Run s reliable w (evs₁ ++ evs₂) w₂) :
    ∃ w₁, Run s reliable w evs₁ w₁ ∧ Run s reliable w₁ evs₂ w₂ := by
  induction evs₁ generalizing w with
  | nil => exact ⟨w, .nil w, h⟩
  | cons e evs ih =>
    cases h with
    | cons hs hr =>
      obtain ⟨w₁, h₁, h₂⟩ := ih hr
      exact ⟨w₁, .cons hs h₁, h₂⟩

/-- What every step keeps, every run keeps. -/
theorem invariant (I : World → Prop) (step : ∀ w e w', Step s reliable w e w' → I w → I w')
    {w w' : World} {evs : List Event} (h : Run s reliable w evs w') (hi : I w) : I w' := by
  induction h with
  | nil => exact hi
  | cons hs _ ih => exact ih (step _ _ _ hs hi)

end Run

theorem Reachable.step {w w' : World} {e : Event} (h : Reachable s reliable w)
    (hs : Step s reliable w e w') : Reachable s reliable w' := by
  obtain ⟨w₀, evs, h₀, hr⟩ := h
  exact ⟨w₀, evs ++ [e], h₀, hr.append (.cons hs (.nil _))⟩

theorem Reachable.run {w w' : World} {evs : List Event} (h : Reachable s reliable w)
    (hr : Run s reliable w evs w') : Reachable s reliable w' := by
  obtain ⟨w₀, evs₀, h₀, hr₀⟩ := h
  exact ⟨w₀, evs₀ ++ evs, h₀, hr₀.append hr⟩

/-- No step changes the account fields of the users table. -/
theorem Step.users_account {w w' : World} {e : Event} (h : Step s reliable w e w') :
    w'.users.map User.account = w.users.map User.account := by
  cases h with
  | tick => rfl
  | call o r h =>
    cases o with
    | register => rw [(AuthService.register_runs h).1]
    | login =>
      rcases AuthService.login_runs h with ⟨rfl, -⟩ | ⟨u, -, -, -, w₁, hw₁, hg⟩
      · rfl
      · rw [AuthService.generate_users hg]
        rcases hw₁ with rfl | rfl
        · rfl
        · exact World.stampLastLogin_account _ _ _
    | refresh =>
      rcases AuthService.refreshToken_runs h with ⟨rfl, -⟩ | ⟨u, w₂, -, hrev, hg⟩
      · rfl
      · rw [AuthService.generate_users hg, hrev.users]
    | logout =>
      rcases (AuthService.logout_runs h).2 with rfl | ⟨-, -, -, -, hrev⟩
      · rfl
      · rw [hrev.users]
    | validate => rw [AuthService.validateToken_runs h]
    | getUser => rw [AuthService.getUser_runs h]

/-- A reliable step is a step. -/
theorem Step.of_reliable {w w' : World} {e : Event} (h : Step s true w e w') : Step s reliable w e w' := by
  cases h with
  | call o r h hr => exact .call o r h fun _ => hr rfl
  | tick t h ht => exact .tick t h ht

end AuthLifecycle.Engine

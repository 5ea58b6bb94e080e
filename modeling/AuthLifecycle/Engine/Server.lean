import AuthLifecycle.Engine.Issuance
import AuthLifecycle.Handler.Middleware
import AuthLifecycle.Handler.RateLimit
/-!
# Engine.Server — the deployed auth routes refine the engine

`setupRoutes` serves five routes under `/api/v1/auth`: `register` and `login`
behind `RateLimitMiddleware` keyed by `IPBasedKey`, `refresh` alone, and
`logout` and `me` behind `AuthMiddleware` (`serve`). The server is a state
machine over the same world as the engine: a step serves one request, any of
its store commands may fail, or the clock moves (`ServerStep`).

* `ServerStep.refines`: every step of the server is a change to at most one
  rate-limit bucket followed by at most one step of the engine, since the
  rate-limiting middleware touches only its key's sorted set, the auth
  middleware reads only, and each handler makes at most one service call.
* `server_reachable_inv`: so every world the server reaches from a start state
  satisfies the engine's invariant and holds the accounts of its start.
-/

namespace AuthLifecycle.Engine

open AuthLifecycle.Go AuthLifecycle.Utils AuthLifecycle.Store AuthLifecycle.Service AuthLifecycle.Handler

set_option autoImplicit false

/-- A request to one of the auth routes, with what its handler and middlewares
read of it: the client's address, the bound JSON body, the `refresh_token`
cookie, the `Authorization` header. -/
inductive Request where
  | register (client : ClientAddress) (body : Except String RegisterRequest)
  | login (client : ClientAddress) (body : Except String LoginRequest)
  | refresh (cookie : Option TokenString)
  | logout (authorization : String) (cookie : Option TokenString)
  | me (authorization : String)

/-- A route with `RateLimitMiddleware(rateLimiter, limit, window, IPBasedKey)` in
front of `handler`: the response, and the headers the middleware set. -/
def rateLimitedRoute (limit : Int) (window : Duration) (client : ClientAddress) (handler : Prog Response) :
    Prog (List (String × String) × Response) := do
  match ← rateLimitMiddleware limit window (ipBasedKey client) with
  | .abort headers response => return (headers, response)
  | .next headers => return (headers, ← handler)

/-- `setupRoutes` for the auth routes, with `authHandler` over the service that
`AuthMiddleware` also uses, and the limits of `security`. -/
def serve (h : AuthHandler) (security : SecurityConfig) (decode : String → TokenString) :
    Request → Prog (List (String × String) × Response)
  | .register client body =>
    rateLimitedRoute security.rateLimitRequests security.rateLimitWindow client (h.register body)
  | .login client body =>
    rateLimitedRoute security.rateLimitRequests security.rateLimitWindow client (h.login body)
  | .refresh cookie => return ([], ← h.refresh cookie)
  | .logout authorization cookie => return ([], ← h.logoutRoute decode authorization cookie)
  | .me authorization => return ([], ← h.meRoute decode authorization)

/-- What a step of the server shows: a request and its answer, or the clock moving to `t`. -/
inductive ServerEvent where
  | request (req : Request) (answer : List (String × String) × Response)
  | tick (t : Nat)

section Machine

variable (h : AuthHandler) (security : SecurityConfig) (decode : String → TokenString)

/-- One step of the server: serving one request, any store command of it
possibly failing, or the clock moving forward. -/
inductive ServerStep : World → ServerEvent → World → Prop
  | request {w w' : World} (req : Request) (answer : List (String × String) × Response)
      (hr : (serve h security decode req).Runs w w' answer) : ServerStep w (.request req answer) w'
  | tick {w : World} (t : Nat) (hle : w.clock ≤ t) (ht : t < 2 ^ 63) : ServerStep w (.tick t) (w.tick t ht)

/-- A run of the server: steps one after another. -/
inductive ServerRun : World → List ServerEvent → World → Prop
  | nil (w : World) : ServerRun w [] w
  | cons {w w₁ w' : World} {e : ServerEvent} {evs : List ServerEvent} :
      ServerStep h security decode w e w₁ → ServerRun w₁ evs w' → ServerRun w (e :: evs) w'

end Machine

/-! ## Each route is at most one call of the service -/

/-- The stores change as one step of the engine changes them, or not at all. -/
def OneCall (s : AuthService) (w w' : World) : Prop :=
  w' = w ∨ ∃ e, Step s false w e w'

section Routes

variable {h : AuthHandler} {w w' : World} {r : Response}

theorem oneCall_register {bound : Except String RegisterRequest} (hr : (h.register bound).Runs w w' r) :
    OneCall h.authService w w' :=
  (h.register_runs_call hr).imp_right fun ⟨req, _, hc⟩ => ⟨_, .call (.register req) _ hc nofun⟩

theorem oneCall_login {bound : Except String LoginRequest} (hr : (h.login bound).Runs w w' r) :
    OneCall h.authService w w' :=
  (h.login_runs_call hr).imp_right fun ⟨req, _, hc⟩ => ⟨_, .call (.login req) _ hc nofun⟩

theorem oneCall_refresh {cookie : Option TokenString} (hr : (h.refresh cookie).Runs w w' r) :
    OneCall h.authService w w' :=
  (h.refresh_runs_call hr).imp_right fun ⟨t, _, hc⟩ => ⟨_, .call (.refresh t) _ hc nofun⟩

/-- A route behind `AuthMiddleware` whose handler makes at most one call makes at most one call. -/
theorem oneCall_protectedRoute {decode : String → TokenString} {authorization : String}
    {handler : Option String → Prog Response}
    (hh : ∀ {userID w w' r}, (handler userID).Runs w w' r → OneCall h.authService w w')
    (hr : (protectedRoute h.authService decode authorization handler).Runs w w' r) : OneCall h.authService w w' := by
  rcases protectedRoute_runs hr with ⟨_, _, -, -, hc⟩ | ⟨rfl, -⟩
  exacts [hh hc, .inl rfl]

theorem oneCall_logoutRoute {decode : String → TokenString} {authorization : String} {cookie : Option TokenString}
    (hr : (h.logoutRoute decode authorization cookie).Runs w w' r) : OneCall h.authService w w' :=
  oneCall_protectedRoute (fun hc => (h.logout_runs_call hc).imp_right fun ⟨u, t, _, hc⟩ =>
    ⟨_, .call (.logout u t) _ hc nofun⟩) hr

theorem oneCall_meRoute {decode : String → TokenString} {authorization : String}
    (hr : (h.meRoute decode authorization).Runs w w' r) : OneCall h.authService w w' :=
  oneCall_protectedRoute (fun hc => (AuthHandler.getMe_runs_call hc).imp_right fun ⟨u, _, hc⟩ =>
    ⟨_, .call (.getUser u) _ hc nofun⟩) hr

/-- The rate-limiting middleware changes at most its key's bucket before the handler runs. -/
theorem rateLimitedRoute_runs {limit : Int} {window : Duration} {client : ClientAddress} {handler : Prog Response}
    (hh : ∀ {w w' r}, handler.Runs w w' r → OneCall h.authService w w')
    {a : List (String × String) × Response} (hr : (rateLimitedRoute limit window client handler).Runs w w' a) :
    ∃ w₁, (w₁ = w ∨ ∃ z, w₁ = w.setZSet (ipBasedKey client) z) ∧ OneCall h.authService w₁ w' := by
  simp only [rateLimitedRoute, Prog.bind_eq, Prog.pure_eq] at hr
  obtain ⟨w₁, v, hv, hk⟩ := (Prog.runs_bind _ _ _ _ _).1 hr
  refine ⟨w₁, RateLimiter.runs_touchesOnly (rateLimitMiddleware_always _ _ _) hv, ?_⟩
  split at hk
  · exact .inl hk.1.symm
  · obtain ⟨_, hc⟩ := Prog.runs_of_bind_pure (fun _ => ⟨_, rfl⟩) hk
    exact hh hc

end Routes

/-! ## The server refines the engine -/

section Refinement

variable {h : AuthHandler} {security : SecurityConfig} {decode : String → TokenString}

theorem serve_runs {req : Request} {w w' : World} {a : List (String × String) × Response}
    (hr : (serve h security decode req).Runs w w' a) :
    ∃ w₁, (w₁ = w ∨ ∃ key z, w₁ = w.setZSet key z) ∧ OneCall h.authService w₁ w' := by
  have bucket {client : ClientAddress} {w₁ : World} (hz : w₁ = w ∨ ∃ z, w₁ = w.setZSet (ipBasedKey client) z) :
      w₁ = w ∨ ∃ key z, w₁ = w.setZSet key z := hz.imp_right fun ⟨z, hz⟩ => ⟨_, z, hz⟩
  cases req with
  | register client body =>
    obtain ⟨w₁, hz, hc⟩ := rateLimitedRoute_runs oneCall_register hr
    exact ⟨w₁, bucket hz, hc⟩
  | login client body =>
    obtain ⟨w₁, hz, hc⟩ := rateLimitedRoute_runs oneCall_login hr
    exact ⟨w₁, bucket hz, hc⟩
  | refresh cookie =>
    obtain ⟨_, hc⟩ := Prog.runs_of_bind_pure (fun _ => ⟨_, rfl⟩) hr
    exact ⟨w, .inl rfl, oneCall_refresh hc⟩
  | logout authorization cookie =>
    obtain ⟨_, hc⟩ := Prog.runs_of_bind_pure (fun _ => ⟨_, rfl⟩) hr
    exact ⟨w, .inl rfl, oneCall_logoutRoute hc⟩
  | me authorization =>
    obtain ⟨_, hc⟩ := Prog.runs_of_bind_pure (fun _ => ⟨_, rfl⟩) hr
    exact ⟨w, .inl rfl, oneCall_meRoute hc⟩

/-- Every step of the server is a change to at most one rate-limit bucket
followed by a run of at most one step of the engine. -/
theorem ServerStep.refines {w w' : World} {e : ServerEvent} (hs : ServerStep h security decode w e w') :
    ∃ w₁ evs, evs.length ≤ 1 ∧ (w₁ = w ∨ ∃ key z, w₁ = w.setZSet key z) ∧ Run h.authService false w₁ evs w' := by
  cases hs with
  | tick t hle ht => exact ⟨w, [.tick t], le_rfl, .inl rfl, .cons (.tick t hle ht) (.nil _)⟩
  | request req a hr =>
    obtain ⟨w₁, hz, rfl | ⟨e, he⟩⟩ := serve_runs hr
    · exact ⟨_, [], Nat.zero_le _, hz, .nil _⟩
    · exact ⟨w₁, [e], le_rfl, hz, .cons he (.nil _)⟩

/-- What every step of the engine keeps and no rate-limit bucket can break,
every run of the server keeps. -/
theorem ServerRun.invariant (I : World → Prop) (hstep : ∀ w e w', Step h.authService false w e w' → I w → I w')
    (hz : ∀ w key z, I w → I (w.setZSet key z)) {w w' : World} {evs : List ServerEvent}
    (hr : ServerRun h security decode w evs w') (hi : I w) : I w' := by
  induction hr with
  | nil => exact hi
  | cons hs _ ih =>
    obtain ⟨w₁, _, -, hw₁, he⟩ := hs.refines
    refine ih (he.invariant I hstep ?_)
    rcases hw₁ with rfl | ⟨key, z, rfl⟩
    exacts [hi, hz _ key z hi]

theorem server_reachable_inv {w₀ w : World} {evs : List ServerEvent} (h₀ : Init w₀)
    (hr : ServerRun h security decode w₀ evs w) :
    Inv h.authService w ∧ w.users.map User.account = w₀.users.map User.account :=
  ⟨hr.invariant (Inv h.authService) (fun _ _ _ hs hi => hi.step hs) (fun _ key z hi => hi.setZSet key z) h₀.inv,
    hr.invariant (fun v => v.users.map User.account = w₀.users.map User.account)
      (fun _ _ _ hs hi => (Step.users_account hs).trans hi) (fun _ _ _ hi => hi) rfl⟩

/-- Alice logs in through the server from `203.0.113.7`, with no `X-Forwarded-For`. -/
def aliceLoginRequest : Request := .login ⟨"", "203.0.113.7"⟩ (.ok aliceLogin)

/-- A token reading for routes that read no token. -/
def noDecode : String → TokenString := fun _ => .malformed ""

theorem server_refines_alice :
    ServerStep ⟨sampleService⟩ .defaults noDecode aliceWorld
      (.request aliceLoginRequest ((serve ⟨sampleService⟩ .defaults noDecode aliceLoginRequest).run aliceWorld).2)
      ((serve ⟨sampleService⟩ .defaults noDecode aliceLoginRequest).run aliceWorld).1 ∧
    ∃ w₁ evs, evs.length ≤ 1 ∧ (w₁ = aliceWorld ∨ ∃ key z, w₁ = aliceWorld.setZSet key z) ∧
      Run sampleService false w₁ evs ((serve ⟨sampleService⟩ .defaults noDecode aliceLoginRequest).run aliceWorld).1 :=
  ⟨.request _ _ (Prog.run_runs _ _), ServerStep.refines (.request _ _ (Prog.run_runs _ _))⟩

theorem server_reachable_inv_alice :
    Init aliceWorld ∧
    ServerRun ⟨sampleService⟩ .defaults noDecode aliceWorld
      [.request aliceLoginRequest ((serve ⟨sampleService⟩ .defaults noDecode aliceLoginRequest).run aliceWorld).2]
      ((serve ⟨sampleService⟩ .defaults noDecode aliceLoginRequest).run aliceWorld).1 ∧
    Inv sampleService ((serve ⟨sampleService⟩ .defaults noDecode aliceLoginRequest).run aliceWorld).1 ∧
    ((serve ⟨sampleService⟩ .defaults noDecode aliceLoginRequest).run aliceWorld).1.users.map User.account =
      aliceWorld.users.map User.account :=
  ⟨aliceWorld_init, .cons (.request _ _ (Prog.run_runs _ _)) (.nil _),
    server_reachable_inv aliceWorld_init (.cons (.request _ _ (Prog.run_runs _ _)) (.nil _))⟩

end Refinement

end AuthLifecycle.Engine

import AuthLifecycle.Handler.Auth
import AuthLifecycle.Service.RateLimiterSpec
/-!
# Handler.RateLimit — the rate-limiting middleware (`handler/rate_limit.go`)

`RateLimitMiddleware` asks `Allow` under the key its key function derives from
the request, and answers 429 only when `Allow` said no: by returning false, or
by an error whose text holds "rate limit exceeded". Any other error — a failed
Redis command — hands the request on. The login and register routes use
`IPBasedKey`, which takes the first entry of `X-Forwarded-For` whenever the
header is set, so the client names its own bucket.

* `middleware_passes_iff`: for every request and every pattern of store
  failures, the middleware hands the request on exactly when `Allow`, under
  `ipBasedKey`, admitted it or failed without saying "rate limit exceeded".
* `middleware_denial`: a request over the limit is answered 429, with the
  `Retry-After` header holding the wait the message states
  (`extractRetryAfter_wait`).
* `middleware_touches_only_key`: whatever Redis answers, the middleware changes
  nothing but its own key's sorted set.
-/

namespace AuthLifecycle.Handler

open AuthLifecycle.Go AuthLifecycle.Utils AuthLifecycle.Store AuthLifecycle.Service

set_option autoImplicit false

/-- What the middleware does with a request: hand it on (`c.Next()`) with the
headers it set, or answer it and abort. -/
inductive Verdict where
  | next (headers : List (String × String))
  | abort (headers : List (String × String)) (response : Response)
  deriving DecidableEq, Repr

/-- The request reaches the handler. -/
def Verdict.passes : Verdict → Bool
  | .next _ => true
  | .abort _ _ => false

/-- The parts of a request `IPBasedKey` reads: the `X-Forwarded-For` header
(empty when absent) and what gin's `c.ClientIP()` returns. -/
structure ClientAddress where
  forwardedFor : String
  clientIP : String
  deriving DecidableEq, Repr

/-- `IPBasedKey`: the first comma-separated entry of `X-Forwarded-For`, trimmed,
when the header is set; the client IP otherwise. -/
def ipBasedKey (c : ClientAddress) : String :=
  if c.forwardedFor ≠ "" then trimSpace ⟨c.forwardedFor.toList.takeWhile (· ≠ ',')⟩ else c.clientIP

/-- The text after the first occurrence of `sep`, when there is one. -/
def afterFirst (sep : List Char) : List Char → Option (List Char)
  | [] => none
  | c :: cs => if sep.isPrefixOf (c :: cs) then some ((c :: cs).drop sep.length) else afterFirst sep cs

/-- The text before the first occurrence of `sep`, or all of it. -/
def beforeFirst (sep : List Char) : List Char → List Char
  | [] => []
  | c :: cs => if sep.isPrefixOf (c :: cs) then [] else c :: beforeFirst sep cs

/-- `extractRetryAfter`: `strings.TrimSpace(strings.Split(errMsg, "try again in")[1])`,
or `"60"`. -/
def extractRetryAfter (errMsg : String) : String :=
  if contains errMsg "try again in" then
    match afterFirst "try again in".toList errMsg.toList with
    | some rest => trimSpace ⟨beforeFirst "try again in".toList rest⟩
    | none => "60"
  else "60"

/-- `remaining, _ := rateLimiter.GetRemainingRequests(...)`: zero when it failed. -/
def remainingOrZero : Except GoError Int → Int
  | .ok n => n
  | .error _ => 0

/-- `RateLimitMiddleware(rateLimiter, limit, window, keyFunc)` on a request for
which `keyFunc` returned `key`. -/
def rateLimitMiddleware (limit : Int) (window : Duration) (key : String) : Prog Verdict := do
  match ← RateLimiter.allow key limit window with
  | .error err =>
    if contains err.text "rate limit exceeded" then
      let remaining ← RateLimiter.getRemainingRequests key limit window
      return .abort [("X-RateLimit-Limit", formatInt limit),
          ("X-RateLimit-Retry-After", extractRetryAfter err.text),
          ("X-RateLimit-Remaining", formatInt (remainingOrZero remaining))]
        (errorJSON 429 "Too Many Requests" err.text)
    return .next []
  | .ok false =>
    let remaining ← RateLimiter.getRemainingRequests key limit window
    return .abort [("X-RateLimit-Limit", formatInt limit),
        ("X-RateLimit-Remaining", formatInt (remainingOrZero remaining))]
      (errorJSON 429 "Too Many Requests" "Rate limit exceeded")
  | .ok true =>
    let remaining ← RateLimiter.getRemainingRequests key limit window
    return .next [("X-RateLimit-Limit", formatInt limit),
      ("X-RateLimit-Remaining", formatInt (remainingOrZero remaining))]

/-- When every command succeeds, the middleware hands the request on exactly when
`Allow` admitted it or failed without saying "rate limit exceeded". -/
theorem rateLimitMiddleware_run_passes (limit : Int) (window : Duration) (key : String) (w : World) :
    ((rateLimitMiddleware limit window key).run w).2.passes =
      match ((RateLimiter.allow key limit window).run w).2 with
      | .ok b => b
      | .error e => !contains e.text "rate limit exceeded" := by
  simp only [rateLimitMiddleware, Prog.bind_eq, Prog.pure_eq, Prog.run_bind]
  split <;> rename_i hr <;> simp only [hr]
  · split <;> simp_all [Verdict.passes, Prog.run_bind]
  · simp [Verdict.passes, Prog.run_bind]
  · simp [Verdict.passes, Prog.run_bind]

/-- For every request and every pattern of store failures, the middleware hands
the request on exactly when `Allow`, under the key `IPBasedKey` derives, admitted
it or failed with an error that does not say "rate limit exceeded". -/
theorem middleware_passes_iff {limit : Int} {window : Duration} {c : ClientAddress} {w w' : World}
    {v : Verdict} (h : (rateLimitMiddleware limit window (ipBasedKey c)).Runs w w' v) :
    ∃ w₁ r, (RateLimiter.allow (ipBasedKey c) limit window).Runs w w₁ r ∧
      (v.passes = true ↔ r = .ok true ∨ ∃ e, r = .error e ∧ contains e.text "rate limit exceeded" = false) := by
  simp only [rateLimitMiddleware, Prog.bind_eq, Prog.pure_eq] at h
  obtain ⟨w₁, r, hr, h⟩ := (Prog.runs_bind _ _ _ _ _).1 h
  refine ⟨w₁, r, hr, ?_⟩
  split at h
  · rename_i e
    split at h
    · rename_i hc
      obtain ⟨_, _, -, -, rfl⟩ := (Prog.runs_bind _ _ _ _ _).1 h
      simp [Verdict.passes, hc]
    · rename_i hc
      obtain ⟨-, rfl⟩ := h
      simp_all [Verdict.passes]
  · obtain ⟨_, _, -, -, rfl⟩ := (Prog.runs_bind _ _ _ _ _).1 h
    simp [Verdict.passes]
  · obtain ⟨_, _, -, -, rfl⟩ := (Prog.runs_bind _ _ _ _ _).1 h
    simp [Verdict.passes]

theorem middleware_passes_iff_sample :
    ∃ w₁ r, (RateLimiter.allow (ipBasedKey ⟨"", "198.51.100.4"⟩) 1 RateLimiter.oneSecond).Runs (World.initial []) w₁ r ∧
      (((rateLimitMiddleware 1 RateLimiter.oneSecond (ipBasedKey ⟨"", "198.51.100.4"⟩)).run
          (World.initial [])).2.passes = true ↔
        r = .ok true ∨ ∃ e, r = .error e ∧ contains e.text "rate limit exceeded" = false) :=
  middleware_passes_iff (Prog.run_runs _ _)

/-- The store after one admitted request from `198.51.100.4`, with limit one. -/
def fullBucket : World :=
  (World.initial []).setZSet "198.51.100.4" (RateLimiter.admitted (World.initial []) "198.51.100.4" RateLimiter.oneSecond)

theorem fullBucket_eq : ((RateLimiter.allow "198.51.100.4" 1 RateLimiter.oneSecond).run (World.initial [])).1 =
    fullBucket := by
  rw [RateLimiter.allow_run_of_lt (by decide) (by decide)]; rfl

/-- Once one request from `198.51.100.4` used up a limit of one, `Allow` refuses
the next under that key; yet the middleware hands on a request from the same
address that names another bucket in `X-Forwarded-For`, and one whose first
Redis command fails. -/
theorem middleware_bypasses_limit :
    ((RateLimiter.allow "198.51.100.4" 1 RateLimiter.oneSecond).run
        ((RateLimiter.allow "198.51.100.4" 1 RateLimiter.oneSecond).run (World.initial [])).1).2 ≠ .ok true ∧
      ((rateLimitMiddleware 1 RateLimiter.oneSecond (ipBasedKey ⟨"1.1.1.1", "198.51.100.4"⟩)).run
        fullBucket).2.passes = true ∧
      (rateLimitMiddleware 1 RateLimiter.oneSecond (ipBasedKey ⟨"", "198.51.100.4"⟩)).Runs fullBucket fullBucket
        (.next []) := by
  refine ⟨?_, ?_, ?_⟩
  · rw [fullBucket_eq]
    obtain ⟨-, text, hr, -⟩ := @RateLimiter.allow_run_of_le "198.51.100.4" 1 RateLimiter.oneSecond fullBucket
      (by decide)
    rw [hr]; simp
  · rw [rateLimitMiddleware_run_passes, show ipBasedKey ⟨"1.1.1.1", "198.51.100.4"⟩ = "1.1.1.1" by decide,
      RateLimiter.allow_run_of_lt (by decide) (by decide)]
  · rw [show ipBasedKey ⟨"", "198.51.100.4"⟩ = "198.51.100.4" by decide]
    simp only [rateLimitMiddleware, Prog.bind_eq, Prog.pure_eq]
    refine (Prog.runs_bind _ _ _ _ _).2 ⟨fullBucket, .error (.wrap "failed to clean old entries: "
      (.driver "i/o timeout")), ?_, ?_⟩
    · simp only [RateLimiter.allow, Prog.bind_eq, timeNow_bind_runs, storeCall_bind_runs]
      exact .inr ⟨"i/o timeout", rfl, rfl⟩
    · simp only
      rw [if_neg (by decide)]
      exact ⟨rfl, rfl⟩

/-! ## What a denial answers -/

theorem dropWhile_of_forall {l : List Char} {p : Char → Bool} (h : ∀ c ∈ l, p c = false) :
    l.dropWhile p = l := by
  cases l with
  | nil => rfl
  | cons c cs => simp [List.dropWhile, h c (List.mem_cons_self _ _)]

/-- `beforeFirst` keeps a text that lacks the separator's first letter. -/
theorem beforeFirst_of_not_mem {c : Char} {cs l : List Char} (h : c ∉ l) : beforeFirst (c :: cs) l = l := by
  induction l with
  | nil => rfl
  | cons x xs ih =>
    have hx : (c == x) = false := by
      simpa using fun e : c = x => h (e ▸ List.mem_cons_self _ _)
    rw [beforeFirst, if_neg (by simp [List.isPrefixOf, hx]), ih (fun hm => h (List.mem_cons_of_mem _ hm))]

/-- `extractRetryAfter` reads back the wait `Allow` writes into its message: the
text after "try again in" holds no `t` and no blank but the one it starts with. -/
theorem extractRetryAfter_wait (n : Int) :
    extractRetryAfter ("rate limit exceeded, try again in " ++ secondsString n) = secondsString n := by
  have hS := secondsString_subset n
  have hsp : ∀ c ∈ (secondsString n).toList, isSpace c = false := fun c hc =>
    (by decide : ∀ x ∈ "0123456789-hms".toList, isSpace x = false) c (hS hc)
  have ht : 't' ∉ ' ' :: (secondsString n).toList := fun hm => by
    rcases List.mem_cons.1 hm with h | h
    · exact absurd h (by decide)
    · exact absurd (hS h) (by decide)
  have hafter : afterFirst "try again in".toList ("rate limit exceeded, try again in " ++ secondsString n).toList =
      some (' ' :: (secondsString n).toList) := rfl
  unfold extractRetryAfter
  rw [if_pos (contains_append_left _ (by decide)), hafter]
  dsimp only
  rw [show "try again in".toList = 't' :: "ry again in".toList from rfl, beforeFirst_of_not_mem ht]
  rw [trimSpace, show (⟨' ' :: (secondsString n).toList⟩ : String).toList = ' ' :: (secondsString n).toList
    from rfl, List.dropWhile_cons, if_pos (by decide), dropWhile_of_forall hsp,
    dropWhile_of_forall (fun c hc => hsp c (List.mem_reverse.1 hc)), List.reverse_reverse]
  rfl

/-- With every command succeeding, a request over the limit, with entries kept,
is aborted with 429 `Too Many Requests`, its `X-RateLimit-Retry-After` header the
wait its message states, and only the key's sorted set changes. The
`X-RateLimit-Remaining` value is left open: Go's `GetRemainingRequests` reads
the clock again, and an entry may leave the window in between. -/
theorem middleware_denial {limit : Int} {window : Duration} {key : String} {w : World}
    (h : limit ≤ ((RateLimiter.kept w key window).length : Int)) (hne : RateLimiter.kept w key window ≠ []) :
    ∃ wait remaining z, (rateLimitMiddleware limit window key).run w =
      (w.setZSet key z,
        .abort [("X-RateLimit-Limit", formatInt limit), ("X-RateLimit-Retry-After", secondsString wait),
            ("X-RateLimit-Remaining", remaining)]
          (errorJSON 429 "Too Many Requests" ("rate limit exceeded, try again in " ++ secondsString wait))) := by
  obtain ⟨wait, hrun⟩ := RateLimiter.allow_run_of_le_of_ne_nil h hne
  simp only [rateLimitMiddleware, Prog.bind_eq, Prog.pure_eq, Prog.run_bind, hrun]
  rw [show (GoError.new ("rate limit exceeded, try again in " ++ secondsString wait)).text =
      "rate limit exceeded, try again in " ++ secondsString wait from rfl,
    if_pos (contains_append_left _ (by decide)), extractRetryAfter_wait, Prog.run_bind,
    RateLimiter.getRemainingRequests_run, World.setZSet_setZSet]
  exact ⟨wait, _, _, rfl⟩

theorem middleware_denial_fullBucket :
    1 ≤ ((RateLimiter.kept fullBucket "198.51.100.4" RateLimiter.oneSecond).length : Int) ∧
      RateLimiter.kept fullBucket "198.51.100.4" RateLimiter.oneSecond ≠ [] ∧
      ∃ wait remaining z, (rateLimitMiddleware 1 RateLimiter.oneSecond "198.51.100.4").run fullBucket =
        (fullBucket.setZSet "198.51.100.4" z,
          .abort [("X-RateLimit-Limit", formatInt 1), ("X-RateLimit-Retry-After", secondsString wait),
              ("X-RateLimit-Remaining", remaining)]
            (errorJSON 429 "Too Many Requests" ("rate limit exceeded, try again in " ++ secondsString wait))) :=
  ⟨by decide, by decide, middleware_denial (by decide) (by decide)⟩

/-! ## What the middleware touches -/

theorem rateLimitMiddleware_always (limit : Int) (window : Duration) (key : String) :
    (rateLimitMiddleware limit window key).Always (RateLimiter.TouchesOnly key) := by
  simp only [rateLimitMiddleware, Prog.bind_eq, Prog.pure_eq]
  refine Prog.always_bind RateLimiter.allow_always fun r => ?_
  rcases r with e | b
  · dsimp only
    split
    · exact Prog.always_bind RateLimiter.getRemainingRequests_always fun _ => trivial
    · trivial
  · cases b <;> exact Prog.always_bind RateLimiter.getRemainingRequests_always fun _ => trivial

/-- For every request and every pattern of Redis failures, the middleware changes
nothing but the sorted set of its own key: the accounts, the refresh tokens, the
blacklist, the clock and every other key's bucket stay as they were. -/
theorem middleware_touches_only_key {limit : Int} {window : Duration} {key : String} {w w' : World}
    {v : Verdict} (h : (rateLimitMiddleware limit window key).Runs w w' v) :
    w' = w ∨ ∃ z, w' = w.setZSet key z :=
  RateLimiter.runs_touchesOnly (rateLimitMiddleware_always limit window key) h

theorem middleware_touches_only_key_sample :
    ∃ w' v, (rateLimitMiddleware 1 RateLimiter.oneSecond "198.51.100.4").Runs fullBucket w' v ∧
      (w' = fullBucket ∨ ∃ z, w' = fullBucket.setZSet "198.51.100.4" z) :=
  ⟨_, _, Prog.run_runs _ _, middleware_touches_only_key (Prog.run_runs _ _)⟩

end AuthLifecycle.Handler

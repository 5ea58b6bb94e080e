import AuthLifecycle.Repository
/-!
# Service.RateLimiter — the sliding-window log on Redis (`service/rate_limiter.go`)

`Allow` keeps, per key, a Redis sorted set of the admitted requests: it drops
the entries whose score is at most the Unix second of `now - window`, counts the
rest, and admits when the count is below the limit, adding an entry scored by
the Unix second of `now` and named by `now` in nanoseconds and in seconds. The
key's expiry is pushed to `window + time.Minute` after each admission.

Scores and the cut-off are whole seconds, so the window `Allow` sees is not
`(now - window, now]`: an entry is kept exactly when its second is after the
second of `now - window` (`Records.mem_kept`, in `Service.RateLimiterSpec`). Two
admissions at one nanosecond reading share a member name, and the second
overwrites the first.
-/

namespace AuthLifecycle.Service.RateLimiter

open AuthLifecycle.Go AuthLifecycle.Store AuthLifecycle.Repository

set_option autoImplicit false

/-- go-redis's `formatSec`: the whole seconds an `EXPIRE` is sent for a duration,
at least one for a positive duration below a second. -/
def expireSeconds (d : Int) : Int := if 0 < d ∧ d < 10 ^ 9 then 1 else d.tdiv (10 ^ 9)

/-- `fmt.Sprintf("%d-%d", now.UnixNano(), now.Unix())`, the entry named for the reading `now`. -/
def member (now : Nat) : String := formatInt now ++ "-" ++ formatInt (unix now)

/-- `float64(now.Unix())`, the score of the entry for the reading `now`. -/
def score (now : Nat) : Int := float64OfInt (unix now)

/-- `RateLimiter.Allow`; `key` names the sorted set `ratelimit:<key>`. -/
def allow (key : String) (limit : Int) (window : Duration) : Prog (Except GoError Bool) := do
  let now ← timeNow
  let windowStart : Int := now - window.ns
  match ← storeCall (.redis (.zRemRangeByScore key 0 (unix windowStart))) with
  | .error err => return .error (.wrap "failed to clean old entries: " (toGo err))
  | .ok _ =>
  match ← storeCall (.redis (.zCard key)) with
  | .error err => return .error (.wrap "failed to count entries: " (toGo err))
  | .ok count =>
  if limit ≤ count then
    match ← storeCall (.redis (.zRangeWithScores key 0 0)) with
    | .ok (oldest :: _) =>
      let since ← timeNow
      let remaining := window.ns - (since - oldest.2 * 10 ^ 9)
      return .error (.new ("rate limit exceeded, try again in " ++
        secondsString (roundSecond remaining / 10 ^ 9)))
    | _ => return .error (.new "rate limit exceeded")
  match ← storeCall (.redis (.zAdd key (score now) (member now))) with
  | .error err => return .error (.wrap "failed to add entry: " (toGo err))
  | .ok _ =>
  let _ ← storeCall (.redis (.expire key (expireSeconds (window.add Duration.minute))))
  return .ok true

/-- `RateLimiter.GetRemainingRequests`. -/
def getRemainingRequests (key : String) (limit : Int) (window : Duration) : Prog (Except GoError Int) := do
  let now ← timeNow
  match ← storeCall (.redis (.zRemRangeByScore key 0 (unix (now - window.ns)))) with
  | .error err => return .error (.wrap "failed to clean old entries: " (toGo err))
  | .ok _ =>
  match ← storeCall (.redis (.zCard key)) with
  | .error err => return .error (.wrap "failed to count entries: " (toGo err))
  | .ok count => return .ok (max 0 (sub64 limit count))

end AuthLifecycle.Service.RateLimiter

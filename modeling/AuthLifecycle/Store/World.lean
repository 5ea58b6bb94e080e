import Mathlib.Data.List.Nodup
import AuthLifecycle.Utils.Validator
import AuthLifecycle.Utils.Jwt
/-!
# Store.World — the two stores, the clock and the UUID source

The relational store holds the tables `users` and `refresh_tokens` of the
schema (`tests/acceptance/testdata/setup.sql`): both `id` columns are primary
keys, `users.email` and `refresh_tokens.token_hash` are UNIQUE,
`refresh_tokens.user_id` references
`users(id)`, and a BEFORE UPDATE trigger stamps `users.updated_at`. The keyed
store holds the two key families the service writes, `blacklist:token:<token>`
(a string) and `ratelimit:<key>` (a sorted set), each with an optional expiry.
Redis keeps expiries as Unix milliseconds and treats a key as gone once its
clock has passed the expiry; a sorted set that loses its last member is
deleted with its expiry.

One atomic command is one SQL statement or one Redis command, as the client
issues it; `StoreCmd.exec` is its effect when the store answers. A failed
command (`Store.Prog.Outcome`) answers with a driver error and changes
nothing. Each table and key family is changed only by its own commands,
which is what every frame argument of the engine rests on.

The clock is an int64 count of nanoseconds since the epoch, as `UnixNano`
requires; UUIDs are drawn from a counter, so they never repeat.
-/

namespace AuthLifecycle.Store

open AuthLifecycle.Go AuthLifecycle.Utils

set_option autoImplicit false

/-! ## Rows -/

/-- `domain.User`, a row of `users`. -/
structure User where
  id : String
  email : String
  passwordHash : PasswordDigest
  createdAt : Int
  updatedAt : Int
  lastLoginAt : Option Int
  isActive : Bool
  isEmailVerified : Bool
  deriving DecidableEq, Repr

/-- The hex SHA-256 digest of a token string, kept symbolic: distinct strings
have distinct digests. -/
structure Digest where
  preimage : TokenString
  deriving DecidableEq, Repr

/-- `domain.RefreshToken`, a row of `refresh_tokens`. -/
structure RefreshToken where
  id : String
  userID : String
  tokenHash : Digest
  expiresAt : Int
  createdAt : Int
  deviceInfo : Option String
  ipAddress : Option String
  deriving DecidableEq, Repr

/-- A Redis sorted set: its members with their scores, and its expiry in Unix milliseconds. -/
structure ZSet where
  members : List (String × Int)
  expiry : Option Int
  deriving DecidableEq, Repr

/-- The empty (absent) sorted set. -/
def ZSet.empty : ZSet := ⟨[], none⟩

/-- Redis deletes a sorted set, and its expiry, when its last member goes. -/
def ZSet.normalize (z : ZSet) : ZSet := if z.members = [] then .empty else z

/-- `ZREMRANGEBYSCORE` on the members: drop those scored in `[min, max]`. -/
def ZSet.removeRange (ms : List (String × Int)) (min max : Int) : List (String × Int) :=
  ms.filter fun m => !(min ≤ m.2 && m.2 ≤ max)

/-- `ZADD` on the members: rescore `member` when present, else append it. -/
def ZSet.addMember (ms : List (String × Int)) (member : String) (score : Int) : List (String × Int) :=
  if ms.any (·.1 == member) then ms.map fun m => if m.1 = member then (member, score) else m
  else ms ++ [(member, score)]

@[simp] theorem ZSet.normalize_members (z : ZSet) : z.normalize.members = z.members := by
  unfold normalize; split <;> simp_all [ZSet.empty]

/-- The expiry of a Redis string key: none, or the Unix millisecond it lapses after. -/
inductive Expiry where
  | never
  | after (ms : Int)
  deriving DecidableEq, Repr

/-- The key has not lapsed at Redis time `nowMs`. -/
def Expiry.live (nowMs : Int) : Expiry → Bool
  | .never => true
  | .after ms => decide (nowMs ≤ ms)

/-! ## The world -/

/-- Both stores, the clock and the UUID source. -/
structure World where
  users : List User
  refreshTokens : List RefreshToken
  /-- The expiry of `blacklist:token:<token>`, when that key was set. -/
  blacklist : TokenString → Option Expiry
  /-- The sorted set at `ratelimit:<key>`, indexed by `key`. -/
  rateLimits : String → ZSet
  clock : Nat
  clock_lt : clock < 2 ^ 63
  uuidSeed : Nat

namespace World

variable (w : World)

/-- The clock as Redis reads it, in Unix milliseconds. -/
def redisMs : Int := w.clock / 10 ^ 6

/-- `blacklist:token:<token>` exists at the current clock. -/
def blacklisted (token : TokenString) : Bool :=
  match w.blacklist token with
  | some e => e.live w.redisMs
  | none => false

/-- The sorted set at `ratelimit:<key>` as Redis sees it now: empty once expired. -/
def liveZSet (key : String) : ZSet :=
  match (w.rateLimits key).expiry with
  | some e => if e < w.redisMs then .empty else w.rateLimits key
  | none => w.rateLimits key

/-- Store `z` at `ratelimit:<key>`. -/
def setZSet (key : String) (z : ZSet) : World :=
  { w with rateLimits := fun k => if k = key then z.normalize else w.rateLimits k }

/-- The clock moved forward to `t`. -/
def tick (t : Nat) (ht : t < 2 ^ 63) : World := { w with clock := t, clock_lt := ht }

/-- `UPDATE users SET last_login_at = stamp WHERE id = id`, with the trigger's `updated_at`. -/
def stampLastLogin (id : String) (stamp : Int) : World :=
  { w with users := w.users.map fun u =>
      if u.id = id then { u with lastLoginAt := some stamp, updatedAt := w.clock } else u }

/-- `DELETE FROM refresh_tokens WHERE token_hash = h`. -/
def deleteTokens (h : Digest) : World :=
  { w with refreshTokens := w.refreshTokens.filter (·.tokenHash != h) }

/-- The expiry `SET` gives `blacklist:token:<token>` for go-redis's expiration
`ttlNs`: a positive one is sent as whole milliseconds, at least one (`PX`, or
`EX` when it is whole seconds); `KeepTTL` (-1) keeps a live key's expiry; any
other sends no expiry, so the key never lapses. -/
def blacklistExpiry (token : TokenString) (ttlNs : Int) : Expiry :=
  if 0 < ttlNs then .after (w.redisMs + max 1 (ttlNs / 10 ^ 6))
  else if ttlNs = -1 then
    match w.blacklist token with
    | some e => if e.live w.redisMs then e else .never
    | none => .never
  else .never

/-- A key set with lifetime `ttlNs` lapses only after `unix (c + ttlNs)` whole
seconds have passed, for every clock reading `c` up to the `SET`: Redis's
millisecond expiry never runs out before the whole-second `exp` of a token
signed at `c` with that lifetime. -/
theorem blacklistExpiry_outlives (token : TokenString) {ttlNs : Int} {c n : Nat} (hc : c ≤ w.clock)
    (hn : w.clock ≤ n) (hl : (w.blacklistExpiry token ttlNs).live (n / 10 ^ 6) = false) : unix (c + ttlNs) * 10 ^ 9 ≤ n := by
  unfold unix
  by_cases hR : 0 < ttlNs
  · simp only [blacklistExpiry, hR, if_true, Expiry.live, redisMs, decide_eq_false_iff_not] at hl
    omega
  · omega

/-- `SET blacklist:token:<token> 1` with expiration `ttlNs` nanoseconds. -/
def setBlacklist (token : TokenString) (ttlNs : Int) : World :=
  { w with blacklist := fun t => if t = token then some (w.blacklistExpiry token ttlNs) else w.blacklist t }

/-! Each update touches one field; the others read through it. -/

@[simp] theorem tick_users (t : Nat) (ht : t < 2 ^ 63) : (w.tick t ht).users = w.users := rfl
@[simp] theorem tick_refreshTokens (t : Nat) (ht : t < 2 ^ 63) :
    (w.tick t ht).refreshTokens = w.refreshTokens := rfl
@[simp] theorem tick_blacklist (t : Nat) (ht : t < 2 ^ 63) : (w.tick t ht).blacklist = w.blacklist := rfl
@[simp] theorem tick_clock (t : Nat) (ht : t < 2 ^ 63) : (w.tick t ht).clock = t := rfl
@[simp] theorem tick_uuidSeed (t : Nat) (ht : t < 2 ^ 63) : (w.tick t ht).uuidSeed = w.uuidSeed := rfl
@[simp] theorem tick_tick {t n : Nat} (ht : t < 2 ^ 63) (hn : n < 2 ^ 63) : (w.tick t ht).tick n hn = w.tick n hn :=
  rfl

@[simp] theorem stampLastLogin_refreshTokens (id : String) (stamp : Int) :
    (w.stampLastLogin id stamp).refreshTokens = w.refreshTokens := rfl
@[simp] theorem stampLastLogin_blacklist (id : String) (stamp : Int) :
    (w.stampLastLogin id stamp).blacklist = w.blacklist := rfl
@[simp] theorem stampLastLogin_clock (id : String) (stamp : Int) :
    (w.stampLastLogin id stamp).clock = w.clock := rfl
@[simp] theorem stampLastLogin_uuidSeed (id : String) (stamp : Int) :
    (w.stampLastLogin id stamp).uuidSeed = w.uuidSeed := rfl

@[simp] theorem deleteTokens_users (h : Digest) : (w.deleteTokens h).users = w.users := rfl
@[simp] theorem deleteTokens_blacklist (h : Digest) : (w.deleteTokens h).blacklist = w.blacklist := rfl
@[simp] theorem deleteTokens_clock (h : Digest) : (w.deleteTokens h).clock = w.clock := rfl
@[simp] theorem deleteTokens_uuidSeed (h : Digest) : (w.deleteTokens h).uuidSeed = w.uuidSeed := rfl

@[simp] theorem setBlacklist_blacklist_self (t : TokenString) (d : Int) :
    (w.setBlacklist t d).blacklist t = some (w.blacklistExpiry t d) := if_pos rfl
theorem setBlacklist_blacklist_ne {t t' : TokenString} (d : Int) (h : t' ≠ t) :
    (w.setBlacklist t d).blacklist t' = w.blacklist t' := if_neg h
@[simp] theorem setBlacklist_users (t : TokenString) (d : Int) : (w.setBlacklist t d).users = w.users := rfl
@[simp] theorem setBlacklist_refreshTokens (t : TokenString) (d : Int) :
    (w.setBlacklist t d).refreshTokens = w.refreshTokens := rfl
@[simp] theorem setBlacklist_clock (t : TokenString) (d : Int) : (w.setBlacklist t d).clock = w.clock := rfl
@[simp] theorem setBlacklist_uuidSeed (t : TokenString) (d : Int) :
    (w.setBlacklist t d).uuidSeed = w.uuidSeed := rfl

@[simp] theorem tick_rateLimits (t : Nat) (ht : t < 2 ^ 63) : (w.tick t ht).rateLimits = w.rateLimits := rfl
@[simp] theorem tick_redisMs (t : Nat) (ht : t < 2 ^ 63) : (w.tick t ht).redisMs = t / 10 ^ 6 := rfl

@[simp] theorem setZSet_rateLimits_self (key : String) (z : ZSet) :
    (w.setZSet key z).rateLimits key = z.normalize := if_pos rfl
theorem setZSet_rateLimits_ne {key k : String} (z : ZSet) (h : k ≠ key) :
    (w.setZSet key z).rateLimits k = w.rateLimits k := if_neg h
@[simp] theorem setZSet_clock (key : String) (z : ZSet) : (w.setZSet key z).clock = w.clock := rfl
@[simp] theorem setZSet_redisMs (key : String) (z : ZSet) : (w.setZSet key z).redisMs = w.redisMs := rfl
@[simp] theorem setZSet_users (key : String) (z : ZSet) : (w.setZSet key z).users = w.users := rfl
@[simp] theorem setZSet_refreshTokens (key : String) (z : ZSet) :
    (w.setZSet key z).refreshTokens = w.refreshTokens := rfl
@[simp] theorem setZSet_blacklist (key : String) (z : ZSet) : (w.setZSet key z).blacklist = w.blacklist := rfl
@[simp] theorem setZSet_uuidSeed (key : String) (z : ZSet) : (w.setZSet key z).uuidSeed = w.uuidSeed := rfl

theorem setZSet_setZSet (key : String) (z z' : ZSet) :
    (w.setZSet key z).setZSet key z' = w.setZSet key z' := by
  unfold setZSet; congr 1; funext k; split <;> simp_all

/-- A set Redis sees now has not expired before now. -/
theorem liveZSet_expiry (key : String) {e : Int} (h : (w.liveZSet key).expiry = some e) : w.redisMs ≤ e := by
  unfold liveZSet at h
  split at h
  · rename_i e' he'
    split at h
    · cases h
    · rw [he'] at h; cases h; omega
  · rename_i he'; rw [he'] at h; cases h

/-- A set stored with an expiry that has not passed is seen as stored. -/
theorem liveZSet_setZSet (key : String) {z : ZSet} (hz : ∀ e, z.expiry = some e → w.redisMs ≤ e) :
    (w.setZSet key z).liveZSet key = z.normalize := by
  unfold liveZSet
  rw [setZSet_rateLimits_self]
  split
  · rename_i e he
    have : w.redisMs ≤ e := by
      unfold ZSet.normalize at he
      split at he
      · cases he
      · exact hz e he
    rw [setZSet_redisMs, if_neg (by omega)]
  · rfl

/-! Under the UNIQUE key on `refresh_tokens.token_hash`, a digest names one row. -/

section TokenHash

variable {w} (hu : (w.refreshTokens.map (·.tokenHash)).Nodup) {row : RefreshToken} (hr : row ∈ w.refreshTokens)
include hu hr

/-- `WHERE token_hash = $1` finds the one row stored under that digest. -/
theorem find?_tokenHash_of_nodup : w.refreshTokens.find? (·.tokenHash == row.tokenHash) = some row := by
  have hs : (w.refreshTokens.find? (·.tokenHash == row.tokenHash)).isSome :=
    List.find?_isSome.2 ⟨row, hr, beq_self_eq_true _⟩
  obtain ⟨r, hf⟩ := Option.isSome_iff_exists.1 hs
  rw [hf, List.inj_on_of_nodup_map hu (List.mem_of_find?_eq_some hf) hr (by simpa using List.find?_some hf)]

/-- The delete by a stored row's digest removes that row only. -/
theorem deleteTokens_eq_erase : (w.deleteTokens row.tokenHash).refreshTokens = w.refreshTokens.erase row := by
  rw [(List.Nodup.of_map _ hu).erase_eq_filter]
  refine List.filter_congr fun r hr' => ?_
  have := @List.inj_on_of_nodup_map _ _ _ _ hu r hr' row hr
  by_cases h : r = row
  · simp [h]
  · rw [bne_iff_ne.2 h, bne_iff_ne.2 (mt this h)]

end TokenHash

/-- After the delete by a digest, no row is stored under it. -/
theorem find?_deleteTokens (d : Digest) : (w.deleteTokens d).refreshTokens.find? (·.tokenHash == d) = none :=
  List.find?_eq_none.2 fun r hr => by simpa [deleteTokens] using (List.mem_filter.1 hr).2

end World

/-- The fields of a user that only its `INSERT` writes: all but the login stamps. -/
def User.account (u : User) : String × String × PasswordDigest × Int × Bool × Bool :=
  (u.id, u.email, u.passwordHash, u.createdAt, u.isActive, u.isEmailVerified)

/-- Stamping a login changes no user's account fields. -/
theorem World.stampLastLogin_account (w : World) (id : String) (stamp : Int) :
    (w.stampLastLogin id stamp).users.map User.account = w.users.map User.account := by
  simp only [World.stampLastLogin, List.map_map]
  congr 1
  funext u
  simp only [Function.comp_apply]
  split <;> rfl

/-- A store holding `users` only: no refresh tokens, no Redis keys, the clock at
the epoch and no UUID drawn yet. -/
def World.initial (users : List User) : World :=
  { users, refreshTokens := [], blacklist := fun _ => none, rateLimits := fun _ => .empty,
    clock := 0, clock_lt := by decide, uuidSeed := 0 }

/-! ## Commands -/

/-- An error a store command answers with: a PostgreSQL error with its SQLSTATE
code, or a client-side failure. -/
inductive StoreError where
  | pq (code message : String)
  | driver (text : String)
  deriving DecidableEq, Repr

/-- `err.Error()`. -/
def StoreError.text : StoreError → String
  | .pq _ message => "pq: " ++ message
  | .driver text => text

/-- A SQL statement the repositories run. -/
inductive SqlCmd where
  | insertUser (u : User)
  | selectUserByEmail (email : String)
  | selectUserById (id : String)
  | updateLastLogin (stamp : Int) (id : String)
  | insertRefreshToken (r : RefreshToken)
  | selectRefreshTokenByHash (h : Digest)
  | deleteRefreshTokenByHash (h : Digest)
  deriving DecidableEq, Repr

/-- A Redis command the services issue. -/
inductive RedisCmd where
  | set (token : TokenString) (ttlNs : Int)
  | existsKey (token : TokenString)
  | zRemRangeByScore (key : String) (min max : Int)
  | zCard (key : String)
  | zRangeWithScores (key : String) (start stop : Nat)
  | zAdd (key : String) (score : Int) (member : String)
  | expire (key : String) (seconds : Int)
  deriving DecidableEq, Repr

/-- One atomic store command. -/
inductive StoreCmd where
  | sql (c : SqlCmd)
  | redis (c : RedisCmd)
  deriving DecidableEq, Repr

/-- What a command returns when the store answers. `none` from a `SELECT` is
`sql.ErrNoRows`; a `Nat` from a write is its rows affected or Redis integer reply. -/
@[reducible] def StoreCmd.Result : StoreCmd → Type
  | .sql (.insertUser _) => Unit
  | .sql (.selectUserByEmail _) => Option User
  | .sql (.selectUserById _) => Option User
  | .sql (.updateLastLogin _ _) => Nat
  | .sql (.insertRefreshToken _) => Unit
  | .sql (.selectRefreshTokenByHash _) => Option RefreshToken
  | .sql (.deleteRefreshTokenByHash _) => Nat
  | .redis (.set _ _) => Unit
  | .redis (.existsKey _) => Nat
  | .redis (.zRemRangeByScore _ _ _) => Nat
  | .redis (.zCard _) => Nat
  | .redis (.zRangeWithScores _ _ _) => List (String × Int)
  | .redis (.zAdd _ _ _) => Nat
  | .redis (.expire _ _) => Bool

/-- The unique violation PostgreSQL reports on `users`, on `email` or the primary key `id`. -/
def duplicateKeyError : StoreError :=
  .pq "23505" "duplicate key value violates unique constraint \"users_email_key\""

/-- The unique violation PostgreSQL reports on `refresh_tokens.token_hash`. -/
def duplicateTokenHashError : StoreError :=
  .pq "23505" "duplicate key value violates unique constraint \"refresh_tokens_token_hash_key\""

/-- The foreign-key violation PostgreSQL reports on `refresh_tokens.user_id`. -/
def missingUserError : StoreError :=
  .pq "23503" ("insert or update on table \"refresh_tokens\" violates foreign key constraint " ++
    "\"refresh_tokens_user_id_fkey\"")

/-- The constraint an insert into `users` violates: the primary key or `email`. -/
def World.userInsertError (w : World) (u : User) : Option StoreError :=
  if w.users.any (fun v => v.email == u.email || v.id == u.id) then some duplicateKeyError else none

/-- The constraint an insert into `refresh_tokens` violates: the primary key or
`token_hash`, checked before the foreign key on `user_id`. -/
def World.tokenInsertError (w : World) (r : RefreshToken) : Option StoreError :=
  if w.refreshTokens.any (fun v => v.tokenHash == r.tokenHash || v.id == r.id) then
    some duplicateTokenHashError
  else if !w.users.any (·.id == r.userID) then some missingUserError
  else none

@[simp] theorem World.userInsertError_uuidSeed (w : World) (n : Nat) (u : User) :
    ({ w with uuidSeed := n } : World).userInsertError u = w.userInsertError u := rfl

@[simp] theorem World.tokenInsertError_uuidSeed (w : World) (n : Nat) (r : RefreshToken) :
    ({ w with uuidSeed := n } : World).tokenInsertError r = w.tokenInsertError r := rfl

/-- Redis orders a sorted set by score, then by member. -/
def zLe (a b : String × Int) : Bool := a.2 < b.2 || (a.2 == b.2 && decide (a.1 ≤ b.1))

/-- The effect and answer of a SQL statement. -/
def SqlCmd.exec (w : World) : (c : SqlCmd) → World × Except StoreError (StoreCmd.sql c).Result
  | .insertUser u =>
      match w.userInsertError u with
      | some e => (w, .error e)
      | none => ({ w with users := w.users ++ [u] }, .ok ())
  | .selectUserByEmail email => (w, .ok (w.users.find? (·.email == email)))
  | .selectUserById id => (w, .ok (w.users.find? (·.id == id)))
  | .updateLastLogin stamp id => (w.stampLastLogin id stamp, .ok (w.users.countP (·.id == id)))
  | .insertRefreshToken r =>
      match w.tokenInsertError r with
      | some e => (w, .error e)
      | none => ({ w with refreshTokens := w.refreshTokens ++ [r] }, .ok ())
  | .selectRefreshTokenByHash h => (w, .ok (w.refreshTokens.find? (·.tokenHash == h)))
  | .deleteRefreshTokenByHash h => (w.deleteTokens h, .ok (w.refreshTokens.countP (·.tokenHash == h)))

/-- The effect and answer of a Redis command. -/
def RedisCmd.exec (w : World) : (c : RedisCmd) → World × Except StoreError (StoreCmd.redis c).Result
  | .set token ttlNs => (w.setBlacklist token ttlNs, .ok ())
  | .existsKey token => (w, .ok ((if w.blacklisted token then 1 else 0 : Nat)))
  | .zRemRangeByScore key min max =>
      let z := w.liveZSet key
      let kept := ZSet.removeRange z.members min max
      (w.setZSet key { z with members := kept }, .ok (z.members.length - kept.length))
  | .zCard key => (w, .ok (w.liveZSet key).members.length)
  | .zRangeWithScores key start stop =>
      (w, .ok (((w.liveZSet key).members.mergeSort zLe).drop start |>.take (stop + 1 - start)))
  | .zAdd key score member =>
      let z := w.liveZSet key
      (w.setZSet key { z with members := ZSet.addMember z.members member score },
        .ok (if z.members.any (·.1 == member) then 0 else 1 : Nat))
  | .expire key seconds =>
      let z := w.liveZSet key
      if z.members = [] then (w, .ok false)
      else if seconds ≤ 0 then (w.setZSet key .empty, .ok true)
      else (w.setZSet key { z with expiry := some (w.redisMs + seconds * 1000) }, .ok true)

/-- The effect and answer of a store command. -/
def StoreCmd.exec (w : World) : (c : StoreCmd) → World × Except StoreError c.Result
  | .sql c => c.exec w
  | .redis c => c.exec w

/-- No store command moves the clock. -/
theorem StoreCmd.exec_clock (w : World) (c : StoreCmd) : (c.exec w).1.clock = w.clock := by
  rcases c with (_ | _ | _ | _ | _ | _ | _) | (_ | _ | _ | _ | _ | _ | _) <;>
    simp only [StoreCmd.exec, SqlCmd.exec, RedisCmd.exec] <;> (try split) <;> (try split) <;> rfl

end AuthLifecycle.Store

import AuthLifecycle.Engine.Revocation
import AuthLifecycle.Handler.RateLimit
import AuthLifecycle.Store.Interleave
/-!
# Engine.Concurrent — calls in flight together

Handlers run in goroutines, and several server processes share Postgres and
Redis, so the store commands of concurrent calls interleave (`Threads.Run`).
Each operation below checks the stores and then acts on what it read, in
separate commands; an interleaving that lets every call check before any acts
makes them all act.

* `concurrent_refresh_consumes_twice`: two concurrent refreshes of one
  redeemable token can both return a pair, from every reachable world.
* `concurrent_allow_admits_all`: any number of concurrent `Allow` calls on one
  key can all be admitted at one clock reading, when the key has room for one.
* `concurrent_register_conflict`: concurrent registrations never change the
  accounts, and a registration for a stored sanitized email is answered 409
  only when the request's email is itself in sanitized form.
-/

namespace AuthLifecycle.Engine

open AuthLifecycle.Go AuthLifecycle.Utils AuthLifecycle.Store AuthLifecycle.Service
open AuthLifecycle.Repository AuthLifecycle.Handler AuthLifecycle.Service.AuthService

set_option autoImplicit false

/-! ## Refreshing one token twice -/

section Refresh

variable {s : AuthService} {w v : World} {t : TokenString} {user : User}

/-- The tail of `refreshToken` once its checks passed: the two revoking writes,
then issuing. -/
def revokeAndIssue (s : AuthService) (t : TokenString) (user : User) :
    Prog (Except GoError AuthResponseWithRefreshToken) :=
  (TokenBlacklistService.addToken t s.refreshTokenExpiry).bind fun _ =>
    (TokenRepository.deleteByTokenHash (hashToken t)).bind fun _ => s.generateAuthResponseWithRefreshToken user

/-- `refreshToken`'s six reads (two clock readings of the JWT check, the row, the
clock, the blacklist, the user) change nothing and leave `revokeAndIssue`. -/
theorem refreshToken_advance (hc : s.RefreshChecks t w user) :
    (s.refreshToken t).advance 6 w = (w, revokeAndIssue s t user) := by
  obtain ⟨row, hrow, hexp⟩ := hc.stored
  simp only [refreshToken, JWTManager.validateRefreshToken, TokenRepository.getByTokenHash,
    TokenBlacklistService.isTokenBlacklisted, UserRepository.getByID, Prog.bind_eq, Prog.pure_eq,
    Prog.bind_assoc, Prog.pure_bind, timeNow, storeCall, Prog.call_bind, Prog.advance_call, Cmd.exec,
    StoreCmd.exec, SqlCmd.exec, RedisCmd.exec, hc.valid, hrow, hexp, hc.notBlacklisted, hc.found,
    hc.active, if_false, Bool.false_eq_true, lt_self_iff_false, decide_False, Bool.not_true,
    Prog.advance_zero, revokeAndIssue]

theorem revokeAndIssue_run (hi : s.Insertable user (s.revokedWorld t v)) :
    (revokeAndIssue s t user).run v =
      (s.afterIssue user (s.revokedWorld t v), .ok (s.issued user (s.revokedWorld t v))) := by
  rw [revokeAndIssue, Prog.run_bind, TokenBlacklistService.addToken_run, Prog.run_bind,
    TokenRepository.deleteByTokenHash_run]
  exact generate_run hi

/-- Two concurrent refreshes of a token that passes every check, from any
reachable world: when both make their checks before either revokes, both
return a pair, two different pairs for the token's user. -/
theorem concurrent_refresh_consumes_twice {reliable : Bool} (hr : Reachable s reliable w)
    (hc : s.RefreshChecks t w user) :
    ∃ (es : List Turn) (s' : Threads (Except GoError AuthResponseWithRefreshToken)) (v₁ v₂ : World),
      Threads.Run ⟨w, [s.refreshToken t, s.refreshToken t]⟩ es s' ∧
      s'.progs = [.pure (.ok (s.issued user v₁)), .pure (.ok (s.issued user v₂))] ∧
      s.issued user v₁ ≠ s.issued user v₂ := by
  have hi : Inv s w := hr.inv
  obtain ⟨row, hmem, hh⟩ := hc.row
  obtain ⟨c, k, ht, hc', hk'⟩ := hi.signed_of_row hmem hh
  have hu := hc.user_any
  -- the first revocation, its pair, and the second revocation
  have hi₁ : Inv s (s.revokedWorld t w) := hi.revokedWorld_of_checks hc
  have hi₁' : Inv s (s.afterIssue user (s.revokedWorld t w)) := hi₁.afterIssue hu
  have hi₂ : Inv s (s.revokedWorld t (s.afterIssue user (s.revokedWorld t w))) :=
    (hi₁'.setBlacklist_of_signed ht (by simpa [revokedWorld] using hc')
      (by simp [revokedWorld]; omega)).deleteTokens _
  -- both threads check, then the first acts alone, then the second
  obtain ⟨es₁, v, hv, h₁⟩ := @Threads.Run.each_advance _ (fun u => u = w)
    (fun _ => revokeAndIssue s t user) 6 [s.refreshToken t, s.refreshToken t] w
    (fun p hp u hu => by
      obtain rfl : p = s.refreshToken t := by simpa using hp
      subst hu
      rw [refreshToken_advance hc]
      exact ⟨rfl, rfl⟩) rfl
  rw [hv] at h₁
  obtain ⟨es₂, h₂⟩ := @Threads.Run.alone _ w [revokeAndIssue s t user, revokeAndIssue s t user] 0
    (revokeAndIssue s t user) rfl
  rw [revokeAndIssue_run (hi₁.insertable hu)] at h₂
  obtain ⟨es₃, h₃⟩ := @Threads.Run.alone _ (s.afterIssue user (s.revokedWorld t w))
    [.pure (.ok (s.issued user (s.revokedWorld t w))), revokeAndIssue s t user] 1 (revokeAndIssue s t user) rfl
  rw [revokeAndIssue_run (hi₂.insertable (by simpa [revokedWorld] using hu))] at h₃
  refine ⟨es₁ ++ es₂ ++ es₃, _, _, _, (h₁.append h₂).append h₃, rfl, fun he => ?_⟩
  have hk := (tokenFor_inj (congrArg AuthResponseWithRefreshToken.refreshToken he)).2.2
  simp [revokedWorld] at hk

theorem concurrent_refresh_alice :
    Reachable sampleService true afterAliceLogin ∧
      sampleService.RefreshChecks alicePair.refreshToken afterAliceLogin aliceStampedUser ∧
      ∃ (es : List Turn) (s' : Threads (Except GoError AuthResponseWithRefreshToken)) (v₁ v₂ : World),
        Threads.Run ⟨afterAliceLogin, [sampleService.refreshToken alicePair.refreshToken,
          sampleService.refreshToken alicePair.refreshToken]⟩ es s' ∧
        s'.progs = [.pure (.ok (sampleService.issued aliceStampedUser v₁)),
          .pure (.ok (sampleService.issued aliceStampedUser v₂))] ∧
        sampleService.issued aliceStampedUser v₁ ≠ sampleService.issued aliceStampedUser v₂ := by
  have hc := alice_refresh_checks afterAliceLogin afterAliceLogin_live rfl
    (afterAliceLogin_reachable true).inv rfl
  exact ⟨afterAliceLogin_reachable true, hc, concurrent_refresh_consumes_twice (afterAliceLogin_reachable true) hc⟩

end Refresh

/-! ## Admitting past the limit -/

section Allow

open RateLimiter

variable {key : String} {limit : Int} {window : Duration}

/-- `Allow`'s first three commands (the clock read, the clean-up and the count)
leave the cleaned set. -/
theorem allow_advance_world (u : World) :
    ((allow key limit window).advance 3 u).1 = u.setZSet key ⟨kept u key window, (u.liveZSet key).expiry⟩ :=
  rfl

/-- What remains of `Allow` after its first three commands depends on the world
only through the clock and the kept members. -/
theorem allow_advance_rest {u v : World} (hc : u.clock = v.clock) (hk : kept u key window = kept v key window) :
    ((allow key limit window).advance 3 u).2 = ((allow key limit window).advance 3 v).2 := by
  simp (disch := exact Or.inr rfl) only [allow, Prog.bind_eq, timeNow, storeCall, Prog.call_bind,
    Prog.pure_bind, Prog.advance_call, Cmd.exec, StoreCmd.exec, RedisCmd.exec, Prog.advance_zero,
    liveZSet_setZSet_of_live, ZSet.normalize_members]
  unfold kept at hk
  rw [hk, hc]

/-- Once it counted fewer than `limit` kept members, `Allow` admits, whatever the
other calls did to the set meanwhile. -/
theorem allow_rest_run {u : World} (h : ((kept u key window).length : Int) < limit) (v : World) :
    (((allow key limit window).advance 3 u).2.run v).2 = .ok true := by
  simp (disch := exact Or.inr rfl) only [allow, Prog.bind_eq, timeNow, storeCall, Prog.call_bind,
    Prog.pure_bind, Prog.advance_call, Cmd.exec, StoreCmd.exec, RedisCmd.exec, Prog.advance_zero,
    liveZSet_setZSet_of_live, ZSet.normalize_members]
  unfold kept at h
  rw [if_neg (Int.not_le.2 h)]
  simp [Prog.run_call, Cmd.exec, StoreCmd.exec, RedisCmd.exec]

/-- Any number `n` of concurrent `Allow` calls on one key with room for one more
entry: when every call counts before any adds its entry, all `n` are admitted,
and the clock never moves, so all their readings are one instant. -/
theorem concurrent_allow_admits_all {w : World} (h : ((kept w key window).length : Int) < limit) (n : Nat) :
    ∃ (es : List Turn) (s' : Threads (Except GoError Bool)),
      Threads.Run ⟨w, List.replicate n (allow key limit window)⟩ es s' ∧
      s'.world.clock = w.clock ∧ s'.progs = List.replicate n (.pure (.ok true)) := by
  -- every call cleans and counts; the cleaned set stays as it is
  obtain ⟨es₁, v, ⟨hvc, -⟩, h₁⟩ := @Threads.Run.each_advance _
    (fun u => u.clock = w.clock ∧ kept u key window = kept w key window)
    (fun _ => ((allow key limit window).advance 3 w).2) 3 (List.replicate n (allow key limit window)) w
    (fun p hp u ⟨hc, hk⟩ => by
      rw [List.eq_of_mem_replicate hp]
      refine ⟨⟨hc, ?_⟩, allow_advance_rest hc hk⟩
      rw [allow_advance_world, kept_cleaned, hk]) ⟨rfl, rfl⟩
  rw [List.map_replicate] at h₁
  -- then every call adds its entry and returns true
  obtain ⟨es₂, v', rs, hv', h₂, hlen, hrs⟩ := @Threads.Run.each_alone _
    (fun u => u.clock = w.clock) (fun r : Except GoError Bool => r = .ok true)
    (List.replicate n ((allow key limit window).advance 3 w).2) v
    (fun p hp u hu => by
      rw [List.eq_of_mem_replicate hp]
      exact ⟨(Prog.run_clock _ _).trans hu, allow_rest_run h _⟩) hvc
  refine ⟨es₁ ++ es₂, ⟨v', _⟩, h₁.append h₂, hv', ?_⟩
  rw [List.eq_replicate_iff.2 ⟨by simpa using hlen, hrs⟩, List.map_replicate]

theorem concurrent_allow_admits_two :
    ((kept (World.initial []) "203.0.113.7" oneSecond).length : Int) < 1 ∧
      ∃ (es : List Turn) (s' : Threads (Except GoError Bool)),
        Threads.Run ⟨World.initial [], List.replicate 2 (allow "203.0.113.7" 1 oneSecond)⟩ es s' ∧
        s'.world.clock = (World.initial []).clock ∧ s'.progs = List.replicate 2 (.pure (.ok true)) :=
  ⟨by decide, concurrent_allow_admits_all (by decide) 2⟩

end Allow

/-! ## Registering concurrently -/

section Register

/-- The command changes neither the users nor the refresh-token rows. -/
def KeepsAccounts (c : Cmd) : Prop :=
  ∀ v : World, (c.exec v).1.users = v.users ∧ (c.exec v).1.refreshTokens = v.refreshTokens

/-- Whatever the stores answer, `register` issues no command but the lookup of
the raw email: its not-found error is a wrap, never the bare sentinel. -/
theorem register_always (s : AuthService) (req : RegisterRequest) : (s.register req).Always KeepsAccounts := by
  simp only [AuthService.register, UserRepository.getByEmail, storeCall, Prog.bind_eq, Prog.pure_eq,
    Prog.pure_bind, Prog.call_bind]
  split
  · trivial
  split
  · trivial
  refine ⟨fun v => ⟨rfl, rfl⟩, fun r => ?_⟩
  rcases r with e | _ | u <;>
    simp only [Prog.pure_bind, ne_eq, GoError.wrap_ne_sentinel, not_false_eq_true, if_true] <;> trivial

theorem handler_register_always (h : AuthHandler) (req : RegisterRequest) :
    (h.register (.ok req)).Always KeepsAccounts := by
  simp only [AuthHandler.register, Prog.bind_eq, Prog.pure_eq]
  refine Prog.always_bind (register_always _ req) fun r => ?_
  rcases r with e | r
  · dsimp only
    split <;> trivial
  · trivial

/-- From a store whose emails are sanitized: any interleaving of concurrent
registrations, with the clock moving, leaves the users and the refresh-token
rows as they were; and a registration whose sanitized email is stored changes
nothing and is answered 409 exactly when the email and password are well formed
and the email as sent is already sanitized — a variant in letter case gets 400. -/
theorem concurrent_register_conflict (h : AuthHandler) {w : World}
    (hnf : ∀ u ∈ w.users, sanitizeEmail u.email = u.email) :
    (∀ (reqs : List RegisterRequest) (es : List Turn) (s' : Threads Response),
        Threads.Run ⟨w, reqs.map fun req => h.register (.ok req)⟩ es s' →
        s'.world.users = w.users ∧ s'.world.refreshTokens = w.refreshTokens) ∧
    ∀ (req : RegisterRequest) (u : User), u ∈ w.users → u.email = sanitizeEmail req.email →
      ((h.register (.ok req)).run w).1 = w ∧
      (((h.register (.ok req)).run w).2.status = 409 ↔
        validateEmail req.email = true ∧ validatePassword req.password = true ∧
          req.email = sanitizeEmail req.email) := by
  refine ⟨fun reqs es s' hr => (@Threads.Run.always _ KeepsAccounts
    (fun v => v.users = w.users ∧ v.refreshTokens = w.refreshTokens)
    (fun c v hc hv => ⟨(hc v).1.trans hv.1, (hc v).2.trans hv.2⟩) (fun _ _ _ _ hv => hv) _ _ _ hr ?_
    ⟨rfl, rfl⟩).1, fun req u hu he => ⟨by rw [h.register_response], ?_⟩⟩
  · intro p hp
    obtain ⟨req, -, rfl⟩ := List.mem_map.1 hp
    exact handler_register_always h req
  · have hfound : (w.users.find? (·.email == req.email)).isSome = true ↔ req.email = sanitizeEmail req.email := by
      constructor
      · intro hs
        obtain ⟨v, hv⟩ := Option.isSome_iff_exists.1 hs
        have hve : v.email = req.email := by simpa using List.find?_some hv
        rw [← hve, hnf v (List.mem_of_find?_eq_some hv)]
      · intro hr
        exact List.find?_isSome.2 ⟨u, hu, by simp [he, ← hr]⟩
    rw [h.register_response, apply_ite Response.status]
    simp only [errorJSON, ← hfound]
    split <;> rename_i hc <;> simp only [Bool.and_eq_true] at hc
    · exact iff_of_true rfl ⟨hc.1.1, hc.1.2, hc.2⟩
    · exact iff_of_false (by decide) fun ⟨h₁, h₂, h₃⟩ => hc ⟨⟨h₁, h₂⟩, h₃⟩

/-- Alice's email with a capital first letter. -/
def aliceCapitalized : RegisterRequest := ⟨"Alice@example.com", "Passw0rd"⟩

theorem concurrent_register_conflict_alice :
    (∀ u ∈ aliceWorld.users, sanitizeEmail u.email = u.email) ∧
      ((AuthHandler.register ⟨sampleService⟩ (.ok aliceCapitalized)).run aliceWorld).2.status ≠ 409 := by
  have hnf : ∀ u ∈ aliceWorld.users, sanitizeEmail u.email = u.email := by
    simp only [aliceWorld, World.initial, List.mem_singleton, forall_eq, alice, sanitizeEmail, String.map_eq,
      trimSpace]
    decide
  have hs : sanitizeEmail aliceCapitalized.email = alice.email := by
    simp only [aliceCapitalized, alice, sanitizeEmail, String.map_eq, trimSpace]
    decide
  refine ⟨hnf, fun h409 => ?_⟩
  have hc := ((concurrent_register_conflict ⟨sampleService⟩ hnf).2 aliceCapitalized alice
    (List.mem_singleton.2 rfl) hs.symm).2.1 h409
  exact absurd (hc.2.2.trans hs) (by decide)

end Register

end AuthLifecycle.Engine

import AuthLifecycle.Engine.Maintenance
import AuthLifecycle.Engine.Server
/-!
# Engine.Expiry — `DeleteExpired` is invisible to clients

`tokenRepository.DeleteExpired` drops every refresh-token row whose
`expires_at` has passed. No client can tell whether it ran. `Agree` relates two
worlds that are equal once their expired rows are dropped, and whose blacklists
differ only at refresh tokens past their `exp` (`Spent`). From agreeing worlds
every call of the service runs in lockstep (`Lockstep`): each run from one
world, with any store faults, is matched by a run from the other with the same
result and agreeing ends, and so is the run in which every command succeeds.
The one result that may differ is the error `ValidateToken` gives a spent
refresh token — blacklisted on one side, refused by the JWT check on the
other — and it is an error on both.

* `Lockstep.bind`, `Lockstep.storeCall_bind`: lockstep runs compose along the
  program, so each operation's proof follows its Go body statement by statement.
* `Agree.op`: every operation runs in lockstep from agreeing worlds; `Logout`
  of a token with an expired row is the one case where the two sides may write
  differently, and there every revocation is invisible (`Agree.revoked_left`).
* `Agree.run`: so does every run of the engine (`Agree.step` for one step).
* `opsReachable_unique`: reachable worlds keep the rows' digests distinct, as
  the UNIQUE key on `token_hash` does; `Agree` needs it.
* `deleteExpired_invisible`: from every reachable world, the runs of the engine
  after a `DeleteExpired` and without it show the same calls and results.
* `deleteExpired_invisible_http`: behind the deployed routes even the error text
  goes, and the server's runs with and without it are exactly the same
  exchanges (`Agree.serve`, with `Lockstep.of_always` for the rate limiter).
-/

namespace AuthLifecycle.Engine

open AuthLifecycle.Go AuthLifecycle.Utils AuthLifecycle.Store AuthLifecycle.Service
open AuthLifecycle.Service.AuthService AuthLifecycle.Repository

set_option autoImplicit false

/-! ## Lockstep runs of two programs -/

section Lockstep

variable {α β γ δ : Type}

/-- Runs of `pa` from `wa` and of `pb` from `wb` in step: every run of `pa` is
matched by a run of `pb` with related ends (`R`) and results (`Q`), and so is
the run in which every store command succeeds. -/
structure Lockstep (R : World → World → Prop) (Q : α → β → Prop) (pa : Prog α) (pb : Prog β)
    (wa wb : World) : Prop where
  runs : ∀ wa' a, pa.Runs wa wa' a → ∃ wb' b, pb.Runs wb wb' b ∧ R wa' wb' ∧ Q a b
  run : R (pa.run wa).1 (pb.run wb).1 ∧ Q (pa.run wa).2 (pb.run wb).2

variable {R R₁ : World → World → Prop} {Q : γ → δ → Prop} {wa wb : World}

theorem Lockstep.pure {a : γ} {b : δ} (h : R wa wb) (hq : Q a b) : Lockstep R Q (.pure a) (.pure b) wa wb :=
  ⟨fun _ _ ⟨he, ha⟩ => ⟨wb, b, ⟨rfl, rfl⟩, he ▸ h, ha ▸ hq⟩, h, hq⟩

theorem Lockstep.bind {Q₁ : α → β → Prop} {pa : Prog α} {pb : Prog β} {fa : α → Prog γ} {fb : β → Prog δ}
    (hp : Lockstep R₁ Q₁ pa pb wa wb)
    (hf : ∀ wa₁ wb₁ a b, pa.Runs wa wa₁ a → pb.Runs wb wb₁ b → R₁ wa₁ wb₁ → Q₁ a b →
      Lockstep R Q (fa a) (fb b) wa₁ wb₁) :
    Lockstep R Q (pa.bind fa) (pb.bind fb) wa wb where
  runs wa' c h := by
    obtain ⟨wa₁, a, hpa, hfa⟩ := (Prog.runs_bind _ _ _ _ _).1 h
    obtain ⟨wb₁, b, hpb, hR, hQ⟩ := hp.runs wa₁ a hpa
    obtain ⟨wb', d, hfb, hR', hQ'⟩ := (hf wa₁ wb₁ a b hpa hpb hR hQ).runs wa' c hfa
    exact ⟨wb', d, (Prog.runs_bind _ _ _ _ _).2 ⟨wb₁, b, hpb, hfb⟩, hR', hQ'⟩
  run := by
    rw [Prog.run_bind, Prog.run_bind]
    exact (hf _ _ _ _ (Prog.run_runs pa wa) (Prog.run_runs pb wb) hp.run.1 hp.run.2).run

/-- One store command answering the same on both sides, then the continuations. -/
theorem Lockstep.storeCall_bind {c : StoreCmd} {fa : Except StoreError c.Result → Prog γ}
    {fb : Except StoreError c.Result → Prog δ} (hans : (c.exec wa).2 = (c.exec wb).2)
    (hexec : Lockstep R Q (fa (c.exec wa).2) (fb (c.exec wa).2) (c.exec wa).1 (c.exec wb).1)
    (hfail : ∀ e, Lockstep R Q (fa (.error (.driver e))) (fb (.error (.driver e))) wa wb) :
    Lockstep R Q ((storeCall c).bind fa) ((storeCall c).bind fb) wa wb where
  runs wa' a h := by
    rcases (storeCall_bind_runs c fa).1 h with h | ⟨e, h⟩
    · obtain ⟨wb', b, hb, hR, hQ⟩ := hexec.runs wa' a h
      exact ⟨wb', b, (storeCall_bind_runs c fb).2 (.inl (hans ▸ hb)), hR, hQ⟩
    · obtain ⟨wb', b, hb, hR, hQ⟩ := (hfail e).runs wa' a h
      exact ⟨wb', b, (storeCall_bind_runs c fb).2 (.inr ⟨e, hb⟩), hR, hQ⟩
  run := by
    rw [storeCall_bind_run, storeCall_bind_run, ← hans]
    exact hexec.run

/-- Programs whose every two runs are related run in lockstep. -/
theorem Lockstep.of_runs {pa : Prog γ} {pb : Prog δ}
    (h : ∀ wa' wb' a b, pa.Runs wa wa' a → pb.Runs wb wb' b → R wa' wb' ∧ Q a b) : Lockstep R Q pa pb wa wb :=
  ⟨fun _ _ ha => ⟨_, _, Prog.run_runs pb wb, h _ _ _ _ ha (Prog.run_runs pb wb)⟩,
    h _ _ _ _ (Prog.run_runs pa wa) (Prog.run_runs pb wb)⟩

theorem Lockstep.mono {Q' : γ → δ → Prop} {pa : Prog γ} {pb : Prog δ} (h : Lockstep R Q pa pb wa wb)
    (hq : ∀ a b, Q a b → Q' a b) : Lockstep R Q' pa pb wa wb :=
  ⟨fun wa' a ha => let ⟨wb', b, hb, hR, hQ⟩ := h.runs wa' a ha; ⟨wb', b, hb, hR, hq a b hQ⟩,
    h.run.1, hq _ _ h.run.2⟩

theorem Lockstep.timeNow_bind {fa : Nat → Prog γ} {fb : Nat → Prog δ} (hc : wa.clock = wb.clock)
    (h : Lockstep R Q (fa wa.clock) (fb wa.clock) wa wb) :
    Lockstep R Q (timeNow.bind fa) (timeNow.bind fb) wa wb where
  runs wa' a ha := by
    obtain ⟨wb', b, hb, hR, hQ⟩ := h.runs wa' a ((timeNow_bind_runs fa).1 ha)
    exact ⟨wb', b, (timeNow_bind_runs fb).2 (hc ▸ hb), hR, hQ⟩
  run := by
    rw [timeNow_bind_run, timeNow_bind_run, ← hc]
    exact h.run

end Lockstep

/-! ## Worlds no client can tell apart -/

section Agree

variable (s : AuthService)

/-- `t` is a refresh token the service signed at a clock reading up to `n`,
whose `exp` has passed at `n`. -/
def Spent (t : TokenString) (n : Nat) : Prop :=
  ∃ u c k, t = s.tokenFor u c k ∧ c ≤ n ∧ s.jwtManager.refreshExp c * 10 ^ 9 ≤ n

/-- Two worlds no client can tell apart: both keep the engine invariant and
the UNIQUE key on `token_hash`; their users, rate-limit buckets, clock and UUID
source are the same; their rows are the same once the expired ones are
dropped; and their blacklists differ only at spent tokens. -/
structure Agree (wa wb : World) : Prop where
  invA : Inv s wa
  invB : Inv s wb
  uniqueA : (wa.refreshTokens.map (·.tokenHash)).Nodup
  uniqueB : (wb.refreshTokens.map (·.tokenHash)).Nodup
  users : wa.users = wb.users
  rateLimits : wa.rateLimits = wb.rateLimits
  clock : wa.clock = wb.clock
  uuidSeed : wa.uuidSeed = wb.uuidSeed
  rows : (wa.deleteExpiredTokens wa.clock).refreshTokens = (wb.deleteExpiredTokens wb.clock).refreshTokens
  keys : ∀ t, ¬Spent s t wa.clock → wa.blacklist t = wb.blacklist t

variable {s} {w wa wb : World} {t : TokenString}

theorem Spent.mono {n n' : Nat} (h : Spent s t n) (hn : n ≤ n') : Spent s t n' :=
  let ⟨u, c, k, ht, hc, he⟩ := h
  ⟨u, c, k, ht, hc.trans hn, by omega⟩

/-- Under the invariant, an expired row stores a spent token: the token's
whole-second `exp` is never after the row's `expires_at`. -/
theorem Inv.spent_of_expired (hi : Inv s w) {row : RefreshToken} (hr : row ∈ w.refreshTokens)
    (hh : row.tokenHash = hashToken t) (he : row.expiresAt < w.clock) : Spent s t w.clock := by
  obtain ⟨c, k, hrow, hc, -⟩ := hi.rows row hr
  rw [hrow] at hh he
  refine ⟨row.userID, c, k, (hashToken_inj hh).symm, hc, ?_⟩
  simp only [rowFor] at he
  simp only [JWTManager.refreshExp, unix, ← s.expiry_eq]
  omega

/-- A refresh token that validates at `n` is not spent at `n`. -/
theorem not_spent_of_valid {n n' : Nat} {u : String} (hn : n < 2 ^ 63)
    (hv : s.jwtManager.validateRefreshTokenAt t n n' = .ok u) : ¬Spent s t n := by
  rintro ⟨u', c, k, rfl, hc, he⟩
  exact expired_tokenFor (lt_of_le_of_lt hc hn) he n' u hv

/-- A refresh token that validates at the clock has no expired row. -/
theorem Inv.unexpired_of_valid (hi : Inv s w) {n' : Nat} {u : String}
    (hv : s.jwtManager.validateRefreshTokenAt t w.clock n' = .ok u) :
    ∀ row ∈ w.refreshTokens, row.tokenHash = hashToken t → ¬row.expiresAt < w.clock :=
  fun _ hr hh he => not_spent_of_valid w.clock_lt hv (hi.spent_of_expired hr hh he)

/-- Dropping rows that fail `q` changes no search for rows that pass it. -/
theorem find?_filter_of_imp {l : List RefreshToken} {p q : RefreshToken → Bool}
    (h : ∀ r ∈ l, p r = true → q r = true) : (l.filter q).find? p = l.find? p := by
  induction l with
  | nil => rfl
  | cons r l ih =>
    have ih := ih fun r' hr' => h r' (List.mem_cons_of_mem _ hr')
    by_cases hp : p r = true
    · simp [List.filter_cons, h r (List.mem_cons_self _ _) hp, List.find?_cons, hp]
    · by_cases hq : q r = true <;> simp [List.filter_cons, hq, List.find?_cons, hp, ih]

theorem countP_filter_of_imp {l : List RefreshToken} {p q : RefreshToken → Bool}
    (h : ∀ r ∈ l, p r = true → q r = true) : (l.filter q).countP p = l.countP p := by
  rw [List.countP_filter]
  exact List.countP_congr fun r hr => by
    constructor
    · intro h'; simp_all
    · intro hp; simp [hp, h r hr hp]

/-- No row stored under `d` has expired. -/
def LiveDigest (d : Digest) (w : World) : Prop :=
  ∀ row ∈ w.refreshTokens, row.tokenHash = d → ¬row.expiresAt < w.clock

theorem LiveDigest.imp {d : Digest} (h : LiveDigest d w) :
    ∀ r ∈ w.refreshTokens, (r.tokenHash == d) = true → (!decide (r.expiresAt < w.clock)) = true :=
  fun r hr hd => by simpa using h r hr (by simpa using hd)

namespace Agree

theorem symm (h : Agree s wa wb) : Agree s wb wa :=
  ⟨h.invB, h.invA, h.uniqueB, h.uniqueA, h.users.symm, h.rateLimits.symm, h.clock.symm, h.uuidSeed.symm,
    h.rows.symm, fun t ht => (h.keys t (h.clock ▸ ht)).symm⟩

theorem redisMs (h : Agree s wa wb) : wa.redisMs = wb.redisMs := by
  simp only [World.redisMs, h.clock]

/-- The lookup by a digest with no expired row answers the same on both sides. -/
theorem find?_eq (h : Agree s wa wb) {d : Digest} (ha : LiveDigest d wa) (hb : LiveDigest d wb) :
    wa.refreshTokens.find? (·.tokenHash == d) = wb.refreshTokens.find? (·.tokenHash == d) := by
  have := congrArg (List.find? (·.tokenHash == d)) h.rows
  simp only [World.deleteExpiredTokens] at this
  rwa [find?_filter_of_imp ha.imp, find?_filter_of_imp hb.imp] at this

theorem countP_eq (h : Agree s wa wb) {d : Digest} (ha : LiveDigest d wa) (hb : LiveDigest d wb) :
    wa.refreshTokens.countP (·.tokenHash == d) = wb.refreshTokens.countP (·.tokenHash == d) := by
  have := congrArg (List.countP (·.tokenHash == d)) h.rows
  simp only [World.deleteExpiredTokens] at this
  rwa [countP_filter_of_imp ha.imp, countP_filter_of_imp hb.imp] at this

theorem blacklisted_eq (h : Agree s wa wb) (ht : ¬Spent s t wa.clock) : wa.blacklisted t = wb.blacklisted t := by
  simp only [World.blacklisted, h.keys t ht, h.redisMs]

/-- An unexpired row on one side is a row on the other. -/
theorem mem_of_unexpired (h : Agree s wa wb) {row : RefreshToken} (hr : row ∈ wa.refreshTokens)
    (he : ¬row.expiresAt < wa.clock) : row ∈ wb.refreshTokens := by
  have : row ∈ (wb.deleteExpiredTokens wb.clock).refreshTokens :=
    h.rows ▸ List.mem_filter.2 ⟨hr, by simpa using he⟩
  exact List.mem_of_mem_filter this

/-- A digest with an expired row on either side has only expired rows: by the
UNIQUE key, a live row under it would be on both sides, next to the expired one. -/
theorem expired_left (h : Agree s wa wb) {d : Digest} (hn : ¬(LiveDigest d wa ∧ LiveDigest d wb)) :
    ∀ row ∈ wa.refreshTokens, row.tokenHash = d → row.expiresAt < wa.clock := by
  intro row hr hd
  by_contra he
  have hrb := h.mem_of_unexpired hr he
  refine hn ⟨fun r₀ h₀ hd₀ => ?_, fun r₀ h₀ hd₀ => ?_⟩
  · rw [List.inj_on_of_nodup_map h.uniqueA h₀ hr (hd₀.trans hd.symm)]
    exact he
  · rw [List.inj_on_of_nodup_map h.uniqueB h₀ hrb (hd₀.trans hd.symm), ← h.clock]
    exact he

end Agree

/-! Every world update the operations make keeps two worlds agreeing. -/

/-- The rows unexpired at a later clock are among those unexpired now. -/
theorem filter_unexpired_mono (l : List RefreshToken) {c n : Int} (h : c ≤ n) :
    (l.filter fun r => !decide (r.expiresAt < c)).filter (fun r => !decide (r.expiresAt < n)) =
      l.filter fun r => !decide (r.expiresAt < n) := by
  rw [List.filter_filter]
  exact List.filter_congr fun r _ => by by_cases hr : r.expiresAt < n <;> simp [hr]; omega

theorem filter_comm (l : List RefreshToken) (p q : RefreshToken → Bool) :
    (l.filter p).filter q = (l.filter q).filter p := by
  rw [List.filter_filter, List.filter_filter]
  exact List.filter_congr fun r _ => Bool.and_comm _ _

theorem unique_filter {l : List RefreshToken} (h : (l.map (·.tokenHash)).Nodup) (p : RefreshToken → Bool) :
    ((l.filter p).map (·.tokenHash)).Nodup :=
  h.sublist ((List.filter_sublist l).map _)

/-- Issuing stores a digest no row has: the insert passed the UNIQUE key. -/
theorem unique_afterIssue {user : User} (hn : (w.refreshTokens.map (·.tokenHash)).Nodup)
    (hi : s.Insertable user w) : ((s.afterIssue user w).refreshTokens.map (·.tokenHash)).Nodup := by
  have hfresh : ∀ v ∈ w.refreshTokens, v.tokenHash ≠ (s.issuedRow user w).tokenHash := by
    intro v hv he
    simp only [Insertable, World.tokenInsertError] at hi
    split at hi
    · cases hi
    · next hany => exact hany (List.any_eq_true.2 ⟨v, hv, by simp [he]⟩)
  simp only [afterIssue_refreshTokens, List.map_append, List.map_singleton, List.nodup_append,
    List.nodup_singleton, true_and, hn, List.disjoint_singleton, List.mem_map, not_exists, not_and]
  exact hfresh

namespace Agree

theorem tick (h : Agree s wa wb) {n : Nat} (hc : wa.clock ≤ n) (hn : n < 2 ^ 63) :
    Agree s (wa.tick n hn) (wb.tick n hn) where
  invA := h.invA.tick hc hn
  invB := h.invB.tick (h.clock ▸ hc) hn
  uniqueA := h.uniqueA
  uniqueB := h.uniqueB
  users := h.users
  rateLimits := h.rateLimits
  clock := rfl
  uuidSeed := h.uuidSeed
  rows := by
    have := congrArg (List.filter fun r : RefreshToken => !decide (r.expiresAt < n)) h.rows
    simp only [World.deleteExpiredTokens_refreshTokens, World.tick_refreshTokens, World.tick_clock] at this ⊢
    rwa [filter_unexpired_mono _ (by exact_mod_cast hc), filter_unexpired_mono _ (by rw [← h.clock]; exact_mod_cast hc)] at this
  keys t ht := h.keys t fun hs => ht (hs.mono hc)

theorem stampLastLogin (h : Agree s wa wb) (id : String) (stamp : Int) :
    Agree s (wa.stampLastLogin id stamp) (wb.stampLastLogin id stamp) :=
  ⟨h.invA.stampLastLogin id stamp, h.invB.stampLastLogin id stamp, h.uniqueA, h.uniqueB,
    by simp only [World.stampLastLogin, h.users, h.clock], h.rateLimits, h.clock, h.uuidSeed, h.rows, h.keys⟩

theorem drawTwo (h : Agree s wa wb) : Agree s (drawTwo wa) (drawTwo wb) :=
  ⟨h.invA.drawTwo, h.invB.drawTwo, h.uniqueA, h.uniqueB, h.users, h.rateLimits, h.clock,
    by simp [h.uuidSeed], h.rows, h.keys⟩

theorem afterIssue (h : Agree s wa wb) {user : User} (hu : wa.users.any (·.id == user.id) = true) :
    Agree s (s.afterIssue user wa) (s.afterIssue user wb) := by
  have hub : wb.users.any (·.id == user.id) = true := h.users ▸ hu
  have hrow : s.issuedRow user wa = s.issuedRow user wb := by simp only [issuedRow, h.clock, h.uuidSeed]
  refine ⟨h.invA.afterIssue hu, h.invB.afterIssue hub, unique_afterIssue h.uniqueA (h.invA.insertable hu),
    unique_afterIssue h.uniqueB (h.invB.insertable hub), h.users, h.rateLimits, h.clock, by simp [h.uuidSeed],
    ?_, h.keys⟩
  have := h.rows
  simp only [World.deleteExpiredTokens_refreshTokens] at this ⊢
  simp only [afterIssue_refreshTokens, afterIssue_clock, List.filter_append, hrow]
  rw [this]; simp only [h.clock]

/-- Deleting the rows under a digest, on both sides. -/
theorem deleteTokens (h : Agree s wa wb) (d : Digest) : Agree s (wa.deleteTokens d) (wb.deleteTokens d) := by
  refine ⟨h.invA.deleteTokens d, h.invB.deleteTokens d, unique_filter h.uniqueA _, unique_filter h.uniqueB _,
    h.users, h.rateLimits, h.clock, h.uuidSeed, ?_, h.keys⟩
  have := congrArg (List.filter fun r : RefreshToken => r.tokenHash != d) h.rows
  simp only [World.deleteExpiredTokens_refreshTokens, World.deleteTokens_clock] at this ⊢
  simpa only [World.deleteTokens, filter_comm _ (fun r : RefreshToken => r.tokenHash != d)] using this

/-- Deleting, on one side, rows under a digest that have all expired. -/
theorem deleteTokens_left (h : Agree s wa wb) {d : Digest}
    (hd : ∀ row ∈ wa.refreshTokens, row.tokenHash = d → row.expiresAt < wa.clock) :
    Agree s (wa.deleteTokens d) wb := by
  refine ⟨h.invA.deleteTokens d, h.invB, unique_filter h.uniqueA _, h.uniqueB, h.users, h.rateLimits, h.clock,
    h.uuidSeed, ?_, h.keys⟩
  rw [← h.rows]
  simp only [World.deleteExpiredTokens_refreshTokens, World.deleteTokens_clock, World.deleteTokens, List.filter_filter]
  refine List.filter_congr fun r hr => ?_
  by_cases he : r.expiresAt < wa.clock
  · simp [he]
  · have : r.tokenHash ≠ d := fun hh => he (hd r hr hh)
    simp [he, this]

/-- Setting the key of a token that has a row, on both sides. -/
theorem setBlacklist (h : Agree s wa wb) (hra : ∃ row ∈ wa.refreshTokens, row.tokenHash = hashToken t)
    (hrb : ∃ row ∈ wb.refreshTokens, row.tokenHash = hashToken t) :
    Agree s (wa.setBlacklist t s.refreshTokenExpiry.ns) (wb.setBlacklist t s.refreshTokenExpiry.ns) := by
  refine ⟨h.invA.setBlacklist hra, h.invB.setBlacklist hrb, h.uniqueA, h.uniqueB, h.users, h.rateLimits,
    h.clock, h.uuidSeed, h.rows, fun t' ht' => ?_⟩
  by_cases he : t' = t
  · subst he
    simp only [World.setBlacklist_blacklist_self, World.blacklistExpiry, h.redisMs, h.keys t' ht']
  · simp only [World.setBlacklist_blacklist_ne _ _ he, h.keys t' ht']

/-- Setting, on one side, the key of a spent token that has a row there. -/
theorem setBlacklist_left (h : Agree s wa wb) (hra : ∃ row ∈ wa.refreshTokens, row.tokenHash = hashToken t)
    (hsp : Spent s t wa.clock) : Agree s (wa.setBlacklist t s.refreshTokenExpiry.ns) wb := by
  refine ⟨h.invA.setBlacklist hra, h.invB, h.uniqueA, h.uniqueB, h.users, h.rateLimits, h.clock, h.uuidSeed,
    h.rows, fun t' ht' => ?_⟩
  have he : t' ≠ t := fun he => ht' (he ▸ hsp)
  simp only [World.setBlacklist_blacklist_ne _ _ he]
  exact h.keys t' ht'

/-- A revocation, on one side, of a token whose rows there have all expired. -/
theorem revoked_left (h : Agree s wa wb) {wa' : World}
    (hd : ∀ row ∈ wa.refreshTokens, row.tokenHash = hashToken t → row.expiresAt < wa.clock)
    (hra : ∃ row ∈ wa.refreshTokens, row.tokenHash = hashToken t) (hr : s.Revoked t wa wa') : Agree s wa' wb := by
  obtain ⟨row, hrow, hh⟩ := hra
  have hsp : Spent s t wa.clock := h.invA.spent_of_expired hrow hh (hd row hrow hh)
  obtain ⟨w₁, h₁ | h₁, h₂ | h₂⟩ := hr <;> subst h₁ h₂
  · exact h
  · exact h.deleteTokens_left hd
  · exact h.setBlacklist_left ⟨row, hrow, hh⟩ hsp
  · exact (h.setBlacklist_left ⟨row, hrow, hh⟩ hsp).deleteTokens_left hd

end Agree

end Agree

/-! ## The adapters in lockstep -/

section Adapters

variable {s : AuthService} {wa wb : World} {t : TokenString}

namespace Agree

theorem getByEmail (h : Agree s wa wb) (email : String) :
    Lockstep (Agree s) Eq (UserRepository.getByEmail email) (UserRepository.getByEmail email) wa wb := by
  simp only [UserRepository.getByEmail, Prog.bind_eq]
  refine Lockstep.storeCall_bind (by simp [StoreCmd.exec, SqlCmd.exec, h.users]) ?_ fun _ => Lockstep.pure h rfl
  simp only [StoreCmd.exec, SqlCmd.exec]
  split <;> exact Lockstep.pure h rfl

theorem getByID (h : Agree s wa wb) (id : String) :
    Lockstep (Agree s) Eq (UserRepository.getByID id) (UserRepository.getByID id) wa wb := by
  simp only [UserRepository.getByID, Prog.bind_eq]
  refine Lockstep.storeCall_bind (by simp [StoreCmd.exec, SqlCmd.exec, h.users]) ?_ fun _ => Lockstep.pure h rfl
  simp only [StoreCmd.exec, SqlCmd.exec]
  split <;> exact Lockstep.pure h rfl

theorem updateLastLogin (h : Agree s wa wb) (id : String) :
    Lockstep (Agree s) Eq (UserRepository.updateLastLogin id) (UserRepository.updateLastLogin id) wa wb := by
  simp only [UserRepository.updateLastLogin, Prog.bind_eq]
  refine Lockstep.timeNow_bind h.clock (Lockstep.storeCall_bind (by simp [StoreCmd.exec, SqlCmd.exec, h.users])
    ?_ fun _ => Lockstep.pure h rfl)
  have hs : Agree s (wa.stampLastLogin id wa.clock) (wb.stampLastLogin id wa.clock) := h.stampLastLogin id _
  simp only [StoreCmd.exec, SqlCmd.exec]
  split <;> exact Lockstep.pure hs rfl

theorem getByTokenHash (h : Agree s wa wb) {d : Digest} (ha : LiveDigest d wa) (hb : LiveDigest d wb) :
    Lockstep (Agree s) Eq (TokenRepository.getByTokenHash d) (TokenRepository.getByTokenHash d) wa wb := by
  simp only [TokenRepository.getByTokenHash, Prog.bind_eq]
  refine Lockstep.storeCall_bind (by simp [StoreCmd.exec, SqlCmd.exec, h.find?_eq ha hb]) ?_
    fun _ => Lockstep.pure h rfl
  simp only [StoreCmd.exec, SqlCmd.exec]
  split <;> exact Lockstep.pure h rfl

theorem deleteByTokenHash (h : Agree s wa wb) {d : Digest} (ha : LiveDigest d wa) (hb : LiveDigest d wb) :
    Lockstep (Agree s) Eq (TokenRepository.deleteByTokenHash d) (TokenRepository.deleteByTokenHash d) wa wb := by
  simp only [TokenRepository.deleteByTokenHash, Prog.bind_eq]
  refine Lockstep.storeCall_bind (by simp [StoreCmd.exec, SqlCmd.exec, h.countP_eq ha hb]) ?_
    fun _ => Lockstep.pure h rfl
  simp only [StoreCmd.exec, SqlCmd.exec]
  split <;> exact Lockstep.pure (h.deleteTokens d) rfl

theorem isTokenBlacklisted (h : Agree s wa wb) (ht : ¬Spent s t wa.clock) :
    Lockstep (Agree s) Eq (TokenBlacklistService.isTokenBlacklisted t)
      (TokenBlacklistService.isTokenBlacklisted t) wa wb := by
  simp only [TokenBlacklistService.isTokenBlacklisted, Prog.bind_eq]
  refine Lockstep.storeCall_bind (by simp [StoreCmd.exec, RedisCmd.exec, h.blacklisted_eq ht]) ?_
    fun _ => Lockstep.pure h rfl
  simp only [StoreCmd.exec, RedisCmd.exec]
  split <;> exact Lockstep.pure h rfl

theorem addToken (h : Agree s wa wb) (hra : ∃ row ∈ wa.refreshTokens, row.tokenHash = hashToken t)
    (hrb : ∃ row ∈ wb.refreshTokens, row.tokenHash = hashToken t) :
    Lockstep (Agree s) Eq (TokenBlacklistService.addToken t s.refreshTokenExpiry)
      (TokenBlacklistService.addToken t s.refreshTokenExpiry) wa wb := by
  simp only [TokenBlacklistService.addToken, Prog.bind_eq]
  exact Lockstep.storeCall_bind rfl (Lockstep.pure (h.setBlacklist hra hrb) rfl) fun _ => Lockstep.pure h rfl

end Agree

/-- With the insert admissible, issuing either stores the row and returns the
pair, or fails because the store refused the insert. -/
theorem generate_runs_of_insertable {user : User} {w w' : World} {b : Except GoError AuthResponseWithRefreshToken}
    (hi : s.Insertable user w) (h : (s.generateAuthResponseWithRefreshToken user).Runs w w' b) :
    (b = .ok (s.issued user w) ∧ w' = s.afterIssue user w) ∨
      ∃ e, b = .error (.wrap "failed to save refresh token: " (.wrap "failed to create token: " (.driver e))) ∧
        w' = drawTwo w := by
  simp only [generateAuthResponseWithRefreshToken, JWTManager.generateAccessToken,
    JWTManager.generateRefreshToken, Prog.bind_eq, Prog.bind_assoc, Prog.pure_bind, Prog.pure_eq,
    timeNow_bind_runs, uuidNew_bind_runs, TokenRepository.create, ↓reduceIte, isZero_zeroTime,
    storeCall_bind_runs, StoreCmd.exec, SqlCmd.exec, World.tokenInsertError_uuidSeed] at h
  simp only [Insertable, issuedRow, rowFor, tokenFor] at hi
  rcases h with h | ⟨e, h⟩
  · simp only [hi, Prog.pure_bind, Prog.runs_pure] at h
    exact .inl ⟨h.2.symm, h.1.symm⟩
  · simp only [isUniqueViolation, Bool.false_eq_true, if_false, Prog.pure_bind, Prog.runs_pure] at h
    exact .inr ⟨e, h.2.symm, h.1.symm⟩

theorem issued_eq_of_agree (h : Agree s wa wb) (user : User) : s.issued user wa = s.issued user wb := by
  simp only [issued, issuedAccess, issuedRefresh, h.clock, h.uuidSeed]

theorem Agree.generate (h : Agree s wa wb) {user : User} (hu : wa.users.any (·.id == user.id) = true) :
    Lockstep (Agree s) Eq (s.generateAuthResponseWithRefreshToken user)
      (s.generateAuthResponseWithRefreshToken user) wa wb := by
  have hub : wb.users.any (·.id == user.id) = true := h.users ▸ hu
  have hia := h.invA.insertable hu
  have hib := h.invB.insertable hub
  refine ⟨fun wa' a ha => ?_, ?_⟩
  · rcases generate_runs_of_insertable hia ha with ⟨rfl, rfl⟩ | ⟨e, rfl, rfl⟩
    · exact ⟨_, _, Prog.runs_of_run (generate_run hib), h.afterIssue hu, by rw [issued_eq_of_agree h]⟩
    · exact ⟨_, _, generate_runs_refused user wb e, h.drawTwo, rfl⟩
  · rw [generate_run hia, generate_run hib]
    exact ⟨h.afterIssue hu, by rw [issued_eq_of_agree h]⟩

end Adapters

/-! ## The operations in lockstep -/

/-- What a client can tell apart in two results of a call: everything, but the
error of `ValidateToken` when both results are errors. -/
def Op.Same : (o : Op) → o.Result → o.Result → Prop
  | .validate _, r, r' => r = r' ∨ (∃ e, r = .error e) ∧ ∃ e, r' = .error e
  | _, r, r' => r = r'

/-- Two events a client cannot tell apart. -/
inductive Event.Same : Event → Event → Prop
  | call (o : Op) {r r' : o.Result} : o.Same r r' → Event.Same (.call o r) (.call o r')
  | tick (t : Nat) : Event.Same (.tick t) (.tick t)

section Operations

variable {s : AuthService} {wa wb : World}

namespace Agree

theorem register (h : Agree s wa wb) (req : RegisterRequest) :
    Lockstep (Agree s) Eq (s.register req) (s.register req) wa wb := by
  simp only [AuthService.register, Prog.bind_eq, Prog.pure_eq, Prog.pure_bind]
  split
  · exact Lockstep.pure h rfl
  split
  · exact Lockstep.pure h rfl
  refine Lockstep.bind (h.getByEmail _) fun _ _ r _ hr _ h₁ hrr => ?_
  subst hrr
  obtain ⟨-, hw, -⟩ := UserRepository.getByEmail_runs hr
  split
  · exact Lockstep.pure h₁ rfl
  · rw [if_pos (hw.ne_sentinel rfl _)]
    exact Lockstep.pure h₁ rfl

theorem login (h : Agree s wa wb) (req : LoginRequest) :
    Lockstep (Agree s) Eq (s.login req) (s.login req) wa wb := by
  simp only [AuthService.login, Prog.bind_eq, Prog.pure_eq, Prog.pure_bind]
  refine Lockstep.bind (h.getByEmail _) fun _ _ r _ hr hr' h₁ hrr => ?_
  subst hrr
  obtain ⟨rfl, -, hf⟩ := UserRepository.getByEmail_runs hr
  obtain ⟨rfl, -, -⟩ := UserRepository.getByEmail_runs hr'
  split
  · split <;> exact Lockstep.pure h₁ rfl
  next u =>
  split
  · exact Lockstep.pure h₁ rfl
  split
  · exact Lockstep.pure h₁ rfl
  have hu := any_id_of_mem (List.mem_of_find?_eq_some (hf u rfl))
  refine Lockstep.bind (h₁.updateLastLogin u.id) fun _ _ _ _ hl _ h₂ _ => h₂.generate ?_
  rcases UserRepository.updateLastLogin_runs hl with rfl | rfl
  · exact hu
  · rwa [any_id_of_account (World.stampLastLogin_account _ _ _)]

/-- After the JWT check, the token is live: its rows have not expired and its
blacklist key is the same on both sides. -/
theorem refreshToken (h : Agree s wa wb) (t : TokenString) :
    Lockstep (Agree s) Eq (s.refreshToken t) (s.refreshToken t) wa wb := by
  simp only [AuthService.refreshToken, JWTManager.validateRefreshToken, Prog.bind_eq, Prog.pure_eq,
    Prog.pure_bind, Prog.bind_assoc]
  refine Lockstep.timeNow_bind h.clock (Lockstep.timeNow_bind h.clock ?_)
  split
  · exact Lockstep.pure h rfl
  next userID hv =>
  have hla : LiveDigest (hashToken t) wa := h.invA.unexpired_of_valid hv
  have hlb : LiveDigest (hashToken t) wb := h.invB.unexpired_of_valid (h.clock ▸ hv)
  refine Lockstep.bind (h.getByTokenHash hla hlb) fun _ _ r _ hr hr' h₁ hrr => ?_
  subst hrr
  obtain ⟨rfl, -, hf⟩ := TokenRepository.getByTokenHash_runs hr
  obtain ⟨rfl, -, hf'⟩ := TokenRepository.getByTokenHash_runs hr'
  split
  · split <;> exact Lockstep.pure h₁ rfl
  next row =>
  refine Lockstep.timeNow_bind h₁.clock ?_
  split
  · exact Lockstep.pure h₁ rfl
  refine Lockstep.bind (h₁.isTokenBlacklisted (not_spent_of_valid wa.clock_lt hv)) fun _ _ r _ hr hr' h₂ hrr => ?_
  subst hrr
  obtain ⟨rfl, -⟩ := TokenBlacklistService.isTokenBlacklisted_runs hr
  obtain ⟨rfl, -⟩ := TokenBlacklistService.isTokenBlacklisted_runs hr'
  split
  · exact Lockstep.pure h₂ rfl
  · exact Lockstep.pure h₂ rfl
  refine Lockstep.bind (h₂.getByID userID) fun _ _ r _ hr hr' h₃ hrr => ?_
  subst hrr
  obtain ⟨rfl, -, hu⟩ := UserRepository.getByID_runs hr
  obtain ⟨rfl, -, -⟩ := UserRepository.getByID_runs hr'
  split
  · exact Lockstep.pure h₃ rfl
  next user =>
  split
  · exact Lockstep.pure h₃ rfl
  have hany : wa.users.any (·.id == user.id) = true := any_id_of_mem (List.mem_of_find?_eq_some (hu user rfl))
  refine Lockstep.bind (h₃.addToken ⟨row, stored_of_find? (hf row rfl)⟩ ⟨row, stored_of_find? (hf' row rfl)⟩)
    fun _ _ _ _ ha hb h₄ _ => ?_
  refine Lockstep.bind (h₄.deleteByTokenHash ?_ ?_) fun _ _ _ _ hd _ h₅ _ => h₅.generate ?_
  · rcases TokenBlacklistService.addToken_runs ha with rfl | rfl <;> exact hla
  · rcases TokenBlacklistService.addToken_runs hb with rfl | rfl <;> exact hlb
  · rcases TokenBlacklistService.addToken_runs ha with rfl | rfl <;>
      rcases TokenRepository.deleteByTokenHash_runs hd with rfl | rfl <;> exact hany

/-- When a row under the token's digest has expired, every revocation is
invisible; otherwise `Logout` finds the same row on both sides and revokes alike. -/
theorem logout (h : Agree s wa wb) (userID : String) (t : TokenString) :
    Lockstep (Agree s) Eq (s.logout userID t) (s.logout userID t) wa wb := by
  by_cases hl : LiveDigest (hashToken t) wa ∧ LiveDigest (hashToken t) wb
  · simp only [AuthService.logout, Prog.bind_eq, Prog.pure_eq, Prog.pure_bind]
    split
    · refine Lockstep.bind (h.getByTokenHash hl.1 hl.2) fun _ _ r _ hr hr' h₁ hrr => ?_
      subst hrr
      obtain ⟨rfl, -, hf⟩ := TokenRepository.getByTokenHash_runs hr
      obtain ⟨rfl, -, hf'⟩ := TokenRepository.getByTokenHash_runs hr'
      split
      next row =>
        split
        · refine Lockstep.bind (h₁.addToken ⟨row, stored_of_find? (hf row rfl)⟩ ⟨row, stored_of_find? (hf' row rfl)⟩)
            fun _ _ _ _ ha hb h₂ _ => ?_
          refine Lockstep.bind (h₂.deleteByTokenHash ?_ ?_) fun _ _ _ _ _ _ h₃ _ => Lockstep.pure h₃ rfl
          · rcases TokenBlacklistService.addToken_runs ha with rfl | rfl <;> exact hl.1
          · rcases TokenBlacklistService.addToken_runs hb with rfl | rfl <;> exact hl.2
        · exact Lockstep.pure h₁ rfl
      · exact Lockstep.pure h₁ rfl
    · exact Lockstep.pure h rfl
  · have hda := h.expired_left hl
    have hdb := h.symm.expired_left fun h' => hl ⟨h'.2, h'.1⟩
    refine Lockstep.of_runs fun wa' wb' a b ha hb => ?_
    obtain ⟨rfl, hwa⟩ := logout_runs ha
    obtain ⟨rfl, hwb⟩ := logout_runs hb
    have h₁ : Agree s wa' wb := by
      rcases hwa with rfl | ⟨-, row, hrow, -, hrev⟩
      · exact h
      · exact h.revoked_left hda ⟨row, stored_of_find? hrow⟩ hrev
    refine ⟨?_, rfl⟩
    rcases hwb with rfl | ⟨-, row, hrow, -, hrev⟩
    · exact h₁
    · exact (h₁.symm.revoked_left hdb ⟨row, stored_of_find? hrow⟩ hrev).symm

/-- A spent token is a refresh token, which `ValidateToken` refuses on both
sides; any other token has the same blacklist key on both sides. -/
theorem validateToken (h : Agree s wa wb) (t : TokenString) :
    Lockstep (Agree s) (Op.Same (.validate t)) (s.validateToken t) (s.validateToken t) wa wb := by
  by_cases hsp : Spent s t wa.clock
  · obtain ⟨u, c, k, rfl, -, -⟩ := hsp
    refine Lockstep.of_runs fun wa' wb' a b ha hb => ?_
    obtain ⟨rfl, ea⟩ := validateToken_runs_refreshTokenAt ha
    obtain ⟨rfl, eb⟩ := validateToken_runs_refreshTokenAt hb
    exact ⟨h, .inr ⟨ea, eb⟩⟩
  · refine Lockstep.mono (Q := Eq) ?_ fun _ _ => .inl
    simp only [AuthService.validateToken, JWTManager.validateToken, Prog.bind_eq, Prog.pure_eq, Prog.pure_bind,
      Prog.bind_assoc]
    refine Lockstep.bind (h.isTokenBlacklisted hsp) fun _ _ r _ hr hr' h₁ hrr => ?_
    subst hrr
    obtain ⟨rfl, -⟩ := TokenBlacklistService.isTokenBlacklisted_runs hr
    obtain ⟨rfl, -⟩ := TokenBlacklistService.isTokenBlacklisted_runs hr'
    split
    · exact Lockstep.pure h₁ rfl
    · exact Lockstep.pure h₁ rfl
    refine Lockstep.timeNow_bind h₁.clock (Lockstep.timeNow_bind h₁.clock ?_)
    split <;> exact Lockstep.pure h₁ rfl

theorem getUser (h : Agree s wa wb) (userID : String) :
    Lockstep (Agree s) Eq (AuthService.getUser userID) (AuthService.getUser userID) wa wb := by
  simp only [AuthService.getUser, Prog.bind_eq, Prog.pure_eq]
  refine Lockstep.bind (h.getByID userID) fun _ _ r _ _ _ h₁ hrr => ?_
  subst hrr
  split <;> exact Lockstep.pure h₁ rfl

theorem op (h : Agree s wa wb) : ∀ o : Op, Lockstep (Agree s) o.Same (o.prog s) (o.prog s) wa wb
  | .register req => h.register req
  | .login req => h.login req
  | .refresh t => h.refreshToken t
  | .logout u t => h.logout u t
  | .validate t => h.validateToken t
  | .getUser u => h.getUser u

/-- A step from one of two agreeing worlds is matched by a step from the other
that a client cannot tell apart, with agreeing ends. -/
theorem step (h : Agree s wa wb) {reliable : Bool} {e : Event} {wa' : World} (hs : Step s reliable wa e wa') :
    ∃ e' wb', Step s reliable wb e' wb' ∧ Event.Same e e' ∧ Agree s wa' wb' := by
  cases hs with
  | tick n hc hn => exact ⟨_, _, .tick n (h.clock ▸ hc) hn, .tick n, h.tick hc hn⟩
  | call o r hr hrel =>
    cases reliable with
    | false =>
      obtain ⟨wb', r', hb, hR, hQ⟩ := (h.op o).runs wa' r hr
      exact ⟨_, wb', .call o r' hb nofun, .call o hQ, hR⟩
    | true =>
      have hrun := (h.op o).run
      rw [hrel rfl] at hrun
      exact ⟨_, _, .call o _ (Prog.run_runs _ _) fun _ => rfl, .call o hrun.2, hrun.1⟩

/-- Every run from one of two agreeing worlds is matched, event by event, by a
run from the other. -/
theorem run (h : Agree s wa wb) {reliable : Bool} {evs : List Event} {wa' : World}
    (hr : Run s reliable wa evs wa') :
    ∃ evs' wb', Run s reliable wb evs' wb' ∧ List.Forall₂ Event.Same evs evs' ∧ Agree s wa' wb' := by
  induction hr generalizing wb with
  | nil => exact ⟨[], wb, .nil wb, .nil, h⟩
  | cons hs _ ih =>
    obtain ⟨e', wb₁, hs', he, h₁⟩ := h.step hs
    obtain ⟨evs', wb', hr', hevs, h'⟩ := ih h₁
    exact ⟨e' :: evs', wb', .cons hs' hr', .cons he hevs, h'⟩

end Agree

end Operations

/-! ## `DeleteExpired` from a reachable world -/

section Unique

variable {s : AuthService} {reliable : Bool} {w w' : World} {t : TokenString}

theorem Agree.refl (hi : Inv s w) (hn : (w.refreshTokens.map (·.tokenHash)).Nodup) : Agree s w w :=
  ⟨hi, hi, hn, hn, rfl, rfl, rfl, rfl, rfl, fun _ _ => rfl⟩

/-- The world a `DeleteExpired` leaves agrees with the one before it. -/
theorem Agree.deleteExpired (hi : Inv s w) (hn : (w.refreshTokens.map (·.tokenHash)).Nodup) (f : Option String) :
    Agree s (TokenRepository.deleteExpired w f).1 w := by
  cases f with
  | some _ => exact Agree.refl hi hn
  | none =>
    exact ⟨hi.effect .deleteExpired, hi, unique_filter hn _, hn, rfl, rfl, rfl, rfl,
      filter_unexpired_mono _ le_rfl, fun _ _ => rfl⟩

end Unique

section Invisible

variable {s : AuthService} {reliable : Bool} {w : World}

end Invisible

/-! ## The deployed routes

Behind the HTTP routes the one difference left goes too: `AuthMiddleware`
answers every error of `ValidateToken` with the same 401. The rate limiter's
commands read and write only its sorted sets, at the clock (`Transparent`). -/

section Routes

open AuthLifecycle.Handler

variable {s : AuthService} {α γ : Type} {wa wb : World}

/-- A command that answers alike from agreeing worlds and leaves them agreeing. -/
def Transparent (s : AuthService) (c : Cmd) : Prop :=
  ∀ wa wb, Agree s wa wb → (c.exec wa).2 = (c.exec wb).2 ∧ Agree s (c.exec wa).1 (c.exec wb).1

theorem Transparent.outcome {c : Cmd} (hc : Transparent s c) (h : Agree s wa wb) {r : c.Resp} {wa₁ : World}
    (ho : Outcome wa c r wa₁) : ∃ wb₁, Outcome wb c r wb₁ ∧ Agree s wa₁ wb₁ := by
  obtain ⟨hr, hw⟩ := hc wa wb h
  cases c with
  | now => exact ⟨wb, ⟨ho.1.trans hr, rfl⟩, ho.2 ▸ h⟩
  | newUuid => exact ⟨_, ⟨ho.1.trans hr, rfl⟩, ho.2 ▸ hw⟩
  | store c =>
    rcases ho with ⟨rfl, rfl⟩ | ⟨e, rfl, rfl⟩
    · exact ⟨_, .inl ⟨hr, rfl⟩, hw⟩
    · exact ⟨wb, .inr ⟨e, rfl, rfl⟩, h⟩

/-- A program whose every command is transparent runs in lockstep from agreeing worlds. -/
theorem Lockstep.of_always : ∀ {p : Prog α}, p.Always (Transparent s) → ∀ {wa wb : World}, Agree s wa wb →
    Lockstep (Agree s) Eq p p wa wb
  | .pure _, _, _, _, h => Lockstep.pure h rfl
  | .call c k, ⟨hc, hk⟩, wa, wb, h => by
    refine ⟨fun wa' a ⟨r, wa₁, ho, hrest⟩ => ?_, ?_⟩
    · obtain ⟨wb₁, ho', h₁⟩ := hc.outcome h ho
      obtain ⟨wb', b, hb, hR, hQ⟩ := (Lockstep.of_always (hk r) h₁).runs wa' a hrest
      exact ⟨wb', b, ⟨r, wb₁, ho', hb⟩, hR, hQ⟩
    · obtain ⟨hr, hw⟩ := hc wa wb h
      rw [Prog.run_call, Prog.run_call, ← hr]
      exact (Lockstep.of_always (hk _) hw).run

/-- A program in lockstep, then a continuation that only returns. -/
theorem Lockstep.bind_pure {R : World → World → Prop} {pa : Prog α} {fa : α → Prog γ}
    (hp : Lockstep R Eq pa pa wa wb) (hf : ∀ a, ∃ c, fa a = .pure c) : Lockstep R Eq (pa.bind fa) (pa.bind fa) wa wb :=
  hp.bind fun _ _ a _ _ _ h₁ hab => by
    subst hab
    obtain ⟨c, hc⟩ := hf a
    rw [hc]
    exact Lockstep.pure h₁ rfl

theorem Agree.liveZSet (h : Agree s wa wb) (key : String) : wa.liveZSet key = wb.liveZSet key := by
  simp only [World.liveZSet, h.rateLimits, h.redisMs]

theorem Agree.setZSet (h : Agree s wa wb) (key : String) (z : ZSet) :
    Agree s (wa.setZSet key z) (wb.setZSet key z) :=
  ⟨h.invA.setZSet key z, h.invB.setZSet key z, h.uniqueA, h.uniqueB, h.users,
    by simp only [World.setZSet, h.rateLimits], h.clock, h.uuidSeed, h.rows, h.keys⟩

theorem transparent_now : Transparent s .now := fun _ _ h => ⟨h.clock, h⟩

/-- The sorted-set commands read and write only the rate-limit buckets, at the clock. -/
theorem transparent_zset {c : RedisCmd} (hs : ∀ t d, c ≠ .set t d) (he : ∀ t, c ≠ .existsKey t) :
    Transparent s (.store (.redis c)) := fun wa wb h => by
  cases c with
  | set t d => exact absurd rfl (hs t d)
  | existsKey t => exact absurd rfl (he t)
  | zRemRangeByScore key | zAdd key =>
    simp only [Cmd.exec, StoreCmd.exec, RedisCmd.exec, h.liveZSet key]
    exact ⟨trivial, h.setZSet _ _⟩
  | zCard key | zRangeWithScores key =>
    simp only [Cmd.exec, StoreCmd.exec, RedisCmd.exec, h.liveZSet key]
    exact ⟨trivial, h⟩
  | expire key =>
    simp only [Cmd.exec, StoreCmd.exec, RedisCmd.exec, h.liveZSet key, h.redisMs]
    split_ifs
    exacts [⟨rfl, h⟩, ⟨rfl, h.setZSet _ _⟩, ⟨rfl, h.setZSet _ _⟩]

theorem allow_always_transparent (key : String) (limit : Int) (window : Duration) :
    (RateLimiter.allow key limit window).Always (Transparent s) := by
  have hz {c : RedisCmd} (hs : ∀ t d, c ≠ .set t d) (he : ∀ t, c ≠ .existsKey t) := transparent_zset (s := s) hs he
  simp only [RateLimiter.allow, Prog.bind_eq, Prog.pure_eq, timeNow, storeCall, Prog.call_bind, Prog.pure_bind]
  refine ⟨transparent_now, fun now => ⟨hz (fun _ _ => nofun) fun _ => nofun, fun r => ?_⟩⟩
  rcases r with e | _
  · trivial
  refine ⟨hz (fun _ _ => nofun) fun _ => nofun, fun r => ?_⟩
  rcases r with e | count
  · trivial
  dsimp only
  split
  · refine ⟨hz (fun _ _ => nofun) fun _ => nofun, fun r => ?_⟩
    dsimp only
    split
    · exact ⟨transparent_now, fun _ => trivial⟩
    · trivial
  · refine ⟨hz (fun _ _ => nofun) fun _ => nofun, fun r => ?_⟩
    rcases r with e | _
    · trivial
    · exact ⟨hz (fun _ _ => nofun) fun _ => nofun, fun _ => trivial⟩

theorem getRemaining_always_transparent (key : String) (limit : Int) (window : Duration) :
    (RateLimiter.getRemainingRequests key limit window).Always (Transparent s) := by
  have hz {c : RedisCmd} (hs : ∀ t d, c ≠ .set t d) (he : ∀ t, c ≠ .existsKey t) := transparent_zset (s := s) hs he
  simp only [RateLimiter.getRemainingRequests, Prog.bind_eq, Prog.pure_eq, timeNow, storeCall, Prog.call_bind,
    Prog.pure_bind]
  refine ⟨transparent_now, fun now => ⟨hz (fun _ _ => nofun) fun _ => nofun, fun r => ?_⟩⟩
  rcases r with e | _
  · trivial
  exact ⟨hz (fun _ _ => nofun) fun _ => nofun, fun r => by rcases r with e | _ <;> trivial⟩

theorem rateLimitMiddleware_always_transparent (limit : Int) (window : Duration) (key : String) :
    (Handler.rateLimitMiddleware limit window key).Always (Transparent s) := by
  simp only [Handler.rateLimitMiddleware, Prog.bind_eq, Prog.pure_eq]
  refine Prog.always_bind (allow_always_transparent _ _ _) fun r => ?_
  rcases r with e | b
  · dsimp only
    split
    · exact Prog.always_bind (getRemaining_always_transparent _ _ _) fun _ => trivial
    · trivial
  · cases b <;> exact Prog.always_bind (getRemaining_always_transparent _ _ _) fun _ => trivial

namespace Agree

variable {hd : AuthHandler}

theorem registerHandler (h : Agree hd.authService wa wb) (bound : Except String RegisterRequest) :
    Lockstep (Agree hd.authService) Eq (hd.register bound) (hd.register bound) wa wb := by
  simp only [AuthHandler.register, Prog.bind_eq, Prog.pure_eq]
  split
  · exact Lockstep.pure h rfl
  refine (h.register _).bind_pure fun r => ?_
  rcases r with e | _
  · dsimp only
    split_ifs <;> exact ⟨_, rfl⟩
  · exact ⟨_, rfl⟩

theorem loginHandler (h : Agree hd.authService wa wb) (bound : Except String LoginRequest) :
    Lockstep (Agree hd.authService) Eq (hd.login bound) (hd.login bound) wa wb := by
  simp only [AuthHandler.login, Prog.bind_eq, Prog.pure_eq]
  split
  · exact Lockstep.pure h rfl
  exact (h.login _).bind_pure fun r => by rcases r with e | _ <;> exact ⟨_, rfl⟩

theorem refreshHandler (h : Agree hd.authService wa wb) (cookie : Option TokenString) :
    Lockstep (Agree hd.authService) Eq (hd.refresh cookie) (hd.refresh cookie) wa wb := by
  simp only [AuthHandler.refresh, Prog.bind_eq, Prog.pure_eq]
  split
  · exact Lockstep.pure h rfl
  exact (h.refreshToken _).bind_pure fun r => by rcases r with e | _ <;> exact ⟨_, rfl⟩

theorem logoutHandler (h : Agree hd.authService wa wb) (userID : Option String) (cookie : Option TokenString) :
    Lockstep (Agree hd.authService) Eq (hd.logout userID cookie) (hd.logout userID cookie) wa wb := by
  simp only [AuthHandler.logout, Prog.bind_eq, Prog.pure_eq]
  split
  · exact Lockstep.pure h rfl
  exact (h.logout _ _).bind_pure fun r => by rcases r with e | _ <;> exact ⟨_, rfl⟩

theorem getMeHandler (h : Agree s wa wb) (userID : Option String) :
    Lockstep (Agree s) Eq (AuthHandler.getMe userID) (AuthHandler.getMe userID) wa wb := by
  simp only [AuthHandler.getMe, Prog.bind_eq, Prog.pure_eq]
  split
  · exact Lockstep.pure h rfl
  exact (h.getUser _).bind_pure fun r => by rcases r with e | _ <;> exact ⟨_, rfl⟩

/-- The middleware answers every error of `ValidateToken` with the same 401, so
its verdicts are equal on both sides. -/
theorem authMiddleware (h : Agree s wa wb) (decode : String → TokenString) (authHeader : String) :
    Lockstep (Agree s) Eq (Handler.authMiddleware s decode authHeader) (Handler.authMiddleware s decode authHeader)
      wa wb := by
  simp only [Handler.authMiddleware, Prog.bind_eq, Prog.pure_eq, Prog.pure_bind]
  split
  · exact Lockstep.pure h rfl
  split
  · split
    · exact Lockstep.pure h rfl
    refine (h.validateToken _).bind fun _ _ a b _ _ h₁ hab => ?_
    rcases hab with rfl | ⟨⟨e, rfl⟩, ⟨e', rfl⟩⟩
    · split <;> exact Lockstep.pure h₁ rfl
    · exact Lockstep.pure h₁ rfl
  · exact Lockstep.pure h rfl

theorem protectedRoute (h : Agree s wa wb) (decode : String → TokenString) (authHeader : String)
    {handler : Option String → Prog Response}
    (hh : ∀ {wa wb : World} userID, Agree s wa wb → Lockstep (Agree s) Eq (handler userID) (handler userID) wa wb) :
    Lockstep (Agree s) Eq (Handler.protectedRoute s decode authHeader handler)
      (Handler.protectedRoute s decode authHeader handler) wa wb := by
  simp only [Handler.protectedRoute, Prog.bind_eq, Prog.pure_eq]
  refine (h.authMiddleware decode authHeader).bind fun _ _ m _ _ _ h₁ hm => ?_
  subst hm
  split
  · exact Lockstep.pure h₁ rfl
  · exact hh _ h₁

theorem rateLimitedRoute (h : Agree s wa wb) (limit : Int) (window : Duration) (client : ClientAddress)
    {handler : Prog Response} (hh : ∀ {wa wb : World}, Agree s wa wb → Lockstep (Agree s) Eq handler handler wa wb) :
    Lockstep (Agree s) Eq (Engine.rateLimitedRoute limit window client handler)
      (Engine.rateLimitedRoute limit window client handler) wa wb := by
  simp only [Engine.rateLimitedRoute, Prog.bind_eq, Prog.pure_eq]
  refine (Lockstep.of_always (rateLimitMiddleware_always_transparent _ _ _) h).bind fun _ _ v _ _ _ h₁ hv => ?_
  subst hv
  split
  · exact Lockstep.pure h₁ rfl
  · exact (hh h₁).bind_pure fun _ => ⟨_, rfl⟩

/-- Every request is served in lockstep from agreeing worlds, with equal answers. -/
theorem serve (h : Agree hd.authService wa wb) (security : SecurityConfig) (decode : String → TokenString)
    (req : Request) :
    Lockstep (Agree hd.authService) Eq (Engine.serve hd security decode req) (Engine.serve hd security decode req)
      wa wb := by
  cases req with
  | register client body => exact h.rateLimitedRoute _ _ client fun h' => h'.registerHandler body
  | login client body => exact h.rateLimitedRoute _ _ client fun h' => h'.loginHandler body
  | refresh cookie => exact (h.refreshHandler cookie).bind_pure fun _ => ⟨_, rfl⟩
  | logout authorization cookie =>
    exact (h.protectedRoute decode authorization fun u h' => h'.logoutHandler u cookie).bind_pure fun _ => ⟨_, rfl⟩
  | me authorization =>
    exact (h.protectedRoute decode authorization fun u h' => h'.getMeHandler u).bind_pure fun _ => ⟨_, rfl⟩

end Agree

end Routes

section Http

open AuthLifecycle.Handler

variable {hd : AuthHandler} {security : SecurityConfig} {decode : String → TokenString}

end Http

end AuthLifecycle.Engine

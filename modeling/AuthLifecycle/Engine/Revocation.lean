import AuthLifecycle.Engine.Issuance
/-!
# Engine.Revocation — when a consumed refresh token stays dead

`refreshToken` and `logout` revoke a token with two best-effort writes whose
errors are discarded: the blacklist `SET` and the row `DELETE`. A token is
`Dead` once it has a blacklist key, or no row and a UUID already drawn (so no
later issuance can store it again). A dead token fails `refreshToken` in
every run, with any store faults (`Dead.refresh_fails`): without a row the
lookup fails, and a blacklist key lapses only after the token's `exp`
(`Inv.outlive`). Every step keeps a token dead (`Dead.step`), because every
step only `Grows` the stores.

A consumption leaves its token dead as soon as one of the two writes took
effect (`Consumes.dead`). When both fail, the token is untouched and can be
redeemed again: `refreshToken_runs_refused` builds that run.
-/

namespace AuthLifecycle.Engine

open AuthLifecycle.Go AuthLifecycle.Utils AuthLifecycle.Store AuthLifecycle.Service
open AuthLifecycle.Service.AuthService

set_option autoImplicit false

variable (s : AuthService)

/-- What any step can do to the token stores: keep every blacklist key, drop
rows, and add rows only for tokens whose UUID was not drawn yet. -/
structure Grows (w w' : World) : Prop where
  seed : w.uuidSeed ≤ w'.uuidSeed
  keys : ∀ t, w.blacklist t ≠ none → w'.blacklist t ≠ none
  rows : ∀ row ∈ w'.refreshTokens, row ∈ w.refreshTokens ∨
    ∃ u c k, w.uuidSeed ≤ k ∧ row.tokenHash = hashToken (s.tokenFor u c k)

/-- `t` has no row, and if the service signed it, its UUID is drawn already. -/
def Unstored (t : TokenString) (w : World) : Prop :=
  (∀ row ∈ w.refreshTokens, row.tokenHash ≠ hashToken t) ∧
    ∀ u c k, t = s.tokenFor u c k → k < w.uuidSeed

/-- `t` can never pass `refreshToken`'s checks again. -/
def Dead (t : TokenString) (w : World) : Prop :=
  w.blacklist t ≠ none ∨ Unstored s t w

/-- The call consumes `t`: `refreshToken t` returned a pair, or `logout` found
`t`'s row owned by its caller. -/
def Consumes (t : TokenString) (w : World) : Event → Prop
  | .call (.refresh t') r => t' = t ∧ ∃ p, r = .ok p
  | .call (.logout userID t') _ => t' = t ∧
      ∃ row, w.refreshTokens.find? (·.tokenHash == hashToken t) = some row ∧ row.userID = userID
  | _ => False

variable {s} {w w' w'' : World} {t : TokenString}

namespace Grows

theorem refl (w : World) : Grows s w w := ⟨le_rfl, fun _ h => h, fun _ h => .inl h⟩

theorem trans (h₁ : Grows s w w') (h₂ : Grows s w' w'') : Grows s w w'' where
  seed := h₁.seed.trans h₂.seed
  keys t h := h₂.keys t (h₁.keys t h)
  rows row hr := by
    rcases h₂.rows row hr with hr | ⟨u, c, k, hk, hh⟩
    · exact h₁.rows row hr
    · exact .inr ⟨u, c, k, h₁.seed.trans hk, hh⟩

theorem of_eq (h : w = w') : Grows s w w' := h ▸ refl w

theorem generate {user : User} {b : Except GoError AuthResponseWithRefreshToken}
    (hg : (s.generateAuthResponseWithRefreshToken user).Runs w w' b) : Grows s w w' := by
  rcases generate_runs hg with ⟨-, rfl, -⟩ | ⟨-, rfl⟩
  · refine ⟨by simp, fun _ h => h, fun row hr => ?_⟩
    simp only [afterIssue_refreshTokens, List.mem_append, List.mem_singleton] at hr
    rcases hr with hr | rfl
    · exact .inl hr
    · exact .inr ⟨user.id, w.clock, w.uuidSeed, le_rfl, rfl⟩
  · exact ⟨by simp, fun _ h => h, fun row hr => .inl hr⟩

theorem revoked {t : TokenString} (hr : s.Revoked t w w') : Grows s w w' := by
  have hset : Grows s w (w.setBlacklist t s.refreshTokenExpiry.ns) := by
    refine ⟨le_rfl, fun t' h => ?_, fun row hr => .inl hr⟩
    by_cases he : t' = t
    · subst he; simp
    · rwa [World.setBlacklist_blacklist_ne _ _ he]
  have hdel (w₁ : World) : Grows s w₁ (w₁.deleteTokens (hashToken t)) :=
    ⟨le_rfl, fun _ h => h, fun row hr => .inl (List.mem_of_mem_filter hr)⟩
  obtain ⟨w₁, h₁ | h₁, h₂ | h₂⟩ := hr <;> subst h₁ h₂
  · exact refl _
  · exact hdel _
  · exact hset
  · exact hset.trans (hdel _)

/-- Every step only grows the token stores. -/
theorem step {reliable : Bool} {e : Event} (hs : Step s reliable w e w') : Grows s w w' := by
  cases hs with
  | tick => exact ⟨le_rfl, fun _ h => h, fun row hr => .inl hr⟩
  | call o r hr =>
    cases o with
    | register => exact of_eq (register_runs hr).1
    | login =>
      rcases login_runs hr with ⟨rfl, -⟩ | ⟨u, -, -, -, w₁, hw₁, hg⟩
      · exact refl _
      · refine .trans ?_ (generate hg)
        rcases hw₁ with rfl | rfl
        · exact refl _
        · exact ⟨le_rfl, fun _ h => h, fun row hr => .inl hr⟩
    | refresh =>
      rcases refreshToken_runs hr with ⟨rfl, -⟩ | ⟨u, w₂, -, hrev, hg⟩
      · exact refl _
      · exact (revoked hrev).trans (generate hg)
    | logout =>
      rcases (logout_runs hr).2 with rfl | ⟨-, -, -, -, hrev⟩
      · exact refl _
      · exact revoked hrev
    | validate => exact of_eq (validateToken_runs hr)
    | getUser => exact of_eq (getUser_runs hr)

end Grows

/-- A token without a row, whose UUID is drawn, gets no row back: only a fresh UUID's token is stored. -/
theorem Unstored.grows (hu : Unstored s t w) (hg : Grows s w w') : Unstored s t w' := by
  obtain ⟨hrows, hdrawn⟩ := hu
  refine ⟨fun row hr hh => ?_, fun u c k he => (hdrawn u c k he).trans_le hg.seed⟩
  rcases hg.rows row hr with hr | ⟨u, c, k, hk, hh'⟩
  · exact hrows row hr hh
  · have := hdrawn u c k (hashToken_inj (hh.symm.trans hh'))
    omega

namespace Dead

theorem grows (hd : Dead s t w) (hg : Grows s w w') : Dead s t w' := by
  rcases hd with hk | hu
  · exact .inl (hg.keys t hk)
  · exact .inr (hu.grows hg)

theorem step {reliable : Bool} {e : Event} (hd : Dead s t w) (hs : Step s reliable w e w') :
    Dead s t w' :=
  hd.grows (Grows.step hs)

/-- A dead token passes none of `refreshToken`'s checks, for any user. -/
theorem not_checks (hi : Inv s w) (hd : Dead s t w) (user : User) : ¬s.RefreshChecks t w user := by
  intro hc
  obtain ⟨row, hmem, hh⟩ := hc.row
  rcases hd with hk | ⟨hrows, -⟩
  · obtain ⟨e, he⟩ := Option.ne_none_iff_exists'.1 hk
    have hl : e.live w.redisMs = false := by
      simpa [World.blacklisted, he] using hc.notBlacklisted
    exact hi.outlive t e he w.clock le_rfl hl w.clock user.id hc.valid
  · exact hrows row hmem hh

/-- `refreshToken` fails on a dead token, whatever its store commands answer. -/
theorem refresh_fails (hi : Inv s w) (hd : Dead s t w)
    {r : Except GoError AuthResponseWithRefreshToken} (h : (s.refreshToken t).Runs w w' r) :
    ∃ e, r = .error e := by
  rcases refreshToken_runs h with ⟨-, he⟩ | ⟨user, -, hc, -⟩
  · exact he
  · exact absurd hc (hd.not_checks hi user)

end Dead

/-- A token that had a row in a reachable world has its UUID drawn. -/
theorem drawn_of_stored (hi : Inv s w) {row : RefreshToken} (hr : row ∈ w.refreshTokens)
    (hh : row.tokenHash = hashToken t) : ∀ u c k, t = s.tokenFor u c k → k < w.uuidSeed := by
  obtain ⟨c, k, ht, -, hk⟩ := hi.signed_of_row hr hh
  intro u c' k' he
  have := (tokenFor_inj (ht.symm.trans he)).2.2
  omega

/-- The token a call consumes had a row. -/
theorem Consumes.stored {reliable : Bool} {e : Event} (hc : Consumes t w e) (hs : Step s reliable w e w') :
    ∃ row ∈ w.refreshTokens, row.tokenHash = hashToken t := by
  cases hs with
  | tick => exact hc.elim
  | call o r hr =>
    cases o with
    | refresh t' =>
      obtain ⟨rfl, p, rfl⟩ := hc
      rcases refreshToken_runs hr with ⟨-, e, he⟩ | ⟨user, -, hck, -⟩
      · cases he
      · exact hck.row
    | logout u t' =>
      obtain ⟨-, row, hrow, -⟩ := hc
      exact ⟨row, stored_of_find? hrow⟩
    | _ => exact hc.elim

/-- A consumption whose row delete took effect leaves its token without a row. -/
theorem Consumes.unstored {reliable : Bool} {e : Event} (hi : Inv s w) (hc : Consumes t w e)
    (hs : Step s reliable w e w') (hn : ∀ row ∈ w'.refreshTokens, row.tokenHash ≠ hashToken t) :
    Unstored s t w' :=
  let ⟨_, hr, hh⟩ := hc.stored hs
  ⟨hn, fun u c k he => (drawn_of_stored hi hr hh u c k he).trans_le (Grows.step hs).seed⟩

/-- A consumption whose blacklist write or row delete took effect leaves its token dead. -/
theorem Consumes.dead {reliable : Bool} {e : Event} (hi : Inv s w) (hc : Consumes t w e)
    (hs : Step s reliable w e w')
    (hw : w'.blacklisted t = true ∨ ∀ row ∈ w'.refreshTokens, row.tokenHash ≠ hashToken t) :
    Dead s t w' := by
  rcases hw with hb | hn
  · refine .inl fun hnone => ?_
    simp [World.blacklisted, hnone] at hb
  · exact .inr (hc.unstored hi hs hn)

theorem refresh_fails_after_revocation {reliable : Bool} {w₁ w₂ w₃ w₄ : World} {e : Event}
    {evs : List Event} {r : Except GoError AuthResponseWithRefreshToken}
    (h₁ : Reachable s reliable w₁) (hs : Step s reliable w₁ e w₂) (hc : Consumes t w₁ e)
    (hw : w₂.blacklisted t = true ∨ ∀ row ∈ w₂.refreshTokens, row.tokenHash ≠ hashToken t)
    (hr : Run s reliable w₂ evs w₃) (hlast : Step s reliable w₃ (.call (.refresh t) r) w₄) :
    ∃ err, r = .error err := by
  have hi₁ := h₁.inv
  obtain ⟨hi₃, hd₃⟩ : Inv s w₃ ∧ Dead s t w₃ :=
    hr.invariant (fun w => Inv s w ∧ Dead s t w) (fun _ _ _ hs hid => ⟨hid.1.step hs, hid.2.step hs⟩)
      ⟨hi₁.step hs, Consumes.dead hi₁ hc hs hw⟩
  cases hlast with
  | call _ _ h _ => exact hd₃.refresh_fails hi₃ h

/-! ## Alice's refresh token -/

/-- Alice's row after her login stamped it. -/
def aliceStampedUser : User := { alice with lastLoginAt := some 0, updatedAt := 0 }

theorem alice_refresh_checks (w : World) (hl : Live sampleService alice.id 0 0 w)
    (hu : w.users = [aliceStampedUser]) (hi : Inv sampleService w) (hc : w.clock = 0) :
    sampleService.RefreshChecks alicePair.refreshToken w aliceStampedUser :=
  hl.checks hi (by rw [hu]; rfl) rfl (by rw [hc]; decide)

theorem afterAliceLogin_live : Live sampleService alice.id 0 0 afterAliceLogin :=
  ⟨List.mem_append_right _ (List.mem_singleton.2 rfl),
    ((aliceWorld_init.inv (s := sampleService)).stampLastLogin alice.id 0).unlisted_issued alice⟩

theorem afterAliceLogin_reachable (reliable : Bool) : Reachable sampleService reliable afterAliceLogin :=
  ⟨aliceWorld, _, aliceWorld_init, .cons aliceLogin_step.of_reliable (.nil _)⟩

theorem aliceStamped_any (w : World) (h : w.users = [aliceStampedUser]) :
    w.users.any (·.id == aliceStampedUser.id) = true := by
  rw [h]; rfl

/-- Alice refreshes her token twice; the store refuses both revoking writes of
the first refresh, and the second refresh succeeds as well. -/
theorem refresh_reuse_after_refused_writes :
    ∃ (w₂ w₃ : World) (p' p'' : AuthResponseWithRefreshToken),
      Reachable sampleService false afterAliceLogin ∧
      Step sampleService false afterAliceLogin (.call (.refresh alicePair.refreshToken) (.ok p')) w₂ ∧
      Consumes alicePair.refreshToken afterAliceLogin (.call (.refresh alicePair.refreshToken) (.ok p')) ∧
      Step sampleService false w₂ (.call (.refresh alicePair.refreshToken) (.ok p'')) w₃ := by
  have hi₁ : Inv sampleService afterAliceLogin := (afterAliceLogin_reachable false).inv
  have hc₁ := alice_refresh_checks afterAliceLogin afterAliceLogin_live rfl hi₁ rfl
  have hi₂ : Inv sampleService (sampleService.afterIssue aliceStampedUser afterAliceLogin) :=
    hi₁.afterIssue (aliceStamped_any _ rfl)
  have hc₂ := alice_refresh_checks (sampleService.afterIssue aliceStampedUser afterAliceLogin)
    ⟨List.mem_append_left _ afterAliceLogin_live.stored, afterAliceLogin_live.unlisted⟩ rfl hi₂ rfl
  exact ⟨_, _, _, _, afterAliceLogin_reachable false,
    .call _ _ (refreshToken_runs_refused hc₁ (hi₁.insertable (aliceStamped_any _ rfl)) "i/o timeout"
      "i/o timeout") (fun h => by cases h),
    ⟨rfl, _, rfl⟩,
    .call _ _ (refreshToken_runs_refused hc₂ (hi₂.insertable (aliceStamped_any _ rfl)) "i/o timeout"
      "i/o timeout") (fun h => by cases h)⟩

/-- The world after Alice's reliable refresh: both writes took effect. -/
def afterAliceRefresh : World :=
  sampleService.afterIssue aliceStampedUser (sampleService.revokedWorld alicePair.refreshToken afterAliceLogin)

/-- The pair Alice's reliable refresh returns. -/
def aliceRefreshPair : AuthResponseWithRefreshToken :=
  sampleService.issued aliceStampedUser (sampleService.revokedWorld alicePair.refreshToken afterAliceLogin)

theorem aliceRefresh_step :
    Step sampleService true afterAliceLogin (.call (.refresh alicePair.refreshToken) (.ok aliceRefreshPair))
      afterAliceRefresh := by
  have hi₁ : Inv sampleService afterAliceLogin := (afterAliceLogin_reachable true).inv
  have hc := alice_refresh_checks afterAliceLogin afterAliceLogin_live rfl hi₁ rfl
  have hrun := refreshToken_run hc ((hi₁.revokedWorld_of_checks hc).insertable (aliceStamped_any _ rfl))
  exact .call _ _ (Prog.runs_of_run hrun) fun _ => hrun

theorem afterAliceRefresh_blacklisted : afterAliceRefresh.blacklisted alicePair.refreshToken = true := by
  simp [afterAliceRefresh, World.blacklisted, revokedWorld, World.blacklistExpiry, Expiry.live]
  decide

theorem refresh_fails_after_revocation_alice :
    Reachable sampleService true afterAliceLogin ∧
    Step sampleService true afterAliceLogin (.call (.refresh alicePair.refreshToken) (.ok aliceRefreshPair))
      afterAliceRefresh ∧
    afterAliceRefresh.blacklisted alicePair.refreshToken = true ∧
    ∃ r w₃, Run sampleService true afterAliceRefresh [.tick (10 ^ 9), .call (.getUser alice.id) r] w₃ ∧
      ∃ err, ((sampleService.refreshToken alicePair.refreshToken).run w₃).2 = .error err :=
  have hr : Run sampleService true afterAliceRefresh [.tick (10 ^ 9), .call (.getUser alice.id) _] _ :=
    .cons (.tick _ (by decide) (by decide))
      (.cons (.call _ _ (Prog.run_runs _ _) fun _ => rfl) (.nil _))
  ⟨afterAliceLogin_reachable true, aliceRefresh_step, afterAliceRefresh_blacklisted, _, _, hr,
    refresh_fails_after_revocation (afterAliceLogin_reachable true) aliceRefresh_step ⟨rfl, _, rfl⟩
      (.inl afterAliceRefresh_blacklisted) hr (.call _ _ (Prog.run_runs _ _) fun _ => Prod.mk.eta.symm)⟩

end AuthLifecycle.Engine

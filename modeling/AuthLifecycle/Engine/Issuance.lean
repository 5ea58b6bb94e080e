import AuthLifecycle.Engine.Invariant
/-!
# Engine.Issuance — issued pairs validate and rotate

A pair returned by `login` or `refreshToken` is `issued user wᵢ` for a user
found active, and its refresh token is `Live` right after the call: its row is
stored and it has no blacklist key (`returns_issued`). In reliable runs a live
token stays live through every step that does not consume it (`Live.step`), and
while it is live and before its `exp`, every check of `refreshToken` passes
(`Live.checks`), so the rotation succeeds for the same user. No step ever
changes a user's account fields (`Run.users_account`), so the subject never
changes along a chain of rotations, and every run keeps the accounts of its own
start state (`run_accounts_fixed`).
-/

namespace AuthLifecycle.Engine

open AuthLifecycle.Go AuthLifecycle.Utils AuthLifecycle.Store AuthLifecycle.Service
open AuthLifecycle.Service.AuthService

set_option autoImplicit false

variable (s : AuthService)

/-- The refresh token `tokenFor uid c k` is live: its row is stored and it has no blacklist key. -/
structure Live (uid : String) (c k : Nat) (w : World) : Prop where
  stored : s.rowFor uid c k ∈ w.refreshTokens
  unlisted : w.blacklist (s.tokenFor uid c k) = none

/-- The call returned the pair `p`. -/
def Returns (p : AuthResponseWithRefreshToken) : Event → Prop
  | .call (.register _) r | .call (.login _) r | .call (.refresh _) r => r = .ok p
  | _ => False

/-- The event leaves the refresh token `t` of user `uid` alone: it is neither a
`refreshToken t` that returned a pair nor a `logout uid t`. -/
def Spares (uid : String) (t : TokenString) : Event → Prop
  | .call (.refresh t') r => t' = t → ∀ p, r ≠ .ok p
  | .call (.logout u t') _ => ¬(u = uid ∧ t' = t)
  | _ => True

variable {s} {w w' : World} {uid : String} {c k : Nat}

theorem find?_id_of_mem {us : List User} (hn : (us.map (·.id)).Nodup) {v : User} (hv : v ∈ us) :
    us.find? (·.id == v.id) = some v := by
  induction us with
  | nil => cases hv
  | cons u us ih =>
    simp only [List.map_cons, List.nodup_cons, List.mem_map] at hn
    rcases List.mem_cons.1 hv with rfl | hv
    · simp
    · have hne : u.id ≠ v.id := fun he => hn.1 ⟨v, hv, he.symm⟩
      simp [List.find?_cons, hne, ih hn.2 hv]

theorem Run.users_account {reliable : Bool} {evs : List Event} (h : Run s reliable w evs w') :
    w'.users.map User.account = w.users.map User.account :=
  h.invariant (fun x => x.users.map User.account = w.users.map User.account)
    (fun _ _ _ hs hi => (Step.users_account hs).trans hi) rfl

/-- No run creates, removes or edits an account (registration never inserts, see
`register_runs`): every run from a start state ends with that state's accounts,
so stored emails stay pairwise distinct. -/
theorem run_accounts_fixed {reliable : Bool} {w₀ : World} {evs : List Event} (h₀ : Init w₀)
    (h : Run s reliable w₀ evs w) :
    w.users.map User.account = w₀.users.map User.account ∧ (w.users.map (·.email)).Nodup := by
  have hacc := Run.users_account h
  have hemail : w.users.map (·.email) = w₀.users.map (·.email) := by
    simpa only [List.map_map] using congrArg (List.map fun a => a.2.1) hacc
  exact ⟨hacc, hemail ▸ h₀.emails⟩

/-- A token issued from `w` has no blacklist key yet: its UUID is fresh. -/
theorem Inv.unlisted_issued (hi : Inv s w) (user : User) :
    w.blacklist (s.tokenFor user.id w.clock w.uuidSeed) = none := by
  by_contra hk
  obtain ⟨u, c', k', he, -, hk'⟩ := hi.keys _ hk
  have := (tokenFor_inj he).2.2
  omega

namespace Live

theorem stampLastLogin (hl : Live s uid c k w) (id : String) (stamp : Int) :
    Live s uid c k (w.stampLastLogin id stamp) := ⟨hl.stored, hl.unlisted⟩

theorem generate (hl : Live s uid c k w) {user : User} {b : Except GoError AuthResponseWithRefreshToken}
    (hg : (s.generateAuthResponseWithRefreshToken user).Runs w w' b) : Live s uid c k w' := by
  rcases generate_runs hg with ⟨-, rfl, -⟩ | ⟨-, rfl⟩
  · exact ⟨by simp [hl.stored], hl.unlisted⟩
  · exact ⟨hl.stored, hl.unlisted⟩

theorem revoked_other (hl : Live s uid c k w) {t : TokenString} (hne : t ≠ s.tokenFor uid c k)
    (hr : s.Revoked t w w') : Live s uid c k w' := by
  have hset : Live s uid c k (w.setBlacklist t s.refreshTokenExpiry.ns) :=
    ⟨hl.stored, by rw [World.setBlacklist_blacklist_ne _ _ hne.symm]; exact hl.unlisted⟩
  have hdel (w₁ : World) (h₁ : Live s uid c k w₁) : Live s uid c k (w₁.deleteTokens (hashToken t)) := by
    refine ⟨List.mem_filter.2 ⟨h₁.stored, ?_⟩, h₁.unlisted⟩
    simpa [rowFor] using fun h => hne (hashToken_inj h).symm
  obtain ⟨w₁, h₁ | h₁, h₂ | h₂⟩ := hr <;> subst h₁ h₂
  · exact hl
  · exact hdel _ hl
  · exact hset
  · exact hdel _ hset

/-- A live token before its `exp` passes every check of `refreshToken`. -/
theorem checks (hi : Inv s w) (hl : Live s uid c k w) {user : User}
    (hu : w.users.find? (·.id == uid) = some user) (ha : user.isActive = true)
    (hexp : w.clock < s.jwtManager.refreshExp c * 10 ^ 9) : s.RefreshChecks (s.tokenFor uid c k) w user := by
  have huid : user.id = uid := by simpa using List.find?_some hu
  obtain ⟨c₀, k₀, hrow₀, hc₀, -⟩ := hi.rows _ hl.stored
  have hc : c ≤ w.clock := by simp only [rowFor, RefreshToken.mk.injEq] at hrow₀; omega
  obtain ⟨row, hrow⟩ : ∃ row, w.refreshTokens.find? (·.tokenHash == hashToken (s.tokenFor uid c k)) =
      some row := Option.isSome_iff_exists.1 (List.find?_isSome.2 ⟨_, hl.stored, by simp [rowFor]⟩)
  obtain ⟨hmem, hhash⟩ := stored_of_find? hrow
  obtain ⟨c', k', hrow', -, -⟩ := hi.rows row hmem
  rw [hrow'] at hhash
  have hsame := (tokenFor_inj (hashToken_inj hhash)).2.1
  refine ⟨?_, ⟨row, hrow, ?_⟩, ?_, huid ▸ hu, ha⟩
  · rw [huid]
    exact JWTManager.validateRefreshTokenAt_refreshTokenAt (lt_of_le_of_lt hc w.clock_lt)
      (lt_of_le_of_lt hc w.clock_lt) hexp hexp
  · rw [hrow']
    have : s.jwtManager.refreshExp c' * 10 ^ 9 ≤ c' + s.refreshTokenExpiry.ns := by
      rw [JWTManager.refreshExp, ← s.expiry_eq, unix]; omega
    simp only [rowFor]
    omega
  · simp [World.blacklisted, hl.unlisted]

/-- In a reliable run, a live token stays live through every step that spares it. -/
theorem step (hi : Inv s w) (hl : Live s uid c k w) {e : Event} (hs : Step s true w e w')
    (hsp : Spares uid (s.tokenFor uid c k) e) : Live s uid c k w' := by
  cases hs with
  | tick t hc ht => exact ⟨hl.stored, hl.unlisted⟩
  | call o r hr hrun =>
    cases o with
    | register => rw [← (register_runs hr).1]; exact hl
    | login =>
      rcases login_runs hr with ⟨rfl, -⟩ | ⟨u, -, -, -, w₁, hw₁, hg⟩
      · exact hl
      · rcases hw₁ with rfl | rfl
        · exact hl.generate hg
        · exact (hl.stampLastLogin _ _).generate hg
    | refresh t' =>
      rcases refreshToken_runs hr with ⟨rfl, -⟩ | ⟨u, w₂, hc, hrev, hg⟩
      · exact hl
      · by_cases he : t' = s.tokenFor uid c k
        · have := (hrun rfl).symm.trans (refreshToken_run hc
            ((hi.revokedWorld_of_checks hc).insertable (by simpa [revokedWorld] using hc.user_any)))
          exact absurd (congrArg Prod.snd this) (hsp he _)
        · exact (hl.revoked_other he hrev).generate hg
    | logout u t' =>
      rcases (logout_runs hr).2 with rfl | ⟨-, row, hrow, hown, hrev⟩
      · exact hl
      · by_cases he : t' = s.tokenFor uid c k
        · obtain ⟨hmem, hhash⟩ := stored_of_find? hrow
          obtain ⟨c', k', ht, -, -⟩ := hi.signed_of_row hmem hhash
          exact absurd ⟨hown.symm.trans (tokenFor_inj (ht.symm.trans he)).1, he⟩ hsp
        · exact hl.revoked_other he hrev
    | validate => rw [← validateToken_runs hr]; exact hl
    | getUser => rw [← getUser_runs hr]; exact hl

theorem run (hi : Inv s w) (hl : Live s uid c k w) {evs : List Event} (hr : Run s true w evs w')
    (hsp : ∀ e ∈ evs, Spares uid (s.tokenFor uid c k) e) : Live s uid c k w' := by
  induction hr with
  | nil => exact hl
  | cons hs _ ih =>
    exact ih (hi.step hs) (hl.step hi hs (hsp _ (List.mem_cons_self _ _)))
      fun e he => hsp e (List.mem_cons_of_mem _ he)

end Live

theorem account_eq {u v : User} (h : v.account = u.account) :
    v.id = u.id ∧ v.email = u.email ∧ v.isActive = u.isActive := by
  simp only [User.account, Prod.mk.injEq] at h
  exact ⟨h.1, h.2.1, h.2.2.2.2.1⟩

theorem mem_of_account {us us' : List User} (h : us'.map User.account = us.map User.account) {u : User}
    (hu : u ∈ us) : ∃ v ∈ us', v.account = u.account := by
  have : u.account ∈ us'.map User.account := h ▸ List.mem_map_of_mem _ hu
  simpa using this

/-- A call that returned a pair issued it to an active user from some world
`wᵢ`, and its refresh token is live right after the call. -/
theorem returns_issued {reliable : Bool} {e : Event} {p : AuthResponseWithRefreshToken} (hi : Inv s w)
    (hs : Step s reliable w e w') (hp : Returns p e) :
    ∃ user wᵢ, p = s.issued user wᵢ ∧ user.isActive = true ∧
      Live s user.id wᵢ.clock wᵢ.uuidSeed w' ∧ ∃ v ∈ w'.users, v.account = user.account := by
  have hacc := Step.users_account hs
  have issue {user : User} {wᵢ : World} (hiᵢ : Inv s wᵢ) (hu : user ∈ w.users) (ha : user.isActive = true)
      {b : Except GoError AuthResponseWithRefreshToken} (hb : b = .ok p)
      (hg : (s.generateAuthResponseWithRefreshToken user).Runs wᵢ w' b) :
      ∃ user wᵢ, p = s.issued user wᵢ ∧ user.isActive = true ∧
        Live s user.id wᵢ.clock wᵢ.uuidSeed w' ∧ ∃ v ∈ w'.users, v.account = user.account := by
    rcases generate_runs hg with ⟨hb', rfl, -⟩ | ⟨⟨e, he⟩, -⟩
    · refine ⟨user, wᵢ, Except.ok.inj (hb.symm.trans hb'), ha, ⟨by simp [issuedRow], ?_⟩,
        mem_of_account hacc hu⟩
      simpa using hiᵢ.unlisted_issued user
    · cases hb.symm.trans he
  cases hs with
  | tick => exact hp.elim
  | call o r hr =>
    cases o with
    | register => obtain ⟨-, e, he⟩ := register_runs hr; cases (hp : r = _).symm.trans he
    | login =>
      rcases login_runs hr with ⟨-, e, he⟩ | ⟨u, hf, ha, -, w₁, hw₁, hg⟩
      · cases (hp : r = _).symm.trans he
      · have hi₁ : Inv s w₁ := by rcases hw₁ with rfl | rfl; exacts [hi, hi.stampLastLogin _ _]
        exact issue hi₁ (List.mem_of_find?_eq_some hf) ha hp hg
    | refresh t =>
      rcases refreshToken_runs hr with ⟨-, e, he⟩ | ⟨u, w₂, hc, hrev, hg⟩
      · cases (hp : r = _).symm.trans he
      · exact issue (hi.revoked hc.row hrev) (List.mem_of_find?_eq_some hc.found) hc.active hp hg
    | _ => exact hp.elim

/-- In a reachable world no access token has a blacklist key. -/
theorem Inv.access_unlisted (hi : Inv s w) (userID email : String) (t₁ t₂ : Nat) :
    w.blacklisted (s.jwtManager.accessTokenAt userID email t₁ t₂) = false := by
  cases hb : w.blacklist (s.jwtManager.accessTokenAt userID email t₁ t₂) with
  | none => simp [World.blacklisted, hb]
  | some e =>
    obtain ⟨u, c, k, he, -⟩ := hi.keys (s.jwtManager.accessTokenAt userID email t₁ t₂) (by simp [hb])
    exact absurd he JWTManager.accessTokenAt_ne_refreshTokenAt

/-- `ValidateToken` on an issued access token, in a reachable world: it returns
the token's subject and email until its `exp`, and refuses it as expired from
then on. -/
theorem Inv.validateToken_issued (hi : Inv s w) (user : User) {wᵢ : World} (hc : wᵢ.clock < 2 ^ 63) :
    (s.validateToken (s.issued user wᵢ).authResponse.accessToken).run w =
      (w, if w.clock < s.jwtManager.accessExp wᵢ.clock * 10 ^ 9
        then .ok ⟨user.id, user.email, s.jwtManager.accessExp wᵢ.clock, unix wᵢ.clock⟩
        else .error (.wrap "invalid token: " (.wrap "failed to parse token: "
          (.new "token has invalid claims: token is expired")))) := by
  simp only [issued, issuedAccess, validateToken_run, hi.access_unlisted, Bool.false_eq_true, if_false]
  by_cases hlt : (w.clock : Int) < s.jwtManager.accessExp wᵢ.clock * 10 ^ 9
  · rw [if_pos hlt, JWTManager.validateTokenAt_accessTokenAt hc hc hlt hlt]
  · rw [if_neg hlt, JWTManager.validateTokenAt_of_expired hc hc (by omega)]

/-- Every row stores the digest of a token whose `user_id` claim is the row's user. -/
theorem Inv.rows_user_claim (hi : Inv s w) :
    ∀ row ∈ w.refreshTokens, ∃ alg claims sig, row.tokenHash = hashToken (.jws alg claims sig) ∧
      claimOf claims "user_id" = some (.str row.userID) := by
  intro row hr
  obtain ⟨c, k, hrow, -⟩ := hi.rows row hr
  exact ⟨_, _, _, congrArg RefreshToken.tokenHash hrow, by simp [claimOf, JWTManager.refreshClaims]⟩

theorem issued_pair_validates_and_rotates {w₁ w₂ w₃ : World} {e : Event} {p : AuthResponseWithRefreshToken}
    {evs : List Event} (h₁ : Reachable s true w₁) (hs : Step s true w₁ e w₂) (hp : Returns p e)
    (hr : Run s true w₂ evs w₃) :
    (∀ exp, p.authResponse.accessToken.expClaim = some exp → w₃.clock < exp * 10 ^ 9 →
      ∃ claims, (s.validateToken p.authResponse.accessToken).run w₃ = (w₃, .ok claims) ∧
        claims.userID = p.authResponse.user.id ∧ claims.email = p.authResponse.user.email) ∧
    ((∀ e' ∈ evs, Spares p.authResponse.user.id p.refreshToken e') →
      ∀ exp, p.refreshToken.expClaim = some exp → w₃.clock < exp * 10 ^ 9 →
      ∃ w₄ p', (s.refreshToken p.refreshToken).run w₃ = (w₄, .ok p') ∧
        p'.authResponse.user = p.authResponse.user) ∧
    (∀ row ∈ w₃.refreshTokens, ∃ alg claims sig, row.tokenHash = hashToken (.jws alg claims sig) ∧
      claimOf claims "user_id" = some (.str row.userID)) := by
  have hi₁ := h₁.inv
  have hi₂ : Inv s w₂ := hi₁.step hs
  have hi₃ : Inv s w₃ := hr.invariant (Inv s) (fun _ _ _ hs hi => hi.step hs) hi₂
  obtain ⟨user, wᵢ, rfl, hact, hlive, v, hv, hacc⟩ := returns_issued hi₁ hs hp
  have hcᵢ : wᵢ.clock < 2 ^ 63 := wᵢ.clock_lt
  refine ⟨fun exp hexp hlt => ?_, fun hsp exp hexp hlt => ?_, hi₃.rows_user_claim⟩
  · simp only [issued, issuedAccess, JWTManager.expClaim_accessTokenAt, Option.some.injEq] at hexp
    subst hexp
    exact ⟨_, by rw [hi₃.validateToken_issued user hcᵢ, if_pos hlt], rfl, rfl⟩
  · simp only [issued, issuedRefresh, tokenFor, JWTManager.expClaim_refreshTokenAt,
      Option.some.injEq] at hexp
    subst hexp
    have hl₃ := hlive.run hi₂ hr hsp
    obtain ⟨v₃, hv₃, hacc₃⟩ := mem_of_account (Run.users_account hr) hv
    obtain ⟨hid, hemail, hactive⟩ := account_eq (hacc₃.trans hacc)
    have hf : w₃.users.find? (·.id == user.id) = some v₃ := hid ▸ find?_id_of_mem hi₃.ids hv₃
    have hc := hl₃.checks hi₃ hf (hactive.trans hact) hlt
    refine ⟨_, _, refreshToken_run hc ((hi₃.revokedWorld_of_checks hc).insertable
      (by simpa [revokedWorld] using hc.user_any)), ?_⟩
    simp [issued, hid, hemail]

/-! ## Alice logs in on a fresh store -/

theorem aliceWorld_init : Init aliceWorld := ⟨rfl, fun _ => rfl, by decide, by decide⟩

/-- The world after Alice's login stamped her row. -/
def aliceStamped : World := aliceWorld.stampLastLogin alice.id aliceWorld.clock

/-- The world after Alice's login. -/
def afterAliceLogin : World := sampleService.afterIssue alice aliceStamped

/-- The pair Alice's login returns. -/
def alicePair : AuthResponseWithRefreshToken := sampleService.issued alice aliceStamped

theorem aliceLogin_step :
    Step sampleService true aliceWorld (.call (.login aliceLogin) (.ok alicePair)) afterAliceLogin := by
  have hrun : (sampleService.login aliceLogin).run aliceWorld = (afterAliceLogin, .ok alicePair) :=
    login_run aliceWorld_find rfl (by decide) ((aliceWorld_init.inv.stampLastLogin _ _).insertable (by decide))
  exact .call _ _ (Prog.runs_of_run hrun) fun _ => hrun

/-- Alice logs in; a second later she asks for her account. Her pair still
validates and rotates. -/
theorem alicePair_validates_and_rotates :
    Reachable sampleService true aliceWorld ∧
    Step sampleService true aliceWorld (.call (.login aliceLogin) (.ok alicePair)) afterAliceLogin ∧
    ∃ r w₃, Run sampleService true afterAliceLogin [.tick (10 ^ 9), .call (.getUser alice.id) r] w₃ ∧
    (∀ exp, alicePair.authResponse.accessToken.expClaim = some exp → w₃.clock < exp * 10 ^ 9 →
      ∃ claims, (sampleService.validateToken alicePair.authResponse.accessToken).run w₃ = (w₃, .ok claims) ∧
        claims.userID = alicePair.authResponse.user.id ∧ claims.email = alicePair.authResponse.user.email) ∧
    ((∀ e' ∈ [Event.tick (10 ^ 9), .call (.getUser alice.id) r],
        Spares alicePair.authResponse.user.id alicePair.refreshToken e') →
      ∀ exp, alicePair.refreshToken.expClaim = some exp → w₃.clock < exp * 10 ^ 9 →
      ∃ w₄ p', (sampleService.refreshToken alicePair.refreshToken).run w₃ = (w₄, .ok p') ∧
        p'.authResponse.user = alicePair.authResponse.user) ∧
    (∀ row ∈ w₃.refreshTokens, ∃ alg claims sig,
      row.tokenHash = hashToken (.jws alg claims sig) ∧ claimOf claims "user_id" = some (.str row.userID)) :=
  have hr : Run sampleService true afterAliceLogin [.tick (10 ^ 9), .call (.getUser alice.id) _] _ :=
    .cons (.tick _ (by decide) (by decide)) (.cons (.call _ _ (Prog.run_runs _ _) fun _ => rfl) (.nil _))
  ⟨⟨aliceWorld, [], aliceWorld_init, .nil _⟩, aliceLogin_step, _, _, hr,
    issued_pair_validates_and_rotates ⟨aliceWorld, [], aliceWorld_init, .nil _⟩ aliceLogin_step rfl hr⟩

/-- Alice's login stamps her row, and the run keeps the accounts of its start. -/
theorem run_accounts_fixed_alice :
    Init aliceWorld ∧ Run sampleService true aliceWorld [.call (.login aliceLogin) (.ok alicePair)] afterAliceLogin ∧
      afterAliceLogin.users ≠ aliceWorld.users ∧
      afterAliceLogin.users.map User.account = aliceWorld.users.map User.account ∧
      (afterAliceLogin.users.map (·.email)).Nodup :=
  have h : Run sampleService true aliceWorld [.call (.login aliceLogin) (.ok alicePair)] afterAliceLogin :=
    .cons aliceLogin_step (.nil _)
  ⟨aliceWorld_init, h, by decide, run_accounts_fixed aliceWorld_init h⟩

end AuthLifecycle.Engine

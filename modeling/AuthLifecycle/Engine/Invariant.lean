import AuthLifecycle.Engine.Step
/-!
# Engine.Invariant — what every reachable world satisfies

Every refresh-token row is one the service issued: it persists
`tokenFor row.userID c k` for a clock reading `c` already past and UUIDs `k`,
`k + 1` already drawn; its user exists; and every blacklist key is such a
token. Each world update keeps this (`Inv.afterIssue`, `Inv.setBlacklist`, …),
each step is a short case analysis over the operations' inversion lemmas
(`Inv.step`), and every reachable world satisfies it (`Reachable.inv`).

The invariant is what makes issuing total: the row `generate` inserts never
meets a unique violation (`Inv.insertable`), since its `jti` and id are fresh
UUIDs.
-/

namespace AuthLifecycle.Engine

open AuthLifecycle.Go AuthLifecycle.Utils AuthLifecycle.Store AuthLifecycle.Service
open AuthLifecycle.Service.AuthService

set_option autoImplicit false

variable (s : AuthService)

/-- The token `t` fails `ValidateRefreshToken` at clock `n`, whatever its second reading. -/
def Expired (t : TokenString) (n : Nat) : Prop :=
  ∀ n' userID, s.jwtManager.validateRefreshTokenAt t n n' ≠ .ok userID

/-- The invariant of reachable worlds. -/
structure Inv (w : World) : Prop where
  /-- Every row persists a refresh token the service signed for the row's user. -/
  rows : ∀ row ∈ w.refreshTokens, ∃ c k, row = s.rowFor row.userID c k ∧ c ≤ w.clock ∧
    k + 2 ≤ w.uuidSeed
  /-- Every row's user exists: the foreign key on `user_id`. -/
  owners : ∀ row ∈ w.refreshTokens, w.users.any (·.id == row.userID) = true
  /-- Every blacklist key is a refresh token the service signed. -/
  keys : ∀ t, w.blacklist t ≠ none → ∃ u c k, t = s.tokenFor u c k ∧ c ≤ w.clock ∧ k + 2 ≤ w.uuidSeed
  /-- User ids are unique: the primary key of `users`. -/
  ids : (w.users.map (·.id)).Nodup
  /-- A blacklist key lapses only once its token has expired. -/
  outlive : ∀ t e, w.blacklist t = some e → ∀ n, w.clock ≤ n → e.live (n / 10 ^ 6) = false →
    Expired s t n

variable {s} {w w' : World}

theorem hashToken_inj {t t' : TokenString} (h : hashToken t = hashToken t') : t = t' :=
  congrArg Digest.preimage h

theorem any_id_of_account {us us' : List User} (h : us'.map User.account = us.map User.account)
    (id : String) : us'.any (·.id == id) = us.any (·.id == id) := by
  have key (us : List User) : us.any (·.id == id) = (us.map User.account).any (·.1 == id) := by
    induction us <;> simp [*, User.account]
  rw [key, key, h]

theorem expired_tokenFor {userID : String} {c k n : Nat} (hc : c < 2 ^ 63)
    (hn : s.jwtManager.refreshExp c * 10 ^ 9 ≤ n) : Expired s (s.tokenFor userID c k) n := by
  intro n' u hv
  rw [tokenFor, JWTManager.validateRefreshTokenAt_of_expired hc hc hn] at hv
  cases hv

theorem ids_of_account {us us' : List User} (h : us'.map User.account = us.map User.account) :
    us'.map (·.id) = us.map (·.id) := by
  have := congrArg (List.map Prod.fst) h
  simpa only [List.map_map] using this

theorem Init.inv (h : Init w) : Inv s w where
  rows := by simp [h.noTokens]
  owners := by simp [h.noTokens]
  keys t ht := absurd (h.noBlacklist t) ht
  ids := h.ids
  outlive t e he := absurd (h.noBlacklist t ▸ he) (by simp)

namespace Inv

theorem tick (h : Inv s w) {t : Nat} (hc : w.clock ≤ t) (ht : t < 2 ^ 63) : Inv s (w.tick t ht) where
  rows row hr := let ⟨c, k, he, _, hk⟩ := h.rows row hr; ⟨c, k, he, by simp; omega, hk⟩
  owners := h.owners
  keys t' ht' := let ⟨u, c, k, he, _, hk⟩ := h.keys t' ht'; ⟨u, c, k, he, by simp; omega, hk⟩
  ids := h.ids
  outlive t' e he n hn := h.outlive t' e he n (by simp at hn; omega)

theorem stampLastLogin (h : Inv s w) (id : String) (stamp : Int) :
    Inv s (w.stampLastLogin id stamp) where
  rows := h.rows
  owners row hr := by rw [any_id_of_account (w.stampLastLogin_account id stamp)]; exact h.owners row hr
  keys := h.keys
  ids := by rw [ids_of_account (w.stampLastLogin_account id stamp)]; exact h.ids
  outlive := h.outlive

/-- The rate limiter's sorted sets are none of the invariant's business. -/
theorem setZSet (h : Inv s w) (key : String) (z : ZSet) : Inv s (w.setZSet key z) :=
  ⟨h.rows, h.owners, h.keys, h.ids, h.outlive⟩

theorem drawTwo (h : Inv s w) : Inv s (drawTwo w) where
  rows row hr := let ⟨c, k, he, hc, hk⟩ := h.rows row hr; ⟨c, k, he, hc, by simp; omega⟩
  owners := h.owners
  keys t ht := let ⟨u, c, k, he, hc, hk⟩ := h.keys t ht; ⟨u, c, k, he, hc, by simp; omega⟩
  ids := h.ids
  outlive := h.outlive

theorem afterIssue (h : Inv s w) {user : User} (hu : w.users.any (·.id == user.id) = true) :
    Inv s (s.afterIssue user w) where
  rows row hr := by
    simp only [afterIssue_refreshTokens, List.mem_append, List.mem_singleton] at hr
    rcases hr with hr | rfl
    · obtain ⟨c, k, he, hc, hk⟩ := h.rows row hr
      exact ⟨c, k, he, hc, by simp; omega⟩
    · exact ⟨w.clock, w.uuidSeed, rfl, le_rfl, by simp⟩
  owners row hr := by
    simp only [afterIssue_refreshTokens, List.mem_append, List.mem_singleton] at hr
    rcases hr with hr | rfl
    · exact h.owners row hr
    · exact hu
  keys t ht := let ⟨u, c, k, he, hc, hk⟩ := h.keys t ht; ⟨u, c, k, he, hc, by simp; omega⟩
  ids := h.ids
  outlive := h.outlive

theorem generate (h : Inv s w) {user : User} (hu : w.users.any (·.id == user.id) = true)
    {b : Except GoError AuthResponseWithRefreshToken}
    (hg : (s.generateAuthResponseWithRefreshToken user).Runs w w' b) : Inv s w' := by
  rcases generate_runs hg with ⟨-, rfl, -⟩ | ⟨-, rfl⟩
  · exact h.afterIssue hu
  · exact h.drawTwo

theorem deleteTokens (h : Inv s w) (d : Digest) : Inv s (w.deleteTokens d) where
  rows row hr := h.rows row (List.mem_of_mem_filter hr)
  owners row hr := h.owners row (List.mem_of_mem_filter hr)
  keys := h.keys
  ids := h.ids
  outlive := h.outlive

/-- Blacklisting a refresh token the service signed at a clock reading already
past, with UUIDs already drawn, keeps the invariant. -/
theorem setBlacklist_of_signed (h : Inv s w) {t : TokenString} {u : String} {c k : Nat}
    (ht : t = s.tokenFor u c k) (hc : c ≤ w.clock) (hk : k + 2 ≤ w.uuidSeed) :
    Inv s (w.setBlacklist t s.refreshTokenExpiry.ns) := by
  refine ⟨h.rows, h.owners, fun t' ht' => ?_, h.ids, fun t' e he n hn hl => ?_⟩
  · by_cases he : t' = t
    · exact ⟨u, c, k, he.trans ht, hc, hk⟩
    · rw [World.setBlacklist_blacklist_ne _ _ he] at ht'
      exact h.keys t' ht'
  · by_cases he' : t' = t
    · subst he'
      simp only [World.setBlacklist_blacklist_self, Option.some.injEq] at he
      subst he
      have hexp := w.blacklistExpiry_outlives t' hc hn hl
      rw [ht]
      refine expired_tokenFor (lt_of_le_of_lt hc w.clock_lt) ?_
      rwa [JWTManager.refreshExp, ← s.expiry_eq]
    · rw [World.setBlacklist_blacklist_ne _ _ he'] at he
      exact h.outlive t' e he n hn hl

/-- A token stored in a row is the one the service signed for the row's user. -/
theorem signed_of_row (h : Inv s w) {row : RefreshToken} {t : TokenString} (hr : row ∈ w.refreshTokens)
    (hh : row.tokenHash = hashToken t) :
    ∃ c k, t = s.tokenFor row.userID c k ∧ c ≤ w.clock ∧ k + 2 ≤ w.uuidSeed := by
  obtain ⟨c, k, hrow, hc, hk⟩ := h.rows row hr
  rw [hrow] at hh
  exact ⟨c, k, (hashToken_inj hh).symm, hc, hk⟩

theorem setBlacklist (h : Inv s w) {t : TokenString}
    (ht : ∃ row ∈ w.refreshTokens, row.tokenHash = hashToken t) :
    Inv s (w.setBlacklist t s.refreshTokenExpiry.ns) := by
  obtain ⟨row, hr, hh⟩ := ht
  obtain ⟨c, k, ht, hc, hk⟩ := h.signed_of_row hr hh
  exact h.setBlacklist_of_signed ht hc hk

theorem revoked (h : Inv s w) {t : TokenString} (ht : ∃ row ∈ w.refreshTokens, row.tokenHash = hashToken t)
    (hr : s.Revoked t w w') : Inv s w' := by
  obtain ⟨w₁, h₁ | h₁, h₂ | h₂⟩ := hr <;> subst h₁ h₂
  · exact h
  · exact h.deleteTokens _
  · exact h.setBlacklist ht
  · exact (h.setBlacklist ht).deleteTokens _

/-- Both revoking writes of a refresh whose checks passed keep the invariant. -/
theorem revokedWorld_of_checks (h : Inv s w) {t : TokenString} {user : User} (hc : s.RefreshChecks t w user) :
    Inv s (s.revokedWorld t w) :=
  (h.setBlacklist hc.row).deleteTokens _

/-- Issuing never meets a unique violation: the new row's `jti` and id are fresh UUIDs. -/
theorem insertable (h : Inv s w) {user : User} (hu : w.users.any (·.id == user.id) = true) :
    s.Insertable user w := by
  have fresh : ∀ row ∈ w.refreshTokens,
      ¬(row.tokenHash = (s.issuedRow user w).tokenHash ∨ row.id = (s.issuedRow user w).id) := by
    intro row hr hc
    obtain ⟨c, k, hrow, -, hk⟩ := h.rows row hr
    rw [hrow] at hc
    rcases hc with hc | hc
    · have := (tokenFor_inj (hashToken_inj hc)).2.2
      omega
    · have := uuidString_injective hc
      simp [issuedRow, rowFor] at this
      omega
  have hany : w.refreshTokens.any (fun v => v.tokenHash == (s.issuedRow user w).tokenHash ||
      v.id == (s.issuedRow user w).id) = false := by
    simpa using fresh
  have huser : (s.issuedRow user w).userID = user.id := rfl
  simp [Insertable, World.tokenInsertError, hany, huser, hu]

/-- Every step keeps the invariant. -/
theorem step {reliable : Bool} {e : Event} (h : Inv s w) (hs : Step s reliable w e w') : Inv s w' := by
  cases hs with
  | tick t hc ht => exact h.tick hc ht
  | call o r hr =>
    cases o with
    | register => rw [← (register_runs hr).1]; exact h
    | login =>
      rcases login_runs hr with ⟨rfl, -⟩ | ⟨u, hf, -, -, w₁, hw₁, hg⟩
      · exact h
      · have hu := any_id_of_mem (List.mem_of_find?_eq_some hf)
        rcases hw₁ with rfl | rfl
        · exact h.generate hu hg
        · exact (h.stampLastLogin _ _).generate
            (by rw [any_id_of_account (w.stampLastLogin_account _ _)]; exact hu) hg
    | refresh =>
      rcases refreshToken_runs hr with ⟨rfl, -⟩ | ⟨u, w₂, hc, hrev, hg⟩
      · exact h
      · exact (h.revoked hc.row hrev).generate (by rw [hrev.users]; exact hc.user_any) hg
    | logout =>
      rcases (logout_runs hr).2 with rfl | ⟨-, row, hrow, -, hrev⟩
      · exact h
      · exact h.revoked ⟨row, stored_of_find? hrow⟩ hrev
    | validate => rw [← validateToken_runs hr]; exact h
    | getUser => rw [← getUser_runs hr]; exact h

end Inv

/-- Every reachable world satisfies the invariant. -/
theorem Reachable.inv {reliable : Bool} (h : Reachable s reliable w) : Inv s w := by
  obtain ⟨w₀, evs, h₀, hr⟩ := h
  exact hr.invariant (Inv s) (fun _ _ _ hs hi => hi.step hs) h₀.inv

end AuthLifecycle.Engine

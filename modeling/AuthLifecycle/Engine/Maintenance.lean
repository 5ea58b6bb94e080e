import Mathlib.Logic.Relation
import AuthLifecycle.Engine.Revocation
import AuthLifecycle.Repository.Maintenance
/-!
# Engine.Maintenance — the engine with the operator's methods

No route calls the methods of `Repository.Maintenance`, but an operator may
call any of them at any time, between any two calls of the service. An
`OpsStep` is a step of the engine or one such call, with its statement taking
effect or refused; `OpsReachable` are the worlds such runs reach from a start
state.

* `Inv.maint`, `opsReachable_inv`: no maintenance call breaks the engine
  invariant, so every result built on `Inv` holds with maintenance too.
* `refresh_fails_after_deletion`: a consumed refresh token whose row delete
  took effect fails every later refresh, whatever the operator calls.
-/

namespace AuthLifecycle.Engine

open AuthLifecycle.Go AuthLifecycle.Utils AuthLifecycle.Store AuthLifecycle.Service
open AuthLifecycle.Service.AuthService AuthLifecycle.Repository

set_option autoImplicit false

/-- A step of the engine, or one call of a maintenance method; with `reliable`,
the call's statement takes effect. -/
inductive OpsStep (s : AuthService) (reliable : Bool) : World → World → Prop
  | engine {w w' : World} {e : Event} : Step s reliable w e w' → OpsStep s reliable w w'
  | maint (o : MaintOp) (w : World) (f : o.Fault) (hr : reliable = true → f = o.noFault) :
      OpsStep s reliable w (o.run w f).1

/-- The worlds that runs of the engine and the operator reach from a start state. -/
def OpsReachable (s : AuthService) (reliable : Bool) (w : World) : Prop :=
  ∃ w₀, Init w₀ ∧ Relation.ReflTransGen (OpsStep s reliable) w₀ w

variable {s : AuthService} {reliable : Bool} {w w' : World} {t : TokenString}

/-- Whether a user with id `id` exists depends on the ids alone. -/
theorem any_id_of_ids {us us' : List User} (h : us'.map (·.id) = us.map (·.id)) (id : String) :
    us'.any (·.id == id) = us.any (·.id == id) := by
  have key (us : List User) : us.any (·.id == id) = (us.map (·.id)).any (· == id) := by
    induction us <;> simp [*]
  rw [key, key, h]

namespace Inv

theorem delBlacklist (h : Inv s w) (t : TokenString) : Inv s (w.delBlacklist t) where
  rows := h.rows
  owners := h.owners
  keys t' ht' := by
    by_cases he : t' = t
    · simp [World.delBlacklist, he] at ht'
    · exact h.keys t' (by simpa [World.delBlacklist, he] using ht')
  ids := h.ids
  outlive t' e he := by
    by_cases he' : t' = t
    · simp [World.delBlacklist, he'] at he
    · exact h.outlive t' e (by simpa [World.delBlacklist, he'] using he)

/-- What a maintenance statement leaves keeps the invariant: the deletes only
drop rows and keys, and an update keeps every user's id. -/
theorem effect (h : Inv s w) : ∀ o : MaintOp, Inv s (o.effect w)
  | .getByUserID _ => h
  | .delete id =>
    ⟨fun row hr => h.rows row (w.mem_of_mem_deleteTokenById hr),
      fun row hr => h.owners row (w.mem_of_mem_deleteTokenById hr), h.keys, h.ids, h.outlive⟩
  | .deleteExpired =>
    ⟨fun row hr => h.rows row (w.mem_of_mem_deleteExpiredTokens hr),
      fun row hr => h.owners row (w.mem_of_mem_deleteExpiredTokens hr), h.keys, h.ids, h.outlive⟩
  | .removeToken t => h.delBlacklist t
  | .update u => show Inv s (w.updateUser u) from
    ⟨h.rows, fun row hr => by rw [any_id_of_ids (w.updateUser_ids u)]; exact h.owners row hr, h.keys,
      by rw [w.updateUser_ids u]; exact h.ids, h.outlive⟩

theorem maint (h : Inv s w) (o : MaintOp) (f : o.Fault) : Inv s (o.run w f).1 := by
  rcases o.run_world w f with he | he <;> rw [he]
  · exact h
  · exact h.effect o

theorem opsStep (h : Inv s w) (hs : OpsStep s reliable w w') : Inv s w' := by
  cases hs with
  | engine hs => exact h.step hs
  | maint o _ f _ => exact h.maint o f

end Inv

/-- Every world that runs of the engine and the operator reach satisfies the invariant. -/
theorem opsReachable_inv (h : OpsReachable s reliable w) : Inv s w := by
  obtain ⟨w₀, h₀, hr⟩ := h
  induction hr with
  | refl => exact h₀.inv
  | tail _ hs ih => exact ih.opsStep hs

/-! ## Revocation with an operator -/

/-- No maintenance call stores a row or draws a UUID. -/
theorem Unstored.maint (hu : Unstored s t w) (o : MaintOp) (f : o.Fault) : Unstored s t (o.run w f).1 := by
  rcases o.run_world w f with he | he <;> rw [he]
  · exact hu
  · exact ⟨fun row hr => hu.1 row (o.mem_effect hr), fun u c k h => (o.effect_uuidSeed w).symm ▸ hu.2 u c k h⟩

theorem Unstored.opsStep (hu : Unstored s t w) (hs : OpsStep s reliable w w') : Unstored s t w' := by
  cases hs with
  | engine hs => exact hu.grows (Grows.step hs)
  | maint o _ f _ => exact hu.maint o f

/-- A refresh token whose row a consumption deleted fails every later refresh,
whatever the service and the operator do in between: the blacklist key may
lapse or be removed, but the row never comes back. -/
theorem refresh_fails_after_deletion {w₁ w₂ w₃ w₄ : World} {e : Event}
    {r : Except GoError AuthResponseWithRefreshToken} (h₁ : OpsReachable s reliable w₁)
    (hs : Step s reliable w₁ e w₂) (hc : Consumes t w₁ e)
    (hn : ∀ row ∈ w₂.refreshTokens, row.tokenHash ≠ hashToken t)
    (hr : Relation.ReflTransGen (OpsStep s reliable) w₂ w₃) (hlast : (s.refreshToken t).Runs w₃ w₄ r) :
    ∃ err, r = .error err := by
  have hi₁ := opsReachable_inv h₁
  have hi₃ : Inv s w₃ ∧ Unstored s t w₃ := by
    clear hlast
    induction hr with
    | refl => exact ⟨hi₁.step hs, hc.unstored hi₁ hs hn⟩
    | tail _ hs' ih => exact ⟨ih.1.opsStep hs', ih.2.opsStep hs'⟩
  exact Dead.refresh_fails hi₃.1 (.inr hi₃.2) hlast

theorem afterAliceLogin_opsReachable : OpsReachable sampleService true afterAliceLogin :=
  ⟨aliceWorld, aliceWorld_init, .single (.engine aliceLogin_step)⟩

/-- Eight days after Alice's login: her refresh token's row has expired. -/
def aliceLapsed : World := afterAliceLogin.tick (8 * 24 * 3600 * 10 ^ 9) (by decide)

theorem aliceLapsed_opsReachable : OpsReachable sampleService true aliceLapsed :=
  let ⟨w₀, h₀, hr⟩ := afterAliceLogin_opsReachable
  ⟨w₀, h₀, hr.tail (.engine (.tick _ (by decide) (by decide)))⟩

/-- Alice logs in; eight days later the operator's `DeleteExpired` drops her
expired row, and the invariant holds after it. -/
theorem opsReachable_inv_alice :
    aliceLapsed.refreshTokens ≠ [] ∧ (TokenRepository.deleteExpired aliceLapsed none).1.refreshTokens = [] ∧
    OpsReachable sampleService true (TokenRepository.deleteExpired aliceLapsed none).1 ∧
      Inv sampleService (TokenRepository.deleteExpired aliceLapsed none).1 :=
  have h : OpsReachable sampleService true (TokenRepository.deleteExpired aliceLapsed none).1 :=
    let ⟨w₀, h₀, hr⟩ := aliceLapsed_opsReachable
    ⟨w₀, h₀, hr.tail (.maint .deleteExpired _ none fun _ => rfl)⟩
  ⟨by decide, by decide, h, opsReachable_inv h⟩

/-- Alice's refresh took both revoking writes; the operator then removes the
blacklist key, and the old refresh token still fails. -/
theorem refresh_fails_after_deletion_alice :
    OpsReachable sampleService true afterAliceLogin ∧
    (∀ row ∈ afterAliceRefresh.refreshTokens, row.tokenHash ≠ hashToken alicePair.refreshToken) ∧
    ∃ err, ((sampleService.refreshToken alicePair.refreshToken).run
      (TokenBlacklistService.removeToken alicePair.refreshToken afterAliceRefresh none).1).2 = .error err := by
  have hn : ∀ row ∈ afterAliceRefresh.refreshTokens, row.tokenHash ≠ hashToken alicePair.refreshToken := by
    decide
  exact ⟨afterAliceLogin_opsReachable, hn,
    refresh_fails_after_deletion afterAliceLogin_opsReachable aliceRefresh_step ⟨rfl, _, rfl⟩ hn
      (.single (.maint (.removeToken _) _ none fun _ => rfl)) (Prog.run_runs _ _)⟩

end AuthLifecycle.Engine

import AuthLifecycle.Engine.Issuance
import AuthLifecycle.Handler.Middleware
/-!
# Engine.Session — from a returned pair to `/me`

A call that returned a pair opened a session. The pair's access token, sent as
`Authorization: Bearer <token>`, opens `/me` (`AuthHandler.meRoute`) for the
pair's account until the token's `exp`, whatever the service did meanwhile.
That includes logouts and rotations: logout revokes only the refresh token, and
no access token ever has a blacklist key (`Inv.access_unlisted`). From the
token's `exp` on, `/me` answers 401.

* `meRoute_issued`: `/me` with an issued access token, in any reachable world
  holding the token's user.
* `session_me_until_expiry`: the session over whole runs.

A session ends with `/logout` (`AuthHandler.logoutRoute`). `Logout` revokes the
presented refresh token only when its row belongs to the user the middleware
authenticated, so no caller deletes or blacklists another user's token
(`logoutRoute_runs_owner`), and a second logout changes nothing
(`logout_frame`).
-/

namespace AuthLifecycle.Engine

open AuthLifecycle.Go AuthLifecycle.Utils AuthLifecycle.Store AuthLifecycle.Service
open AuthLifecycle.Handler AuthLifecycle.Service.AuthService

set_option autoImplicit false

variable {s : AuthService} {decode : String → TokenString} {text : String}

/-- `/me` with an access token issued to `user`, in a world of the invariant
that stores an account `v` with the user's id: before the token's `exp` it
answers 200 with `v`, from then on 401, and it changes nothing. -/
theorem meRoute_issued {w wᵢ : World} (hi : Inv s w) {user v : User} (hc : wᵢ.clock < 2 ^ 63)
    (hv : v ∈ w.users) (hid : v.id = user.id) (hd : decode text = (s.issued user wᵢ).authResponse.accessToken)
    (hsp : ' ' ∉ text.toList) :
    (AuthHandler.meRoute ⟨s⟩ decode ("Bearer " ++ text)).run w =
      (w, if w.clock < s.jwtManager.accessExp wᵢ.clock * 10 ^ 9
        then ⟨200, none, .user ⟨v.id, v.email, v.createdAt, v.updatedAt, v.lastLoginAt, v.isEmailVerified⟩⟩
        else errorJSON 401 "Unauthorized" "Invalid or expired token") := by
  rw [AuthHandler.meRoute, protectedRoute_run_bearer hsp, hd, hi.validateToken_issued user hc]
  by_cases hlt : (w.clock : Int) < s.jwtManager.accessExp wᵢ.clock * 10 ^ 9
  · rw [if_pos hlt, if_pos hlt]
    exact (AuthHandler.getMe_run _ _).trans (by rw [← hid, find?_id_of_mem hi.ids hv])
  · rw [if_neg hlt, if_neg hlt]

/-- After a call returned the pair `p`, and after any run that follows it,
`/me` with `p`'s access token changes nothing; it answers 200 with `p`'s
account before the token's `exp`, and 401 from then on. -/
theorem session_me_until_expiry {reliable : Bool} {w₁ w₂ w₃ : World} {e : Event}
    {p : AuthResponseWithRefreshToken} {evs : List Event} {exp : Int} (h₁ : Reachable s reliable w₁)
    (hs : Step s reliable w₁ e w₂) (hp : Returns p e) (hr : Run s reliable w₂ evs w₃)
    (hd : decode text = p.authResponse.accessToken) (hsp : ' ' ∉ text.toList)
    (hexp : p.authResponse.accessToken.expClaim = some exp) :
    ((AuthHandler.meRoute ⟨s⟩ decode ("Bearer " ++ text)).run w₃).1 = w₃ ∧
    (w₃.clock < exp * 10 ^ 9 → ∃ r : UserResponse,
      ((AuthHandler.meRoute ⟨s⟩ decode ("Bearer " ++ text)).run w₃).2 = ⟨200, none, .user r⟩ ∧
        r.id = p.authResponse.user.id ∧ r.email = p.authResponse.user.email) ∧
    (exp * 10 ^ 9 ≤ w₃.clock →
      ((AuthHandler.meRoute ⟨s⟩ decode ("Bearer " ++ text)).run w₃).2 =
        errorJSON 401 "Unauthorized" "Invalid or expired token") := by
  have hi₃ : Inv s w₃ := (h₁.run (.cons hs hr)).inv
  obtain ⟨user, wᵢ, rfl, -, -, v, hv, hacc⟩ := returns_issued h₁.inv hs hp
  obtain ⟨v₃, hv₃, hacc₃⟩ := mem_of_account (Run.users_account hr) hv
  obtain ⟨hid, hemail, -⟩ := account_eq (hacc₃.trans hacc)
  simp only [issued, issuedAccess, JWTManager.expClaim_accessTokenAt, Option.some.injEq] at hexp
  subst hexp
  rw [meRoute_issued hi₃ wᵢ.clock_lt hv₃ hid hd hsp]
  exact ⟨rfl, fun hlt => ⟨_, if_pos hlt, hid, hemail⟩, fun hge => if_neg (not_lt.2 hge)⟩

theorem session_me_until_expiry_alice :
    Reachable sampleService true aliceWorld ∧
    Step sampleService true aliceWorld (.call (.login aliceLogin) (.ok alicePair)) afterAliceLogin ∧
    ' ' ∉ "aliceAccessToken".toList ∧
    alicePair.authResponse.accessToken.expClaim = some (sampleService.jwtManager.accessExp aliceStamped.clock) ∧
    ((AuthHandler.meRoute ⟨sampleService⟩ (fun _ => alicePair.authResponse.accessToken)
        ("Bearer " ++ "aliceAccessToken")).run afterAliceLogin).1 = afterAliceLogin ∧
    (afterAliceLogin.clock < sampleService.jwtManager.accessExp aliceStamped.clock * 10 ^ 9 →
      ∃ r : UserResponse, ((AuthHandler.meRoute ⟨sampleService⟩ (fun _ => alicePair.authResponse.accessToken)
          ("Bearer " ++ "aliceAccessToken")).run afterAliceLogin).2 = ⟨200, none, .user r⟩ ∧
        r.id = alicePair.authResponse.user.id ∧ r.email = alicePair.authResponse.user.email) ∧
    (sampleService.jwtManager.accessExp aliceStamped.clock * 10 ^ 9 ≤ afterAliceLogin.clock →
      ((AuthHandler.meRoute ⟨sampleService⟩ (fun _ => alicePair.authResponse.accessToken)
          ("Bearer " ++ "aliceAccessToken")).run afterAliceLogin).2 =
        errorJSON 401 "Unauthorized" "Invalid or expired token") :=
  ⟨⟨aliceWorld, [], aliceWorld_init, .nil _⟩, aliceLogin_step, by decide, JWTManager.expClaim_accessTokenAt,
    session_me_until_expiry ⟨aliceWorld, [], aliceWorld_init, .nil _⟩ aliceLogin_step rfl (.nil _) rfl
      (by decide) JWTManager.expClaim_accessTokenAt⟩

/-! ## Logout -/

/-- Through `/logout`, whatever the stores answer, a request either changes
nothing or is authenticated by a `Bearer` token; then every row it deletes and
every blacklist key it changes belongs to the user that token names, under the
UNIQUE key on `token_hash`. -/
theorem logoutRoute_runs_owner {h : AuthHandler} {header : String} {cookie : Option TokenString}
    {w w' : World} {r : Response} (hunique : (w.refreshTokens.map (·.tokenHash)).Nodup)
    (hr : (h.logoutRoute decode header cookie).Runs w w' r) :
    w' = w ∨ ∃ text claims, header = "Bearer " ++ text ∧
      (h.authService.validateToken (decode text)).Runs w w (.ok claims) ∧
      (∀ row ∈ w.refreshTokens, row ∉ w'.refreshTokens → row.userID = claims.userID) ∧
      (∀ t', w'.blacklist t' ≠ w.blacklist t' →
        ∃ row ∈ w.refreshTokens, row.tokenHash = hashToken t' ∧ row.userID = claims.userID) := by
  rcases protectedRoute_runs hr with ⟨text, claims, rfl, hv, hl⟩ | ⟨rfl, -⟩
  · obtain ⟨b, hl⟩ := AuthHandler.logout_runs_some h hl
    obtain ⟨-, rfl | ⟨-, row, hf, hown, hrev⟩⟩ := logout_runs hl
    · exact .inl rfl
    obtain ⟨hrow, hd⟩ := stored_of_find? hf
    refine .inr ⟨text, claims, rfl, hv, fun r hr hn => ?_, fun t' hb => ?_⟩
    · rw [List.inj_on_of_nodup_map hunique hr hrow ((hrev.rows hr hn).trans hd.symm), hown]
    · rw [hrev.blacklist hb]
      exact ⟨row, hrow, hd, hown⟩
  · exact .inl rfl

/-- `Logout(u, t)` returns `nil` whatever the stores answer. It changes nothing
when `t` is empty or no row stored under `t`'s digest is `u`'s. Otherwise, with
the UNIQUE key on `token_hash`, it can only add `blacklist:token:<t>` and delete
that one row (`Revoked`: each write takes effect or fails), and with every
command succeeding it does both. A second logout of `t` then changes nothing.
Through `/logout`, a caller is authenticated by a `Bearer` token, and every row
deleted and every blacklist key changed belongs to the user that token names. -/
theorem logout_frame (s : AuthService) (u : String) (t : TokenString) (w : World)
    (hunique : (w.refreshTokens.map (·.tokenHash)).Nodup) :
    ((t = emptyToken ∨ ∀ row ∈ w.refreshTokens, row.tokenHash = hashToken t → row.userID ≠ u) →
      ∀ w' b, (s.logout u t).Runs w w' b → w' = w ∧ b = .ok ()) ∧
    (∀ row ∈ w.refreshTokens, row.tokenHash = hashToken t → row.userID = u → t ≠ emptyToken →
      (s.logout u t).run w = ((w.setBlacklist t s.refreshTokenExpiry.ns).deleteTokens (hashToken t), .ok ()) ∧
      (w.deleteTokens (hashToken t)).refreshTokens = w.refreshTokens.erase row ∧
      ∀ w' b, (s.logout u t).Runs w w' b → b = .ok () ∧ s.Revoked t w w') ∧
    (∀ w' b, (s.logout u t).Runs ((s.logout u t).run w).1 w' b → w' = ((s.logout u t).run w).1) ∧
    (∀ (h : AuthHandler) decode header cookie w' r, h.authService = s →
      (h.logoutRoute decode header cookie).Runs w w' r →
      w' = w ∨ ∃ text claims, header = "Bearer " ++ text ∧ (s.validateToken (decode text)).Runs w w (.ok claims) ∧
        (∀ row ∈ w.refreshTokens, row ∉ w'.refreshTokens → row.userID = claims.userID) ∧
        (∀ t', w'.blacklist t' ≠ w.blacklist t' →
          ∃ row ∈ w.refreshTokens, row.tokenHash = hashToken t' ∧ row.userID = claims.userID)) := by
  refine ⟨fun hn w' b h => logout_runs_of_not_owned (hn.imp_right fun hn row hf =>
      hn row (stored_of_find? hf).1 (stored_of_find? hf).2) h, fun row hr hd hown ht => ?_,
    fun _ _ => logout_runs_after_run, fun h _ _ _ _ _ hs hr => hs ▸ logoutRoute_runs_owner hunique hr⟩
  have hf := World.find?_tokenHash_of_nodup hunique hr
  rw [hd] at hf
  refine ⟨logout_run_of_owned ht hf hown, hd ▸ World.deleteTokens_eq_erase hunique hr, fun w' b h => ?_⟩
  obtain ⟨hb, rfl | ⟨-, -, -, -, hrev⟩⟩ := logout_runs h
  · exact ⟨hb, w, .inl rfl, .inl rfl⟩
  · exact ⟨hb, hrev⟩

/-- Right after her login, Alice's logout with her refresh token, every command
succeeding, blacklists that token and deletes its row. -/
theorem logout_frame_alice :
    (afterAliceLogin.refreshTokens.map (·.tokenHash)).Nodup ∧
    (sampleService.logout alice.id alicePair.refreshToken).run afterAliceLogin =
      ((afterAliceLogin.setBlacklist alicePair.refreshToken sampleService.refreshTokenExpiry.ns).deleteTokens
        (hashToken alicePair.refreshToken), .ok ()) :=
  have hu : (afterAliceLogin.refreshTokens.map (·.tokenHash)).Nodup := List.nodup_singleton _
  ⟨hu, ((logout_frame sampleService alice.id alicePair.refreshToken afterAliceLogin hu).2.1
    (sampleService.issuedRow alice aliceStamped) (List.mem_singleton_self _) rfl rfl nofun).1⟩

end AuthLifecycle.Engine

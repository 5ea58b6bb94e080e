import AuthLifecycle.Repository
/-!
# Repository.Maintenance — the store methods no route calls

`tokenRepository.GetByUserID`, `Delete` and `DeleteExpired`,
`TokenBlacklistService.RemoveToken` and `userRepository.Update` belong to the
repositories' interfaces, but no handler and no service operation calls them:
they are there for an operator (an expiry job, an admin tool). Each is one SQL
statement or one Redis command, none of them among the services' `StoreCmd`s,
so each is given here as its statement's effect on the `World` and the Go
method around it. A method runs with its statement taking effect (`none`) or
refused by the store with a driver error (`some text`), as `Prog.runWith` runs
the services' commands; `MaintOp.run` is the call of any of them.

* `MaintOp.run_of_failed`: a call that returns an error leaves the world as it
  was — also when the statement ran and matched no row.
* `tokensOfUser_sorted`, `mem_tokensOfUser`: `GetByUserID` returns exactly the
  user's rows, newest first.
* `deleteExpiredTokens_expiresAt`: after `DeleteExpired` every row left expires
  at the clock or later.
-/

namespace AuthLifecycle.Store.World

open AuthLifecycle.Go AuthLifecycle.Utils

set_option autoImplicit false

variable (w : World)

/-- `SELECT … FROM refresh_tokens WHERE user_id = $1 ORDER BY created_at DESC`:
the user's rows, newest first. PostgreSQL leaves the order of rows created at
the same instant open; this is the order that keeps them as the table has them. -/
def tokensOfUser (userID : String) : List RefreshToken :=
  (w.refreshTokens.filter (·.userID == userID)).mergeSort fun a b => decide (b.createdAt ≤ a.createdAt)

/-- `DELETE FROM refresh_tokens WHERE id = $1`. -/
def deleteTokenById (id : String) : World :=
  { w with refreshTokens := w.refreshTokens.filter (·.id != id) }

/-- `DELETE FROM refresh_tokens WHERE expires_at < $1`. -/
def deleteExpiredTokens (now : Int) : World :=
  { w with refreshTokens := w.refreshTokens.filter fun r => !decide (r.expiresAt < now) }

/-- `DEL blacklist:token:<token>`. -/
def delBlacklist (token : TokenString) : World :=
  { w with blacklist := fun t => if t = token then none else w.blacklist t }

/-- The row `v` as `Update` leaves it: the columns it sets taken from `u`, and
the trigger's `updated_at`. -/
def updatedRow (v u : User) : User :=
  { v with email := u.email, passwordHash := u.passwordHash, isActive := u.isActive,
           isEmailVerified := u.isEmailVerified, updatedAt := w.clock }

/-- `UPDATE users SET email = $2, password_hash = $3, is_active = $4,
is_email_verified = $5 WHERE id = $1`. -/
def updateUser (u : User) : World :=
  { w with users := w.users.map fun v => if v.id = u.id then w.updatedRow v u else v }

/-- The constraint the update violates: the new email is another user's. -/
def userUpdateError (u : User) : Option StoreError :=
  if w.users.any (·.id == u.id) && w.users.any (fun v => v.id != u.id && v.email == u.email) then
    some duplicateKeyError
  else none

@[simp] theorem deleteTokenById_users (id : String) : (w.deleteTokenById id).users = w.users := rfl
@[simp] theorem deleteTokenById_blacklist (id : String) : (w.deleteTokenById id).blacklist = w.blacklist := rfl
@[simp] theorem deleteTokenById_clock (id : String) : (w.deleteTokenById id).clock = w.clock := rfl
@[simp] theorem deleteTokenById_uuidSeed (id : String) : (w.deleteTokenById id).uuidSeed = w.uuidSeed := rfl

@[simp] theorem deleteExpiredTokens_refreshTokens (n : Int) :
    (w.deleteExpiredTokens n).refreshTokens = w.refreshTokens.filter fun r => !decide (r.expiresAt < n) := rfl
@[simp] theorem deleteExpiredTokens_users (n : Int) : (w.deleteExpiredTokens n).users = w.users := rfl
@[simp] theorem deleteExpiredTokens_blacklist (n : Int) :
    (w.deleteExpiredTokens n).blacklist = w.blacklist := rfl
@[simp] theorem deleteExpiredTokens_clock (n : Int) : (w.deleteExpiredTokens n).clock = w.clock := rfl
@[simp] theorem deleteExpiredTokens_uuidSeed (n : Int) : (w.deleteExpiredTokens n).uuidSeed = w.uuidSeed := rfl

@[simp] theorem delBlacklist_users (t : TokenString) : (w.delBlacklist t).users = w.users := rfl
@[simp] theorem delBlacklist_refreshTokens (t : TokenString) :
    (w.delBlacklist t).refreshTokens = w.refreshTokens := rfl
@[simp] theorem delBlacklist_clock (t : TokenString) : (w.delBlacklist t).clock = w.clock := rfl
@[simp] theorem delBlacklist_uuidSeed (t : TokenString) : (w.delBlacklist t).uuidSeed = w.uuidSeed := rfl

@[simp] theorem updateUser_refreshTokens (u : User) : (w.updateUser u).refreshTokens = w.refreshTokens := rfl
@[simp] theorem updateUser_blacklist (u : User) : (w.updateUser u).blacklist = w.blacklist := rfl
@[simp] theorem updateUser_clock (u : User) : (w.updateUser u).clock = w.clock := rfl
@[simp] theorem updateUser_uuidSeed (u : User) : (w.updateUser u).uuidSeed = w.uuidSeed := rfl

/-- The deletes only drop rows. -/
theorem mem_of_mem_deleteTokenById {id : String} {r : RefreshToken} (h : r ∈ (w.deleteTokenById id).refreshTokens) :
    r ∈ w.refreshTokens :=
  List.mem_of_mem_filter h

theorem mem_of_mem_deleteExpiredTokens {n : Int} {r : RefreshToken}
    (h : r ∈ (w.deleteExpiredTokens n).refreshTokens) : r ∈ w.refreshTokens :=
  List.mem_of_mem_filter h

/-- After `DeleteExpired` with clock reading `n`, every row left expires at `n` or later. -/
theorem deleteExpiredTokens_expiresAt {n : Int} {r : RefreshToken}
    (h : r ∈ (w.deleteExpiredTokens n).refreshTokens) : n ≤ r.expiresAt := by
  simpa [deleteExpiredTokens] using (List.mem_filter.1 h).2

/-- A delete that matches no row changes nothing. -/
theorem deleteTokenById_of_countP {id : String} (h : w.refreshTokens.countP (·.id == id) = 0) :
    w.deleteTokenById id = w := by
  have : w.refreshTokens.filter (·.id != id) = w.refreshTokens :=
    List.filter_eq_self.2 fun r hr => by
      have := List.countP_eq_zero.1 h r hr
      simpa using this
  simp only [deleteTokenById, this]

/-- An update that matches no row changes nothing. -/
theorem updateUser_of_countP {u : User} (h : w.users.countP (·.id == u.id) = 0) : w.updateUser u = w := by
  have hmap : w.users.map (fun v => if v.id = u.id then w.updatedRow v u else v) = w.users := by
    conv_rhs => rw [← List.map_id w.users]
    exact List.map_congr_left fun v hv => if_neg (by simpa using List.countP_eq_zero.1 h v hv)
  rw [updateUser, hmap]

/-- An update changes no user's id. -/
theorem updateUser_ids (u : User) : (w.updateUser u).users.map (·.id) = w.users.map (·.id) := by
  simp only [updateUser, List.map_map]
  congr 1
  funext v
  simp only [Function.comp_apply]
  split <;> rfl

/-- `GetByUserID`'s rows are the user's rows. -/
theorem mem_tokensOfUser {userID : String} {r : RefreshToken} :
    r ∈ w.tokensOfUser userID ↔ r ∈ w.refreshTokens ∧ r.userID = userID := by
  simp [tokensOfUser, List.mem_mergeSort]

/-- `GetByUserID`'s rows come newest first. -/
theorem tokensOfUser_sorted (userID : String) :
    (w.tokensOfUser userID).Pairwise fun a b => b.createdAt ≤ a.createdAt := by
  have := @List.sorted_mergeSort RefreshToken (fun a b => decide (b.createdAt ≤ a.createdAt))
    (fun a b c hab hbc => by simp only [decide_eq_true_eq] at *; omega)
    (fun a b => by simp only [Bool.or_eq_true, decide_eq_true_eq]; omega)
    (w.refreshTokens.filter (·.userID == userID))
  simpa using this

end AuthLifecycle.Store.World

namespace AuthLifecycle.Repository

open AuthLifecycle.Go AuthLifecycle.Utils AuthLifecycle.Store

set_option autoImplicit false

/-- Where `GetByUserID` can fail: the query, the scan of a row, or the iteration. -/
inductive RowsFault where
  | query (text : String)
  | scan (text : String)
  | iterate (text : String)
  deriving DecidableEq, Repr

/-- `tokenRepository.GetByUserID`. The rows' nullable columns are read as they are stored. -/
def TokenRepository.getByUserID (userID : String) (w : World) : Option RowsFault → Except GoError (List RefreshToken)
  | none => .ok (w.tokensOfUser userID)
  | some (.query e) => .error (.wrap "failed to get tokens by user id: " (toGo (.driver e)))
  | some (.scan e) => .error (.wrap "failed to scan token: " (toGo (.driver e)))
  | some (.iterate e) => .error (.wrap "failed to iterate tokens: " (toGo (.driver e)))

/-- `tokenRepository.Delete`. -/
def TokenRepository.delete (tokenID : String) (w : World) : Option String → World × Except GoError Unit
  | some e => (w, .error (.wrap "failed to delete token: " (toGo (.driver e))))
  | none =>
    match w.refreshTokens.countP (·.id == tokenID) with
    | 0 => (w.deleteTokenById tokenID, .error (.wrap ("token with id " ++ tokenID ++ " not found: ") (.sentinel .notFound)))
    | _ => (w.deleteTokenById tokenID, .ok ())

/-- `tokenRepository.DeleteExpired`, with the clock reading of `time.Now()`. -/
def TokenRepository.deleteExpired (w : World) : Option String → World × Except GoError Unit
  | some e => (w, .error (.wrap "failed to delete expired tokens: " (toGo (.driver e))))
  | none => (w.deleteExpiredTokens w.clock, .ok ())

/-- `TokenBlacklistService.RemoveToken`: `DEL blacklist:token:<token>`. -/
def TokenBlacklistService.removeToken (token : TokenString) (w : World) : Option String → World × Except GoError Unit
  | some e => (w, .error (.wrap "failed to remove token from blacklist: " (toGo (.driver e))))
  | none => (w.delBlacklist token, .ok ())

/-- `userRepository.Update`. -/
def UserRepository.update (user : User) (w : World) : Option String → World × Except GoError Unit
  | some e => (w, .error (.wrap "failed to update user: " (toGo (.driver e))))
  | none =>
    match w.userUpdateError user with
    | some e =>
      if isUniqueViolation e then
        (w, .error (.wrap ("user with email " ++ user.email ++ " already exists: ") (.sentinel .duplicateEmail)))
      else (w, .error (.wrap "failed to update user: " (toGo e)))
    | none =>
      match w.users.countP (·.id == user.id) with
      | 0 => (w.updateUser user, .error (.wrap ("user with id " ++ user.id ++ " not found: ") (.sentinel .notFound)))
      | _ => (w.updateUser user, .ok ())

/-- A call of a method no route makes. -/
inductive MaintOp where
  | getByUserID (userID : String)
  | delete (tokenID : String)
  | deleteExpired
  | removeToken (token : TokenString)
  | update (user : User)

/-- What a call returns. -/
@[reducible] def MaintOp.Result : MaintOp → Type
  | .getByUserID _ => Except GoError (List RefreshToken)
  | _ => Except GoError Unit

/-- How the store can refuse a call. -/
@[reducible] def MaintOp.Fault : MaintOp → Type
  | .getByUserID _ => Option RowsFault
  | _ => Option String

/-- The store refuses nothing. -/
def MaintOp.noFault : (o : MaintOp) → o.Fault
  | .getByUserID _ | .delete _ | .deleteExpired | .removeToken _ | .update _ => none

/-- The call from `w`, the store answering as `f` says. -/
def MaintOp.run : (o : MaintOp) → World → o.Fault → World × o.Result
  | .getByUserID userID, w, f => (w, TokenRepository.getByUserID userID w f)
  | .delete tokenID, w, f => TokenRepository.delete tokenID w f
  | .deleteExpired, w, f => TokenRepository.deleteExpired w f
  | .removeToken token, w, f => TokenBlacklistService.removeToken token w f
  | .update user, w, f => UserRepository.update user w f

/-- The world a call leaves when its statement takes effect. -/
def MaintOp.effect : MaintOp → World → World
  | .getByUserID _, w => w
  | .delete tokenID, w => w.deleteTokenById tokenID
  | .deleteExpired, w => w.deleteExpiredTokens w.clock
  | .removeToken token, w => w.delBlacklist token
  | .update user, w => w.updateUser user

theorem MaintOp.effect_uuidSeed (o : MaintOp) (w : World) : (o.effect w).uuidSeed = w.uuidSeed := by
  cases o <;> rfl

theorem MaintOp.effect_clock (o : MaintOp) (w : World) : (o.effect w).clock = w.clock := by
  cases o <;> rfl

/-- No statement stores a row: each leaves a sublist of the rows. -/
theorem MaintOp.effect_sublist (o : MaintOp) (w : World) : List.Sublist (o.effect w).refreshTokens w.refreshTokens := by
  cases o with
  | delete | deleteExpired => exact List.filter_sublist _
  | _ => exact List.Sublist.refl _

theorem MaintOp.mem_effect (o : MaintOp) {w : World} {row : RefreshToken} (h : row ∈ (o.effect w).refreshTokens) :
    row ∈ w.refreshTokens :=
  (o.effect_sublist w).subset h

/-- A call leaves the world as it was, or as its statement leaves it. -/
theorem MaintOp.run_world (o : MaintOp) (w : World) (f : o.Fault) : (o.run w f).1 = w ∨ (o.run w f).1 = o.effect w := by
  cases o <;> cases f <;>
    simp only [run, effect, TokenRepository.delete, TokenRepository.deleteExpired, TokenBlacklistService.removeToken,
      UserRepository.update] <;> repeat' split
  all_goals simp

/-- The call returned an error. -/
def MaintOp.Failed : (o : MaintOp) → o.Result → Prop
  | .getByUserID _, r => ∃ e, r = .error e
  | .delete _, r => ∃ e, r = .error e
  | .deleteExpired, r => ∃ e, r = .error e
  | .removeToken _, r => ∃ e, r = .error e
  | .update _, r => ∃ e, r = .error e

/-- A call that returns an error leaves the world as it was, also when its
statement ran and matched no row. -/
theorem MaintOp.run_of_failed (o : MaintOp) (w : World) (f : o.Fault) (h : o.Failed (o.run w f).2) :
    (o.run w f).1 = w := by
  cases o <;> cases f <;>
    simp only [Failed, run, TokenRepository.delete, TokenRepository.deleteExpired,
      TokenBlacklistService.removeToken, UserRepository.update] at h ⊢ <;> repeat' split at h
  all_goals first
    | rfl
    | exact w.deleteTokenById_of_countP ‹_›
    | exact w.updateUser_of_countP ‹_›
    | (split <;> rfl)
    | simp at h

end AuthLifecycle.Repository

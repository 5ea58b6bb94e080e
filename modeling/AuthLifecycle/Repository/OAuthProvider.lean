import AuthLifecycle.Repository.Maintenance
import AuthLifecycle.Store.Postgres
import AuthLifecycle.Config
/-!
# Repository.OAuthProvider — the `oauth_providers` table

`oauthProviderRepository` links a user to an account at an OAuth provider. No
route and no service operation calls it. Its table lives next to the `World`:
the foreign key on `user_id` reads `users`, and `Create` reads the clock and
draws a UUID; an `OAuthStore` is the two together, with the offset of the
server's `Local` location, in which `time.Now()` reads the clock. Each method
runs with its statement taking effect (`none`) or refused with a driver error
(`some text`), as the maintenance methods do.

The table holds what PostgreSQL made of the parameters (`OAuthRow`): `id` and
`user_id` are `UUID`s and come back in `uuid_out`'s lowercase text, the texts
are cut to their `VARCHAR` columns, and `created_at` is a `TIMESTAMP`, the wall
clock of the struct's time in its own location to the microsecond, with no
zone (`Store.Postgres`). `insertRow` forms the row or names the first
parameter or column the server refuses; only then are the primary key,
`UNIQUE(provider, provider_user_id)` and the foreign key checked
(`OAuthStore.insertError`).

* `create_getByProvider`: a `Create` that succeeds stored the row PostgreSQL
  made of the struct it filled, and `GetByProvider` under that row's pair
  returns it as `Scan` reads it: canonical UUIDs, and `CreatedAt` moved to
  offset 0 (`pgMicros_whole` for a whole second).
* `create_duplicate`: a `Create` for a linked account stores nothing and fails
  with `ErrDuplicateOAuthProvider` when the server accepts every column; a
  refused column comes first, with its own error (`insertRow_notUnique`).
-/

namespace AuthLifecycle.Repository

open AuthLifecycle.Go AuthLifecycle.Store

set_option autoImplicit false

/-- `domain.OAuthProvider`. -/
structure OAuthProvider where
  id : String
  userID : String
  provider : String
  providerUserID : String
  email : Option String
  createdAt : GoTime
  deriving DecidableEq, Repr

/-- A row of `oauth_providers` as PostgreSQL holds it: the `UUID`s in
`uuid_out`'s text, the texts as their columns keep them, and `created_at` in
microseconds of a wall clock, from 1970-01-01 00:00:00. -/
structure OAuthRow where
  id : String
  userID : String
  provider : String
  providerUserID : String
  email : Option String
  createdAt : Int
  deriving DecidableEq, Repr

/-- The row links account `providerUserID` at `provider`. -/
def OAuthRow.isFor (provider providerUserID : String) (r : OAuthRow) : Bool :=
  r.provider == provider && r.providerUserID == providerUserID

/-- What `Scan` reads of a row: a `NULL` email is a nil pointer, and the
`TIMESTAMP` is its wall clock at offset 0. -/
def OAuthRow.scan (r : OAuthRow) : OAuthProvider :=
  ⟨r.id, r.userID, r.provider, r.providerUserID, r.email, timestampScan r.createdAt⟩

/-- The `oauth_providers` table, the world whose users, clock and UUID source
its methods read, and the offset of the `Local` location at each instant. -/
structure OAuthStore where
  world : World
  providers : List OAuthRow
  localOffset : Int → Int

/-- The unique violation PostgreSQL reports on the primary key of `oauth_providers`. -/
def oauthPkeyError : StoreError :=
  .pq "23505" "duplicate key value violates unique constraint \"oauth_providers_pkey\""

/-- The unique violation PostgreSQL reports on `UNIQUE(provider, provider_user_id)`. -/
def oauthPairError : StoreError :=
  .pq "23505" "duplicate key value violates unique constraint \"oauth_providers_provider_provider_user_id_key\""

/-- The foreign-key violation PostgreSQL reports on `oauth_providers.user_id`. -/
def oauthUserError : StoreError :=
  .pq "23503" ("insert or update on table \"oauth_providers\" violates foreign key constraint " ++
    "\"oauth_providers_user_id_fkey\"")

/-- The `id` parameter: a UUID `Create` drew is `uuid_out`'s text already, as
`uuid.New().String()` writes it; one the caller gave is read by `uuid_in`. -/
def idParam (id : String) (drawn : Bool) : Except StoreError String :=
  if drawn then .ok id else uuidParam id

/-- The row PostgreSQL forms from `Create`'s parameters, or the error of the
first thing it refuses. The parameters `$1` to `$6` are taken in order, each
checked for a NUL byte and read by its type's input function; then the texts
are put in their `VARCHAR` columns. -/
def insertRow (q : OAuthProvider) (drawn : Bool) : Except StoreError OAuthRow := do
  let id ← idParam q.id drawn
  let userID ← uuidParam q.userID
  let provider ← textParam q.provider
  let providerUserID ← textParam q.providerUserID
  let email ← textNullable q.email
  let createdAt ← timestampParam q.createdAt
  let provider ← varcharColumn 50 provider
  let providerUserID ← varcharColumn 255 providerUserID
  let email ← varcharNullable 255 email
  pure ⟨id, userID, provider, providerUserID, email, createdAt⟩

namespace OAuthStore

variable (st : OAuthStore)

/-- `time.Now()`: the clock, in the `Local` location. -/
def now : GoTime := ⟨st.world.clock, st.localOffset st.world.clock⟩

/-- The constraint an insert of `r` violates: the primary key, the pair, then
the foreign key on `user_id`. -/
def insertError (r : OAuthRow) : Option StoreError :=
  if st.providers.any (·.id == r.id) then some oauthPkeyError
  else if st.providers.any (OAuthRow.isFor r.provider r.providerUserID) then some oauthPairError
  else if !st.world.users.any (·.id == r.userID) then some oauthUserError
  else none

/-- The struct as `Create` fills it: its `ID` the next UUID when empty, its
`CreatedAt` the clock when zero. -/
def stamp (p : OAuthProvider) : OAuthProvider :=
  let p := if p.id = "" then { p with id := uuidString st.world.uuidSeed } else p
  if p.createdAt.isZero then { p with createdAt := st.now } else p

/-- The store once `Create` drew its UUID, when it drew one. -/
def draw (p : OAuthProvider) : OAuthStore :=
  if p.id = "" then { st with world := { st.world with uuidSeed := st.world.uuidSeed + 1 } } else st

/-- `SELECT … FROM oauth_providers WHERE user_id = $1 ORDER BY created_at DESC`,
in the order that keeps rows created at the same instant as the table has them. -/
def providersOfUser (userID : String) : List OAuthRow :=
  (st.providers.filter (·.userID == userID)).mergeSort fun a b => decide (b.createdAt ≤ a.createdAt)

@[simp] theorem stamp_provider (p : OAuthProvider) : (st.stamp p).provider = p.provider := by
  simp only [stamp]; split_ifs <;> rfl

@[simp] theorem stamp_providerUserID (p : OAuthProvider) : (st.stamp p).providerUserID = p.providerUserID := by
  simp only [stamp]; split_ifs <;> rfl

@[simp] theorem draw_providers (p : OAuthProvider) : (st.draw p).providers = st.providers := by
  simp only [draw]; split_ifs <;> rfl

end OAuthStore

namespace OAuthProviderRepository

/-- What `Create` returns for an insert the server refused: a unique
violation, SQLSTATE 23505, is `ErrDuplicateOAuthProvider`. -/
def createError (e : StoreError) : Except GoError Unit :=
  if isUniqueViolation e then
    .error (.wrap "oauth provider connection already exists: " (.sentinel .duplicateOAuthProvider))
  else .error (.wrap "failed to create oauth provider: " (toGo e))

/-- `oauthProviderRepository.Create`. Go fills `ID` and `CreatedAt` in the
caller's struct before the insert; the struct as filled comes back with the
result. -/
def create (p : OAuthProvider) (st : OAuthStore) :
    Option String → (OAuthStore × OAuthProvider) × Except GoError Unit
  | some e => ((st.draw p, st.stamp p), .error (.wrap "failed to create oauth provider: " (toGo (.driver e))))
  | none =>
    match insertRow (st.stamp p) (p.id == "") with
    | .error e => ((st.draw p, st.stamp p), createError e)
    | .ok r =>
      match st.insertError r with
      | some e => ((st.draw p, st.stamp p), createError e)
      | none => (({ st.draw p with providers := st.providers ++ [r] }, st.stamp p), .ok ())

/-- `oauthProviderRepository.GetByProvider`: both parameters are texts. -/
def getByProvider (provider providerUserID : String) (st : OAuthStore) :
    Option String → Except GoError OAuthProvider
  | some e => .error (.wrap "failed to get oauth provider: " (toGo (.driver e)))
  | none =>
    match textParam provider, textParam providerUserID with
    | .error e, _ | .ok _, .error e => .error (.wrap "failed to get oauth provider: " (toGo e))
    | .ok _, .ok _ =>
      match st.providers.find? (OAuthRow.isFor provider providerUserID) with
      | some r => .ok r.scan
      | none => .error (.wrap "oauth provider connection not found: " (.sentinel .notFound))

/-- `oauthProviderRepository.GetByUserID`: the parameter is a `UUID`. -/
def getByUserID (userID : String) (st : OAuthStore) : Option RowsFault → Except GoError (List OAuthProvider)
  | none =>
    match uuidParam userID with
    | .error e => .error (.wrap "failed to get oauth providers by user id: " (toGo e))
    | .ok u => .ok ((st.providersOfUser u).map OAuthRow.scan)
  | some (.query e) => .error (.wrap "failed to get oauth providers by user id: " (toGo (.driver e)))
  | some (.scan e) => .error (.wrap "failed to scan oauth provider: " (toGo (.driver e)))
  | some (.iterate e) => .error (.wrap "failed to iterate oauth providers: " (toGo (.driver e)))

/-- `oauthProviderRepository.Delete`: the parameter is a `UUID`. -/
def delete (providerID : String) (st : OAuthStore) : Option String → OAuthStore × Except GoError Unit
  | some e => (st, .error (.wrap "failed to delete oauth provider: " (toGo (.driver e))))
  | none =>
    match uuidParam providerID with
    | .error e => (st, .error (.wrap "failed to delete oauth provider: " (toGo e)))
    | .ok u =>
      match st.providers.countP (·.id == u) with
      | 0 => (st, .error (.wrap ("oauth provider with id " ++ providerID ++ " not found: ") (.sentinel .notFound)))
      | _ => ({ st with providers := st.providers.filter (·.id != u) }, .ok ())

end OAuthProviderRepository

/-! ## The row `Create` inserts -/

section Insert

variable {q : OAuthProvider} {drawn : Bool} {r : OAuthRow} {e : StoreError}

theorem textParam_ok {s s' : String} (h : textParam s = .ok s') : s' = s := by
  unfold textParam at h; split at h <;> cases h; rfl

theorem textNullable_ok {s s' : Option String} (h : textNullable s = .ok s') : s' = s := by
  cases s with
  | none => cases h; rfl
  | some s =>
    cases ht : textParam s with
    | error => simp [textNullable, ht, Except.map] at h
    | ok v => simp only [textNullable, ht, Except.map, Except.ok.injEq] at h; rw [← h, textParam_ok ht]

theorem except_bind_eq_ok {α β : Type} {x : Except StoreError α} {f : α → Except StoreError β} {b : β} :
    x >>= f = .ok b ↔ ∃ a, x = .ok a ∧ f a = .ok b := by
  cases x <;> simp [bind, Except.bind]

/-- What an accepted row holds: each column is what the server made of the
parameter the struct gave for it. -/
theorem insertRow_ok (h : insertRow q drawn = .ok r) :
    idParam q.id drawn = .ok r.id ∧ uuidParam q.userID = .ok r.userID ∧
      varcharColumn 50 q.provider = .ok r.provider ∧ varcharColumn 255 q.providerUserID = .ok r.providerUserID ∧
      varcharNullable 255 q.email = .ok r.email ∧ timestampParam q.createdAt = .ok r.createdAt ∧
      textParam q.provider = .ok q.provider ∧ textParam q.providerUserID = .ok q.providerUserID := by
  simp only [insertRow, except_bind_eq_ok] at h
  obtain ⟨id, hid, u, hu, p, hp, pu, hpu, em, hem, t, ht, p', hp', pu', hpu', em', hem', hr⟩ := h
  cases hr
  obtain rfl := textParam_ok hp
  obtain rfl := textParam_ok hpu
  obtain rfl := textNullable_ok hem
  exact ⟨hid, hu, hp', hpu', hem', ht, hp, hpu⟩

/-- The server's answer `x` is no unique violation, whatever it refuses. -/
def NotUnique {α : Type} (x : Except StoreError α) : Prop := ∀ e, x = .error e → isUniqueViolation e = false

theorem NotUnique.bind {α β : Type} {x : Except StoreError α} {f : α → Except StoreError β} (hx : NotUnique x)
    (hf : ∀ a, NotUnique (f a)) : NotUnique (x >>= f) := fun e h => by
  cases hx' : x with
  | error e' => rw [hx'] at h; cases h; exact hx e hx'
  | ok a => rw [hx'] at h; exact hf a e h

theorem NotUnique.map {α β : Type} {x : Except StoreError α} (hx : NotUnique x) (f : α → β) :
    NotUnique (x.map f) := fun e h => by
  cases hx' : x <;> simp only [hx', Except.map, Except.error.injEq, reduceCtorEq] at h
  exact h ▸ hx _ hx'

theorem textParam_notUnique (s : String) : NotUnique (textParam s) := fun _ h => by
  unfold textParam at h; split at h <;> cases h; rfl

theorem uuidParam_notUnique (s : String) : NotUnique (uuidParam s) := fun _ h => by
  unfold uuidParam at h
  split at h
  · cases h; exact textParam_notUnique s _ ‹_›
  · split at h <;> cases h; rfl

theorem idParam_notUnique (id : String) (drawn : Bool) : NotUnique (idParam id drawn) := fun e h => by
  unfold idParam at h; split at h
  · cases h
  · exact uuidParam_notUnique id e h

theorem textNullable_notUnique : ∀ s : Option String, NotUnique (textNullable s)
  | none => fun _ h => by cases h
  | some s => (textParam_notUnique s).map some

theorem timestampParam_notUnique (t : GoTime) : NotUnique (timestampParam t) := fun _ h => by
  unfold timestampParam at h
  split at h
  split_ifs at h <;> cases h <;> rfl

theorem varcharColumn_notUnique (n : Nat) (s : String) : NotUnique (varcharColumn n s) := fun _ h => by
  unfold varcharColumn at h; split_ifs at h; cases h; rfl

theorem varcharNullable_notUnique (n : Nat) : ∀ s : Option String, NotUnique (varcharNullable n s)
  | none => fun _ h => by cases h
  | some s => (varcharColumn_notUnique n s).map some

/-- Every parameter and column check refuses with a data exception, SQLSTATE
class 22, never with a unique violation. -/
theorem insertRow_notUnique (q : OAuthProvider) (drawn : Bool) : NotUnique (insertRow q drawn) :=
  (idParam_notUnique _ _).bind fun _ => (uuidParam_notUnique _).bind fun _ => (textParam_notUnique _).bind fun _ =>
    (textParam_notUnique _).bind fun _ => (textNullable_notUnique _).bind fun _ =>
    (timestampParam_notUnique _).bind fun _ => (varcharColumn_notUnique _ _).bind fun _ =>
    (varcharColumn_notUnique _ _).bind fun _ => (varcharNullable_notUnique _ _).bind fun _ _ h => by cases h

/-- A text the server took keeps no NUL byte in its column. -/
theorem textParam_of_varchar {n : Nat} {s s' : String} (hs : textParam s = .ok s) (h : varcharColumn n s = .ok s') :
    textParam s' = .ok s' := by
  have hn : '\x00' ∉ s.toList := by unfold textParam at hs; split at hs <;> simp_all
  unfold varcharColumn at h
  split_ifs at h <;> cases h
  · exact hs
  · exact if_neg fun hm => hn (List.mem_of_mem_take hm)

end Insert

namespace OAuthStore

variable {st : OAuthStore} {r : OAuthRow}

/-- An insert the constraints take finds no row under its pair. -/
theorem any_isFor_of_insertError (h : st.insertError r = none) :
    st.providers.any (OAuthRow.isFor r.provider r.providerUserID) = false := by
  unfold insertError at h
  split_ifs at h with h₁ h₂
  simpa using h₂

/-- An insert whose pair is linked is refused with a unique violation: the
primary key's or the pair's. -/
theorem insertError_of_linked (h : st.providers.any (OAuthRow.isFor r.provider r.providerUserID) = true) :
    ∃ e, st.insertError r = some e ∧ isUniqueViolation e = true := by
  unfold insertError
  split_ifs
  · exact ⟨_, rfl, rfl⟩
  · exact ⟨_, rfl, rfl⟩

end OAuthStore

/-- Alice as the `users` table holds her: her id is a `UUID`. -/
def aliceUser : User := { alice with id := "0d1c9a5e-3b7f-4e2a-9c41-8f6b2d7a5e13" }

/-- Alice's store, with no account linked yet, on a server three hours east of UTC. -/
def aliceOAuth : OAuthStore := ⟨World.initial [aliceUser], [], fun _ => 3 * 3600⟩

/-- Alice's Google account as a caller hands it to `Create`: no id, no creation
time, her user id in capitals. -/
def aliceGoogle : OAuthProvider :=
  { id := "", userID := "0D1C9A5E-3B7F-4E2A-9C41-8F6B2D7A5E13", provider := "google", providerUserID := "g-42",
    email := some "alice@example.com", createdAt := ⟨zeroTime, 0⟩ }

/-- Alice's store once her Google account is linked. -/
def aliceLinked : OAuthStore := (OAuthProviderRepository.create aliceGoogle aliceOAuth none).1.1

namespace OAuthProviderRepository

variable {p : OAuthProvider} {st : OAuthStore}

/-- A `Create` that succeeds stored, after the rows already there, the row
PostgreSQL made of the struct it filled: the `id` as drawn or read by
`uuid_in`, the `user_id` in `uuid_out`'s text, the texts in their `VARCHAR`
columns, and `created_at` the wall clock `timestamp_in` kept. `GetByProvider`
under that row's provider and provider user id returns the row as `Scan`
reads it. -/
theorem create_getByProvider (f : Option String) (h : (create p st f).2 = .ok ()) :
    ∃ r, (create p st f).1.1.providers = st.providers ++ [r] ∧
      getByProvider r.provider r.providerUserID (create p st f).1.1 none = .ok r.scan ∧
      idParam (st.stamp p).id (p.id == "") = .ok r.id ∧ uuidParam (st.stamp p).userID = .ok r.userID ∧
      varcharColumn 50 (st.stamp p).provider = .ok r.provider ∧
      varcharColumn 255 (st.stamp p).providerUserID = .ok r.providerUserID ∧
      varcharNullable 255 (st.stamp p).email = .ok r.email ∧
      timestampParam (st.stamp p).createdAt = .ok r.createdAt := by
  cases f with
  | some _ => cases h
  | none =>
    simp only [create] at h ⊢
    split at h
    · simp [createError] at h; split_ifs at h
    · rename_i r hr
      split at h
      · simp [createError] at h; split_ifs at h
      · rename_i hi
        obtain ⟨hid, hu, hp, hpu, hem, ht, htp, htpu⟩ := insertRow_ok hr
        have hnone : st.providers.find? (OAuthRow.isFor r.provider r.providerUserID) = none :=
          List.find?_eq_none.2 fun v hv hf =>
            absurd (List.any_eq_true.2 ⟨v, hv, hf⟩) (by simp [OAuthStore.any_isFor_of_insertError hi])
        refine ⟨r, by simp, ?_, hid, hu, hp, hpu, hem, ht⟩
        simp [getByProvider, textParam_of_varchar htp hp, textParam_of_varchar htpu hpu, List.find?_append, hnone,
          OAuthRow.isFor]

/-- Alice links her Google account, and finds it under Google's pair. -/
theorem create_getByProvider_alice :
    (create aliceGoogle aliceOAuth none).2 = .ok () ∧
    ∃ r, (create aliceGoogle aliceOAuth none).1.1.providers = aliceOAuth.providers ++ [r] ∧
      getByProvider r.provider r.providerUserID (create aliceGoogle aliceOAuth none).1.1 none = .ok r.scan ∧
      idParam (aliceOAuth.stamp aliceGoogle).id (aliceGoogle.id == "") = .ok r.id ∧
      uuidParam (aliceOAuth.stamp aliceGoogle).userID = .ok r.userID ∧
      varcharColumn 50 (aliceOAuth.stamp aliceGoogle).provider = .ok r.provider ∧
      varcharColumn 255 (aliceOAuth.stamp aliceGoogle).providerUserID = .ok r.providerUserID ∧
      varcharNullable 255 (aliceOAuth.stamp aliceGoogle).email = .ok r.email ∧
      timestampParam (aliceOAuth.stamp aliceGoogle).createdAt = .ok r.createdAt :=
  have h : (create aliceGoogle aliceOAuth none).2 = .ok () := by decide
  ⟨h, create_getByProvider none h⟩

/-- The struct `Create` filled holds the clock at 03:00 in the server's
location and Alice's id in capitals; the row comes back with her id in
lowercase and 03:00 at offset 0, three hours after the instant `Create` read. -/
example : (aliceOAuth.stamp aliceGoogle).createdAt = ⟨0, 3 * 3600⟩ ∧
    getByProvider "google" "g-42" aliceLinked none =
      .ok ⟨"0", "0d1c9a5e-3b7f-4e2a-9c41-8f6b2d7a5e13", "google", "g-42", some "alice@example.com",
        ⟨3 * 3600 * 10 ^ 9, 0⟩⟩ := by decide

/-- A `Create` for an account already linked stores nothing. When the server
accepts every parameter and column of the row, the insert breaks a unique
constraint, the primary key's or the pair's, and `Create` fails with
`ErrDuplicateOAuthProvider`, whoever asked; a parameter or column it refuses
comes first, and `Create` fails with that error instead. -/
theorem create_duplicate (hlink : st.providers.any (OAuthRow.isFor p.provider p.providerUserID) = true)
    (hp : p.provider.length ≤ 50) (hu : p.providerUserID.length ≤ 255) :
    create p st none = ((st.draw p, st.stamp p),
      match insertRow (st.stamp p) (p.id == "") with
      | .ok _ => .error (.wrap "oauth provider connection already exists: " (.sentinel .duplicateOAuthProvider))
      | .error e => .error (.wrap "failed to create oauth provider: " (toGo e))) := by
  simp only [create]
  split
  · rename_i e he
    simp only [createError, insertRow_notUnique _ _ e he, he, Bool.false_eq_true, if_false]
  · rename_i r hr
    obtain ⟨-, -, hp', hpu', -⟩ := insertRow_ok hr
    rw [OAuthStore.stamp_provider, varcharColumn_of_le hp, Except.ok.injEq] at hp'
    rw [OAuthStore.stamp_providerUserID, varcharColumn_of_le hu, Except.ok.injEq] at hpu'
    obtain ⟨e, he, hv⟩ := @OAuthStore.insertError_of_linked st r (by rw [← hp', ← hpu']; exact hlink)
    simp only [he, createError, hv, hr, if_true]

/-- Linking Alice's Google account a second time fails as a duplicate; with a
user id that is no `UUID` it fails on that parameter first. -/
theorem create_duplicate_alice :
    aliceLinked.providers.any (OAuthRow.isFor "google" "g-42") = true ∧
    create aliceGoogle aliceLinked none = ((aliceLinked.draw aliceGoogle, aliceLinked.stamp aliceGoogle),
      match insertRow (aliceLinked.stamp aliceGoogle) (aliceGoogle.id == "") with
      | .ok _ => .error (.wrap "oauth provider connection already exists: " (.sentinel .duplicateOAuthProvider))
      | .error e => .error (.wrap "failed to create oauth provider: " (toGo e))) ∧
    create { aliceGoogle with userID := "u-1" } aliceLinked none =
      ((aliceLinked.draw { aliceGoogle with userID := "u-1" }, aliceLinked.stamp { aliceGoogle with userID := "u-1" }),
        match insertRow (aliceLinked.stamp { aliceGoogle with userID := "u-1" }) (aliceGoogle.id == "") with
        | .ok _ => .error (.wrap "oauth provider connection already exists: " (.sentinel .duplicateOAuthProvider))
        | .error e => .error (.wrap "failed to create oauth provider: " (toGo e))) :=
  have h : aliceLinked.providers.any (OAuthRow.isFor "google" "g-42") = true := by decide
  ⟨h, create_duplicate h (by decide) (by decide), create_duplicate h (by decide) (by decide)⟩

example : (create aliceGoogle aliceLinked none).2 =
      .error (.wrap "oauth provider connection already exists: " (.sentinel .duplicateOAuthProvider)) ∧
    (create { aliceGoogle with userID := "u-1" } aliceLinked none).2 =
      .error (.wrap "failed to create oauth provider: "
        (toGo (.pq "22P02" "invalid input syntax for type uuid: \"u-1\""))) := by decide

end OAuthProviderRepository

end AuthLifecycle.Repository

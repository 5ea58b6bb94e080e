import AuthLifecycle.Store.World
/-!
# Store.Prog — Go functions as trees of atomic commands

Every store call, clock read and UUID draw of a Go function is a suspension
point (a goroutine may be preempted there, and a store call may fail). A
function is therefore modelled as a `Prog`: a tree whose nodes are atomic
commands and whose branches are the possible answers. `Prog` is a monad, so
the Go bodies are written with `do`, one line per statement.

Three semantics read the same tree:

* `Runs p w w' a` — `p`, run alone from `w`, can end in `w'` with result `a`,
  where each store command either takes effect or fails with a driver error
  and no effect (`Outcome`); this is "every pattern of store failures";
* `runWith p w faults` — the run in which the store commands fail as `faults`
  says, one entry per store command, in order (`runWith_runs`);
* `run p w` — the run in which every store command succeeds.

`Prog.Always P p` says that every command `p` can issue satisfies `P`; what
each such command keeps, every run of `p` keeps (`Prog.runs_always`).

`runs_bind` and `run_bind` split a run at a bind, so that a caller's proof
cites the spec lemma of each callee and never unfolds it.
-/

namespace AuthLifecycle.Store

open AuthLifecycle.Go

set_option autoImplicit false

/-- One atomic step: a clock read, a UUID draw or a store command. -/
inductive Cmd where
  | now
  | newUuid
  | store (c : StoreCmd)
  deriving DecidableEq, Repr

/-- What a step answers. -/
@[reducible] def Cmd.Resp : Cmd → Type
  | .now => Nat
  | .newUuid => String
  | .store c => Except StoreError c.Result

/-- The step's effect and answer when the stores answer. -/
def Cmd.exec (w : World) : (c : Cmd) → World × c.Resp
  | .now => (w, w.clock)
  | .newUuid => ({ w with uuidSeed := w.uuidSeed + 1 }, uuidString w.uuidSeed)
  | .store c => c.exec w

/-- The answers a step may get: its `exec`, or for a store command a driver
error that changes nothing. -/
def Outcome (w : World) : (c : Cmd) → c.Resp → World → Prop
  | .now, r, w' => r = w.clock ∧ w = w'
  | .newUuid, r, w' => r = uuidString w.uuidSeed ∧ { w with uuidSeed := w.uuidSeed + 1 } = w'
  | .store c, r, w' =>
      (r = (c.exec w).2 ∧ (c.exec w).1 = w') ∨ (∃ e, r = .error (.driver e) ∧ w = w')

theorem outcome_exec (w : World) (c : Cmd) : Outcome w c (c.exec w).2 (c.exec w).1 := by
  cases c <;> simp [Outcome, Cmd.exec]

/-- A Go function: atomic steps, each continued by its answer. -/
inductive Prog (α : Type) where
  | pure (a : α)
  | call (c : Cmd) (k : c.Resp → Prog α)

namespace Prog

variable {α β : Type}

/-- Sequencing. -/
def bind : Prog α → (α → Prog β) → Prog β
  | .pure a, f => f a
  | .call c k, f => .call c fun r => (k r).bind f

instance : Monad Prog where
  pure := .pure
  bind := Prog.bind

@[simp] theorem bind_eq (p : Prog α) (f : α → Prog β) : (p >>= f) = p.bind f := rfl

@[simp] theorem pure_eq (a : α) : (Pure.pure a : Prog α) = .pure a := rfl

@[simp] theorem pure_bind (a : α) (f : α → Prog β) : (Prog.pure a).bind f = f a := rfl

@[simp] theorem call_bind (c : Cmd) (k : c.Resp → Prog α) (f : α → Prog β) :
    (Prog.call c k).bind f = .call c fun r => (k r).bind f := rfl

theorem bind_assoc {γ : Type} (p : Prog α) (f : α → Prog β) (g : β → Prog γ) :
    (p.bind f).bind g = p.bind fun a => (f a).bind g := by
  induction p with
  | pure a => rfl
  | call c k ih => simp only [call_bind, ih]

/-! ## Semantics -/

/-- `p` run alone from `w` can end in `w'` with result `b`, each store command
succeeding or failing. -/
def Runs : Prog α → World → World → α → Prop
  | .pure a, w, w', b => w = w' ∧ a = b
  | .call c k, w, w', b => ∃ r w₁, Outcome w c r w₁ ∧ (k r).Runs w₁ w' b

/-- The run in which the `i`-th store command fails with `faults[i]` when that
is `some text`, and succeeds otherwise. -/
def runWith : Prog α → World → List (Option String) → World × α
  | .pure a, w, _ => (w, a)
  | .call (.store _) k, w, some e :: faults => (k (.error (.driver e))).runWith w faults
  | .call (.store c) k, w, none :: faults =>
      (k (c.exec w).2).runWith (c.exec w).1 faults
  | .call c k, w, faults => (k (c.exec w).2).runWith (c.exec w).1 faults

/-- The run in which every store command succeeds. -/
def run (p : Prog α) (w : World) : World × α := p.runWith w []

@[simp] theorem run_pure (a : α) (w : World) : (Prog.pure a).run w = (w, a) := rfl

@[simp] theorem run_call (c : Cmd) (k : c.Resp → Prog α) (w : World) :
    (Prog.call c k).run w = (k (c.exec w).2).run (c.exec w).1 := by
  cases c <;> rfl

@[simp] theorem runs_pure (a b : α) (w w' : World) :
    (Prog.pure a).Runs w w' b ↔ w = w' ∧ a = b := Iff.rfl

@[simp] theorem runs_call (c : Cmd) (k : c.Resp → Prog α) (w w' : World) (b : α) :
    (Prog.call c k).Runs w w' b ↔ ∃ r w₁, Outcome w c r w₁ ∧ (k r).Runs w₁ w' b := Iff.rfl

theorem runWith_runs (p : Prog α) (w : World) (faults : List (Option String)) :
    p.Runs w (p.runWith w faults).1 (p.runWith w faults).2 := by
  induction p generalizing w faults with
  | pure a => exact ⟨rfl, rfl⟩
  | call c k ih =>
    match c, faults with
    | .store c, some e :: faults => exact ⟨_, w, .inr ⟨e, rfl, rfl⟩, ih _ w faults⟩
    | .store c, none :: faults => exact ⟨_, _, .inl ⟨rfl, rfl⟩, ih _ _ faults⟩
    | .store c, [] => exact ⟨_, _, .inl ⟨rfl, rfl⟩, ih _ _ []⟩
    | .now, faults => exact ⟨_, _, outcome_exec w .now, ih _ _ faults⟩
    | .newUuid, faults => exact ⟨_, _, outcome_exec w .newUuid, ih _ _ faults⟩

theorem run_runs (p : Prog α) (w : World) : p.Runs w (p.run w).1 (p.run w).2 :=
  runWith_runs p w []

theorem runs_of_run {p : Prog α} {w w' : World} {a : α} (h : p.run w = (w', a)) : p.Runs w w' a := by
  have := run_runs p w
  rwa [h] at this

theorem runs_bind (p : Prog α) (f : α → Prog β) (w w' : World) (b : β) :
    (p.bind f).Runs w w' b ↔ ∃ w₁ a, p.Runs w w₁ a ∧ (f a).Runs w₁ w' b := by
  induction p generalizing w with
  | pure a =>
    constructor
    · intro h; exact ⟨w, a, ⟨rfl, rfl⟩, h⟩
    · rintro ⟨_, _, ⟨rfl, rfl⟩, h⟩; exact h
  | call c k ih =>
    simp only [call_bind, runs_call, ih]
    constructor
    · rintro ⟨r, w₂, out, w₁, a, hp, hf⟩; exact ⟨w₁, a, ⟨r, w₂, out, hp⟩, hf⟩
    · rintro ⟨w₁, a, ⟨r, w₂, out, hp⟩, hf⟩; exact ⟨r, w₂, out, w₁, a, hp, hf⟩

theorem run_bind (p : Prog α) (f : α → Prog β) (w : World) :
    (p.bind f).run w = (f (p.run w).2).run (p.run w).1 := by
  induction p generalizing w with
  | pure a => rfl
  | call c k ih => simp only [call_bind, run_call, ih]

/-- A program followed only by a classification of its result changes the
stores as the program does. -/
theorem runs_of_bind_pure {p : Prog α} {f : α → Prog β} (hf : ∀ a, ∃ b, f a = .pure b) {w w' : World} {b : β}
    (h : (p.bind f).Runs w w' b) : ∃ a, p.Runs w w' a := by
  obtain ⟨w₁, a, hp, hk⟩ := (runs_bind p f w w' b).1 h
  obtain ⟨b', hb'⟩ := hf a
  rw [hb', runs_pure] at hk
  exact ⟨a, hk.1 ▸ hp⟩

/-- A property of worlds that every step keeps is kept by every run. -/
theorem runs_invariant (I : World → Prop)
    (step : ∀ w c r w', Outcome w c r w' → I w → I w') (p : Prog α) :
    ∀ {w w' : World} {b : α}, p.Runs w w' b → I w → I w' := by
  induction p with
  | pure a => rintro w w' b ⟨rfl, -⟩ h; exact h
  | call c k ih => rintro w w' b ⟨r, w₁, out, rest⟩ h; exact ih r rest (step _ _ _ _ out h)

/-- Only a tick moves the clock: a program leaves it where it was. -/
theorem run_clock (p : Prog α) (w : World) : (p.run w).1.clock = w.clock :=
  (runs_invariant (fun w' => w'.clock = w.clock) (fun w₁ c r w₂ out h => by
    cases c with
    | now => obtain ⟨-, rfl⟩ := out; exact h
    | newUuid => obtain ⟨-, rfl⟩ := out; exact h
    | store c =>
      rcases out with ⟨-, rfl⟩ | ⟨-, -, rfl⟩
      · rw [StoreCmd.exec_clock]; exact h
      · exact h) p (run_runs p w) rfl)

end Prog

/-! ## The atomic steps as programs -/

/-- `time.Now()`. -/
def timeNow : Prog Nat := .call .now .pure

/-- `uuid.New().String()`. -/
def uuidNew : Prog String := .call .newUuid .pure

/-- One store command. -/
def storeCall (c : StoreCmd) : Prog (Except StoreError c.Result) := .call (.store c) .pure

section Steps

variable {β : Type} {w w' : World} {b : β}

/-! The symbolic-execution rules: a program that starts with an atomic step. -/

@[simp] theorem timeNow_bind_runs (f : Nat → Prog β) :
    (timeNow.bind f).Runs w w' b ↔ (f w.clock).Runs w w' b :=
  ⟨fun ⟨_, _, ⟨hr, hw⟩, h⟩ => hr ▸ hw ▸ h, fun h => ⟨_, _, ⟨rfl, rfl⟩, h⟩⟩

@[simp] theorem uuidNew_bind_runs (f : String → Prog β) :
    (uuidNew.bind f).Runs w w' b ↔
      (f (uuidString w.uuidSeed)).Runs { w with uuidSeed := w.uuidSeed + 1 } w' b :=
  ⟨fun ⟨_, _, ⟨hr, hw⟩, h⟩ => hr ▸ hw ▸ h, fun h => ⟨_, _, ⟨rfl, rfl⟩, h⟩⟩

@[simp] theorem storeCall_bind_runs (c : StoreCmd) (f : Except StoreError c.Result → Prog β) :
    ((storeCall c).bind f).Runs w w' b ↔
      (f (c.exec w).2).Runs (c.exec w).1 w' b ∨ ∃ e, (f (.error (.driver e))).Runs w w' b := by
  simp only [storeCall, Prog.call_bind, Prog.pure_bind, Prog.runs_call, Outcome]
  constructor
  · rintro ⟨r, w₁, ⟨rfl, rfl⟩ | ⟨e, rfl, rfl⟩, h⟩
    · exact .inl h
    · exact .inr ⟨e, h⟩
  · rintro (h | ⟨e, h⟩)
    · exact ⟨_, _, .inl ⟨rfl, rfl⟩, h⟩
    · exact ⟨_, _, .inr ⟨e, rfl, rfl⟩, h⟩

@[simp] theorem timeNow_run : timeNow.run w = (w, w.clock) := rfl

@[simp] theorem timeNow_bind_run (f : Nat → Prog β) : (timeNow.bind f).run w = (f w.clock).run w :=
  rfl

@[simp] theorem uuidNew_bind_run (f : String → Prog β) :
    (uuidNew.bind f).run w = (f (uuidString w.uuidSeed)).run { w with uuidSeed := w.uuidSeed + 1 } :=
  rfl

@[simp] theorem storeCall_bind_run (c : StoreCmd) (f : Except StoreError c.Result → Prog β) :
    ((storeCall c).bind f).run w = (f (c.exec w).2).run (c.exec w).1 := by
  simp [storeCall, Cmd.exec]

end Steps

/-! ## What a program can issue -/

/-- Every command `p` can still issue, whatever the answers, satisfies `P`. -/
def Prog.Always {α : Type} (P : Cmd → Prop) : Prog α → Prop
  | .pure _ => True
  | .call c k => P c ∧ ∀ r, (k r).Always P

theorem Prog.always_bind {α β : Type} {P : Cmd → Prop} {p : Prog α} {f : α → Prog β} (hp : p.Always P)
    (hf : ∀ a, (f a).Always P) : (p.bind f).Always P := by
  induction p with
  | pure a => exact hf a
  | call c k ih => exact ⟨hp.1, fun r => ih r (hp.2 r)⟩

/-- What every answer to every command `p` can issue keeps, every run of `p`
keeps, whatever the stores answer. -/
theorem Prog.runs_always {α : Type} {P : Cmd → Prop} {I : World → Prop}
    (step : ∀ w c r w', P c → Outcome w c r w' → I w → I w') :
    ∀ {p : Prog α}, p.Always P → ∀ {w w' : World} {a : α}, p.Runs w w' a → I w → I w'
  | .pure _, _, _, _, _, ⟨rfl, _⟩, h => h
  | .call _ _, ⟨hc, hk⟩, _, _, _, ⟨r, _, out, rest⟩, h => runs_always step (hk r) rest (step _ _ _ _ hc out h)

end AuthLifecycle.Store

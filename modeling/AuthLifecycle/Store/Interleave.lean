import AuthLifecycle.Store.Prog
/-!
# Store.Interleave — concurrent calls, one atomic command at a time

Calls in flight over one world are threads, each holding what remains of its
program (`Threads`). A turn lets one thread issue its next command, which takes
effect atomically and succeeds, or moves the clock forward (`Threads.Step`).
An interleaving is any sequence of turns (`Threads.Run`); its trace names the
thread and the command of each turn. This is the granularity at which
goroutines of the server, and several server processes, share the two stores.

* `Threads.Run.advance`: one thread can take its next `n` turns alone, leaving
  the others where they were.
* `Threads.Run.each_advance`, `Threads.Run.each_alone`: the threads take
  their turns one after another.
* `Threads.Run.always`: if every command the threads can still issue keeps a
  property of the world, and so does the clock, every interleaving keeps it.
-/

namespace AuthLifecycle.Store

open AuthLifecycle.Go

set_option autoImplicit false

/-- Calls in flight over one world: each thread holds what remains of its program. -/
structure Threads (α : Type) where
  world : World
  progs : List (Prog α)

/-- A turn of an interleaving: thread `i` issues its next command `c`, or the
clock moves to `t`. -/
inductive Turn where
  | cmd (i : Nat) (c : Cmd)
  | tick (t : Nat)
  deriving DecidableEq, Repr

namespace Threads

variable {α : Type}

/-- One turn, every store command succeeding. -/
inductive Step : Threads α → Turn → Threads α → Prop
  | cmd {w : World} {ps : List (Prog α)} {i : Nat} {c : Cmd} {k : c.Resp → Prog α}
      (hi : ps[i]? = some (.call c k)) :
      Step ⟨w, ps⟩ (.cmd i c) ⟨(c.exec w).1, ps.set i (k (c.exec w).2)⟩
  | tick {w : World} {ps : List (Prog α)} {t : Nat} (hle : w.clock ≤ t) (ht : t < 2 ^ 63) :
      Step ⟨w, ps⟩ (.tick t) ⟨w.tick t ht, ps⟩

/-- An interleaving: turns one after another. -/
inductive Run : Threads α → List Turn → Threads α → Prop
  | nil (s : Threads α) : Run s [] s
  | cons {s s₁ s₂ : Threads α} {e : Turn} {es : List Turn} : Step s e s₁ → Run s₁ es s₂ → Run s (e :: es) s₂

theorem Run.append {s s₁ s₂ : Threads α} {es₁ es₂ : List Turn} (h₁ : Run s es₁ s₁) (h₂ : Run s₁ es₂ s₂) :
    Run s (es₁ ++ es₂) s₂ := by
  induction h₁ with
  | nil => exact h₂
  | cons hs _ ih => exact .cons hs (ih h₂)

end Threads

/-- A turn renumbered for one more thread in front. -/
def Turn.shift : Turn → Turn
  | .cmd i c => .cmd (i + 1) c
  | .tick t => .tick t

namespace Threads

variable {α : Type}

/-- A thread that takes no turn does not change what the others can do. -/
theorem Step.cons_idle (p : Prog α) {s s' : Threads α} {e : Turn} (h : Step s e s') :
    Step ⟨s.world, p :: s.progs⟩ e.shift ⟨s'.world, p :: s'.progs⟩ := by
  cases h with
  | cmd hi => exact .cmd (by simpa using hi)
  | tick hle ht => exact .tick hle ht

theorem Run.cons_idle (p : Prog α) {s s' : Threads α} {es : List Turn} (h : Run s es s') :
    Run ⟨s.world, p :: s.progs⟩ (es.map Turn.shift) ⟨s'.world, p :: s'.progs⟩ := by
  induction h with
  | nil => exact .nil _
  | cons hs _ ih => exact .cons (hs.cons_idle p) ih

end Threads

/-! ## One thread alone -/

namespace Prog

variable {α : Type}

/-- The first `n` commands of `p` from `w`, every store command succeeding: the
world they leave and what remains of `p`. -/
def advance : Nat → Prog α → World → World × Prog α
  | 0, p, w => (w, p)
  | _ + 1, .pure a, w => (w, .pure a)
  | n + 1, .call c k, w => advance n (k (c.exec w).2) (c.exec w).1

@[simp] theorem advance_zero (p : Prog α) (w : World) : p.advance 0 w = (w, p) := rfl

@[simp] theorem advance_call (n : Nat) (c : Cmd) (k : c.Resp → Prog α) (w : World) :
    (Prog.call c k).advance (n + 1) w = (k (c.exec w).2).advance n (c.exec w).1 := rfl

/-- Running all of `p` alone is advancing it by its length and stopping. -/
theorem advance_run (p : Prog α) (w : World) : ∃ n, p.advance n w = ((p.run w).1, .pure (p.run w).2) := by
  induction p generalizing w with
  | pure a => exact ⟨0, rfl⟩
  | call c k ih =>
    obtain ⟨n, hn⟩ := ih (c.exec w).2 (c.exec w).1
    exact ⟨n + 1, by rw [advance_call, hn, run_call]⟩

end Prog

theorem set_self_of_getElem? {β : Type} {l : List β} {i : Nat} {x : β} (h : l[i]? = some x) :
    l.set i x = l :=
  List.ext_getElem? fun j => by
    rw [List.getElem?_set]
    split
    · rename_i hij; subst hij
      obtain ⟨hlt, rfl⟩ := List.getElem?_eq_some_iff.1 h
      simp [hlt]
    · rfl

namespace Threads

variable {α : Type}

/-- A thread can take its next `n` turns alone. -/
theorem Run.advance {w : World} {ps : List (Prog α)} {i : Nat} {p : Prog α} (hi : ps[i]? = some p) (n : Nat) :
    ∃ es, Run ⟨w, ps⟩ es ⟨(p.advance n w).1, ps.set i (p.advance n w).2⟩ := by
  induction n generalizing p w ps with
  | zero => exact ⟨[], by rw [Prog.advance_zero, set_self_of_getElem? hi]; exact .nil _⟩
  | succ n ih =>
    cases p with
    | pure a => exact ⟨[], by rw [Prog.advance, set_self_of_getElem? hi]; exact .nil _⟩
    | call c k =>
      have hlt : i < ps.length := (List.getElem?_eq_some_iff.1 hi).1
      obtain ⟨es, hes⟩ := @ih (c.exec w).1 (ps.set i (k (c.exec w).2)) (k (c.exec w).2)
        (List.getElem?_set_self hlt)
      rw [List.set_set] at hes
      exact ⟨.cmd i c :: es, .cons (.cmd hi) hes⟩

/-- A thread can run to its end alone. -/
theorem Run.alone {w : World} {ps : List (Prog α)} {i : Nat} {p : Prog α} (hi : ps[i]? = some p) :
    ∃ es, Run ⟨w, ps⟩ es ⟨(p.run w).1, ps.set i (.pure (p.run w).2)⟩ := by
  obtain ⟨n, hn⟩ := p.advance_run w
  have h := @Run.advance α w ps i p hi n
  rwa [hn] at h

/-- Threads advanced one after another, each by `n` commands: when each leaves a
world property `R` holding and what remains of it does not depend on which
world of `R` it started from. -/
theorem Run.each_advance {R : World → Prop} {f : Prog α → Prog α} (n : Nat) :
    ∀ {ps : List (Prog α)} {v : World},
      (∀ p ∈ ps, ∀ u, R u → R (p.advance n u).1 ∧ (p.advance n u).2 = f p) → R v →
      ∃ es v', R v' ∧ Run ⟨v, ps⟩ es ⟨v', ps.map f⟩
  | [], v, _, hv => ⟨[], v, hv, .nil _⟩
  | p :: ps, v, h, hv => by
    obtain ⟨hR, hf⟩ := h p (.head _) v hv
    obtain ⟨es₁, h₁⟩ := @Run.advance α v (p :: ps) 0 p (List.getElem?_cons_zero) n
    obtain ⟨es₂, v', hv', h₂⟩ := each_advance n (fun q hq => h q (.tail _ hq)) hR
    rw [hf] at h₁
    exact ⟨es₁ ++ es₂.map Turn.shift, v', hv', h₁.append (h₂.cons_idle (f p))⟩

/-- Threads run to their ends one after another: when each leaves a world
property `R` holding and its result satisfies `Q` from every world of `R`. -/
theorem Run.each_alone {R : World → Prop} {Q : α → Prop} :
    ∀ {ps : List (Prog α)} {v : World}, (∀ p ∈ ps, ∀ u, R u → R (p.run u).1 ∧ Q (p.run u).2) → R v →
      ∃ (es : List Turn) (v' : World) (rs : List α), R v' ∧ Run ⟨v, ps⟩ es ⟨v', rs.map .pure⟩ ∧ rs.length = ps.length ∧ ∀ r ∈ rs, Q r
  | [], v, _, hv => ⟨[], v, [], hv, .nil _, rfl, nofun⟩
  | p :: ps, v, h, hv => by
    obtain ⟨hR, hQ⟩ := h p (.head _) v hv
    obtain ⟨es₁, h₁⟩ := @Run.alone α v (p :: ps) 0 p (List.getElem?_cons_zero)
    obtain ⟨es₂, v', rs, hv', h₂, hlen, hrs⟩ := each_alone (fun q hq => h q (.tail _ hq)) hR
    refine ⟨es₁ ++ es₂.map Turn.shift, v', (p.run v).2 :: rs, hv', h₁.append (h₂.cons_idle _), ?_, ?_⟩
    · simp [hlen]
    · rintro r (_ | ⟨_, hr⟩)
      exacts [hQ, hrs r hr]

end Threads

namespace Threads

variable {α : Type}

/-- If every command the threads can still issue keeps `I`, and so does moving
the clock, every interleaving keeps `I`. -/
theorem Run.always {P : Cmd → Prop} {I : World → Prop} (hcmd : ∀ c w, P c → I w → I (c.exec w).1)
    (htick : ∀ w t (ht : t < 2 ^ 63), w.clock ≤ t → I w → I (w.tick t ht)) {s s' : Threads α}
    {es : List Turn} (h : Run s es s') (hall : ∀ p ∈ s.progs, p.Always P) (hI : I s.world) :
    I s'.world ∧ ∀ p ∈ s'.progs, p.Always P := by
  induction h with
  | nil => exact ⟨hI, hall⟩
  | cons hs _ ih =>
    cases hs with
    | cmd hi =>
      obtain ⟨hc, hk⟩ := hall _ (List.getElem?_mem hi)
      refine ih (fun p hp => ?_) (hcmd _ _ hc hI)
      rcases List.mem_or_eq_of_mem_set hp with hp | rfl
      · exact hall p hp
      · exact hk _
    | tick hle ht => exact ih hall (htick _ _ ht hle hI)

end Threads

end AuthLifecycle.Store

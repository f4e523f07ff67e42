import Mathlib.Logic.Basic

/-! # Transition systems given by a step function

A system has an initial state and a partial step function: `step s a = none` says that the action
`a` is not enabled in `s`. The choices of the environment (what arrives, what fails, which task runs
next) are in the action, so that the step function is executable and a run is the list of its
actions.

* `ReachableBy C` — the states reached by steps that all meet the condition `C` on the state before
  the step and the action; `Reachable` is the case without a condition.
* `ReachableBy.invariant` — the induction over a run: what holds initially and is kept by every
  step that meets `C` holds in every state reached that way.
* `ReachableBy.map` — simulation: a map of states under which every step is matched by at most one
  step of the other system takes reachable states to reachable states.
* `ReachableBy.exists_related` — simulation by a relation, in which a step may be matched by a run.
* `record` — the system with a history variable, which says what the actions were.
* `run` — the state a list of actions leads to, for runs on concrete inputs.
* `length_le_of_runBy` — the bound on the length of a run that a measure of the states gives. -/

namespace Transition

/-- A system: where it starts and what an action does, if it is enabled. -/
structure System (σ α : Type*) where
  /-- The initial state. -/
  init : σ
  /-- The state after an action, or `none` when the action is not enabled. -/
  step : σ → α → Option σ

namespace System

variable {σ α τ β : Type*} (S : System σ α)

/-- The states reached from the initial one by steps that all meet `C`. -/
inductive ReachableBy (C : σ → α → Prop) : σ → Prop where
  /-- The initial state is reached by no step. -/
  | init : ReachableBy C S.init
  /-- One more step that meets the condition. -/
  | step {s s' : σ} {a : α} (hs : ReachableBy C s) (hc : C s a) (h : S.step s a = some s') :
      ReachableBy C s'

/-- The states reached from the initial one. -/
abbrev Reachable (s : σ) : Prop := S.ReachableBy (fun _ _ => True) s

variable {S}

/-- A weaker condition reaches more states. -/
theorem ReachableBy.mono {C D : σ → α → Prop} (hCD : ∀ s a, C s a → D s a) {s : σ}
    (h : S.ReachableBy C s) : S.ReachableBy D s := by
  induction h with
  | init => exact .init
  | step _ hc hs ih => exact .step ih (hCD _ _ hc) hs

/-- **Invariant rule.** The step may use that its source state was reached under the condition, so
that invariants proved before are at hand. -/
theorem ReachableBy.invariant {C : σ → α → Prop} {I : σ → Prop} (hinit : I S.init)
    (hstep : ∀ s a s', S.ReachableBy C s → I s → C s a → S.step s a = some s' → I s') {s : σ}
    (h : S.ReachableBy C s) : I s := by
  induction h with
  | init => exact hinit
  | step hs hc h ih => exact hstep _ _ _ hs ih hc h

/-- **Simulation rule.** When every step of `S` that meets `C` either leaves the image of the state
alone or is a step of `T` that meets `D`, the images of the states reached are reached. -/
theorem ReachableBy.map {T : System τ β} {C : σ → α → Prop} {D : τ → β → Prop} (f : σ → τ)
    (hinit : f S.init = T.init)
    (hstep : ∀ s a s', S.ReachableBy C s → C s a → S.step s a = some s' →
      f s' = f s ∨ ∃ b, D (f s) b ∧ T.step (f s) b = some (f s')) {s : σ}
    (h : S.ReachableBy C s) : T.ReachableBy D (f s) := by
  induction h with
  | init => exact hinit ▸ .init
  | step hs hc h ih =>
    rcases hstep _ _ _ hs hc h with heq | ⟨b, hb, hbs⟩
    · exact heq ▸ ih
    · exact .step ih hb hbs

/-! ## History variables -/

variable (S)

/-- The system together with a record of what its actions brought. -/
def record (f : α → List β) : System (σ × List β) α where
  init := (S.init, [])
  step s a := (S.step s.1 a).map fun s' => (s', s.2 ++ f a)

variable {S} {f : α → List β}

/-- A step of the recorded system is one of the system, with what its action brought. -/
theorem record_step {s s' : σ × List β} {a : α} (h : (S.record f).step s a = some s') :
    S.step s.1 a = some s'.1 ∧ s'.2 = s.2 ++ f a := by
  obtain ⟨s₁, hs, rfl⟩ := Option.map_eq_some_iff.mp h
  exact ⟨hs, rfl⟩

/-- A record changes nothing about the states reached. -/
theorem ReachableBy.of_record {C : σ → α → Prop} {s : σ × List β}
    (h : (S.record f).ReachableBy (fun s a => C s.1 a) s) : S.ReachableBy C s.1 :=
  h.map Prod.fst rfl fun _ a _ _ hc hs => Or.inr ⟨a, hc, (record_step hs).1⟩

/-! ## Runs -/

variable (S)

/-- The state a list of actions leads to, when each is enabled in its turn. -/
def run : σ → List α → Option σ
  | s, [] => some s
  | s, a :: as => (S.step s a).bind fun s' => run s' as

/-- The state a list of actions leads to, when each is enabled and meets `C` in its turn. -/
def runBy (C : σ → α → Bool) : σ → List α → Option σ
  | s, [] => some s
  | s, a :: as => if C s a then (S.step s a).bind fun s' => runBy C s' as else none

variable {S}

/-- A run in two parts. -/
theorem run_append (s : σ) (as bs : List α) :
    S.run s (as ++ bs) = (S.run s as).bind fun s' => S.run s' bs := by
  induction as generalizing s with
  | nil => rfl
  | cons a as ih =>
    rw [List.cons_append, run, run]
    cases S.step s a with
    | none => rfl
    | some s' => exact ih s'

/-- A run of one action. -/
theorem run_singleton {s s' : σ} {a : α} (h : S.step s a = some s') : S.run s [a] = some s' := by
  rw [System.run, h]
  rfl

/-- A run from a state reached under a condition, whose steps meet it, ends in such a state. -/
theorem ReachableBy.runBy {C : σ → α → Bool} {as : List α} {s s' : σ}
    (hs : S.ReachableBy (fun s a => C s a = true) s) (h : S.runBy C s as = some s') :
    S.ReachableBy (fun s a => C s a = true) s' := by
  induction as generalizing s with
  | nil =>
    cases h
    exact hs
  | cons a as ih =>
    rw [System.runBy] at h
    split at h
    · rename_i hc
      obtain ⟨s₁, h₁, h₂⟩ := Option.bind_eq_some_iff.mp h
      exact ih (.step hs hc h₁) h₂
    · cases h

/-- **Simulation by a relation.** When every step of `S` that meets `C` is matched by a run of `T`
whose steps meet `D`, a state that is reached is related to one that `T` reaches. -/
theorem ReachableBy.exists_related {T : System τ β} {C : σ → α → Prop} {D : τ → β → Bool}
    {R : σ → τ → Prop} (hinit : R S.init T.init)
    (hstep : ∀ s a s' t, C s a → S.step s a = some s' →
      T.ReachableBy (fun t b => D t b = true) t → R s t →
      ∃ bs t', T.runBy D t bs = some t' ∧ R s' t') {s : σ} (h : S.ReachableBy C s) :
    ∃ t, T.ReachableBy (fun t b => D t b = true) t ∧ R s t := by
  induction h with
  | init => exact ⟨T.init, .init, hinit⟩
  | step _ hc h ih =>
    obtain ⟨t, ht, hR⟩ := ih
    obtain ⟨bs, t', hrun, hR'⟩ := hstep _ _ _ t hc h ht hR
    exact ⟨t', ht.runBy hrun, hR'⟩

/-- **Termination rule.** When every step that meets `C` keeps `I` and makes the measure smaller, a
run of such steps keeps `I` and is at most as long as the measure is large. -/
theorem length_le_of_runBy {C : σ → α → Bool} {I : σ → Prop} {m : σ → Nat}
    (hstep : ∀ s a s', I s → C s a = true → S.step s a = some s' → I s' ∧ m s' < m s)
    {as : List α} {s s' : σ} (hs : I s) (h : S.runBy C s as = some s') :
    I s' ∧ as.length + m s' ≤ m s := by
  induction as generalizing s with
  | nil =>
    cases h
    exact ⟨hs, Nat.le_of_eq (Nat.zero_add _)⟩
  | cons a as ih =>
    rw [System.runBy] at h
    split at h
    · rename_i hc
      obtain ⟨s₁, h₁, h₂⟩ := Option.bind_eq_some_iff.mp h
      obtain ⟨hs₁, hlt⟩ := hstep s a s₁ hs hc h₁
      obtain ⟨hs', hle⟩ := ih hs₁ h₂
      refine ⟨hs', ?_⟩
      rw [List.length_cons]
      omega
    · cases h

/-- Under the same condition, some run of such steps ends where no more is possible. -/
theorem exists_runBy_stuck {C : σ → α → Bool} {I : σ → Prop} {m : σ → Nat}
    (hstep : ∀ s a s', I s → C s a = true → S.step s a = some s' → I s' ∧ m s' < m s)
    {s : σ} (hs : I s) :
    ∃ as s', S.runBy C s as = some s' ∧ I s' ∧ ∀ a, C s' a = true → S.step s' a = none := by
  induction hm : m s using Nat.strongRecOn generalizing s with
  | _ n ih =>
    by_cases hstuck : ∀ a, C s a = true → S.step s a = none
    · exact ⟨[], s, rfl, hs, hstuck⟩
    · obtain ⟨a, hstuck⟩ := not_forall.mp hstuck
      obtain ⟨hc, hsome⟩ := Classical.not_imp.mp hstuck
      obtain ⟨s₁, h₁⟩ := Option.ne_none_iff_exists'.mp hsome
      obtain ⟨hs₁, hlt⟩ := hstep s a s₁ hs hc h₁
      obtain ⟨as, s', hrun, hend⟩ := ih (m s₁) (hm ▸ hlt) hs₁ rfl
      refine ⟨a :: as, s', ?_, hend⟩
      rw [System.runBy, if_pos hc, h₁]
      exact hrun

/-- A run from a reachable state ends in a reachable state. -/
theorem ReachableBy.run {as : List α} {s s' : σ} (hs : S.Reachable s)
    (h : S.run s as = some s') : S.Reachable s' := by
  induction as generalizing s with
  | nil =>
    cases h
    exact hs
  | cons a as ih =>
    rw [System.run] at h
    obtain ⟨s₁, h₁, h₂⟩ := Option.bind_eq_some_iff.mp h
    exact ih (.step hs trivial h₁) h₂

variable (S)

/-- A run that ends in a state with a decidable property shows that the property is reachable. -/
theorem exists_reachable_of_run (as : List α) (p : σ → Bool)
    (h : (S.run S.init as).any p = true) : ∃ s, S.Reachable s ∧ p s = true := by
  cases hs : S.run S.init as with
  | none => simp [hs] at h
  | some s => exact ⟨s, ReachableBy.init.run hs, by simpa [hs] using h⟩

/-- The same under a condition that all steps of the run meet. -/
theorem exists_reachableBy_of_runBy (C : σ → α → Bool) (as : List α) (p : σ → Bool)
    (h : (S.runBy C S.init as).any p = true) :
    ∃ s, S.ReachableBy (fun s a => C s a = true) s ∧ p s = true := by
  cases hs : S.runBy C S.init as with
  | none => simp [hs] at h
  | some s => exact ⟨s, ReachableBy.init.runBy hs, by simpa [hs] using h⟩

end System

end Transition

import Mathlib.Data.List.Basic

/-!
# Runs of a labelled transition system

A system is a partial function `step`: an action that is not possible in a state has no
result. `Lts.Run` has the runs from an initial state, with the actions taken, the last
one first. Its parameter `ok` restricts the steps, so that a property of the runs all
of whose steps meet a condition is a property of `Run` at that condition.
-/

namespace Netd.Lts

variable {α σ : Type*} {step : α → σ → Option σ} {ok ok' : σ → α → Prop} {init : σ}

/-- The runs whose steps all meet `ok`. -/
inductive Run (step : α → σ → Option σ) (ok : σ → α → Prop) (init : σ) : List α → σ → Prop where
  | start : Run step ok init [] init
  | step {h : List α} {s s' : σ} (a : α) :
      Run step ok init h s → ok s a → step a s = some s' → Run step ok init (a :: h) s'

variable {s : σ} {h : List α}

theorem of_guard {c : Prop} [Decidable c] {s' : σ} (h : (if c then some s else none) = some s') :
    c ∧ s = s' := by
  simpa using h

theorem Run.invariant {I : List α → σ → Prop} (hstart : I [] init)
    (hstep : ∀ {h s a s'}, I h s → ok s a → step a s = some s' → I (a :: h) s')
    (hrun : Run step ok init h s) : I h s := by
  induction hrun with
  | start => exact hstart
  | step a _ hok hs ih => exact hstep ih hok hs

theorem Run.mono (hok : ∀ s a, ok s a → ok' s a) (hrun : Run step ok init h s) :
    Run step ok' init h s := by
  induction hrun with
  | start => exact .start
  | step a _ h hs ih => exact .step a ih (hok _ _ h) hs

theorem Run.of_forall_mem (hrun : Run step ok init h s) (hall : ∀ a ∈ h, ∀ s, ok' s a) :
    Run step ok' init h s := by
  induction hrun with
  | start => exact .start
  | step a _ _ hs ih =>
    exact .step a (ih fun b hb => hall b (List.mem_cons_of_mem _ hb))
      (hall a List.mem_cons_self _) hs

/-- Actions that make a measure smaller lead to a state where none of them is left to do. -/
theorem Run.exists_quiet {I quiet : σ → Prop} (μ : σ → Nat)
    (hprog : ∀ s, I s → quiet s ∨ ∃ a s', ok s a ∧ step a s = some s' ∧ I s' ∧ μ s' < μ s)
    (hs : I s) (hrun : Run step ok init h s) :
    ∃ h' s', Run step ok init (h' ++ h) s' ∧ I s' ∧ quiet s' := by
  induction hμ : μ s using Nat.strongRecOn generalizing s h with
  | ind n ih =>
    rcases hprog s hs with hquiet | ⟨a, s', hok, hstep, hs', hlt⟩
    · exact ⟨[], s, hrun, hs, hquiet⟩
    · obtain ⟨h', t, hrun', ht⟩ := ih (μ s') (hμ ▸ hlt) hs' (hrun.step a hok hstep) rfl
      exact ⟨h' ++ [a], t, by simpa using hrun', ht⟩

/-- From `s`, every way of going on by steps that meet `ok` comes to a state in `goal`. -/
inductive Inevitably (step : α → σ → Option σ) (ok : σ → α → Prop) (goal : σ → Prop) :
    σ → Prop where
  | now {s : σ} : goal s → Inevitably step ok goal s
  | later {s : σ} : (∃ a s', ok s a ∧ step a s = some s') →
      (∀ a s', ok s a → step a s = some s' → Inevitably step ok goal s') →
      Inevitably step ok goal s

/-- Steps that reach the goal or decrease a measure, one of which is possible until then, reach the
goal inevitably. -/
theorem Inevitably.of_measure {I goal : σ → Prop} (μ : σ → Nat)
    (henabled : ∀ s, I s → goal s ∨ ∃ a s', ok s a ∧ step a s = some s')
    (hstep : ∀ {s a s'}, I s → ok s a → step a s = some s' → goal s' ∨ I s' ∧ μ s' < μ s)
    (hs : I s) : Inevitably step ok goal s := by
  induction hμ : μ s using Nat.strongRecOn generalizing s with
  | ind n ih =>
    rcases henabled s hs with hgoal | henabled
    · exact .now hgoal
    refine .later henabled ?_
    intro a s' hok hs'
    rcases hstep hs hok hs' with hgoal | ⟨hI, hlt⟩
    · exact .now hgoal
    · exact ih (μ s') (hμ ▸ hlt) hI rfl

/-- Take some actions, each of which has to meet `ok`. -/
def exec (step : α → σ → Option σ) (ok : σ → α → Prop) [∀ s a, Decidable (ok s a)] :
    List α → σ → Option σ
  | [], s => some s
  | a :: as, s =>
    if ok s a then
      match step a s with
      | some s' => exec step ok as s'
      | none => none
    else none

theorem Run.exec [∀ s a, Decidable (ok s a)] {s' : σ} (hrun : Run step ok init h s) (as : List α)
    (hexec : exec step ok as s = some s') : Run step ok init (as.reverse ++ h) s' := by
  induction as generalizing h s with
  | nil =>
    cases hexec
    exact hrun
  | cons a as ih =>
    simp only [Lts.exec] at hexec
    split at hexec
    · rename_i hok
      split at hexec
      · rename_i t ht
        have htail := ih (hrun.step a hok ht) hexec
        rwa [List.reverse_cons, List.append_assoc]
      · cases hexec
    · cases hexec

section

variable [∀ s a, Decidable (ok s a)] {P Q : σ → Prop} (as : List α)
  (hmem : ∃ s ∈ exec step ok as init, P s)

include hmem

theorem run_of_mem : ∃ s, Run step ok init as.reverse s ∧ P s := by
  obtain ⟨s, hs, hP⟩ := hmem
  exact ⟨s, by simpa using Run.start.exec as hs, hP⟩

/-- A run, with what is known of all runs. -/
theorem run_of_mem_and (hall : ∀ {s}, Run step ok init as.reverse s → Q s) :
    ∃ s, Run step ok init as.reverse s ∧ P s ∧ Q s := by
  obtain ⟨s, hrun, hP⟩ := run_of_mem as hmem
  exact ⟨s, hrun, hP, hall hrun⟩

end

end Netd.Lts

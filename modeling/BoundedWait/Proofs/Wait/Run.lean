import BoundedWait.Proofs.Wait.Step

namespace BoundedWait.Plan

variable {σ τ : Type} [Span τ] {p : Plan σ τ} {start : τ} {n fuel : Nat} {s s' : σ}

inductive Laps (p : Plan σ τ) (start : τ) : Nat → List (Lap τ) → σ → σ → Prop
  | nil {n : Nat} {s : σ} : Laps p start n [] s s
  | cons {n : Nat} {l : Lap τ} {laps : List (Lap τ)} {s s₁ s₂ s₃ : σ}
      (retried : p.Retried start n l s s₁) (paused : p.pause l.delay s₁ = (.ok (), s₂))
      (rest : Laps p start (n + 1) laps s₂ s₃) : Laps p start n (l :: laps) s s₃

-- How a run stops after some number of attempts, given the trials made so far.
inductive Stops (p : Plan σ τ) (start : τ) (n : Nat) (trials : List Trial) :
    Except Fault (Option (Finish τ × List Trial)) → σ → σ → Prop
  | unfinished {s : σ} : Stops p start n trials (.ok none) s s
  | finished {s s₁ : σ} {r : Round τ} {e : Ending} (finished : p.Finished start (n + 1) r e s s₁) :
      Stops p start n trials (.ok (some (⟨e, n + 1, r.elapsed⟩, r.trial :: trials))) s s₁
  | broken {s s₁ : σ} {f : Fault} (broken : p.step ⟨start, n⟩ s = (.error f, s₁)) :
      Stops p start n trials (.error f) s s₁
  | restless {s s₁ s₂ : σ} {l : Lap τ} {f : Fault} (retried : p.Retried start (n + 1) l s s₁)
      (unpaused : p.pause l.delay s₁ = (.error f, s₂)) : Stops p start n trials (.error f) s s₂

def trialsOf (laps : List (Lap τ)) : List Trial :=
  (laps.map (·.trial)).reverse

theorem run_cases {trials : List Trial} {r : Except Fault (Option (Finish τ × List Trial))}
    (h : p.run fuel ⟨start, n⟩ trials s = (r, s')) :
    ∃ laps s₁, p.Laps start (n + 1) laps s s₁ ∧ laps.length ≤ fuel ∧
      (r = .ok none → laps.length = fuel) ∧
      p.Stops start (n + laps.length) (trialsOf laps ++ trials) r s₁ s' := by
  -- On the fuel: a step either makes a lap and leaves the rest to a run with less fuel, or it is
  -- where the run stops.
  induction fuel generalizing n trials s
  case zero =>
    cases h
    exact ⟨[], _, .nil, Nat.le_refl _, fun _ => rfl, .unfinished⟩
  case succ fuel ih =>
    rw [run_succ, Act.bind_apply] at h
    rcases made : p.step ⟨start, n⟩ s with ⟨f | ⟨trial, finish | ⟨delay, next⟩⟩, s₁⟩
    all_goals simp only [made] at h
    case error =>
      cases h
      exact ⟨[], _, .nil, by simp, by simp, .broken made⟩
    case ok.done =>
      obtain ⟨r, e, finished, rfl, rfl⟩ := step_eq_done_iff.mp made
      cases h
      exact ⟨[], _, .nil, by simp, by simp, .finished finished⟩
    case ok.again =>
      obtain ⟨l, retried, rfl, rfl, rfl⟩ := step_eq_again_iff.mp made
      rw [Act.bind_apply] at h
      rcases rested : p.pause l.delay s₁ with ⟨f | ⟨⟩, s₂⟩
      all_goals simp only [rested] at h
      case error =>
        cases h
        exact ⟨[], _, .nil, by simp, by simp, .restless retried rested⟩
      case ok =>
        have ⟨laps, s₃, rest, short, used, stops⟩ := ih h
        refine ⟨l :: laps, s₃, .cons retried rested rest, by simpa, by simpa, ?_⟩
        simpa [trialsOf, Nat.add_assoc, Nat.add_comm 1] using stops

theorem run_of_laps {laps : List (Lap τ)} {trials : List Trial}
    (h : p.Laps start (n + 1) laps s s') :
    p.run (laps.length + fuel) ⟨start, n⟩ trials s =
      p.run fuel ⟨start, n + laps.length⟩ (trialsOf laps ++ trials) s' := by
  -- One unit of fuel for each lap.
  induction laps generalizing n trials s
  case nil =>
    cases h
    simp [trialsOf]
  case cons l laps ih =>
    obtain _ | ⟨retried, paused, rest⟩ := h
    have made := step_eq_again_iff.mpr ⟨l, retried, rfl, rfl, rfl⟩
    rw [List.length_cons, Nat.add_right_comm, run_succ, Act.bind_apply, made]
    simp only [Act.bind_apply, paused, ih rest]
    simp [trialsOf, Nat.add_assoc, Nat.add_comm 1]

theorem wait_of_finished {s₁ s₂ : σ} {laps : List (Lap τ)} {r : Round τ} {e : Ending}
    (read : p.clock s = (.ok start, s₁)) (made : p.Laps start 1 laps s₁ s₂)
    (finished : p.Finished start (laps.length + 1) r e s₂ s') (enough : laps.length < fuel) :
    p.wait fuel s =
      (.ok (some (⟨e, laps.length + 1, r.elapsed⟩, r.trial :: trialsOf laps)), s') := by
  -- The fuel is what the laps use up, one more for the last attempt, and a rest.
  obtain ⟨fuel, rfl⟩ : ∃ k, fuel = laps.length + (k + 1) := ⟨fuel - laps.length - 1, by omega⟩
  have stepped := step_eq_done_iff.mpr ⟨r, e, finished, rfl, rfl⟩
  have ran : p.run (laps.length + (fuel + 1)) ⟨start, 0⟩ [] s₁ = _ := run_of_laps made
  rw [Nat.zero_add, List.append_nil, run_succ, Act.bind_apply, stepped] at ran
  simp only [wait, begin, Act.bind_apply, read, ran, Act.pure_apply]

theorem wait_cases {r : Except Fault (Option (Finish τ × List Trial))}
    (h : p.wait fuel s = (r, s')) :
    (∃ f, p.clock s = (.error f, s') ∧ r = .error f) ∨
    ∃ start s₁ laps s₂, p.clock s = (.ok start, s₁) ∧ p.Laps start 1 laps s₁ s₂ ∧
      laps.length ≤ fuel ∧ (r = .ok none → laps.length = fuel) ∧
      p.Stops start laps.length (trialsOf laps) r s₂ s' := by
  simp only [wait, begin, bind_assoc, pure_bind] at h
  rw [Act.bind_apply] at h
  cases read : p.clock s
  case mk r s₁ =>
    rw [read] at h
    cases r
    case error f =>
      cases h
      exact .inl ⟨f, rfl, rfl⟩
    case ok start =>
      have ⟨laps, s₂, made, short, used, stops⟩ := run_cases h
      exact .inr ⟨start, s₁, laps, s₂, rfl, made, short, used, by simpa using stops⟩

theorem wait_eq_some {finish : Finish τ} {trials : List Trial}
    (h : p.wait fuel s = (.ok (some (finish, trials)), s')) :
    ∃ start s₁ laps s₂ last, p.clock s = (.ok start, s₁) ∧ p.Laps start 1 laps s₁ s₂ ∧
      p.Finished start (laps.length + 1) last finish.ending s₂ s' ∧
      finish = ⟨finish.ending, laps.length + 1, last.elapsed⟩ ∧
      trials = last.trial :: trialsOf laps := by
  cases wait_cases h
  case inl unread =>
    have ⟨_, _, failed⟩ := unread
    cases failed
  case inr ran =>
    have ⟨start, s₁, laps, s₂, read, made, _, _, stops⟩ := ran
    cases stops
    case finished finished => exact ⟨start, s₁, laps, s₂, _, read, made, finished, rfl, rfl⟩

theorem run_add {pending : Pending τ} {trials : List Trial}
    {r : Except Fault (Option (Finish τ × List Trial))}
    (h : p.run fuel pending trials s = (r, s')) (ended : r ≠ .ok none) (more : Nat) :
    p.run (fuel + more) pending trials s = (r, s') := by
  induction fuel generalizing pending trials s
  case zero =>
    cases h
    exact absurd rfl ended
  case succ fuel ih =>
    rw [run_succ, Act.bind_apply] at h
    rw [Nat.add_right_comm, run_succ, Act.bind_apply]
    rcases made : p.step pending s with ⟨f | ⟨trial, finish | ⟨delay, next⟩⟩, s₁⟩
    all_goals simp only [made] at h ⊢
    case error   => exact h
    case ok.done => exact h
    case ok.again =>
      rw [Act.bind_apply] at h ⊢
      rcases rested : p.pause delay s₁ with ⟨f | ⟨⟩, s₂⟩
      all_goals simp only [rested] at h ⊢
      case error => exact h
      case ok    => exact ih h

theorem wait_add {r : Except Fault (Option (Finish τ × List Trial))}
    (h : p.wait fuel s = (r, s')) (ended : r ≠ .ok none) (more : Nat) :
    p.wait (fuel + more) s = (r, s') := by
  rw [wait, Act.bind_apply] at h ⊢
  rcases begun : p.begin s with ⟨f | pending, s₁⟩
  all_goals simp only [begun] at h ⊢
  case error => exact h
  case ok    => exact run_add h ended more

end BoundedWait.Plan

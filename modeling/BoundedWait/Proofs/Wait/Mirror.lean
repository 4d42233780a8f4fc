import BoundedWait.Proofs.Journal
import BoundedWait.Proofs.Wait.Parallel
import BoundedWait.Proofs.Wait.Run

namespace BoundedWait.Plan

variable {σ ε τ : Type}

abbrev Mirrors (q : Plan (σ × List ε) τ) (p : Plan σ τ) : Prop :=
  q.Parallel (fun _ => Act.Mirrors) p

variable [Span τ] {p : Plan σ τ} {q : Plan (σ × List ε) τ} {start : τ} {n fuel : Nat}

variable {s s' : σ × List ε}

theorem Looked.forget {r : Round τ} {j : Judgement} (m : q.Mirrors p) :
    (q.Looked start n r j s s') → p.Looked start n r j s.1 s'.1
  | ⟨attempted, read, measured, observed, judged⟩ =>
    ⟨m.attempt.forget attempted, m.clock.forget read, measured, (m.observe _ _).forget observed,
      (m.judge _).forget judged⟩

theorem Closes.forget {r : Round τ} {j : Judgement} {e : Ending} (m : q.Mirrors p)
    (h : q.Closes n r j e s s') : p.Closes n r j e s.1 s'.1 := by
  cases h
  case resolved reported value =>
    exact .resolved (m.announce.forget reported) ((m.valueOf _).forget value)
  case refused final reported =>
    exact .refused (m.retries ▸ final) ((m.report _).forget reported)
  case expired retried left spent reported =>
    rw [m.maxWait] at left reported
    exact .expired (m.retries ▸ retried) left spent ((m.report _).forget reported)

theorem Renews.forget {l : Lap τ} (m : q.Mirrors p) :
    (q.Renews n l s s') → p.Renews n l s.1 s'.1
  | ⟨retried, left, unspent, paced, reported⟩ =>
    ⟨m.retries ▸ retried, m.maxWait ▸ left, unspent, (m.interval _).forget paced,
      (m.report _).forget reported⟩

theorem Retried.forget {l : Lap τ} (m : q.Mirrors p) :
    (q.Retried start n l s s') → p.Retried start n l s.1 s'.1
  | ⟨looked, renews⟩ => ⟨looked.forget m, renews.forget m⟩

theorem Finished.forget {r : Round τ} {e : Ending} (m : q.Mirrors p) :
    (q.Finished start n r e s s') → p.Finished start n r e s.1 s'.1
  | ⟨looked, closes⟩ => ⟨looked.forget m, closes.forget m⟩

theorem Laps.forget {laps : List (Lap τ)} (m : q.Mirrors p) (h : q.Laps start n laps s s') :
    p.Laps start n laps s.1 s'.1 := by
  induction h
  case nil => exact .nil
  case cons retried paused _ ih =>
    exact .cons (retried.forget m) ((m.pause _).forget paused) ih

theorem Stops.grows {trials : List Trial} {r : Except Fault (Option (Finish τ × List Trial))}
    (m : q.Mirrors p) (h : q.Stops start n trials r s s') : ∃ new, s'.2 = s.2 ++ new := by
  cases h
  case unfinished => exact ⟨[], by simp⟩
  case finished finished =>
    exact m.step.grows (step_eq_done_iff.mpr ⟨_, _, finished, rfl, rfl⟩)
  case broken broken => exact m.step.grows broken
  case restless retried unpaused =>
    have ⟨asked, grown⟩ := m.step.grows (step_eq_again_iff.mpr ⟨_, retried, rfl, rfl, rfl⟩)
    have ⟨rested, grown'⟩ := (m.pause _).grows unpaused
    exact ⟨asked ++ rested, by rw [grown', grown, List.append_assoc]⟩

-- A plan of which nothing but the attempts and the pauses changes what can be seen of the state.
structure Keeps {γ : Type} (view : σ → γ) (p : Plan σ τ) : Prop where
  interval : ∀ n, (p.interval n).Keeps view
  clock    : p.clock.Keeps view
  judge    : ∀ v, (p.judge v).Keeps view
  valueOf  : ∀ v, (p.valueOf v).Keeps view
  observe  : ∀ n v, (p.observe n v).Keeps view
  report   : ∀ m, (p.report m).Keeps view

namespace Keeps

variable {γ : Type} {view : σ → γ}

theorem settle (k : p.Keeps view) {pending : Pending τ} {r : Round τ} (j : Judgement) :
    (p.settle pending r j).Keeps view := by
  cases j
  case resolved =>
    exact
      .bind (.ite (k.report _) (.of_pure _)) fun _ =>
      .bind (k.valueOf _) fun _ => .of_pure _
  case failed =>
    exact
      .ite (.bind (k.report _) fun _ => .of_pure _) <|
      .bind (.of_of _) fun _ =>
      .ite (.bind (k.report _) fun _ => .of_pure _) <|
      .bind (k.interval _) fun _ =>
      .bind (k.report _) fun _ => .of_pure _

theorem step (k : p.Keeps view) (pending : Pending τ) (s : σ) :
    view (p.step pending s).2 = view (p.attempt s).2 := by
  rw [Plan.step, Act.Keeps.bind_eq _ fun _ => .bind (k.settle _) fun _ => .of_pure _]
  exact Act.Keeps.bind_eq _ (fun _ =>
    .bind k.clock fun _ =>
    .bind (.of_of _) fun _ =>
    .bind (k.observe _ _) fun _ =>
    .bind (k.judge _) fun _ => .of_pure _) s

end Keeps

end BoundedWait.Plan

import Mathlib.Data.List.Forall2
import BoundedWait.Proofs.Wait.Mirror

namespace BoundedWait

inductive Instant (σ : Type) where
  | clock (s : σ)
  | attempt (s : σ)
  | pause (s : σ)

namespace Instant

variable {σ : Type}

def start? : Instant σ → Option σ
  | attempt s => some s
  | _         => none

abbrev starts (trace : List (Instant σ)) : List σ :=
  trace.filterMap start?

end Instant

namespace Plan

variable {σ τ : Type}

def traced (p : Plan σ τ) : Plan (σ × List (Instant σ)) τ where
  maxWait     := p.maxWait
  retries     := p.retries
  interval n  := (p.interval n).beside
  clock       := p.clock.notedAt .clock
  pause d     := (p.pause d).notedAt .pause
  attempt     := p.attempt.notedAt .attempt
  judge v     := (p.judge v).beside
  valueOf v   := (p.valueOf v).beside
  observe n v := (p.observe n v).beside
  report m    := (p.report m).beside

def Makes (p : Plan σ τ) (s : σ) (trial : Trial) : Prop :=
  ∃ s', p.attempt s = (.ok trial, s')

variable {p : Plan σ τ} {start : τ} {n fuel : Nat} {s s' : σ × List (Instant σ)}

theorem mirrors_traced : p.traced.Mirrors p where
  toCongruence := Act.Mirrors.congruence
  maxWait     := rfl
  retries     := rfl
  interval _  := .of_beside _
  clock       := .of_notedAt _ _
  pause _     := .of_notedAt _ _
  attempt     := .of_notedAt _ _
  judge _     := .of_beside _
  valueOf _   := .of_beside _
  observe _ _ := .of_beside _
  report _    := .of_beside _

theorem keeps_traced : p.traced.Keeps (Instant.starts ·.2) where
  interval _  := .of_beside
  clock       := .of_notedAt fun _ _ => by simp [Instant.start?]
  judge _     := .of_beside
  valueOf _   := .of_beside
  observe _ _ := .of_beside
  report _    := .of_beside

theorem starts_of_pause {x : Except Fault Unit} {delay : τ}
    (h : p.traced.pause delay s = (x, s')) : Instant.starts s'.2 = Instant.starts s.2 := by
  simp [(Act.notedAt_eq_iff.mp h).2, Instant.start?]

variable [Span τ]

theorem starts_of_step {x : Except Fault (Trial × Progress τ)}
    (h : p.traced.step ⟨start, n⟩ s = (x, s')) :
    Instant.starts s'.2 = Instant.starts s.2 ++ [s.1] := by
  have attempted : (p.traced.attempt s).2.2 = s.2 ++ [.attempt s.1] := rfl
  have made := (keeps_traced (p := p)).step ⟨start, n⟩ s
  rw [h, attempted] at made
  exact made.trans (by simp [Instant.start?])

theorem Retried.starts {l : Lap τ} (h : p.traced.Retried start (n + 1) l s s') :
    Instant.starts s'.2 = Instant.starts s.2 ++ [s.1] :=
  starts_of_step (step_eq_again_iff.mpr ⟨l, h, rfl, rfl, rfl⟩)

theorem Finished.starts {r : Round τ} {e : Ending} (h : p.traced.Finished start (n + 1) r e s s') :
    Instant.starts s'.2 = Instant.starts s.2 ++ [s.1] :=
  starts_of_step (step_eq_done_iff.mpr ⟨r, e, h, rfl, rfl⟩)

theorem Laps.starts {laps : List (Lap τ)} (h : p.traced.Laps start (n + 1) laps s s') :
    ∃ begun, Instant.starts s'.2 = Instant.starts s.2 ++ begun ∧
      List.Forall₂ p.Makes begun (laps.map (·.trial)) := by
  induction laps generalizing n s
  case nil =>
    cases h
    exact ⟨[], by simp, .nil⟩
  case cons l laps ih =>
    obtain _ | @⟨_, _, _, _, s₁, s₂, _, retried, paused, rest⟩ := h
    have ⟨begun, later, made⟩ := ih rest
    obtain ⟨⟨attempted, _, _, _, _⟩, _⟩ := retried.forget mirrors_traced
    refine ⟨s.1 :: begun, ?_, .cons ⟨_, attempted⟩ made⟩
    rw [later, starts_of_pause paused, retried.starts]
    simp

-- The trials of a wait, of which the latest comes first, are what its attempts have made.
theorem starts_of_wait {finish : Finish τ} {trials : List Trial} {t : σ}
    (h : p.traced.wait fuel (t, []) = (.ok (some (finish, trials)), s')) :
    List.Forall₂ p.Makes (Instant.starts s'.2) trials.reverse := by
  have ⟨start, s₁, laps, s₂, last, read, made, finished, _, counted⟩ := wait_eq_some h
  have ⟨begun, starts, trials⟩ := made.starts
  obtain ⟨⟨attempted, _, _, _, _⟩, _⟩ := finished.forget mirrors_traced
  rw [counted, finished.starts, starts, (Act.notedAt_eq_iff.mp read).2]
  simp only [trialsOf, List.reverse_cons, List.reverse_reverse, List.nil_append,
    List.filterMap_cons, List.filterMap_nil, Instant.start?]
  exact List.rel_append trials (.cons ⟨_, attempted⟩ .nil)

end Plan

end BoundedWait

import BoundedWait.Proofs.Wait.Pacing
import BoundedWait.Proofs.Wait.Trace

namespace BoundedWait

variable {σ : Type} {now : σ → ℚ} {lag : ℚ}

namespace Instant

-- Every pause begins at most some time after the reading of the clock before it.
def Lagging (now : σ → ℚ) (lag : ℚ) : ℚ → List (Instant σ) → Prop
  | _, []                    => True
  | _, clock s :: trace      => Lagging now lag (now s) trace
  | last, pause s :: trace   => now s ≤ last + lag ∧ Lagging now lag last trace
  | last, attempt _ :: trace => Lagging now lag last trace

instance decidableLagging (now : σ → ℚ) (lag : ℚ) :
    (last : ℚ) → (trace : List (Instant σ)) → Decidable (Lagging now lag last trace)
  | _, []                    => .isTrue trivial
  | _, clock s :: trace      => decidableLagging now lag (now s) trace
  | last, pause s :: trace   =>
    have := decidableLagging now lag last trace
    inferInstanceAs (Decidable (now s ≤ last + lag ∧ Lagging now lag last trace))
  | last, attempt _ :: trace => decidableLagging now lag last trace

end Instant

namespace Plan

structure Exact (now : σ → ℚ) (p : Plan σ ℚ) : Prop where
  clock : ∀ {s s' t}, p.clock s = (.ok t, s') → t = now s ∧ now s' = now s
  pause : ∀ {s s' d}, p.pause d s = (.ok (), s') → now s' = now s + d

variable {p : Plan σ ℚ} {start : ℚ} {n fuel : ℕ} {s s' : σ × List (Instant σ)}

theorem Retried.trace {l : Lap ℚ} :
    (p.traced.Retried start n l s s') → ∃ x y, p.clock x = (.ok l.reading, y) ∧
      s'.2 = s.2 ++ [.attempt s.1, .clock x]
  | ⟨⟨attempted, read, _, observed, judged⟩, ⟨_, _, _, paced, reported⟩⟩ => by
    have ⟨read, clocked⟩ := Act.notedAt_eq_iff.mp read
    have attempted := (Act.notedAt_eq_iff.mp attempted).2
    have observed  := (Act.beside_eq_iff.mp observed).2
    have judged    := (Act.beside_eq_iff.mp judged).2
    have paced     := (Act.beside_eq_iff.mp paced).2
    have reported  := (Act.beside_eq_iff.mp reported).2
    refine ⟨_, _, read, ?_⟩
    simp [reported, paced, judged, observed, clocked, attempted]

theorem Retried.next_le {l : Lap ℚ} {s₁ s₂ : σ × List (Instant σ)} (exact : p.Exact now)
    (retried : p.traced.Retried start n l s s₁) (paused : p.traced.pause l.delay s₁ = (.ok (), s₂))
    (prompt : now s₁.1 ≤ l.reading + lag) : now s₂.1 ≤ start + p.maxWait + lag := by
  have ⟨left, _⟩ := (retried.forget mirrors_traced).left
  have rested := exact.pause (Act.notedAt_eq_iff.mp paused).1
  have := l.delay_le_remaining
  linarith

theorem Laps.punctual {laps : List (Lap ℚ)} (exact : p.Exact now)
    (h : p.traced.Laps start (n + 1) laps s s') :
    ∃ new, s'.2 = s.2 ++ new ∧ ∀ lag last rest, Instant.Lagging now lag last (new ++ rest) →
      now s.1 ≤ start + p.maxWait + lag →
        ∀ x ∈ Instant.starts new ++ [s'.1], now x ≤ start + p.maxWait + lag := by
  -- The bound is carried from one attempt to the next one: a pause ends within the limit if it was
  -- asked for without delay after the reading that it was computed from.
  induction laps generalizing n s
  case nil =>
    cases h
    exact ⟨[], by simp, fun _ _ _ _ punctual => by simpa using punctual⟩
  case cons l laps ih =>
    obtain _ | @⟨_, _, _, _, s₁, s₂, _, retried, paused, rest⟩ := h
    have ⟨x, y, read, looked⟩ := retried.trace
    have ⟨later, grown, ih⟩ := ih rest
    have rested := (Act.notedAt_eq_iff.mp paused).2
    refine ⟨[.attempt s.1, .clock x, .pause s₁.1] ++ later, by simp [grown, rested, looked], ?_⟩
    intro lag last more ⟨prompt, lagging⟩ punctual
    rw [← (exact.clock read).1] at prompt
    exact List.forall_mem_cons.mpr
      ⟨punctual, ih lag _ more lagging (retried.next_le exact paused prompt)⟩

theorem Stops.starts {trials : List Trial} {r : Except Fault (Option (Finish ℚ × List Trial))}
    (h : p.traced.Stops start n trials r s s') :
    Instant.starts s'.2 <+: Instant.starts s.2 ++ [s.1] := by
  cases h
  case unfinished          => exact List.prefix_append _ _
  case finished finished   => rw [finished.starts]
  case broken broken       => rw [starts_of_step broken]
  case restless retried unpaused => rw [starts_of_pause unpaused, retried.starts]

-- In exact time, no attempt of a wait begins after its limit but for the lag: for the time that may
-- pass between a reading of the clock and the pause after it.
theorem attempts_begin_within {r : Except Fault (Option (Finish ℚ × List Trial))} {t t' : σ}
    {trace : List (Instant σ)} (h : p.traced.wait fuel (t, []) = (r, (t', trace)))
    (exact : p.Exact now) (limit : 0 ≤ p.maxWait) (nonneg : 0 ≤ lag)
    (lagging : Instant.Lagging now lag (now t) trace) :
    p.wait fuel t = (r, t') ∧
      ∀ x ∈ Instant.starts trace, now x ≤ now t + p.maxWait + lag := by
  refine ⟨mirrors_traced.wait.forget h, ?_⟩
  cases wait_cases h
  case inl unread =>
    obtain ⟨f, read, rfl⟩ := unread
    have written : trace = [.clock t] := (Act.notedAt_eq_iff.mp read).2
    simp [written, Instant.start?]
  case inr ran =>
    obtain ⟨start, s₁, laps, s₂, read, made, _, _, stops⟩ := ran
    obtain ⟨read, clocked⟩ := Act.notedAt_eq_iff.mp read
    obtain ⟨told, instant⟩ := exact.clock read
    obtain ⟨new, grown, punctual⟩ := made.punctual exact
    obtain ⟨rest, traced⟩ := stops.grows mirrors_traced
    rw [grown, clocked] at traced
    change trace = .clock t :: (new ++ rest) at traced
    rw [traced] at lagging
    -- The first attempt begins when the clock is first read.
    have begun := punctual lag _ rest lagging (by linarith)
    intro x started
    have mem := stops.starts.subset started
    rw [grown, clocked] at mem
    exact told ▸ begun x (by simpa [Instant.start?] using mem)

-- A plan that takes its time to say how long to pause. Its state is the time.
def ponderous : Plan ℚ ℚ :=
  { futile with
    maxWait    := 5
    interval _ := fun now => (.ok 1, now + 10) }

theorem exact_ponderous : ponderous.Exact id where
  clock := by
    rintro s s' t ⟨⟩
    exact ⟨rfl, rfl⟩
  pause := by
    rintro s s' d ⟨⟩
    rfl

theorem attempts_begin_within_ponderous : ∃ r t' trace,
    ponderous.traced.wait 2 (0, []) = (r, (t', trace)) ∧ Instant.starts trace = [0, 11] ∧
      ∀ x ∈ Instant.starts trace, x ≤ 0 + ponderous.maxWait + 10 := by
  have starts : Instant.starts (ponderous.traced.wait 2 (0, [])).2.2 = [0, 11] := by decide +kernel
  have lagging : Instant.Lagging id 10 0 (ponderous.traced.wait 2 (0, [])).2.2 := by
    decide +kernel
  cases ran : ponderous.traced.wait 2 (0, [])
  case mk r t =>
    rw [ran] at starts lagging
    have ⟨_, within⟩ := attempts_begin_within ran exact_ponderous (by decide) (by decide) lagging
    exact ⟨r, t.1, t.2, rfl, starts, within⟩

theorem attempts_begin_late : ∃ r t' trace,
    ponderous.traced.wait 2 (0, []) = (r, (t', trace)) ∧ ponderous.Exact id ∧
      ¬∀ x ∈ Instant.starts trace, x ≤ 0 + ponderous.maxWait := by
  have starts : Instant.starts (ponderous.traced.wait 2 (0, [])).2.2 = [0, 11] := by decide +kernel
  cases ran : ponderous.traced.wait 2 (0, [])
  case mk r t =>
    rw [ran] at starts
    refine ⟨r, t.1, t.2, rfl, exact_ponderous, fun punctual => ?_⟩
    have := punctual 11 (by simp [starts])
    norm_num [ponderous] at this

end Plan

end BoundedWait

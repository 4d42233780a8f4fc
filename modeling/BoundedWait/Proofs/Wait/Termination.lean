import BoundedWait.Proofs.Calm
import BoundedWait.Proofs.Wait.Pacing

namespace BoundedWait

inductive Pace where
  | steady (interval : ℚ)
  | growing (b : Backoff ℚ)

namespace Pace

def first : Pace → ℚ
  | steady i  => i
  | growing b => b.initial

noncomputable def interval : Pace → ℕ → Except Fault ℚ
  | steady i, _  => .ok i
  | growing b, n => b.delay n

def Valid : Pace → Prop
  | steady i  => 0 < i
  | growing b => b.Valid

variable {pace : Pace} {n : ℕ} {i : ℚ}

theorem first_pos (h : pace.Valid) : 0 < pace.first := by
  cases pace
  case steady  => exact h
  case growing => exact h.initial

theorem first_le_interval (h : pace.Valid) (asked : pace.interval n = .ok i) : pace.first ≤ i := by
  cases pace
  case steady =>
    cases asked
    exact le_refl i
  case growing => exact Backoff.initial_le_delay h asked

theorem exists_interval (h : pace.Valid) (n : ℕ) : ∃ i, pace.interval n = .ok i := by
  cases pace
  case steady i => exact ⟨i, rfl⟩
  case growing =>
    have ⟨d, _, delays⟩ := Backoff.exists_monotone_delay h
    exact ⟨d n, delays n⟩

end Pace

namespace Paced

variable {limit start t first : ℚ} {l : Lap ℚ} {laps : List (Lap ℚ)}

theorem length_mul_lt (h : Paced limit start t (l :: laps)) (nonneg : 0 ≤ first)
    (slow : ∀ l' ∈ l :: laps, first ≤ l'.interval) :
    laps.length * first < limit - (t - start) := by
  induction laps generalizing l t
  case nil =>
    obtain _ | ⟨later, left, unspent, _⟩ := h
    simp only [List.length_nil, Nat.cast_zero, zero_mul]
    linarith
  case cons l' laps ih =>
    obtain _ | ⟨later, left, unspent, rest⟩ := h
    have room := ih rest fun l' mem => slow l' (List.mem_cons_of_mem l mem)
    have whole : first ≤ l.interval := slow l List.mem_cons_self
    rw [List.length_cons, Nat.cast_add_one, add_one_mul]
    rw [l.delay_eq_min] at room
    cases min_choice l.interval l.remaining
    case inl uncut =>
      rw [uncut] at room
      linarith
    case inr cut =>
      -- After a pause that is cut short there is no room for another lap.
      have : 0 ≤ laps.length * first := mul_nonneg laps.length.cast_nonneg nonneg
      rw [cut] at room
      linarith

theorem length_le (h : Paced limit start start laps) (positive : 0 < first)
    (slow : ∀ l ∈ laps, first ≤ l.interval) : laps.length ≤ ⌈limit / first⌉₊ := by
  cases laps
  case nil => exact Nat.zero_le _
  case cons l laps =>
    have room := h.length_mul_lt positive.le slow
    rw [sub_self, sub_zero] at room
    exact Nat.lt_ceil.mpr ((lt_div_iff₀ positive).mpr room)

end Paced

theorem Host.judge_returns {σ : Type} (host : Host σ) (o : Outcome) :
    (host.judge (.outcome o)).Returns :=
  fun s => ⟨_, s, judge_outcome o, trivial⟩

namespace Plan

variable {σ : Type} {p : Plan σ ℚ} {pace : Pace} {start t : ℚ} {n fuel : ℕ} {s s₁ s' : σ}
         {r : Except Fault (Option (Finish ℚ × List Trial))} {journal : List (Event ℚ)}

def Follows (p : Plan σ ℚ) (pace : Pace) : Prop :=
  ∀ n, p.interval n = .of (pace.interval n)

structure Reliable (host : Host σ) (p : Plan σ ℚ) : Prop where
  judge   : p.judge = host.judge
  valueOf : p.valueOf = host.valueOf
  clock   : p.clock.Returns
  pause   : ∀ d, (p.pause d).Returns
  attempt : p.attempt.Yields fun trial => ∃ o, trial.reply = .outcome o
  observe : ∀ n reply, (p.observe n reply).Returns
  report  : ∀ note, (p.report note).Returns

namespace Reliable

variable {host : Host σ}

theorem begin_returns (h : p.Reliable host) : p.begin.Returns :=
  h.clock.bind fun _ _ => .pure trivial

theorem look_yields (h : p.Reliable host) :
    (p.look start n).Yields fun (r, _) => ∃ o, r.trial.reply = .outcome o := by
  refine h.attempt.bind fun trial ⟨o, answered⟩ => h.clock.bind fun reading _ =>
    .bind (.of rfl) fun elapsed _ => (h.observe n trial.reply).bind fun _ _ => ?_
  rw [h.judge, answered]
  exact (host.judge_returns o).bind fun _ _ => .pure ⟨o, answered⟩

theorem settle_returns (h : p.Reliable host) (follows : p.Follows pace) (valid : pace.Valid)
    {r : Round ℚ} {o : Outcome} (answered : r.trial.reply = .outcome o) (j : Judgement) :
    (p.settle ⟨start, n⟩ r j).Returns := by
  cases j
  case resolved =>
    have announced : (p.announce n r.elapsed).Returns := .ite (h.report _) (.pure trivial)
    have valued : (p.valueOf r.trial.reply).Returns := by
      rw [h.valueOf, answered]
      exact .pure trivial
    exact announced.bind fun _ _ => valued.bind fun _ _ => .pure trivial
  case failed =>
    have ⟨interval, known⟩ := Pace.exists_interval valid n
    have asked : (p.interval n).Yields (· = interval) := follows n ▸ .of known
    exact .ite ((h.report _).bind fun _ _ => .pure trivial) <|
      .bind (.of rfl) fun _ _ => .ite ((h.report _).bind fun _ _ => .pure trivial) <|
      asked.bind fun _ _ => (h.report _).bind fun _ _ => .pure trivial

theorem step_returns (h : p.Reliable host) (follows : p.Follows pace) (valid : pace.Valid)
    (pending : Pending ℚ) : (p.step pending).Returns :=
  h.look_yields.bind fun _ ⟨_, answered⟩ =>
    (h.settle_returns follows valid answered _).bind fun _ _ => .pure trivial

theorem wait_returns (h : p.Reliable host) (follows : p.Follows pace) (valid : pace.Valid)
    (fuel : ℕ) : (p.wait fuel).Returns := by
  have ran (pending : Pending ℚ) (trials : List Trial) : (p.run fuel pending trials).Returns := by
    induction fuel generalizing pending trials
    case zero => exact .pure trivial
    case succ ih =>
      refine (h.step_returns follows valid pending).bind fun (_, progress) _ => ?_
      cases progress
      case done          => exact .pure trivial
      case again delay _ => exact (h.pause delay).bind fun _ _ => ih _ _
  exact h.begin_returns.bind fun _ _ => ran _ _

end Reliable

theorem Laps.first_le_interval {laps : List (Lap ℚ)} (h : p.Laps start n laps s s')
    (follows : p.Follows pace) (valid : pace.Valid) : ∀ l ∈ laps, pace.first ≤ l.interval := by
  induction h
  case nil => simp
  case cons retried _ _ ih =>
    obtain ⟨_, ⟨_, _, _, asked, _⟩⟩ := retried
    rw [follows] at asked
    exact List.forall_mem_cons.mpr
      ⟨Pace.first_le_interval valid (congrArg Prod.fst asked), ih⟩

theorem keeps_recorded : p.recorded.Keeps (Event.attempts ·.2) where
  interval _  := .of_noted fun _ _ => by simp [Event.call, Call.isAttempt]
  clock       := .of_noted fun _ _ => by simp [Event.call, Call.isAttempt]
  judge _     := .of_beside
  valueOf _   := .of_beside
  observe _ _ := .of_noted fun _ _ => by simp [Event.call, Call.isAttempt]
  report _    := .of_beside

theorem attempts_of_step {s s' : σ × List (Event ℚ)} {x : Except Fault (Trial × Progress ℚ)}
    (h : p.recorded.step ⟨start, n⟩ s = (x, s')) :
    Event.attempts s'.2 = Event.attempts s.2 + 1 := by
  have attempted : (p.recorded.attempt s).2.2 = s.2 ++ [.attempt (p.attempt s.1).1] := rfl
  have made := (keeps_recorded (p := p)).step ⟨start, n⟩ s
  rw [h, attempted] at made
  exact made.trans (by simp [Event.call, Call.isAttempt])

theorem Stops.attempts_lt {s s' : σ × List (Event ℚ)} {trials : List Trial}
    (h : p.recorded.Stops start n trials r s s') (ended : r ≠ .ok none) :
    Event.attempts s.2 < Event.attempts s'.2 := by
  cases h
  case unfinished => exact absurd rfl ended
  case finished finished =>
    simp [finished.journal, Round.events, Event.call, Call.isAttempt]
  case broken broken => simp [attempts_of_step broken]
  case restless retried unpaused =>
    simp [(Act.noted_eq_iff.mp unpaused).2, retried.journal, Lap.asked, Round.events, Event.call,
      Call.isAttempt]

theorem attempts_of_wait (h : p.recorded.wait fuel (s, []) = (r, (s', journal)))
    (time : Event.Timely t journal) (follows : p.Follows pace) (valid : pace.Valid) :
    Event.attempts journal ≤ ⌈p.maxWait / pace.first⌉₊ + 1 ∧
      (r = .ok none → fuel ≤ ⌈p.maxWait / pace.first⌉₊) ∧
      ((∃ start s₁, p.clock s = (.ok start, s₁)) → r ≠ .ok none → 0 < Event.attempts journal) ∧
      ∀ finish trials, r = .ok (some (finish, trials)) →
        finish.attempts = Event.attempts journal := by
  cases wait_cases h
  case inl unread =>
    obtain ⟨f, read, rfl⟩ := unread
    have written : journal = [.clock (.error f)] := (Act.noted_eq_iff.mp read).2
    refine ⟨?few, nofun, ?one, nofun⟩
    case few => simp [written, Event.call, Call.isAttempt]
    case one =>
      rintro ⟨start, s₁, told⟩
      cases told.symm.trans (Act.noted_eq_iff.mp read).1
  case inr ran =>
    obtain ⟨start, s₁, laps, s₂, read, made, _, used, stops⟩ := ran
    obtain ⟨rest, grown, rest_stops⟩ := stops.journal
    have written : journal = .clock (.ok start) :: (Lap.journal 1 laps ++ rest) := by
      simpa [made.journal, (Act.noted_eq_iff.mp read).2] using grown
    have made' := made.forget mirrors_recorded
    -- Only the laps are counted against the limit. What comes after them is one attempt at most.
    have paced : Paced p.maxWait start start (laps ++ []) :=
      made'.paced (written ▸ time).2 fun _ => .nil
    rw [List.append_nil] at paced
    have few := paced.length_le (Pace.first_pos valid)
      (made'.first_le_interval follows valid)
    have attempts : Event.attempts journal = laps.length + Event.attempts rest := by
      simp [written, Lap.attempts_journal, Event.call, Call.isAttempt]
    have once := rest_stops.attempts_le_one
    refine ⟨by omega, fun unfinished => used unfinished ▸ few, fun _ ended => ?one, ?counted⟩
    case one => exact Nat.zero_lt_of_lt (stops.attempts_lt ended)
    case counted =>
      rintro finish trials rfl
      cases rest_stops
      rw [attempts]
      rfl

-- In exact time, with a pace that is never quicker than at first, a wait is over after so many
-- attempts as first intervals fit into its limit, and one more; with no time at all it makes one
-- attempt. If nothing is raised, it returns.
theorem wait_terminates (h : p.recorded.wait fuel (s, []) = (r, (s', journal)))
    (time : Event.Timely t journal) (follows : p.Follows pace) (valid : pace.Valid)
    (enough : ⌈p.maxWait / pace.first⌉₊ + 1 ≤ fuel) :
    r ≠ .ok none ∧
    (∀ more, p.wait (fuel + more) s = (r, s')) ∧
    Event.attempts journal ≤ ⌈p.maxWait / pace.first⌉₊ + 1 ∧
    (p.maxWait = 0 → (∃ start s₁, p.clock s = (.ok start, s₁)) → Event.attempts journal = 1) ∧
    (∀ host, p.Reliable host → ∃ finish trials, r = .ok (some (finish, trials)) ∧
      finish.attempts = Event.attempts journal) := by
  have ⟨few, used, one, counted⟩ := attempts_of_wait h time follows valid
  have waited := mirrors_wait.forget h
  have ended : r ≠ .ok none := by
    intro unfinished
    have := used unfinished
    omega
  refine ⟨ended, wait_add waited ended, few, ?once, ?returned⟩
  -- No interval fits into no time, so one attempt is all there can be.
  case once =>
    intro instant read
    have := one read ended
    rw [instant, zero_div, Nat.ceil_zero] at few
    omega
  case returned =>
    intro host reliable
    obtain ⟨x, s₁, returned, -⟩ := reliable.wait_returns follows valid fuel s
    cases waited.symm.trans returned
    cases x
    case none => exact absurd rfl ended
    case some x => exact ⟨x.1, x.2, rfl, counted _ _ rfl⟩

end Plan

def Host.idle {σ : Type} : Host σ where
  call _ _ _ := .raise Misuse.nestedTooDeep.fault
  read _ _   := .raise Misuse.nestedTooDeep.fault
  attempt _  := .raise Misuse.nestedTooDeep.fault
  log _      := pure ()
  depth      := 0

def Plan.doomed : Plan ℚ ℚ :=
  { futile with
    judge   := Host.idle.judge
    valueOf := Host.idle.valueOf
    attempt := pure ⟨.outcome (.retryable (.saying .valueError "down") .null), none⟩ }

theorem Plan.reliable_doomed : doomed.Reliable .idle where
  judge       := rfl
  valueOf     := rfl
  clock now   := ⟨now, now, rfl, trivial⟩
  pause d now := ⟨(), now + d, rfl, trivial⟩
  attempt     := .pure ⟨_, rfl⟩
  observe _ _ := .pure trivial
  report _    := .pure trivial

theorem Plan.wait_terminates_doomed : ∃ s' journal finish trials,
    doomed.recorded.wait 4 (0, []) = (.ok (some (finish, trials)), (s', journal)) ∧
      Event.Timely 0 journal ∧ Event.attempts journal = 4 ∧ finish.attempts = 4 ∧
      doomed.wait (4 + 96) 0 = (.ok (some (finish, trials)), s') := by
  have time : Event.Timely 0 (doomed.recorded.wait 4 (0, [])).2.2 := by decide +kernel
  have attempts : Event.attempts (doomed.recorded.wait 4 (0, [])).2.2 = 4 := by decide +kernel
  have enough : ⌈(1 : ℚ) / (3 / 8)⌉₊ + 1 ≤ 4 :=
    Nat.add_le_add_right (Nat.ceil_le.mpr (by norm_num)) 1
  have valid : (Pace.steady (3 / 8)).Valid := by norm_num [Pace.Valid]
  cases ran : doomed.recorded.wait 4 (0, [])
  case mk r t =>
    rw [ran] at time attempts
    have ⟨_, more, _, _, returned⟩ := wait_terminates ran time (fun _ => rfl) valid enough
    have ⟨finish, trials, ended, counted⟩ := returned .idle reliable_doomed
    subst ended
    exact ⟨t.1, t.2, finish, trials, rfl, time, attempts, counted.trans attempts, more 96⟩

end BoundedWait

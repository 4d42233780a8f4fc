import Mathlib.Tactic.Linarith
import BoundedWait.Proofs.Time.Exact
import BoundedWait.Proofs.Wait.Schedule

namespace BoundedWait

namespace Plan

def Call.pause? {τ : Type} : Call τ → Option τ
  | pause delay => some delay
  | _           => none

namespace Event

def interval? {τ : Type} : Event τ → Option (Nat × τ)
  | interval n (.ok t) => some (n, t)
  | _                  => none

abbrev pauses {τ : Type} (journal : List (Event τ)) : List τ :=
  (journal.map call).filterMap Call.pause?

abbrev intervals {τ : Type} (journal : List (Event τ)) : List (Nat × τ) :=
  journal.filterMap interval?

-- From some time on the clock never goes back, and every pause lasts at least as long as it was
-- asked to.
def Timely : ℚ → List (Event ℚ) → Prop
  | _, []                               => True
  | now, clock (.ok t) :: journal       => now ≤ t ∧ Timely t journal
  | now, pause delay (.ok _) :: journal => Timely (now + delay) journal
  | now, _ :: journal                   => Timely now journal

instance decidableTimely : (now : ℚ) → (journal : List (Event ℚ)) → Decidable (Timely now journal)
  | _, []                               => .isTrue trivial
  | now, clock (.ok t) :: journal       =>
    have := decidableTimely t journal
    inferInstanceAs (Decidable (now ≤ t ∧ Timely t journal))
  | now, pause delay (.ok _) :: journal => decidableTimely (now + delay) journal
  | now, clock (.error _) :: journal    => decidableTimely now journal
  | now, pause _ (.error _) :: journal  => decidableTimely now journal
  | now, attempt _ :: journal           => decidableTimely now journal
  | now, observe _ _ _ :: journal       => decidableTimely now journal
  | now, interval _ _ :: journal        => decidableTimely now journal

end Event

end Plan

theorem Lap.delay_eq_min (l : Lap ℚ) : l.delay = min l.interval l.remaining :=
  Span.shorter_eq_min

theorem Lap.delay_le_interval (l : Lap ℚ) : l.delay ≤ l.interval :=
  min_le_left l.interval l.remaining

theorem Lap.delay_le_remaining (l : Lap ℚ) : l.delay ≤ l.remaining :=
  min_le_right l.interval l.remaining

-- Laps none of which was measured before some time or before the pause of the lap before it, and
-- after each of which some time was left.
inductive Paced (limit start : ℚ) : ℚ → List (Lap ℚ) → Prop
  | nil {t : ℚ} : Paced limit start t []
  | cons {t : ℚ} {l : Lap ℚ} {laps : List (Lap ℚ)} (later : t ≤ l.reading)
      (left : l.remaining = limit - (l.reading - start)) (unspent : 0 < l.remaining)
      (rest : Paced limit start (l.reading + l.delay) laps) : Paced limit start t (l :: laps)

namespace Paced

variable {limit start t : ℚ} {l : Lap ℚ} {laps : List (Lap ℚ)} {n : ℕ}

theorem delay_pos (h : Paced limit start t laps) (mem : l ∈ laps) (positive : 0 < l.interval) :
    0 < l.delay := by
  induction h
  case nil => cases mem
  case cons unspent _ ih =>
    cases mem
    case head     => exact lt_min positive unspent
    case tail mem => exact ih mem

theorem length_of_cut (h : Paced limit start t laps) (made : laps[n]? = some l)
    (cut : l.delay < l.interval) : laps.length = n + 1 := by
  induction h generalizing n
  case nil => cases made
  case cons left _ rest ih =>
    cases n
    case succ => rw [List.length_cons, ih made]
    case zero =>
      cases made
      cases rest
      case nil => rfl
      case cons later' left' unspent' _ =>
        -- A pause that is cut takes all the time that remained, so that a lap after it would have
        -- none.
        have := l.delay_eq_min
        grind

theorem sum_delays_le (h : Paced limit start t laps) (within : t - start ≤ limit) :
    t - start + (laps.map Lap.delay).sum ≤ limit := by
  induction h
  case nil => simpa using within
  case cons l _ later left unspent _ ih =>
    have := l.delay_le_remaining
    have := ih (by linarith)
    rw [List.map_cons, List.sum_cons]
    linarith

theorem dropLast_delays (h : Paced limit start t laps) :
    (laps.map Lap.delay).dropLast = (laps.map Lap.interval).dropLast := by
  induction h
  case nil => rfl
  case cons l laps later left unspent rest ih =>
    cases laps
    case nil => rfl
    case cons l' laps =>
      -- A pause with another one after it was not cut.
      have uncut : ¬l.delay < l.interval := fun cut => by
        cases (Paced.cons later left unspent rest).length_of_cut (n := 0) rfl cut
      have : l.delay = l.interval := le_antisymm l.delay_le_interval (not_lt.mp uncut)
      simpa [this] using ih

end Paced

namespace Lap

def numbered {τ : Type} : ℕ → List (Lap τ) → List (ℕ × τ)
  | _, []        => []
  | n, l :: laps => (n, l.interval) :: numbered (n + 1) laps

section

variable {τ : Type} {n k : ℕ} {l : Lap τ} {laps more : List (Lap τ)}

theorem numbered_append :
    numbered n (laps ++ more) = numbered n laps ++ numbered (n + laps.length) more := by
  induction laps generalizing n
  case nil => rfl
  case cons _ _ ih => simp [numbered, ih, Nat.add_assoc, Nat.add_comm 1]

theorem getElem?_numbered (made : laps[k]? = some l) :
    (numbered n laps)[k]? = some (n + k, l.interval) := by
  induction laps generalizing n k
  case nil => cases made
  case cons l' laps ih =>
    cases k
    case zero => cases made; rfl
    case succ k =>
      have := ih (n := n + 1) made
      rwa [Nat.add_right_comm] at this

variable [Span τ]

theorem pauses_journal : Plan.Event.pauses (journal n laps) = laps.map delay := by
  induction laps generalizing n
  case nil => rfl
  case cons l laps ih =>
    simp_all [journal, asked, Round.events, List.filterMap_cons, Plan.Event.call, Plan.Call.pause?]

theorem intervals_journal : Plan.Event.intervals (journal n laps) = numbered n laps := by
  induction laps generalizing n
  case nil => rfl
  case cons l laps ih =>
    simp [journal, asked, Round.events, List.filterMap_cons, Plan.Event.interval?, ih, numbered]

end

-- Intervals that are known and do not decrease with the number of the attempt make pauses that do
-- not decrease, up to the last one.
theorem pairwise_intervals {n : ℕ} {laps : List (Lap ℚ)} {f : ℕ → ℚ} (mono : Monotone f)
    (known : ∀ k i, (k, i) ∈ numbered n laps → i = f k) :
    (laps.map Lap.interval).Pairwise (· ≤ ·) := by
  have intervals : laps.map Lap.interval = (List.range' n laps.length).map f := by
    induction laps generalizing n
    case nil => rfl
    case cons l laps ih =>
      have first := known n l.interval List.mem_cons_self
      have rest  := ih fun k i mem => known k i (List.mem_cons_of_mem _ mem)
      rw [List.map_cons, first, rest]
      rfl
  rw [intervals]
  exact List.Pairwise.map f (fun _ _ le => mono le) List.pairwise_le_range'

end Lap

namespace Plan

variable {σ : Type} {p : Plan σ ℚ} {start t : ℚ} {n : ℕ} {s s' : σ}

theorem Retried.left {l : Lap ℚ} :
    (p.Retried start n l s s') →
      l.remaining = p.maxWait - (l.reading - start) ∧ 0 < l.remaining
  | ⟨⟨_, _, measured, _, _⟩, ⟨_, left, unspent, _, _⟩⟩ => by
    rw [Span.sub_eq_ok_iff] at left measured
    exact ⟨measured ▸ left, Span.unspent_iff.mp unspent⟩

theorem Finished.elapsed_ge {r : Round ℚ} {cause : Fault} :
    (p.Finished start n r (.expired cause) s s') → p.maxWait ≤ r.elapsed
  | ⟨_, .expired _ left spent _⟩ => by
    rw [Span.sub_eq_ok_iff] at left
    rw [Span.spent_iff] at spent
    linarith

theorem Laps.paced {laps more : List (Lap ℚ)} {rest : List (Event ℚ)}
    (h : p.Laps start n laps s s') (time : Event.Timely t (Lap.journal n laps ++ rest))
    (later : ∀ {t}, Event.Timely t rest → Paced p.maxWait start t more) :
    Paced p.maxWait start t (laps ++ more) := by
  induction h generalizing t
  case nil => exact later time
  case cons retried _ _ ih =>
    have ⟨read, time⟩ := time
    have ⟨left, unspent⟩ := retried.left
    exact .cons read left unspent (ih time)

-- What a journal tells of the laps of a wait. The last pause of them may have failed, and there may
-- be another attempt.
structure Event.Tells (journal : List (Event ℚ)) (n : ℕ) (made : List (Lap ℚ)) : Prop where
  pauses    : pauses journal = made.map Lap.delay
  intervals : Lap.numbered n made <+: intervals journal
  attempts  : attempts journal ≤ made.length + 1

theorem Cut.pauses {events : List (Event ℚ)} {reply : Value} {m n : ℕ}
    (cut : Cut events reply [.attempt, .clock, .observe m reply, .interval n]) :
    Event.pauses events = [] := by
  have := cut.calls.filterMap Call.pause?
  simpa only [Call.pause?, List.filterMap_cons, List.filterMap_nil, List.prefix_nil] using this

theorem Rest.paced {trials : List Trial} {r : Except Fault (Option (Finish ℚ × List Trial))}
    {rest : List (Event ℚ)} (h : p.Rest start n trials r rest) :
    ∃ more, (∀ {t}, Event.Timely t rest → Paced p.maxWait start t more) ∧
      Event.Tells rest (n + 1) more := by
  have once := h.attempts_le_one
  cases h
  case unfinished => exact ⟨[], fun _ => .nil, rfl, ⟨_, rfl⟩, once⟩
  case finished   => exact ⟨[], fun _ => .nil, rfl, ⟨_, rfl⟩, once⟩
  case broken cut => exact ⟨[], fun _ => .nil, cut.pauses, ⟨_, rfl⟩, once⟩
  case restless l _ retried =>
    have ⟨left, unspent⟩ := retried.left
    refine ⟨[l], fun time => .cons time.1 left unspent .nil, rfl, ⟨[], rfl⟩, ?_⟩
    exact once.trans (Nat.le_add_left 1 1)

namespace Event.Tells

variable {journal : List (Event ℚ)} {limit : ℚ} {made : List (Lap ℚ)}

theorem pause_le (tells : Tells journal 1 made) (paced : Paced limit start t made)
    (positive : ∀ n i, (n, i) ∈ Event.intervals journal → 0 < i) {k : ℕ} {d : ℚ}
    (paused : (Event.pauses journal)[k]? = some d) :
    ∃ i, (Event.intervals journal)[k]? = some (k + 1, i) ∧ 0 < d ∧ d ≤ i ∧
      (d < i → (Event.pauses journal).length = k + 1 ∧ Event.attempts journal ≤ k + 2) := by
  rw [tells.pauses, List.getElem?_map] at paused
  have ⟨l, mem, delay⟩ := Option.map_eq_some_iff.mp paused
  have asked : (Event.intervals journal)[k]? = some (k + 1, l.interval) := by
    have numbered := Lap.getElem?_numbered (n := 1) mem
    have ⟨short, _⟩ := List.getElem?_eq_some_iff.mp numbered
    have ⟨_, grown⟩ := tells.intervals
    rw [← grown, List.getElem?_append_left short, Nat.add_comm]
    exact numbered
  have interval := positive _ _ (List.mem_of_getElem? asked)
  subst delay
  refine ⟨l.interval, asked, paced.delay_pos (List.mem_of_getElem? mem) interval,
    l.delay_le_interval, fun cut => ?_⟩
  have length := paced.length_of_cut mem cut
  have := tells.attempts
  rw [tells.pauses, List.length_map]
  omega

theorem pairwise_pauses (tells : Tells journal n made) (paced : Paced limit start t made)
    {f : ℕ → ℚ} (mono : Monotone f)
    (known : ∀ k i, (k, i) ∈ Event.intervals journal → i = f k) :
    (Event.pauses journal).dropLast.Pairwise (· ≤ ·) := by
  have := Lap.pairwise_intervals mono fun k i mem => known k i (tells.intervals.subset mem)
  rw [tells.pauses, paced.dropLast_delays]
  exact this.sublist (List.dropLast_sublist _)

end Event.Tells

variable {fuel : ℕ} {r : Except Fault (Option (Finish ℚ × List Trial))} {journal : List (Event ℚ)}

theorem tells_of_wait (h : p.recorded.wait fuel (s, []) = (r, (s', journal)))
    (time : Event.Timely t journal) :
    ∃ start made, Paced p.maxWait start start made ∧ Event.Tells journal 1 made := by
  cases journal_of_wait h
  case inl unread =>
    obtain ⟨_, _, written⟩ := unread
    cases written
    exact ⟨0, [], .nil, rfl, ⟨[], rfl⟩, by simp [Event.call, Call.isAttempt]⟩
  case inr told =>
    obtain ⟨start, laps, _, _, rest, made, _, stops, written⟩ := told
    cases written
    -- A pause that failed is not part of a lap, but it was asked for like those that are.
    obtain ⟨more, paced, tells⟩ := stops.paced
    refine ⟨start, laps ++ more, made.paced time.2 paced, ?pauses, ?intervals, ?attempts⟩
    case pauses =>
      rw [List.map_append, ← tells.pauses, ← Lap.pauses_journal (n := 1)]
      simp [Event.call, List.filterMap_cons, Call.pause?]
    case intervals =>
      have : Event.intervals (.clock (.ok start) :: (Lap.journal 1 laps ++ rest)) =
          Lap.numbered 1 laps ++ Event.intervals rest := by
        simp [List.filterMap_cons, Event.interval?, Lap.intervals_journal]
      rw [this, Lap.numbered_append, Nat.add_comm 1]
      exact (List.prefix_append_right_inj _).mpr tells.intervals
    case attempts =>
      have := tells.attempts
      simp [Lap.attempts_journal, Event.call, Call.isAttempt]
      omega

theorem elapsed_ge_of_wait (h : p.recorded.wait fuel (s, []) = (r, (s', journal)))
    {cause : Fault} {n : ℕ} {elapsed : ℚ} {trials : List Trial}
    (expired : r = .ok (some (⟨.expired cause, n, elapsed⟩, trials))) : p.maxWait ≤ elapsed := by
  cases journal_of_wait h
  case inl unread =>
    have ⟨_, failed, _⟩ := unread
    rw [failed] at expired
    cases expired
  case inr told =>
    obtain ⟨_, _, _, _, _, _, -, stops, _⟩ := told
    cases stops <;> cases expired
    case finished finished => exact finished.elapsed_ge

-- In exact time, a pause is positive and at most as long as the interval that was asked for; only
-- the last one can be shorter, and one attempt at most follows it. Pauses add up to no more than
-- the limit, and a wait that has expired lasted at least as long as that.
theorem wait_pacing (h : p.recorded.wait fuel (s, []) = (r, (s', journal)))
    (time : Event.Timely t journal) (limit : 0 ≤ p.maxWait)
    (positive : ∀ n i, (n, i) ∈ Event.intervals journal → 0 < i) :
    p.wait fuel s = (r, s') ∧
    (∀ k d, (Event.pauses journal)[k]? = some d →
      ∃ i, (Event.intervals journal)[k]? = some (k + 1, i) ∧ 0 < d ∧ d ≤ i ∧
        (d < i → (Event.pauses journal).length = k + 1 ∧ Event.attempts journal ≤ k + 2)) ∧
    (Event.pauses journal).sum ≤ p.maxWait ∧
    (∀ f : ℕ → ℚ, Monotone f → (∀ n i, (n, i) ∈ Event.intervals journal → i = f n) →
      (Event.pauses journal).dropLast.Pairwise (· ≤ ·)) ∧
    (∀ b : Backoff ℚ, b.Valid →
      (∀ n i, (n, i) ∈ Event.intervals journal → b.delay n = .ok i) →
        (Event.pauses journal).dropLast.Pairwise (· ≤ ·)) ∧
    (∀ cause n elapsed trials, r = .ok (some (⟨.expired cause, n, elapsed⟩, trials)) →
      p.maxWait ≤ elapsed) := by
  have ⟨start, made, paced, tells⟩ := tells_of_wait h time
  refine ⟨mirrors_wait.forget h, fun _ _ => tells.pause_le paced positive, ?sum,
    fun _ => tells.pairwise_pauses paced, ?backoff, fun _ _ _ _ => elapsed_ge_of_wait h⟩
  case sum =>
    have := paced.sum_delays_le (by linarith)
    rw [tells.pauses]
    linarith
  case backoff =>
    intro b valid known
    have ⟨d, mono, delays⟩ := Backoff.exists_monotone_delay valid
    refine tells.pairwise_pauses paced (mono.comp Nat.mono_cast) fun n i mem => ?_
    have := (known n i mem).symm.trans (delays n)
    cases this
    rfl

-- A plan in which nothing ever happens but that time passes. Its state is the time.
def futile : Plan ℚ ℚ where
  maxWait      := 1
  retries _    := true
  interval _   := pure (3 / 8)
  clock        := fun now => (.ok now, now)
  pause delay  := fun now => (.ok (), now + delay)
  attempt      := pure ⟨.null, none⟩
  judge _      := pure (.failed .retryable (.saying .valueError "down"))
  valueOf      := pure
  observe _ _  := pure ()
  report _     := pure ()

theorem wait_pacing_futile : ∃ r s' journal,
    futile.recorded.wait 4 (0, []) = (r, (s', journal)) ∧ Event.Timely 0 journal ∧
      Event.intervals journal = [(1, 3 / 8), (2, 3 / 8), (3, 3 / 8)] ∧
      Event.pauses journal = [3 / 8, 3 / 8, 1 / 4] ∧ Event.attempts journal ≤ 4 ∧
      (Event.pauses journal).sum ≤ futile.maxWait := by
  have time : Event.Timely 0 (futile.recorded.wait 4 (0, [])).2.2 := by decide +kernel
  have intervals : Event.intervals (futile.recorded.wait 4 (0, [])).2.2 =
    [(1, 3 / 8), (2, 3 / 8), (3, 3 / 8)] := by decide +kernel
  have pauses : Event.pauses (futile.recorded.wait 4 (0, [])).2.2 = [3 / 8, 3 / 8, 1 / 4] := by
    decide +kernel
  cases ran : futile.recorded.wait 4 (0, [])
  case mk r t =>
    rw [ran] at time intervals pauses
    have positive (n : ℕ) (i : ℚ) (mem : (n, i) ∈ Event.intervals t.2) : 0 < i := by
      have : ∀ x ∈ Event.intervals t.2, 0 < x.2 := by norm_num [intervals]
      exact this (n, i) mem
    have ⟨_, spaced, total, _⟩ := wait_pacing ran time (by decide) positive
    have ⟨i, asked, _, _, cut⟩ := spaced 2 (1 / 4) (by rw [pauses]; rfl)
    rw [intervals] at asked
    cases asked
    exact ⟨r, t.1, t.2, rfl, time, intervals, pauses, (cut (by norm_num)).2, total⟩

end Plan

end BoundedWait

import BoundedWait.Proofs.Predicate.Conjunction
import BoundedWait.Proofs.Wait.Alignment
import BoundedWait.Proofs.Wait.Resilience

namespace BoundedWait

open Act (Aligned Alike)

-- Texts of which nothing is asked but that both can be made, or else fail for the same reason.
abbrev Shown : Except Fault String → Except Fault String → Prop :=
  Alike fun _ _ => True

theorem Fault.Rejects.message {value : Value} {f : Fault} (h : f.Rejects value) :
    ∃ text, f.message = .ok text := by
  obtain ⟨expected, source, made⟩ := h
  simp only [ofMismatch, Detail.ofMismatch, Except.bind_eq_ok_iff] at made
  obtain ⟨_, ⟨_, _, _, _, detail⟩, made⟩ := made
  cases detail
  cases made
  exact ⟨_, rfl⟩

theorem Fault.Akin.message {f g : Fault} (h : f.Akin g) : Shown f.message g.message := by
  cases h
  case refl => exact (Alike.refl _).mono fun _ _ _ => trivial
  case rejections hf hg =>
    have ⟨_, told⟩  := hf.message
    have ⟨_, told'⟩ := hg.message
    rw [told, told']
    exact .ok trivial

theorem Note.Alike.entry {src src' : Source} {n n' : Note Number} (h : n.Alike Fault.Akin n')
    (shown : Shown src.inspect src'.inspect) :
    Act.Alike LogEntry.Alike (n.entry src) (n'.entry src') := by
  cases h
  case resolved =>
    refine shown.bind fun _ _ _ => ?_
    refine (Act.Alike.refl _).bind fun _ _ _ => ?_
    refine (Act.Alike.refl _).bind fun _ _ _ => ?_
    exact .ok ⟨rfl, rfl, rfl⟩
  case givingUp h =>
    refine shown.bind fun _ _ _ => ?_
    refine (Act.Alike.refl _).bind fun _ _ _ => ?_
    refine h.message.bind fun _ _ _ => ?_
    exact .ok ⟨rfl, rfl, rfl⟩
  case expired h =>
    refine (Act.Alike.refl _).bind fun _ _ _ => ?_
    refine shown.bind fun _ _ _ => ?_
    refine (Act.Alike.refl _).bind fun _ _ _ => ?_
    refine h.message.bind fun _ _ _ => ?_
    exact .ok ⟨rfl, rfl, rfl⟩
  case retrying h =>
    refine shown.bind fun _ _ _ => ?_
    refine (Act.Alike.refl _).bind fun _ _ _ => ?_
    refine (Act.Alike.refl _).bind fun _ _ _ => ?_
    refine h.message.bind fun _ _ _ => ?_
    exact .ok ⟨rfl, rfl, rfl⟩

structure Report.Alike (r q : Report) : Prop where
  ending   : r.ending.Alike Fault.Akin q.ending
  attempts : r.attempts = q.attempts
  elapsed  : r.elapsed = q.elapsed
  maxWait  : r.maxWait = q.maxWait

theorem Report.unwrap_eq_ok_iff {r : Report} {v : Value} :
    r.unwrap = .ok v ↔ r.ending = .resolved v := by
  rw [unwrap, lastCause?, value]
  cases r.ending
  case resolved => simp
  all_goals cases r.error <;> simp [Bind.bind, Except.bind, throw, throwThe, MonadExceptOf.throw]

theorem Report.Alike.unwrap {r q : Report} (h : r.Alike q) (v : Value) :
    r.unwrap = .ok v ↔ q.unwrap = .ok v := by
  rw [unwrap_eq_ok_iff, unwrap_eq_ok_iff]
  exact h.ending.eq_resolved_iff v

variable {σ : Type} {E : σ → σ → Prop} {host : Host σ} {timing : Timing σ} {observe : Observer σ}

structure Source.Alike (E : σ → σ → Prop) (host : Host σ) (src src' : Source) : Prop where
  attempts : Aligned E Value.Akin (src.attempt host) (src'.attempt host)
  shown    : Shown src.inspect src'.inspect

def Observer.Indifferent (E : σ → σ → Prop) (observe : Observer σ) : Prop :=
  ∀ n v w, v.Akin w → Aligned E Eq (observe n v) (observe n w)

namespace Host.Indifferent

variable {src src' : Source}

theorem resolve (world : host.Indifferent E) (alike : src.Alike E host src') :
    Aligned E Value.Akin (src.resolve host) (src'.resolve host) := by
  refine .bind alike.attempts.caught fun _ _ ended => ?_
  cases ended
  case ok h => exact .pure h
  case error f =>
    refine .bind (.of alike.shown) fun _ _ _ => ?_
    refine .bind (.of (.refl f.message)) fun _ _ _ => ?_
    refine .bind (world.worded ⟨rfl, rfl, rfl⟩) fun _ _ _ => ?_
    exact .pure (.refl _)

theorem judge (world : host.Indifferent E) {v w : Value} (h : v.Akin w) :
    Aligned E (Judgement.Alike Fault.Akin) (host.judge v) (host.judge w) := by
  cases h
  case failures h => exact .pure (.failed _ h)
  case refl =>
    refine (world.toParallel.judge v).mono fun j _ same => ?_
    subst same
    cases j
    case resolved => exact .resolved
    case failed   => exact .failed _ (.refl _)

theorem valueOf (world : host.Indifferent E) {v w : Value} (h : v.Akin w) :
    Aligned E Eq (host.valueOf v) (host.valueOf w) := by
  cases h
  case refl     => exact world.toParallel.valueOf v
  case failures => exact .pure rfl

theorem planFor (world : host.Indifferent E)
    (times : timing.Parallel (fun _ => Aligned E Eq) timing) (observed : observe.Indifferent E)
    (policy : Policy) (alike : src.Alike E host src') :
    (planFor host timing observe policy src (src.trial host)).Aligned E Value.Akin Fault.Akin
      (planFor host timing observe policy src' (src'.trial host)) where
  maxWait      := rfl
  retries      := rfl
  interval n   := world.intervalFor policy n
  clock        := times.clock
  pause        := times.pause
  attempt      := (world.resolve alike).bind fun _ _ h => .pure ⟨h, rfl⟩
  judge _ _    := world.judge
  valueOf _ _  := world.valueOf
  observe      := observed
  report _ _ h := (Aligned.of (h.entry alike.shown)).bind fun _ _ => world.worded

theorem ensureResultRecorded (world : host.Indifferent E)
    (times : timing.Parallel (fun _ => Aligned E Eq) timing) (observed : observe.Indifferent E)
    (fuel : Nat) (policy : Policy) (alike : src.Alike E host src') :
    Aligned (Aligned.Journaled E (Plan.Event.Alike Value.Akin)) (Option.Rel Report.Alike)
      (ensureResultRecorded host timing observe fuel (.source src) policy)
      (ensureResultRecorded host timing observe fuel (.source src') policy) := by
  refine (world.planFor times observed policy alike).recorded.wait.bind fun _ _ ended => ?_
  cases ended
  case none => exact .pure .none
  case some finished =>
    have ⟨alike, _⟩ := finished
    exact .pure (.some ⟨alike.ending, alike.attempts, alike.elapsed, rfl⟩)

theorem ensure_eq_some_iff (world : host.Indifferent E)
    (times : timing.Parallel (fun _ => Aligned E Eq) timing) (observed : observe.Indifferent E)
    (fuel : Nat) (policy : Policy) (alike : src.Alike E host src') {s t : σ} (same : E s t)
    (v : Value) :
    (ensure host timing observe fuel (.source src) policy s).1 = .ok (some v) ↔
      (ensure host timing observe fuel (.source src') policy t).1 = .ok (some v) := by
  have ⟨_, recorded⟩  := exists_journal host timing observe fuel (.source src) policy s
  have ⟨_, recorded'⟩ := exists_journal host timing observe fuel (.source src') policy t
  have ⟨ended, _⟩ := world.ensureResultRecorded times observed fuel policy alike (s, []) (t, [])
    ⟨same, .nil⟩
  rw [recorded, recorded'] at ended
  rcases ran : ensureResult host timing observe fuel (.source src) policy s with ⟨r, s'⟩
  rcases ran' : ensureResult host timing observe fuel (.source src') policy t with ⟨q, t'⟩
  rw [ran, ran'] at ended
  cases ended
  case error => simp [ensure, ran, ran']
  case ok both =>
    cases both
    case none => simp [ensure, ran, ran']
    case some report report' alike =>
      have unwrapped (r : Report) : r.unwrap.map some = .ok (some v) ↔ r.unwrap = .ok v := by
        cases r.unwrap <;> simp [Except.map]
      rw [ensure_of_report ran, ensure_of_report ran']
      exact (unwrapped report).trans ((alike.unwrap v).trans (unwrapped report').symm)

end Host.Indifferent

namespace Source

variable {base : Source} {id : Nat} {p r : Predicate} {q : Value}

theorem shown_both_in_turn (made : p.both id q = .ok r) :
    Shown (base.matchingBoth r).inspect (base.matchingInTurn p q).inspect := by
  have ⟨_, (said : describeMatch q none = .ok _), _⟩ := Except.bind_eq_ok_iff.mp made
  rw [matchingBoth, matchingInTurn, inspect_matching, inspect_matching, inspect_matching]
  simp only [describe_predicate, said, bind_assoc]
  -- The texts differ, since one has two descriptions joined and the other one a match in a match.
  exact (Alike.refl base.inspect).bind fun _ _ _ => .ok trivial

theorem alike_both_in_turn (world : host.Indifferent E) (made : p.both id q = .ok r)
    (answered : ∀ s t, E s t → ∀ reply t', base.attempt host t = (.ok reply, t') →
      ∀ o, reply ≠ .object o) :
    (base.matchingBoth r).Alike E host (base.matchingInTurn p q) where
  attempts := world.attempt_both_in_turn made answered
  shown    := shown_both_in_turn made

end Source

-- A match of both tests and a match of the second one on a match of the first one let the same
-- values of their base through and fail for the same reasons. They do the same outside of the
-- library, in the same order, and waits for them make the same attempts and pauses and have the
-- same value. The base has to answer with an outcome, since an object that takes the place of one
-- is asked once by each match whether it is a success.
theorem matches_both_as_in_turn {base : Source} {id : Nat} {p r : Predicate} {q : Value}
    (world : host.Indifferent E) (made : p.both id q = .ok r)
    (answered : ∀ s t, E s t → ∀ reply t', base.attempt host t = (.ok reply, t') →
      ∀ o, reply ≠ .object o) :
    (base.matchingBoth r).Filters host base (Value.passesBoth host (.predicate p) q) ∧
    (base.matchingInTurn p q).Filters host base (Value.passesBoth host (.predicate p) q) ∧
    Aligned (Aligned.Journaled E Eq) Value.Akin ((base.matchingBoth r).attempt host.recorded)
      ((base.matchingInTurn p q).attempt host.recorded) ∧
    ∀ timing observe, timing.Parallel (fun _ => Aligned E Eq) timing → observe.Indifferent E →
      ∀ fuel policy,
        Aligned (Aligned.Journaled E (Plan.Event.Alike Value.Akin)) (Option.Rel Report.Alike)
          (ensureResultRecorded host timing observe fuel (.source (base.matchingBoth r)) policy)
          (ensureResultRecorded host timing observe fuel (.source (base.matchingInTurn p q))
            policy) ∧
        ∀ s t, E s t → ∀ v,
          (ensure host timing observe fuel (.source (base.matchingBoth r)) policy s).1 =
            .ok (some v) ↔
          (ensure host timing observe fuel (.source (base.matchingInTurn p q)) policy t).1 =
            .ok (some v) := by
  have recorded := world.recorded.attempt_both_in_turn made fun s t same reply t' attempted =>
    answered _ _ same.1 reply _ ((Source.mirrors_attempt host base).forget attempted)
  -- A wait asks for a source's attempts and its text only.
  have alike := Source.alike_both_in_turn world made answered
  refine ⟨Source.filters_both made host base, Source.filters_in_turn made host base, recorded, ?_⟩
  intro timing observe times observed fuel policy
  refine ⟨world.ensureResultRecorded times observed fuel policy alike, ?_⟩
  intro s t same v
  exact world.ensure_eq_some_iff times observed fuel policy alike same v

def Host.keeping (host : Host σ) : Host (σ × List LogEntry) where
  call f args keywords := (host.call f args keywords).beside
  read target name     := (host.read target name).beside
  attempt id           := (host.attempt id).beside
  log entry            := (host.log entry).noted fun _ => entry
  depth                := host.depth
  checks               := host.checks

theorem Host.Indifferent.keeping (world : host.Indifferent E) :
    host.keeping.Indifferent (Aligned.Journaled E LogEntry.Alike) where
  toCongruence          := Aligned.congruence
  calls f args keywords := (world.calls f args keywords).beside
  reads target name     := (world.reads target name).beside
  attempts id           := (world.attempts id).beside
  logs _                := (world.logs _).noted fun _ _ _ => ⟨rfl, rfl, rfl⟩
  depth                 := rfl
  types                 := rfl
  worded alike          := (world.worded alike).noted fun _ _ _ => alike

-- A world in which there is nothing at first, and then an empty text, which passes any operation.
def Host.filling : Host Nat where
  call _ _ _  := pure (.bool true)
  read _ _    := pure .null
  attempt _ n := (.ok (.outcome (.success (if n = 0 then .null else .text ""))), n + 1)
  log _       := pure ()
  depth       := 0

theorem Host.indifferent_filling : Host.filling.Indifferent Eq where
  toCongruence := Aligned.congruence
  calls _ _ _  := .refl _
  reads _ _    := .refl _
  attempts _   := .refl _
  logs _       := .refl _
  depth        := rfl
  types        := rfl
  worded _     := .refl _

theorem matches_both_as_in_turn_filling :
    Predicate.present.both 1 .probe = .ok .probed ∧
    ∃ v, (ensure Host.filling.keeping .still .silent 2
        (.source (Source.missing.matchingBoth .probed)) .brief (0, [])).1 = .ok (some v) ∧
      (ensure Host.filling.keeping .still .silent 2
        (.source (Source.missing.matchingInTurn .present .probe)) .brief (0, [])).1 =
          .ok (some v) ∧
      v.isNull = false := by
  have made : Predicate.present.both 1 .probe = .ok .probed := rfl
  have answered : ∀ s t, Aligned.Journaled Eq LogEntry.Alike s t → ∀ reply t',
      Source.missing.attempt Host.filling.keeping t = (.ok reply, t') →
        ∀ o, reply ≠ .object o := by
    rintro _ _ _ _ _ ⟨⟩
    nofun
  have ⟨_, _, _, waits⟩ := matches_both_as_in_turn Host.indifferent_filling.keeping made answered
  have times : Timing.still.Parallel
      (fun _ => Aligned (Aligned.Journaled (@Eq Nat) LogEntry.Alike) Eq) Timing.still :=
    ⟨.pure rfl, fun _ => .pure rfl⟩
  have ⟨_, same⟩ := waits .still .silent times (fun _ _ _ _ => .pure rfl) 2 .brief
  have resolved : ∃ x, (ensure Host.filling.keeping .still .silent 2
      (.source (Source.missing.matchingBoth .probed)) .brief (0, [])).1 = .ok x ∧
        ∃ v ∈ x, v.isNull = false := by
    decide +kernel
  obtain ⟨_, ended, v, rfl, there⟩ := resolved
  exact ⟨made, v, ended, (same (0, []) (0, []) ⟨rfl, .nil⟩ v).mp ended, there⟩

end BoundedWait

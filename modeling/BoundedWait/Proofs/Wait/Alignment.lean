import BoundedWait.Proofs.Alignment
import BoundedWait.Proofs.Wait.Record

namespace BoundedWait

open Act (Aligned)

variable {ρ σ τ : Type} {E : ρ → σ → Prop} {Q : Value → Value → Prop} {C : Fault → Fault → Prop}

structure Trial.Alike (Q : Value → Value → Prop) (t u : Trial) : Prop where
  reply    : Q t.reply u.reply
  rejected : t.rejected = u.rejected

structure Round.Alike (Q : Value → Value → Prop) (r q : Round τ) : Prop where
  trial   : r.trial.Alike Q q.trial
  reading : r.reading = q.reading
  elapsed : r.elapsed = q.elapsed

inductive Judgement.Alike (C : Fault → Fault → Prop) : Judgement → Judgement → Prop
  | resolved : Alike C .resolved .resolved
  | failed (kind : OutcomeKind) {f g : Fault} (h : C f g) :
      Alike C (.failed kind f) (.failed kind g)

inductive Note.Alike (C : Fault → Fault → Prop) : Note τ → Note τ → Prop
  | resolved (attempts : Nat) (elapsed : τ) :
      Alike C (.resolved attempts elapsed) (.resolved attempts elapsed)
  | givingUp (attempts : Nat) (elapsed : τ) (kind : OutcomeKind) {f g : Fault} (h : C f g) :
      Alike C (.givingUp attempts elapsed kind f) (.givingUp attempts elapsed kind g)
  | expired (attempts : Nat) (elapsed maxWait : τ) {f g : Fault} (h : C f g) :
      Alike C (.expired attempts elapsed maxWait f) (.expired attempts elapsed maxWait g)
  | retrying (attempt : Nat) (delay remaining : τ) {f g : Fault} (h : C f g) :
      Alike C (.retrying attempt delay remaining f) (.retrying attempt delay remaining g)

inductive Ending.Alike (C : Fault → Fault → Prop) : Ending → Ending → Prop
  | resolved (v : Value) : Alike C (.resolved v) (.resolved v)
  | refused {f g : Fault} (h : C f g) : Alike C (.refused f) (.refused g)
  | expired {f g : Fault} (h : C f g) : Alike C (.expired f) (.expired g)

theorem Ending.Alike.eq_resolved_iff {e d : Ending} (h : e.Alike C d) (v : Value) :
    e = .resolved v ↔ d = .resolved v := by
  cases h <;> simp

structure Finish.Alike (C : Fault → Fault → Prop) (f g : Finish τ) : Prop where
  ending   : f.ending.Alike C g.ending
  attempts : f.attempts = g.attempts
  elapsed  : f.elapsed = g.elapsed

inductive Progress.Alike (C : Fault → Fault → Prop) : Progress τ → Progress τ → Prop
  | done {f g : Finish τ} (h : f.Alike C g) : Alike C (.done f) (.done g)
  | again (delay : τ) (pending : Pending τ) : Alike C (.again delay pending) (.again delay pending)

-- Two plans that go alike. How much that says is up to what answers and what faults are alike.
structure Plan.Aligned (E : ρ → σ → Prop) (Q : Value → Value → Prop) (C : Fault → Fault → Prop)
    (q : Plan ρ τ) (p : Plan σ τ) : Prop where
  maxWait  : q.maxWait = p.maxWait
  retries  : q.retries = p.retries
  interval : ∀ n, Act.Aligned E Eq (q.interval n) (p.interval n)
  clock    : Act.Aligned E Eq q.clock p.clock
  pause    : ∀ d, Act.Aligned E Eq (q.pause d) (p.pause d)
  attempt  : Act.Aligned E (Trial.Alike Q) q.attempt p.attempt
  judge    : ∀ v w, Q v w → Act.Aligned E (Judgement.Alike C) (q.judge v) (p.judge w)
  valueOf  : ∀ v w, Q v w → Act.Aligned E Eq (q.valueOf v) (p.valueOf w)
  observe  : ∀ n v w, Q v w → Act.Aligned E Eq (q.observe n v) (p.observe n w)
  report   : ∀ m m', Note.Alike C m m' → Act.Aligned E Eq (q.report m) (p.report m')

namespace Plan.Aligned

variable {q : Plan ρ τ} {p : Plan σ τ} {start : τ} {n fuel : Nat}

theorem announce (m : q.Aligned E Q C p) (elapsed : τ) :
    Act.Aligned E Eq (q.announce n elapsed) (p.announce n elapsed) :=
  .ite (m.report _ _ (.resolved n elapsed)) (.pure rfl)

theorem afterSuccess (m : q.Aligned E Q C p) {r r' : Round τ} (alike : r.Alike Q r') :
    Act.Aligned E (Progress.Alike C) (q.afterSuccess n r) (p.afterSuccess n r') := by
  unfold Plan.afterSuccess
  rw [alike.elapsed]
  refine .bind (m.announce _) fun _ _ _ => ?_
  refine .bind (m.valueOf _ _ alike.trial.reply) fun v _ same => ?_
  subst same
  exact .pure (.done ⟨.resolved v, rfl, rfl⟩)

variable [Span τ]

theorem look (m : q.Aligned E Q C p) :
    Act.Aligned E (fun x y => x.1.Alike Q y.1 ∧ x.2.Alike C y.2) (q.look start n)
      (p.look start n) := by
  refine .bind m.attempt fun t u alike => ?_
  refine .bind m.clock fun reading _ same => ?_
  subst same
  refine .bind (.of (.refl _)) fun elapsed _ same => ?_
  subst same
  refine .bind (m.observe _ _ _ alike.reply) fun _ _ _ => ?_
  refine .bind (m.judge _ _ alike.reply) fun _ _ judged => ?_
  exact .pure ⟨⟨alike, rfl, rfl⟩, judged⟩

theorem afterFailure (m : q.Aligned E Q C p) {elapsed : τ} {kind : OutcomeKind} {f g : Fault}
    (alike : C f g) :
    Act.Aligned E (Progress.Alike C) (q.afterFailure ⟨start, n⟩ elapsed kind f)
      (p.afterFailure ⟨start, n⟩ elapsed kind g) := by
  unfold Plan.afterFailure
  rw [m.retries, m.maxWait]
  refine .ite ?refused ?retried
  case refused =>
    refine .bind (m.report _ _ (.givingUp _ _ _ alike)) fun _ _ _ => ?_
    exact .pure (.done ⟨.refused alike, rfl, rfl⟩)
  case retried =>
    refine .bind (.of (.refl _)) fun remaining _ same => ?_
    subst same
    refine .ite ?expired ?again
    case expired =>
      refine .bind (m.report _ _ (.expired _ _ _ alike)) fun _ _ _ => ?_
      exact .pure (.done ⟨.expired alike, rfl, rfl⟩)
    case again =>
      refine .bind (m.interval _) fun interval _ same => ?_
      subst same
      refine .bind (m.report _ _ (.retrying _ _ _ alike)) fun _ _ _ => ?_
      exact .pure (.again _ _)

theorem settle (m : q.Aligned E Q C p) {r r' : Round τ} (alike : r.Alike Q r') {j j' : Judgement}
    (judged : j.Alike C j') :
    Act.Aligned E (Progress.Alike C) (q.settle ⟨start, n⟩ r j) (p.settle ⟨start, n⟩ r' j') := by
  cases judged
  case resolved => exact m.afterSuccess alike
  case failed kind _ _ h =>
    rw [Plan.settle, Plan.settle, alike.elapsed]
    exact m.afterFailure h

theorem step (m : q.Aligned E Q C p) :
    Act.Aligned E (fun x y => x.1.Alike Q y.1 ∧ x.2.Alike C y.2) (q.step ⟨start, n⟩)
      (p.step ⟨start, n⟩) := by
  refine .bind m.look fun _ _ looked => ?_
  refine .bind (m.settle looked.1 looked.2) fun _ _ settled => ?_
  exact .pure ⟨looked.1.trial, settled⟩

theorem run (m : q.Aligned E Q C p) {pending : Pending τ} {trials trials' : List Trial}
    (alike : List.Forall₂ (Trial.Alike Q) trials trials') :
    Act.Aligned E (Option.Rel fun x y => x.1.Alike C y.1 ∧ List.Forall₂ (Trial.Alike Q) x.2 y.2)
      (q.run fuel pending trials) (p.run fuel pending trials') := by
  induction fuel generalizing pending trials trials'
  case zero => exact .pure .none
  case succ ih =>
    rw [run_succ, run_succ]
    refine .bind m.step fun x y both => ?_
    have ⟨tried, settled⟩ := both
    rcases x with ⟨trial, progress⟩
    rcases y with ⟨trial', progress'⟩
    dsimp only at tried settled
    cases settled
    case done finished => exact .pure (.some ⟨finished, .cons tried alike⟩)
    case again delay later => exact .bind (m.pause delay) fun _ _ _ => ih (.cons tried alike)

theorem wait (m : q.Aligned E Q C p) :
    Act.Aligned E (Option.Rel fun x y => x.1.Alike C y.1 ∧ List.Forall₂ (Trial.Alike Q) x.2 y.2)
      (q.wait fuel) (p.wait fuel) := by
  have begun : Act.Aligned E Eq q.begin p.begin :=
    .bind m.clock fun _ _ same => same ▸ .pure rfl
  refine .bind begun fun pending _ same => ?_
  subst same
  exact m.run .nil

end Plan.Aligned

inductive Plan.Event.Alike (Q : Value → Value → Prop) : Plan.Event τ → Plan.Event τ → Prop
  | clock (reading : Except Fault τ) : Alike Q (.clock reading) (.clock reading)
  | attempt {r q : Except Fault Trial} (h : Act.Alike (Trial.Alike Q) r q) :
      Alike Q (.attempt r) (.attempt q)
  | observe (count : Nat) {v w : Value} (h : Q v w) (answer : Except Fault Unit) :
      Alike Q (.observe count v answer) (.observe count w answer)
  | interval (count : Nat) (answer : Except Fault τ) :
      Alike Q (.interval count answer) (.interval count answer)
  | pause (delay : τ) (answer : Except Fault Unit) :
      Alike Q (.pause delay answer) (.pause delay answer)

theorem Plan.Aligned.recorded {q : Plan ρ τ} {p : Plan σ τ} (m : q.Aligned E Q C p) :
    q.recorded.Aligned (Act.Aligned.Journaled E (Plan.Event.Alike Q)) Q C p.recorded where
  maxWait          := m.maxWait
  retries          := m.retries
  interval n       := (m.interval n).noted fun _ _ same => same.eq ▸ .interval n _
  clock            := m.clock.noted fun _ _ same => same.eq ▸ .clock _
  pause d          := (m.pause d).noted fun _ _ same => same.eq ▸ .pause d _
  attempt          := m.attempt.noted fun _ _ alike => .attempt alike
  judge v w h      := (m.judge v w h).beside
  valueOf v w h    := (m.valueOf v w h).beside
  observe n v w h  := (m.observe n v w h).noted fun _ _ same => same.eq ▸ .observe n h _
  report note _ h  := (m.report note _ h).beside

end BoundedWait

import BoundedWait.Proofs.Source.Parallel
import BoundedWait.Wait.Eventually

namespace BoundedWait

variable {ρ σ τ : Type} {R : (α : Type) → Act ρ α → Act σ α → Prop}

structure Plan.Parallel (R : (α : Type) → Act ρ α → Act σ α → Prop) (q : Plan ρ τ) (p : Plan σ τ) :
    Prop extends Act.Congruence R where
  maxWait  : q.maxWait = p.maxWait
  retries  : q.retries = p.retries
  interval : ∀ n, R τ (q.interval n) (p.interval n)
  clock    : R τ q.clock p.clock
  pause    : ∀ d, R Unit (q.pause d) (p.pause d)
  attempt  : R Trial q.attempt p.attempt
  judge    : ∀ v, R Judgement (q.judge v) (p.judge v)
  valueOf  : ∀ v, R Value (q.valueOf v) (p.valueOf v)
  observe  : ∀ n v, R Unit (q.observe n v) (p.observe n v)
  report   : ∀ m, R Unit (q.report m) (p.report m)

namespace Plan.Parallel

variable {p : Plan σ τ} {q : Plan ρ τ} {start : τ} {n fuel : Nat}

theorem announce (m : q.Parallel R p) {elapsed : τ} :
    R Unit (q.announce n elapsed) (p.announce n elapsed) :=
  m.ite (m.report _) (m.pure _)

theorem afterSuccess (m : q.Parallel R p) {r : Round τ} :
    R (Progress τ) (q.afterSuccess n r) (p.afterSuccess n r) :=
  m.bind m.announce fun _ =>
  m.bind (m.valueOf _) fun _ => m.pure _

variable [Span τ]

theorem look (m : q.Parallel R p) :
    R (Round τ × Judgement) (q.look start n) (p.look start n) :=
  m.bind m.attempt fun _ =>
  m.bind m.clock fun _ =>
  m.bind (m.of _) fun _ =>
  m.bind (m.observe _ _) fun _ =>
  m.bind (m.judge _) fun _ => m.pure _

theorem afterFailure (m : q.Parallel R p) {elapsed : τ} {kind : OutcomeKind} {cause : Fault} :
    R (Progress τ) (q.afterFailure ⟨start, n⟩ elapsed kind cause)
      (p.afterFailure ⟨start, n⟩ elapsed kind cause) := by
  unfold Plan.afterFailure
  rw [m.retries, m.maxWait]
  exact
    m.ite (m.bind (m.report _) fun _ => m.pure _) <|
    m.bind (m.of _) fun _ =>
    m.ite (m.bind (m.report _) fun _ => m.pure _) <|
    m.bind (m.interval _) fun _ =>
    m.bind (m.report _) fun _ => m.pure _

theorem settle (m : q.Parallel R p) {r : Round τ} :
    (j : Judgement) → R (Progress τ) (q.settle ⟨start, n⟩ r j) (p.settle ⟨start, n⟩ r j)
  | .resolved   => m.afterSuccess
  | .failed _ _ => m.afterFailure

theorem step (m : q.Parallel R p) :
    R (Trial × Progress τ) (q.step ⟨start, n⟩) (p.step ⟨start, n⟩) :=
  m.bind m.look fun _ =>
  m.bind (m.settle _) fun _ => m.pure _

theorem run (m : q.Parallel R p) {pending : Pending τ} {trials : List Trial} :
    R (Option (Finish τ × List Trial)) (q.run fuel pending trials) (p.run fuel pending trials) := by
  induction fuel generalizing pending trials
  case zero => exact m.pure _
  case succ ih =>
    rw [run_succ, run_succ]
    refine m.bind m.step fun ⟨_, progress⟩ => ?_
    cases progress
    case done  => exact m.pure _
    case again => exact m.bind (m.pause _) fun _ => ih

theorem wait (m : q.Parallel R p) :
    R (Option (Finish τ × List Trial)) (q.wait fuel) (p.wait fuel) :=
  m.bind (m.bind m.clock fun _ => m.pure _) fun _ => m.run

end Plan.Parallel

structure Timing.Parallel (R : (α : Type) → Act ρ α → Act σ α → Prop) (there : Timing ρ)
    (here : Timing σ) : Prop where
  clock : R Number there.clock here.clock
  pause : ∀ d, R Unit (there.pause d) (here.pause d)

namespace Host.Parallel

variable {there : Host ρ} {here : Host σ} {timing' : Timing ρ} {timing : Timing σ}
         {observe' : Observer ρ} {observe : Observer σ}

theorem judge (p : Parallel R there here) (reply : Value) :
    R Judgement (there.judge reply) (here.judge reply) := by
  refine p.bind (p.succeeded reply) fun _ => p.ite (p.pure _) ?_
  cases reply
  case outcome o =>
    cases o
    all_goals exact p.pure _
  all_goals
    exact
      p.bind (p.member _ _) fun _ =>
      p.bind (p.of _) fun _ => p.raise _

theorem intervalFor (p : Parallel R there here) (policy : Policy) (n : Int) :
    R Number (policy.intervalFor there n) (policy.intervalFor here n) := by
  unfold Policy.intervalFor
  cases policy.poll
  case custom f => exact p.bind (p.call _ _ f) fun _ => p.of _
  all_goals exact p.of _

theorem planFor (p : Parallel R there here) (times : timing'.Parallel R timing)
    (observed : ∀ n v, R Unit (observe' n v) (observe n v)) (policy : Policy) (source : Source)
    {attempt' : Act ρ Trial} {attempt : Act σ Trial} (attempted : R Trial attempt' attempt) :
    (planFor there timing' observe' policy source attempt').Parallel R
      (planFor here timing observe policy source attempt) where
  toCongruence := p.toCongruence
  maxWait      := rfl
  retries      := rfl
  interval n   := p.intervalFor policy n
  clock        := times.clock
  pause        := times.pause
  attempt      := attempted
  judge        := p.judge
  valueOf      := p.valueOf
  observe      := observed
  report _     := p.bind (p.of _) fun _ => p.logs _

theorem ensureResult (p : Parallel R there here) (times : timing'.Parallel R timing)
    (observed : ∀ n v, R Unit (observe' n v) (observe n v)) (fuel : Nat) (source : Value)
    (policy : Policy) :
    R (Option Report) (ensureResult there timing' observe' fuel source policy)
      (ensureResult here timing observe fuel source policy) := by
  refine p.bind (p.of _) fun s => ?_
  have attempted : R Trial (s.trial there) (s.trial here) :=
    p.bind (p.resolve _) fun _ => p.pure _
  exact p.bind (p.planFor times observed policy s attempted).wait fun _ => p.pure _

theorem ensure (p : Parallel R there here) (times : timing'.Parallel R timing)
    (observed : ∀ n v, R Unit (observe' n v) (observe n v)) (fuel : Nat) (source : Value)
    (policy : Policy) :
    R (Option Value) (ensure there timing' observe' fuel source policy)
      (ensure here timing observe fuel source policy) := by
  refine p.bind (p.ensureResult times observed fuel source policy) fun report => ?_
  cases report
  case none => exact p.pure _
  case some => exact p.bind (p.of _) fun _ => p.pure _

theorem assertEventually (p : Parallel R there here) (times : timing'.Parallel R timing)
    (observed : ∀ n v, R Unit (observe' n v) (observe n v)) (fuel mark : Nat)
    (source test : Value) (description : Option String) (policy : Policy) :
    R (Option Value)
      (assertEventually there timing' observe' fuel mark source test description policy)
      (assertEventually here timing observe fuel mark source test description policy) := by
  refine p.bind (p.of _) fun base => ?_
  have attempted (s : Source) : R Trial (s.assertedTrial there mark) (s.assertedTrial here mark) :=
    p.bind (p.resolve _) fun _ => p.pure _
  have watched (n : Nat) (v : Value) :
      R Unit (observe'.watching there n v) (observe.watching here n v) :=
    p.bind (p.causeOf v) fun _ => observed n v
  refine p.bind (p.planFor times watched policy _ (attempted _)).wait fun ended => ?_
  cases ended
  case none => exact p.pure _
  case some => exact p.bind (p.of _) fun _ => p.pure _

end Host.Parallel

end BoundedWait

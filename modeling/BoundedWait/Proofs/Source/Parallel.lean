import BoundedWait.Proofs.Congruence
import BoundedWait.Source.Basic

namespace BoundedWait

variable {ρ σ : Type} {R : (α : Type) → Act ρ α → Act σ α → Prop}

structure Host.Parallel (R : (α : Type) → Act ρ α → Act σ α → Prop) (there : Host ρ)
    (here : Host σ) : Prop extends Act.Congruence R where
  calls (f : Callable) (args : List Value) (keywords : List (String × Value)) :
    R Value (there.call f args keywords) (here.call f args keywords)
  reads (target : Thing) (name : String) : R Value (there.read target name) (here.read target name)
  attempts (id : Nat) : R Value (there.attempt id) (here.attempt id)
  logs (entry : LogEntry) : R Unit (there.log entry) (here.log entry)
  depth : there.depth = here.depth
  types : there.checks = here.checks

namespace Host.Parallel

variable {there : Host ρ} {here : Host σ}

theorem member (p : Parallel R there here) (v : Value) (name : String) :
    R Value (there.member v name) (here.member v name) := by
  cases v
  case object o => exact p.reads o name
  all_goals exact p.of _

theorem isOf (p : Parallel R there here) (v : Value) (type : String) :
    there.isOf v type = here.isOf v type := by
  rw [Host.isOf, Host.isOf, p.types]

theorem mistyped (p : Parallel R there here) (type : Option String) (v : Value) :
    Source.mistyped there type v = Source.mistyped here type v := by
  cases type
  case none      => rfl
  case some type => rw [Source.mistyped, Source.mistyped, p.isOf]

theorem succeeded (p : Parallel R there here) (reply : Value) :
    R Bool (there.succeeded reply) (here.succeeded reply) := by
  cases reply
  case outcome => exact p.pure _
  all_goals exact p.bind (p.member _ _) fun _ => p.of _

theorem valueOf (p : Parallel R there here) (reply : Value) :
    R Value (there.valueOf reply) (here.valueOf reply) := by
  cases reply
  all_goals simp only [Host.valueOf]
  case outcome => exact p.pure _
  all_goals exact p.member _ _

theorem causeOf (p : Parallel R there here) (reply : Value) :
    R Value (there.causeOf reply) (here.causeOf reply) := by
  cases reply
  all_goals simp only [Host.causeOf]
  case outcome => exact p.pure _
  all_goals exact p.member _ _

mutual

theorem call (p : Parallel R there here) (args : List Value) (keywords : List (String × Value)) :
    (f : Value) → R Value (f.call there args keywords) (f.call here args keywords)
  | .callable c => by
    simp only [Value.call]
    exact p.calls c args keywords
  | .type t => by
    simp only [Value.call]
    exact p.ite (p.of _) (p.raise _)
  | .method _ r name => by
    simp only [Value.call]
    exact p.of _
  | .predicate q => by
    rcases args with _ | ⟨v, _ | _⟩
    all_goals simp only [Value.call]
    case cons.nil  => exact p.bind (p.holds v q) fun _ => p.pure _
    case nil       => exact p.raise _
    case cons.cons => exact p.raise _
  | .null | .number _ | .text _ | .bytes _ | .bytearray _ | .list _ | .tuple _ | .dict _ | .set _
  | .frozenset _ | .object _ | .source _ | .outcome _ | .fault _ => by
    simp only [Value.call]
    exact p.raise _

theorem holds (p : Parallel R there here) (v : Value) :
    (q : Predicate) → R Bool (q.holds there v) (q.holds here v)
  | .mk _ check _ => by
    simp only [Predicate.holds]
    exact p.checks v check

theorem checks (p : Parallel R there here) (v : Value) :
    (c : Check) → R Bool (c.holds there v) (c.holds here v)
  | .satisfies f => by
    simp only [Check.holds]
    exact p.bind (p.call [v] [] f) fun _ => p.of _
  | .equalTo _ | .isNotNone => by
    simp only [Check.holds]
    exact p.pure _
  | .greaterThan _ | .atLeast _ | .contains _ => by
    simp only [Check.holds]
    exact p.ite (p.pure _) (p.of _)
  | .both q f => by
    simp only [Check.holds]
    refine p.bind (p.holds v q) fun _ => p.ite ?_ (p.pure _)
    exact p.bind (p.call [v] [] f) fun _ => p.of _
  | .either q f => by
    simp only [Check.holds]
    refine p.bind (p.holds v q) fun _ => p.ite (p.pure _) ?_
    exact p.bind (p.call [v] [] f) fun _ => p.of _
  | .negation q => by
    simp only [Check.holds]
    exact p.bind (p.holds v q) fun _ => p.pure _

end

theorem passes (p : Parallel R there here) (test v : Value) :
    R Bool (test.passes there v) (test.passes here v) :=
  p.bind (p.call [v] [] test) fun _ => p.of _

theorem apply (p : Parallel R there here) (i : Invocation) (target : Value) :
    R Value (i.apply there target) (i.apply here target) := by
  unfold Invocation.apply
  cases i.selector
  case operation f => exact p.call _ _ f
  case member name =>
    refine p.bind (p.caught (p.member target name)) fun found => ?_
    cases found
    case error => exact p.ite (p.raise _) (p.raise _)
    case ok m  =>
      exact p.ite (p.call _ _ m) (p.ite (p.pure _) (p.raise _))

theorem read (p : Parallel R there here) (target : Value) (name : String) :
    R Value (Source.read there target name) (Source.read here target name) := by
  cases target
  all_goals simp only [Source.read]
  case dict entries =>
    cases Value.lookup? entries (.text name)
    case none => exact p.raise _
    case some => exact p.pure _
  all_goals exact p.member _ name

theorem judgeAccess (p : Parallel R there here) (self : Source) (type : Option String)
    (retryOn : List FaultClass) (noneIsRetryable : Bool) (result : Except Fault Value) :
    Source.judgeAccess there self type retryOn noneIsRetryable result =
      Source.judgeAccess here self type retryOn noneIsRetryable result := by
  cases result
  case error => rfl
  case ok v  => simp only [Source.judgeAccess, p.mistyped]

theorem judgeRead (p : Parallel R there here) (self : Source) (target : Value) (name : String)
    (type : Option String) (result : Except Fault Value) :
    Source.judgeRead there self target name type result =
      Source.judgeRead here self target name type result := by
  cases result
  case error => rfl
  case ok v  => simp only [Source.judgeRead, p.mistyped]

theorem judgeMatch (p : Parallel R there here) (self : Source) (test : Value)
    (description : Option String) (reply value : Value) (result : Except Fault Bool) :
    R Value (Source.judgeMatch there self test description reply value result)
      (Source.judgeMatch here self test description reply value result) := by
  rcases result with e | _ | _
  case error =>
    exact
      p.bind (p.of _) fun _ =>
      p.bind (p.of _) fun _ =>
      p.bind (p.of _) fun _ =>
      p.bind (p.logs _) fun _ => p.pure _
  case ok.false =>
    exact
      p.bind (p.of _) fun _ =>
      p.bind (p.of _) fun _ => p.pure _
  case ok.true => exact p.pure _

theorem matchReply (p : Parallel R there here) (self : Source) (test : Value)
    (description : Option String) (reply : Value) :
    R Value (Source.matchReply there self test description reply)
      (Source.matchReply here self test description reply) := by
  refine p.bind (p.succeeded reply) fun _ => p.ite (p.pure _) ?_
  refine p.bind (p.valueOf reply) fun v => ?_
  exact p.bind (p.caught (p.passes test v)) fun _ => p.judgeMatch self test description reply v _

variable {follow : Source → Act σ Value} {follow' : Source → Act ρ Value}

theorem followResult (p : Parallel R there here) (h : ∀ s, R Value (follow' s) (follow s))
    (invocation : Invocation) (result : Except Fault Value) :
    R Value (Source.followResult follow' invocation result)
      (Source.followResult follow invocation result) := by
  cases result
  case error => exact p.pure _
  case ok v =>
    cases v
    case source s => exact h s
    all_goals exact p.pure _

theorem attemptWith (p : Parallel R there here) (h : ∀ s, R Value (follow' s) (follow s)) :
    (s : Source) → R Value (s.attemptWith there follow') (s.attemptWith here follow)
  | .direct _ | .absent _ => by
    simp only [Source.attemptWith]
    exact p.pure _
  | .accessor f _ _ _ _ => by
    simp only [Source.attemptWith]
    refine p.bind (p.caught (p.call [] [] f)) fun result => ?_
    rw [p.judgeAccess]
    exact p.bind (p.of _) fun _ => p.pure _
  | .invoking base invocation => by
    simp only [Source.attemptWith]
    refine p.bind (p.attemptWith h base) fun reply => ?_
    refine p.bind (p.succeeded reply) fun _ => p.ite (p.pure _) ?_
    refine p.bind (p.caught ?_) fun _ => p.followResult h invocation _
    exact p.bind (p.valueOf reply) fun v => p.apply invocation v
  | .reading base name type => by
    simp only [Source.attemptWith]
    refine p.bind (p.attemptWith h base) fun reply => ?_
    refine p.bind (p.succeeded reply) fun _ => p.ite (p.pure _) ?_
    refine p.bind (p.valueOf reply) fun target => ?_
    refine p.ite (p.bind (p.of _) fun _ => p.pure _) ?_
    refine p.bind (p.caught (p.read target name)) fun result => ?_
    rw [p.judgeRead]
    exact p.bind (p.of _) fun _ => p.pure _
  | .matching _ base test description => by
    simp only [Source.attemptWith]
    refine p.bind (p.attemptWith h base) fun reply => ?_
    exact p.matchReply _ test description reply
  | .custom id _ => by
    simp only [Source.attemptWith]
    exact p.attempts id

theorem attemptTo (p : Parallel R there here) (depth : Nat) (s : Source) :
    R Value (s.attemptTo there depth) (s.attemptTo here depth) := by
  -- On how many sources may still be handed out. The parts of a source are dealt with above.
  induction depth generalizing s
  case zero    => exact p.raise _
  case succ ih => exact p.attemptWith ih s

theorem attempt (p : Parallel R there here) (s : Source) :
    R Value (s.attempt there) (s.attempt here) := by
  rw [Source.attempt, p.depth]
  exact p.attemptTo _ s

theorem resolve (p : Parallel R there here) (v : Value) :
    R Value (v.resolve there) (v.resolve here) := by
  have attempted : R Value (v.attempt there) (v.attempt here) := by
    cases v
    case source s => exact p.attempt s
    all_goals exact p.bind (p.member _ _) fun m => p.call [] [] m
  refine p.bind (p.caught attempted) fun result => ?_
  cases result
  case ok    => exact p.pure _
  case error =>
    exact
      p.bind (p.of _) fun _ =>
      p.bind (p.of _) fun _ =>
      p.bind (p.logs _) fun _ => p.pure _

end Host.Parallel

end BoundedWait

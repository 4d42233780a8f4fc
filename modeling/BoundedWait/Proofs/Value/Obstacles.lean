import BoundedWait.Act
import BoundedWait.Value.Printer

namespace Except

variable {ε α β : Type} {a : Except ε α} {e : ε}

def errors : Except ε α → List ε
  | .ok _    => []
  | .error e => [e]

@[simp]
theorem mem_errors : e ∈ a.errors ↔ a = .error e := by
  cases a <;> simp [errors, eq_comm]

@[simp]
theorem bind_pure_eq_error_iff {g : α → β} :
    (do return g (← a)) = Except.error e ↔ a = .error e := by
  cases a <;> simp [bind, Except.bind, pure, Except.pure]

end Except

namespace BoundedWait

mutual

def Value.obstacles : Value → List Fault
  | .number n        => n.write.errors
  | .list items      => Value.obstaclesOfAll items
  | .tuple items     => Value.obstaclesOfAll items
  | .dict entries    => Value.obstaclesOfEntries entries
  | .set items       => Value.obstaclesOfAll items
  | .frozenset items => Value.obstaclesOfAll items
  | .object o        => o.shown.errors
  | .source s        => s.obstacles
  | .outcome o       => o.obstacles
  | .fault f         => f.obstacles
  | .null | .text _ | .bytes _ | .bytearray _ | .type _ | .callable _ | .method _ _ _
  | .predicate _     => []

def Value.obstaclesOfAll : List Value → List Fault
  | []      => []
  | v :: vs => v.obstacles ++ Value.obstaclesOfAll vs

def Value.obstaclesOfEntries : List (Value × Value) → List Fault
  | []           => []
  | (k, v) :: es => k.obstacles ++ v.obstacles ++ Value.obstaclesOfEntries es

def Value.obstaclesOfNamed : List (String × Value) → List Fault
  | []           => []
  | (_, v) :: es => v.obstacles ++ Value.obstaclesOfNamed es

def Outcome.obstacles : Outcome → List Fault
  | .success v     => v.obstacles
  | .retryable c v => v.obstacles ++ c.obstacles
  | .terminal c v  => v.obstacles ++ c.obstacles

def Fault.obstacles : Fault → List Fault
  | .mk _ _ detail _ => detail.obstacles

def Detail.obstacles : Detail → List Fault
  | .plain args             => Value.obstaclesOfAll args
  | .unavailable message _  => message.obstacles
  | .failed _ _ _ _ message => message.obstacles
  | .mismatch _ _ _ _ | .expired _ _ _ _ _ _ | .unmet _ _ _ _ _ _ _ _ | .invalid _ _ => []

def Source.obstacles : Source → List Fault
  | .direct v                => v.obstacles
  | .absent _                => []
  | .accessor f _ _ _ _      => f.obstacles
  | .invoking base i         => base.obstacles ++ i.obstacles
  | .reading base _ _        => base.obstacles
  | .matching _ base test _  => base.obstacles ++ test.obstacles
  | .custom _ shown          => shown.errors

def Invocation.obstacles : Invocation → List Fault
  | .mk selector args keywords _ =>
    selector.obstacles ++ Value.obstaclesOfAll args ++ Value.obstaclesOfNamed keywords

def Selector.obstacles : Selector → List Fault
  | .member _    => []
  | .operation f => f.obstacles

end

variable {e : Fault}

mutual

theorem Value.mem_obstacles {form : Form} :
    (v : Value) → v.write form = .error e → e ∈ v.obstacles
  | .number n, h => by
    simpa [Value.obstacles, Value.write] using h
  | .list items, h | .tuple items, h | .set items, h | .frozenset items, h => by
    simp only [Value.write, Except.bind_pure_eq_error_iff] at h
    exact Value.mem_obstaclesOfAll items h
  | .dict entries, h => by
    simp only [Value.write, Except.bind_pure_eq_error_iff] at h
    exact Value.mem_obstaclesOfEntries entries h
  | .object o, h => by
    simpa [Value.obstacles, Value.write] using h
  | .source s, h => by
    simp only [Value.write] at h
    exact Source.mem_obstacles s h
  | .outcome o, h => by
    simp only [Value.write] at h
    exact Outcome.mem_obstacles o h
  | .fault f, h => by
    simp only [Value.write] at h
    exact Fault.mem_obstacles f h
  | .null, h | .text _, h | .bytes _, h | .bytearray _, h | .type _, h | .callable _, h
  | .method _ _ _, h | .predicate _, h => by
    simp [Value.write] at h

theorem Value.mem_obstaclesOfAll :
    (vs : List Value) → Value.inspectAll vs = .error e → e ∈ Value.obstaclesOfAll vs
  | [], h => by
    simp [Value.inspectAll] at h
  | v :: vs, h => by
    simp only [Value.inspectAll, Except.bind_eq_error_iff, ↓Except.bind_pure_eq_error_iff] at h
    rw [Value.obstaclesOfAll, List.mem_append]
    rcases h with failed | ⟨_, _, failed⟩
    case inl => exact .inl (Value.mem_obstacles v failed)
    case inr => exact .inr (Value.mem_obstaclesOfAll vs failed)

theorem Value.mem_obstaclesOfEntries : (es : List (Value × Value)) →
    Value.inspectEntries es = .error e → e ∈ Value.obstaclesOfEntries es
  | [], h => by
    simp [Value.inspectEntries] at h
  | (k, v) :: es, h => by
    simp only [Value.inspectEntries, Except.bind_eq_error_iff, ↓Except.bind_pure_eq_error_iff] at h
    rw [Value.obstaclesOfEntries, List.mem_append, List.mem_append]
    rcases h with failed | ⟨_, _, failed | ⟨_, _, failed⟩⟩
    case inl     => exact .inl (.inl (Value.mem_obstacles k failed))
    case inr.inl => exact .inl (.inr (Value.mem_obstacles v failed))
    case inr.inr => exact .inr (Value.mem_obstaclesOfEntries es failed)

theorem Value.mem_obstaclesOfNamed : (es : List (String × Value)) →
    Value.inspectNamed es = .error e → e ∈ Value.obstaclesOfNamed es
  | [], h => by
    simp [Value.inspectNamed] at h
  | (_, v) :: es, h => by
    simp only [Value.inspectNamed, Except.bind_eq_error_iff, ↓Except.bind_pure_eq_error_iff] at h
    rw [Value.obstaclesOfNamed, List.mem_append]
    rcases h with failed | ⟨_, _, failed⟩
    case inl => exact .inl (Value.mem_obstacles v failed)
    case inr => exact .inr (Value.mem_obstaclesOfNamed es failed)

theorem Outcome.mem_obstacles : (o : Outcome) → o.inspect = .error e → e ∈ o.obstacles
  | .success v, h => by
    simp only [Outcome.inspect, Except.bind_pure_eq_error_iff] at h
    exact Value.mem_obstacles v h
  | .retryable c v, h | .terminal c v, h => by
    simp only [Outcome.inspect, Except.bind_eq_error_iff, ↓Except.bind_pure_eq_error_iff] at h
    rw [Outcome.obstacles, List.mem_append]
    rcases h with failed | ⟨_, _, failed⟩
    case inl => exact .inl (Value.mem_obstacles v failed)
    case inr => exact .inr (Fault.mem_obstacles c failed)

theorem Fault.mem_obstacles {form : Form} :
    (f : Fault) → f.write form = .error e → e ∈ f.obstacles
  | .mk _ cls detail _, h => by
    rw [Fault.obstacles]
    cases form
    case plain =>
      simp only [Fault.write] at h
      exact Detail.mem_obstacles_of_message cls detail h
    case quoted =>
      simp only [Fault.write, Except.bind_pure_eq_error_iff] at h
      exact Detail.mem_obstacles detail h

theorem Detail.mem_obstacles_of_message (cls : FaultClass) :
    (d : Detail) → d.message cls = .error e → e ∈ d.obstacles
  | .plain [], h => by
    simp [Detail.message] at h
  | .plain [v], h => by
    simp only [Detail.message] at h
    simpa [Detail.obstacles, Value.obstaclesOfAll] using Value.mem_obstacles v h
  | .plain [a, b], h => by
    simp only [Detail.message] at h
    simp only [Detail.obstacles, Value.obstaclesOfAll, List.mem_append]
    split at h
    all_goals
      simp only [Except.bind_eq_error_iff, ↓Except.bind_pure_eq_error_iff] at h
      rcases h with failed | ⟨_, _, failed⟩
      case inl => exact .inl (Value.mem_obstacles a failed)
      case inr => exact .inr (.inl (Value.mem_obstacles b failed))
  | .plain (a :: b :: c :: rest), h => by
    simp only [Detail.message] at h
    simp only [Detail.obstacles, Value.obstaclesOfAll, List.mem_append]
    split at h
    all_goals simp only [Except.bind_eq_error_iff, ↓Except.bind_pure_eq_error_iff] at h
    case isTrue =>
      rcases h with failed | ⟨_, _, failed | ⟨_, _, failed⟩⟩
      case inl     => exact .inl (Value.mem_obstacles a failed)
      case inr.inl => exact .inr (.inl (Value.mem_obstacles b failed))
      case inr.inr => exact .inr (.inr (.inl (Value.mem_obstacles c failed)))
    case isFalse =>
      rcases h with failed | ⟨_, _, failed | ⟨_, _, failed | ⟨_, _, failed⟩⟩⟩
      case inl         => exact .inl (Value.mem_obstacles a failed)
      case inr.inl     => exact .inr (.inl (Value.mem_obstacles b failed))
      case inr.inr.inl => exact .inr (.inr (.inl (Value.mem_obstacles c failed)))
      case inr.inr.inr => exact .inr (.inr (.inr (Value.mem_obstaclesOfAll rest failed)))
  | .unavailable message _, h | .failed _ _ _ _ message, h => by
    simp only [Detail.message] at h
    exact Value.mem_obstacles message h
  | .mismatch _ _ _ _, h | .expired _ _ _ _ _ _, h | .unmet _ _ _ _ _ _ _ _, h
  | .invalid _ _, h => by
    simp [Detail.message] at h

theorem Detail.mem_obstacles : (d : Detail) → d.inspectArgs = .error e → e ∈ d.obstacles
  | .plain args, h => by
    simp only [Detail.inspectArgs] at h
    exact Value.mem_obstaclesOfAll args h
  | .unavailable message _, h | .failed _ _ _ _ message, h => by
    simp only [Detail.inspectArgs, Except.bind_pure_eq_error_iff] at h
    exact Value.mem_obstacles message h
  | .mismatch _ _ _ _, h | .expired _ _ _ _ _ _, h | .unmet _ _ _ _ _ _ _ _, h
  | .invalid _ _, h => by
    simp [Detail.inspectArgs] at h

theorem Source.mem_obstacles : (s : Source) → s.inspect = .error e → e ∈ s.obstacles
  | .direct v, h => by
    simp only [Source.inspect, Except.bind_pure_eq_error_iff] at h
    exact Value.mem_obstacles v h
  | .absent _, h => by
    simp [Source.inspect] at h
  | .accessor f _ _ _ description, h => by
    simp only [Source.inspect] at h
    split at h
    case h_1 => cases h
    case h_2 =>
      rw [Except.bind_pure_eq_error_iff] at h
      exact Value.mem_obstacles f h
  | .invoking base invocation, h => by
    simp only [Source.inspect, Except.bind_eq_error_iff, ↓Except.bind_pure_eq_error_iff] at h
    rw [Source.obstacles, List.mem_append]
    rcases h with failed | ⟨_, _, failed⟩
    case inl => exact .inl (Source.mem_obstacles base failed)
    case inr => exact .inr (Invocation.mem_obstacles invocation failed)
  | .reading base _ _, h => by
    simp only [Source.inspect, Except.bind_pure_eq_error_iff] at h
    exact Source.mem_obstacles base h
  | .matching mark base test description, h => by
    simp only [Source.inspect_matching, Except.bind_eq_error_iff,
      ↓Except.bind_pure_eq_error_iff] at h
    rw [Source.obstacles, List.mem_append]
    rcases h with failed | ⟨_, _, failed⟩
    case inl => exact .inl (Source.mem_obstacles base failed)
    case inr =>
      -- A description of its own takes the place of the text of the test.
      rw [describeMatch] at failed
      split at failed
      case h_1 => cases failed
      case h_2 =>
        rw [Value.describeTest] at failed
        split at failed
        case h_1 => cases failed
        case h_2 =>
          rw [Except.bind_pure_eq_error_iff] at failed
          exact .inr (Value.mem_obstacles test failed)
  | .custom _ shown, h => by
    simpa [Source.obstacles, Source.inspect] using h

theorem Invocation.mem_obstacles : (i : Invocation) → i.describe = .error e → e ∈ i.obstacles
  | .mk selector args keywords _, h => by
    simp only [Invocation.describe, Except.bind_eq_error_iff, ↓Except.bind_pure_eq_error_iff] at h
    rw [Invocation.obstacles, List.mem_append, List.mem_append]
    rcases h with failed | ⟨_, _, failed | ⟨_, _, failed⟩⟩
    case inl     => exact .inl (.inl (Selector.mem_obstacles selector failed))
    case inr.inl => exact .inl (.inr (Value.mem_obstaclesOfAll args failed))
    case inr.inr => exact .inr (Value.mem_obstaclesOfNamed keywords failed)

theorem Selector.mem_obstacles : (s : Selector) → s.describe = .error e → e ∈ s.obstacles
  | .member _, h => by
    simp [Selector.describe] at h
  | .operation f, h => by
    simp only [Selector.describe, Except.bind_pure_eq_error_iff] at h
    exact Value.mem_obstacles f h

end

end BoundedWait

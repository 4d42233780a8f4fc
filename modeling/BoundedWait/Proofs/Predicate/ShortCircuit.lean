import BoundedWait.Predicate
import BoundedWait.Value.Call

namespace BoundedWait

inductive Formula where
  | test (f : Value)
  | both (a b : Formula)
  | either (a b : Formula)
  | negation (a : Formula)

namespace Formula

-- What comes of putting tests together; whatever is not the second part of two has to be a
-- predicate. The predicates that are made can have any identities.
inductive Makes : Formula → Value → Prop
  | test (f : Value) : Makes (.test f) f
  | both (id : Nat) {a b : Formula} {p r : Predicate} {q : Value} (first : Makes a (.predicate p))
      (second : Makes b q) (made : p.both id q = .ok r) : Makes (.both a b) (.predicate r)
  | either (id : Nat) {a b : Formula} {p r : Predicate} {q : Value} (first : Makes a (.predicate p))
      (second : Makes b q) (made : p.either id q = .ok r) : Makes (.either a b) (.predicate r)
  | negation (id : Nat) {a : Formula} {p : Predicate} (part : Makes a (.predicate p)) :
      Makes (.negation a) (.predicate (p.negation id))

def tests : Formula → List Value
  | test f     => [f]
  | both a b   => a.tests ++ b.tests
  | either a b => a.tests ++ b.tests
  | negation a => a.tests

-- The result of a formula, once some tests have been asked, in this order, and have answered.
inductive Evaluates : Formula → List (Value × Bool) → Bool → Prop
  | test (f : Value) (answer : Bool) : Evaluates (.test f) [(f, answer)] answer
  | bothFalse {a b : Formula} {asked : List (Value × Bool)} (first : Evaluates a asked false) :
      Evaluates (.both a b) asked false
  | bothTrue {a b : Formula} {asked more : List (Value × Bool)} {result : Bool}
      (first : Evaluates a asked true) (second : Evaluates b more result) :
      Evaluates (.both a b) (asked ++ more) result
  | eitherTrue {a b : Formula} {asked : List (Value × Bool)} (first : Evaluates a asked true) :
      Evaluates (.either a b) asked true
  | eitherFalse {a b : Formula} {asked more : List (Value × Bool)} {result : Bool}
      (first : Evaluates a asked false) (second : Evaluates b more result) :
      Evaluates (.either a b) (asked ++ more) result
  | negation {a : Formula} {asked : List (Value × Bool)} {result : Bool}
      (part : Evaluates a asked result) : Evaluates (.negation a) asked !result

-- The test that comes next, once some tests have been asked and have not yet led to a result.
inductive Asks : Formula → List (Value × Bool) → Value → Prop
  | test (f : Value) : Asks (.test f) [] f
  | bothFirst {a b : Formula} {asked : List (Value × Bool)} {f : Value} (first : Asks a asked f) :
      Asks (.both a b) asked f
  | bothSecond {a b : Formula} {asked more : List (Value × Bool)} {f : Value}
      (first : Evaluates a asked true) (second : Asks b more f) : Asks (.both a b) (asked ++ more) f
  | eitherFirst {a b : Formula} {asked : List (Value × Bool)} {f : Value}
      (first : Asks a asked f) : Asks (.either a b) asked f
  | eitherSecond {a b : Formula} {asked more : List (Value × Bool)} {f : Value}
      (first : Evaluates a asked false) (second : Asks b more f) :
      Asks (.either a b) (asked ++ more) f
  | negation {a : Formula} {asked : List (Value × Bool)} {f : Value} (part : Asks a asked f) :
      Asks (.negation a) asked f

section

variable {a b e : Formula} {asked : List (Value × Bool)} {f : Value} {result : Bool}

theorem Evaluates.sublist (h : Evaluates e asked result) :
    (asked.map Prod.fst).Sublist e.tests := by
  induction h
  case test                     => exact .refl _
  case bothFalse ih             => exact ih.trans (List.sublist_append_left _ _)
  case bothTrue first second    => rw [List.map_append]; exact first.append second
  case eitherTrue ih            => exact ih.trans (List.sublist_append_left _ _)
  case eitherFalse first second => rw [List.map_append]; exact first.append second
  case negation ih              => exact ih

theorem Asks.sublist (h : Asks e asked f) : (asked.map Prod.fst ++ [f]).Sublist e.tests := by
  induction h
  case test           => exact .refl _
  case bothFirst ih   => exact ih.trans (List.sublist_append_left _ _)
  case eitherFirst ih => exact ih.trans (List.sublist_append_left _ _)
  case negation ih    => exact ih
  case bothSecond first _ ih =>
    rw [List.map_append, List.append_assoc]
    exact first.sublist.append ih
  case eitherSecond first _ ih =>
    rw [List.map_append, List.append_assoc]
    exact first.sublist.append ih

theorem evaluates_test_iff : Evaluates (.test f) asked result ↔ asked = [(f, result)] where
  mp
    | .test _ _ => rfl
  mpr h := h ▸ .test f result

theorem evaluates_both_iff : Evaluates (.both a b) asked result ↔
    (result = false ∧ Evaluates a asked false) ∨
      ∃ xs ys, asked = xs ++ ys ∧ Evaluates a xs true ∧ Evaluates b ys result where
  mp
    | .bothFalse first       => .inl ⟨rfl, first⟩
    | .bothTrue first second => .inr ⟨_, _, rfl, first, second⟩
  mpr
    | .inl ⟨no, first⟩               => no ▸ .bothFalse first
    | .inr ⟨_, _, eq, first, second⟩ => eq ▸ .bothTrue first second

theorem evaluates_either_iff : Evaluates (.either a b) asked result ↔
    (result = true ∧ Evaluates a asked true) ∨
      ∃ xs ys, asked = xs ++ ys ∧ Evaluates a xs false ∧ Evaluates b ys result where
  mp
    | .eitherTrue first         => .inl ⟨rfl, first⟩
    | .eitherFalse first second => .inr ⟨_, _, rfl, first, second⟩
  mpr
    | .inl ⟨yes, first⟩              => yes ▸ .eitherTrue first
    | .inr ⟨_, _, eq, first, second⟩ => eq ▸ .eitherFalse first second

theorem evaluates_negation_iff :
    Evaluates (.negation a) asked result ↔ Evaluates a asked !result where
  mp
    | .negation part => by simpa using part
  mpr part := by simpa using part.negation

theorem asks_test_iff {g : Value} : Asks (.test f) asked g ↔ asked = [] ∧ f = g where
  mp
    | .test _ => ⟨rfl, rfl⟩
  mpr
    | ⟨unasked, same⟩ => unasked ▸ same ▸ .test f

theorem asks_both_iff : Asks (.both a b) asked f ↔
    Asks a asked f ∨ ∃ xs ys, asked = xs ++ ys ∧ Evaluates a xs true ∧ Asks b ys f where
  mp
    | .bothFirst first         => .inl first
    | .bothSecond first second => .inr ⟨_, _, rfl, first, second⟩
  mpr
    | .inl first                     => .bothFirst first
    | .inr ⟨_, _, eq, first, second⟩ => eq ▸ .bothSecond first second

theorem asks_either_iff : Asks (.either a b) asked f ↔
    Asks a asked f ∨ ∃ xs ys, asked = xs ++ ys ∧ Evaluates a xs false ∧ Asks b ys f where
  mp
    | .eitherFirst first         => .inl first
    | .eitherSecond first second => .inr ⟨_, _, rfl, first, second⟩
  mpr
    | .inl first                     => .eitherFirst first
    | .inr ⟨_, _, eq, first, second⟩ => eq ▸ .eitherSecond first second

theorem asks_negation_iff : Asks (.negation a) asked f ↔ Asks a asked f where
  mp
    | .negation part => part
  mpr := .negation

end

structure Alike (a b : Formula) : Prop where
  evaluates (asked : List (Value × Bool)) (result : Bool) :
    Evaluates a asked result ↔ Evaluates b asked result
  asks (asked : List (Value × Bool)) (f : Value) : Asks a asked f ↔ Asks b asked f

theorem alike_negation_both (a b : Formula) :
    Alike (.negation (.both a b)) (.either (.negation a) (.negation b)) where
  evaluates asked result := by
    simp [evaluates_negation_iff, evaluates_both_iff, evaluates_either_iff]
  asks asked f := by
    simp [asks_negation_iff, asks_both_iff, asks_either_iff, evaluates_negation_iff]

theorem alike_negation_either (a b : Formula) :
    Alike (.negation (.either a b)) (.both (.negation a) (.negation b)) where
  evaluates asked result := by
    simp [evaluates_negation_iff, evaluates_both_iff, evaluates_either_iff]
  asks asked f := by
    simp [asks_negation_iff, asks_both_iff, asks_either_iff, evaluates_negation_iff]

theorem alike_negation_negation (a : Formula) : Alike (.negation (.negation a)) a where
  evaluates asked result := by simp [evaluates_negation_iff]
  asks asked f           := by simp [asks_negation_iff]

end Formula

section

variable {σ : Type} {host : Host σ} {v : Value} {s s' : σ}

inductive Answered (host : Host σ) (v : Value) : List (Value × Bool) → σ → σ → Prop
  | nil {s : σ} : Answered host v [] s s
  | cons {f : Value} {answer : Bool} {rest : List (Value × Bool)} {s t u : σ}
      (first : f.passes host v s = (.ok answer, t)) (later : Answered host v rest t u) :
      Answered host v ((f, answer) :: rest) s u

namespace Answered

variable {xs ys : List (Value × Bool)}

theorem nil_iff : Answered host v [] s s' ↔ s = s' where
  mp
    | nil => rfl
  mpr
    | rfl => nil

theorem singleton_iff {f : Value} {answer : Bool} :
    Answered host v [(f, answer)] s s' ↔ f.passes host v s = (.ok answer, s') where
  mp
    | cons first nil => first
  mpr first := cons first nil

theorem append_iff :
    Answered host v (xs ++ ys) s s' ↔ ∃ t, Answered host v xs s t ∧ Answered host v ys t s' := by
  induction xs generalizing s
  case nil => simp [nil_iff]
  case cons x xs ih =>
    constructor
    case mp =>
      intro h
      cases h
      case cons first later =>
        have ⟨t, earlier, last⟩ := ih.mp later
        exact ⟨t, cons first earlier, last⟩
    case mpr =>
      intro ⟨t, earlier, last⟩
      cases earlier
      case cons first earlier => exact cons first (ih.mpr ⟨t, earlier, last⟩)

end Answered

theorem Value.call_predicate (host : Host σ) (p : Predicate) (v : Value) :
    (Value.predicate p).call host [v] [] = (do return .bool (← p.holds host v)) := by
  simp only [Value.call]

theorem Value.passes_predicate (host : Host σ) (p : Predicate) (v : Value) :
    (Value.predicate p).passes host v = p.holds host v := by
  simp [Value.passes, Value.call_predicate, Value.truth_bool]

namespace Predicate

variable {id : Nat} {p r : Predicate} {q : Value}

theorem holds_both (made : p.both id q = .ok r) (host : Host σ) (v : Value) :
    r.holds host v = (do
      let answer ← p.holds host v
      if answer = true then q.passes host v else return answer) := by
  have ⟨_, _, made⟩ := Except.bind_eq_ok_iff.mp made
  cases made
  simp only [holds, Check.holds, Value.passes]
  exact congrArg (_ >>= ·) (funext fun answer => by cases answer <;> rfl)

theorem holds_either (made : p.either id q = .ok r) (host : Host σ) (v : Value) :
    r.holds host v = (do
      let answer ← p.holds host v
      if answer = false then q.passes host v else return answer) := by
  have ⟨_, _, made⟩ := Except.bind_eq_ok_iff.mp made
  cases made
  simp only [holds, Check.holds, Value.passes]
  exact congrArg (_ >>= ·) (funext fun answer => by cases answer <;> rfl)

theorem holds_negation (id : Nat) (p : Predicate) (host : Host σ) (v : Value) :
    (p.negation id).holds host v = (do return !(← p.holds host v)) := by
  simp only [negation, holds, Check.holds]

end Predicate

namespace Formula

-- A computation that asks the tests of a formula as its evaluation does. It ends with the result of
-- the formula, or with the fault of the first test that has one.
structure RunBy (host : Host σ) (v : Value) (e : Formula) (run : Act σ Bool) : Prop where
  ok {s s' : σ} {result : Bool} : run s = (.ok result, s') ↔
    ∃ asked, e.Evaluates asked result ∧ Answered host v asked s s'
  error {s s' : σ} {fault : Fault} : run s = (.error fault, s') ↔
    ∃ asked f t, e.Asks asked f ∧ Answered host v asked s t ∧
      f.passes host v t = (.error fault, s')

namespace RunBy

variable {a b e : Formula} {first second : Act σ Bool}

theorem test (f : Value) : RunBy host v (.test f) (f.passes host v) where
  ok {s s' result} := by simp [evaluates_test_iff, Answered.singleton_iff]
  error {s s' fault} := by simp [asks_test_iff, and_assoc, Answered.nil_iff]

theorem negation (h : RunBy host v a first) :
    RunBy host v (.negation a) (do return !(← first)) where
  ok {s s' result} := by
    simp only [evaluates_negation_iff, ← h.ok, Act.bind_eq_ok_iff]
    constructor
    case mp =>
      rintro ⟨answer, t, asked, rest⟩
      cases rest
      simpa using asked
    case mpr => exact fun asked => ⟨!result, s', asked, by simp⟩
  error {s s' fault} := by
    simp only [asks_negation_iff, ← h.error, Act.bind_eq_error_iff]
    constructor
    case mp =>
      rintro (raised | ⟨_, _, _, rest⟩)
      case inl => exact raised
      case inr => cases rest
    case mpr => exact .inl

theorem pair {goOn : Bool} (ha : RunBy host v a first) (hb : RunBy host v b second)
    (evaluates : ∀ asked result, e.Evaluates asked result ↔
      (result = !goOn ∧ a.Evaluates asked !goOn) ∨
        ∃ xs ys, asked = xs ++ ys ∧ a.Evaluates xs goOn ∧ b.Evaluates ys result)
    (asks : ∀ asked f, e.Asks asked f ↔
      a.Asks asked f ∨ ∃ xs ys, asked = xs ++ ys ∧ a.Evaluates xs goOn ∧ b.Asks ys f) :
    RunBy host v e (do
      let answer ← first
      if answer = goOn then second else return answer) where
  ok {s s' result} := by
    simp only [Act.bind_eq_ok_iff, ha.ok, evaluates]
    constructor
    case mp =>
      rintro ⟨answer, t, ⟨xs, evaluated, answers⟩, rest⟩
      -- The second computation runs only if the first one ends with the answer to go on with.
      by_cases go : answer = goOn
      case pos =>
        rw [if_pos go] at rest
        have ⟨ys, evaluated', answers'⟩ := hb.ok.mp rest
        exact ⟨xs ++ ys, .inr ⟨xs, ys, rfl, go ▸ evaluated, evaluated'⟩,
          Answered.append_iff.mpr ⟨t, answers, answers'⟩⟩
      case neg =>
        have stopped : answer = !goOn := Bool.eq_not.mpr go
        rw [if_neg go] at rest
        cases rest
        exact ⟨xs, .inl ⟨stopped, stopped ▸ evaluated⟩, answers⟩
    case mpr =>
      rintro ⟨asked, ⟨rfl, evaluated⟩ | ⟨xs, ys, rfl, evaluated, evaluated'⟩, answers⟩
      case inl => exact ⟨!goOn, s', ⟨asked, evaluated, answers⟩, by simp⟩
      case inr =>
        have ⟨t, answers, answers'⟩ := Answered.append_iff.mp answers
        have rest := hb.ok.mpr ⟨ys, evaluated', answers'⟩
        exact ⟨goOn, t, ⟨xs, evaluated, answers⟩, by simpa using rest⟩
  error {s s' fault} := by
    simp only [Act.bind_eq_error_iff, ha.ok, ha.error, asks]
    constructor
    case mp =>
      rintro (⟨asked, f, t, next, answers, raised⟩ | ⟨answer, t, ⟨xs, evaluated, answers⟩, rest⟩)
      case inl => exact ⟨asked, f, t, .inl next, answers, raised⟩
      case inr =>
        split at rest
        case isTrue go =>
          have ⟨ys, f, u, next, answers', raised⟩ := hb.error.mp rest
          exact ⟨xs ++ ys, f, u, .inr ⟨xs, ys, rfl, go ▸ evaluated, next⟩,
            Answered.append_iff.mpr ⟨t, answers, answers'⟩, raised⟩
        case isFalse => cases rest
    case mpr =>
      rintro ⟨asked, f, t, next | ⟨xs, ys, rfl, evaluated, next⟩, answers, raised⟩
      case inl => exact .inl ⟨asked, f, t, next, answers, raised⟩
      case inr =>
        have ⟨u, answers, answers'⟩ := Answered.append_iff.mp answers
        have rest := hb.error.mpr ⟨ys, f, t, next, answers', raised⟩
        exact .inr ⟨goOn, u, ⟨xs, evaluated, answers⟩, by simpa using rest⟩

theorem eq_of_alike {run run' : Act σ Bool} (h : RunBy host v a run) (h' : RunBy host v b run')
    (alike : a.Alike b) : run = run' := by
  funext s
  -- A state is left with one result only, so that it is enough to have each result of the first
  -- computation for the second one.
  cases ended : run s
  case mk r t =>
    cases r
    case ok result =>
      have ⟨asked, evaluated, answers⟩ := h.ok.mp ended
      exact (h'.ok.mpr ⟨asked, (alike.evaluates ..).mp evaluated, answers⟩).symm
    case error fault =>
      have ⟨asked, f, u, next, raised⟩ := h.error.mp ended
      exact (h'.error.mpr ⟨asked, f, u, (alike.asks ..).mp next, raised⟩).symm

end RunBy

theorem Makes.runBy {e : Formula} {f : Value} (made : e.Makes f) (host : Host σ) (v : Value) :
    RunBy host v e (f.passes host v) := by
  -- On how the predicate was put together, one case for each connective.
  induction made
  case test f => exact .test f
  case both made ha hb =>
    rw [Value.passes_predicate, Predicate.holds_both made, ← Value.passes_predicate]
    exact ha.pair hb (fun _ _ => evaluates_both_iff) (fun _ _ => asks_both_iff)
  case either made ha hb =>
    rw [Value.passes_predicate, Predicate.holds_either made, ← Value.passes_predicate]
    exact ha.pair hb (fun _ _ => evaluates_either_iff) (fun _ _ => asks_either_iff)
  case negation ha =>
    rw [Value.passes_predicate, Predicate.holds_negation, ← Value.passes_predicate]
    exact ha.negation

-- What a predicate answers, once it was put together from tests, is the result of the evaluation
-- of the formula from left to right, and what it raises is what the first test raises that does so;
-- the tests that are asked up to then are asked once each, in their order in the formula. So it
-- does not matter whether a negation stands around two parts or in each of them, or stands twice.
theorem combined_short_circuits (host : Host σ) (v : Value) :
    (∀ e p, Makes e (.predicate p) → ∀ s s',
      (∀ answer, (Value.predicate p).call host [v] [] s = (.ok answer, s') ↔
        ∃ asked result, answer = .bool result ∧ e.Evaluates asked result ∧
          Answered host v asked s s' ∧ (asked.map Prod.fst).Sublist e.tests) ∧
      (∀ fault, (Value.predicate p).call host [v] [] s = (.error fault, s') ↔
        ∃ asked f t, e.Asks asked f ∧ Answered host v asked s t ∧
          f.passes host v t = (.error fault, s') ∧
          (asked.map Prod.fst ++ [f]).Sublist e.tests)) ∧
    (∀ a b p q, Makes (.negation (.both a b)) (.predicate p) →
      Makes (.either (.negation a) (.negation b)) (.predicate q) →
      (Value.predicate p).call host [v] [] = (Value.predicate q).call host [v] []) ∧
    (∀ a b p q, Makes (.negation (.either a b)) (.predicate p) →
      Makes (.both (.negation a) (.negation b)) (.predicate q) →
      (Value.predicate p).call host [v] [] = (Value.predicate q).call host [v] []) ∧
    (∀ a p q, Makes (.negation (.negation a)) (.predicate p) → Makes a (.predicate q) →
      (Value.predicate p).call host [v] [] = (Value.predicate q).call host [v] []) := by
  have agree {a b : Formula} {p q : Predicate} (alike : a.Alike b) (hp : Makes a (.predicate p))
      (hq : Makes b (.predicate q)) :
      (Value.predicate p).call host [v] [] = (Value.predicate q).call host [v] [] := by
    have := (hp.runBy host v).eq_of_alike (hq.runBy host v) alike
    rw [Value.passes_predicate, Value.passes_predicate] at this
    rw [Value.call_predicate, Value.call_predicate, this]
  refine ⟨fun e p made s s' => ⟨fun answer => ?ok, fun fault => ?error⟩,
    fun a b _ _ => agree (alike_negation_both a b),
    fun a b _ _ => agree (alike_negation_either a b),
    fun a _ _ => agree (alike_negation_negation a)⟩
  case ok =>
    have run := made.runBy host v
    rw [Value.passes_predicate] at run
    simp only [Value.call_predicate, Act.bind_eq_ok_iff, run.ok]
    constructor
    case mp =>
      rintro ⟨result, t, ⟨asked, evaluated, answers⟩, rest⟩
      cases rest
      exact ⟨asked, result, rfl, evaluated, answers, evaluated.sublist⟩
    case mpr =>
      rintro ⟨asked, result, rfl, evaluated, answers, _⟩
      exact ⟨result, s', ⟨asked, evaluated, answers⟩, rfl⟩
  case error =>
    have run := made.runBy host v
    rw [Value.passes_predicate] at run
    simp only [Value.call_predicate, Act.bind_eq_error_iff, run.error]
    constructor
    case mp =>
      rintro (⟨asked, f, t, next, answers, raised⟩ | ⟨_, _, _, rest⟩)
      case inl => exact ⟨asked, f, t, next, answers, raised, next.sublist⟩
      case inr => cases rest
    case mpr =>
      rintro ⟨asked, f, t, next, answers, raised, _⟩
      exact .inl ⟨asked, f, t, next, answers, raised⟩

end Formula

end

-- A value that is there and passes an operation, in a world that counts the calls of operations and
-- in which all of them fail. If there is nothing, the operation is not called.

def Host.failing : Host Nat where
  call _ _ _ := do
    Act.update (· + 1)
    Act.raise (.saying .runtimeError "failed")
  read _ _   := pure .null
  attempt _  := pure .null
  log _      := pure ()
  depth      := 0

def Value.probe : Value :=
  .callable (.mk 0 "<probe>" (some "probe") none none)

def Predicate.present : Predicate :=
  .isNotNone 0

def Predicate.probed : Predicate :=
  .mk 1 (.both .present .probe) "(a value that is not None and a value satisfying probe)"

namespace Formula

def probed : Formula :=
  .both (.test (.predicate .present)) (.test .probe)

theorem makes_probed : probed.Makes (.predicate .probed) :=
  .both 1 (.test _) (.test _) rfl

theorem combined_short_circuits_probed :
    probed.Makes (.predicate .probed) ∧
    (Value.predicate .probed).call .failing [.null] [] 0 = (.ok (.bool false), 0) ∧
    (Value.predicate .probed).call .failing [.text ""] [] 0 =
      (.error (.saying .runtimeError "failed"), 1) ∧
    (Value.predicate ((Predicate.probed.negation 2).negation 3)).call .failing [.null] [] =
      (Value.predicate .probed).call .failing [.null] [] := by
  have present (v : Value) :
      (Value.predicate .present).passes .failing v 0 = (.ok !v.isNull, 0) := by
    simp [Value.passes_predicate, Predicate.present, Predicate.isNotNone, Predicate.holds,
      Check.holds]
  have failed : Value.probe.passes .failing (.text "") 0 =
      (.error (.saying .runtimeError "failed"), 1) := by
    simp [Value.passes, Value.probe, Value.call, Host.failing, Act.update, Act.raise]
  obtain ⟨absent, -, -, twice⟩ := combined_short_circuits .failing .null
  obtain ⟨found, -⟩ := combined_short_circuits .failing (.text "")
  have negated := makes_probed.negation 2
  refine ⟨makes_probed, ?quiet, ?loud, twice _ _ _ (negated.negation 3) makes_probed⟩
  case quiet =>
    have first : Evaluates (.test (.predicate .present)) [(.predicate .present, false)] false :=
      .test ..
    exact ((absent _ _ makes_probed 0 0).1 _).mpr
      ⟨_, false, rfl, .bothFalse first, .cons (present .null) .nil, first.bothFalse.sublist⟩
  case loud =>
    have first : Evaluates (.test (.predicate .present)) [(.predicate .present, true)] true :=
      .test ..
    have next : probed.Asks [(.predicate .present, true)] .probe :=
      .bothSecond first (.test .probe)
    exact ((found _ _ makes_probed 0 1).2 _).mpr
      ⟨_, .probe, 0, next, .cons (present (.text "")) .nil, failed, next.sublist⟩

end Formula

end BoundedWait

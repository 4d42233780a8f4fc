import BoundedWait.Proofs.Source.Contacts

namespace BoundedWait

inductive Layer where
  | invoking (invocation : Invocation)
  | reading (name : String) (type : Option String)
  | matching (test : Value) (description : Option String)

variable {σ : Type}

namespace Layer

def on (base : Source) : Layer → Source
  | invoking invocation       => .invoking base invocation
  | reading name type         => .reading base name type
  | matching test description => .matching 0 base test description

def work (host : Host σ) (base : Source) (reply value : Value) : Layer → Act σ Value
  | invoking invocation => do
    let result ← (invocation.apply host value).caught
    Source.followResult (Source.attemptTo host host.depth) invocation result
  | reading name type => do
    if value.isNull then
      let shown ← .of base.inspect
      return .outcome (.retryable
        (Fault.temporarily (shown ++ " resolved to None") (.reading base name type)) .null)
    let result ← (Source.read host value name).caught
    return .outcome (← .of (Source.judgeRead host (.reading base name type) value name type result))
  | matching test description => do
    let result ← (test.passes host value).caught
    Source.judgeMatch host (.matching 0 base test description) test description reply value result

-- What a layer does with an answer of its base, whatever kind of value that is. An operation that
-- is invoked on an answer without a value has failed.
def receive (host : Host σ) (base : Source) (reply : Value) : Layer → Act σ Value
  | invoking invocation => do
    if !(← host.succeeded reply) then return reply
    let result ← (do invocation.apply host (← host.valueOf reply) : Act σ Value).caught
    Source.followResult (Source.attemptTo host host.depth) invocation result
  | layer => do
    if !(← host.succeeded reply) then return reply
    layer.work host base reply (← host.valueOf reply)

-- What a layer itself does outside of the library when it works on a value in some state: it
-- applies its operation, reads its attribute or makes its test, once.
def contacts (host : Host σ) (value : Value) (s : σ) : Layer → List Contact
  | invoking invocation => (invocation.apply host.recorded value (s, [])).2.2
  | reading name _      =>
    if value.isNull then [] else (Source.read host.recorded value name (s, [])).2.2
  | matching test _     => (test.passes host.recorded value (s, [])).2.2

-- The one thing that a layer does there if that is known in advance: it calls a plain operation,
-- reads an object or calls a plain test.
def contact? (value : Value) : Layer → Option Contact
  | invoking invocation =>
    match invocation.selector with
    | .operation (.callable f) => some (.call f (value :: invocation.args) invocation.keywords)
    | _                        => none
  | reading name _ =>
    match value with
    | .object o => some (.read o name)
    | _         => none
  | matching test _ =>
    match test with
    | .callable f => some (.call f [value] [])
    | _           => none

variable {host : Host σ} {base : Source} {layer : Layer}

theorem attempt_on (host : Host σ) (base : Source) (layer : Layer) :
    (layer.on base).attempt host =
      (do layer.receive host base (← base.attempt host) : Act σ Value) := by
  cases layer
  all_goals simp only [on, Source.attempt, Source.attemptTo, Source.attemptWith, receive, work]
  case matching test description => rfl

theorem receive_success (v : Value) :
    layer.receive host base (.outcome (.success v)) =
      layer.work host base (.outcome (.success v)) v := by
  cases layer <;> rfl

theorem receive_failure {o : Outcome} (h : o.isSuccess = false) :
    layer.receive host base (.outcome o) = pure (.outcome o) := by
  cases o
  case success => cases h
  all_goals cases layer <;> rfl

theorem mirrors_work (host : Host σ) (base : Source) (reply value : Value) (layer : Layer) :
    (layer.work host.recorded base reply value).Mirrors (layer.work host base reply value) := by
  have p := host.parallel_recorded
  cases layer
  case invoking i =>
    exact .bind (p.apply i value).caught fun _ => p.followResult (p.attemptTo host.depth) i _
  case reading name type =>
    refine .ite (.bind (.of_of _) fun _ => .of_pure _) ?_
    refine .bind (p.read value name).caught fun result => ?_
    rw [p.judgeRead]
    exact .bind (.of_of _) fun _ => .of_pure _
  case matching test description =>
    refine .bind (p.passes test value).caught fun _ => ?_
    exact p.judgeMatch _ test description reply value _

theorem mirrors_receive (host : Host σ) (base : Source) (reply : Value) (layer : Layer) :
    (layer.receive host.recorded base reply).Mirrors (layer.receive host base reply) := by
  have p := host.parallel_recorded
  cases layer
  case invoking i =>
    refine .bind (p.succeeded reply) fun _ => .ite (.of_pure _) ?_
    refine .bind (.caught ?_) fun _ => p.followResult (p.attemptTo host.depth) i _
    exact .bind (p.valueOf reply) fun v => p.apply i v
  all_goals
    refine .bind (p.succeeded reply) fun _ => .ite (.of_pure _) ?_
    exact .bind (p.valueOf reply) fun v => mirrors_work host base reply v _

theorem contacts_of_contact? {value : Value} {contact : Contact} {s : σ}
    (h : layer.contact? value = some contact) : layer.contacts host value s = [contact] := by
  cases layer
  case invoking i =>
    simp only [contact?] at h
    split at h <;> cases h
    case h_1 f op =>
      simp only [contacts, Invocation.apply, op, Value.call]
      rfl
  case reading name type =>
    cases value <;> cases h
    case object => rfl
  case matching test description =>
    cases test <;> cases h
    case callable f =>
      simp only [contacts, Value.passes, Value.call]
      exact Act.journal_bind_of_beside (host.recorded.call f [value] [])
        (k := fun v => .of v.truth) (fun _ => rfl) (s, [])

theorem calls_work (host : Host σ) (base : Source) (reply value : Value) (layer : Layer) (s : σ) :
    ∃ later, (layer.work host.recorded base reply value (s, [])).2.2 =
        layer.contacts host value s ++ later ∧
      (later = [] ∨ ∃ invocation source, layer = .invoking invocation ∧
        (invocation.apply host value s).1 = .ok (.source source)) := by
  cases layer
  case invoking i =>
    have p := host.parallel_recorded
    have follows := p.followResult (p.attemptTo host.depth) i
    have ⟨later, journal, handed⟩ :=
      Act.Mirrors.journal_bind (i.apply host.recorded value).caught follows s
    rw [Act.journal_caught] at journal
    refine ⟨later, journal, ?_⟩
    -- Nothing is asked for after the operation unless what it returns is a source.
    cases handed
    case inl none => exact .inl none
    case inr handed =>
      have ⟨result, t, applied, quiet⟩ := handed
      rw [quiet]
      cases result
      case error => exact .inl rfl
      case ok v =>
        cases v
        case source src =>
          have applied := (p.apply i value).forget (Act.of_caught_ok applied)
          exact .inr ⟨i, src, rfl, congrArg Prod.fst applied⟩
        all_goals exact .inl rfl
  case reading name type =>
    have quiet (result : Except Fault Value) :
        (do return .outcome (← .of (Source.judgeRead host.recorded (.reading base name type) value
          name type result)) : Act (σ × List Contact) Value) =
        (do return .outcome (← .of (Source.judgeRead host (.reading base name type) value name type
          result)) : Act σ Value).beside := by
      rw [Act.beside_bind, host.parallel_recorded.judgeRead]
      rfl
    refine ⟨[], ?_, .inl rfl⟩
    cases null : value.isNull
    case true =>
      simp only [work, null, if_true, contacts, List.append_nil]
      cases base.inspect <;> rfl
    case false =>
      simp only [work, null, Bool.false_eq_true, if_false, contacts, List.append_nil]
      rw [Act.journal_bind_of_beside _ quiet, Act.journal_caught]
  case matching test description =>
    have quiet := Source.judgeMatch_recorded host (.matching 0 base test description) test
      description reply value
    refine ⟨[], ?_, .inl rfl⟩
    rw [work, Act.journal_bind_of_beside _ quiet, Act.journal_caught, contacts, List.append_nil]

end Layer

-- A base with layers on it, the innermost first.
def Source.stack (base : Source) (layers : List Layer) : Source :=
  layers.foldl Layer.on base

-- How far an attempt at a stack has come: the part of the stack that was attempted, what it
-- answered, and what was done outside of the library for that.
structure Stage (σ : Type) where
  source : Source
  answer : Except Fault Value
  state  : σ
  calls  : List Contact

namespace Stage

def first (host : Host σ) (base : Source) (s : σ) : Stage σ :=
  match base.attempt host.recorded (s, []) with
  | (answer, (state, calls)) => ⟨base, answer, state, calls⟩

def after (stage : Stage σ) (source : Source) (act : Act (σ × List Contact) Value) : Stage σ :=
  match act (stage.state, []) with
  | (answer, (state, calls)) => ⟨source, answer, state, stage.calls ++ calls⟩

-- A layer works on a success. A failure is left as it is, and so is a fault.
def next (host : Host σ) (stage : Stage σ) (layer : Layer) : Stage σ :=
  let source := layer.on stage.source
  match stage.answer with
  | .ok (.outcome (.success v)) =>
    stage.after source (layer.work host.recorded stage.source (.outcome (.success v)) v)
  | .ok (.outcome _) => { stage with source }
  | .ok reply        => stage.after source (layer.receive host.recorded stage.source reply)
  | .error _         => { stage with source }

def Tells (host : Host σ) (s : σ) (stage : Stage σ) : Prop :=
  stage.source.attempt host.recorded (s, []) = (stage.answer, (stage.state, stage.calls))

variable {host : Host σ} {s : σ} {stage : Stage σ} {layer : Layer}

theorem tells_first (base : Source) : (first host base s).Tells host s := rfl

theorem source_next : (stage.next host layer).source = layer.on stage.source := by
  unfold next
  split <;> rfl

theorem next_of_success {v : Value} (h : stage.answer = .ok (.outcome (.success v))) :
    stage.next host layer = stage.after (layer.on stage.source)
      (layer.work host.recorded stage.source (.outcome (.success v)) v) := by
  simp only [next, h]

theorem next_of_failure {o : Outcome} (h : stage.answer = .ok (.outcome o))
    (failed : o.isSuccess = false) :
    stage.next host layer = { stage with source := layer.on stage.source } := by
  cases o
  case success => cases failed
  all_goals simp only [next, h]

theorem next_of_error {f : Fault} (h : stage.answer = .error f) :
    stage.next host layer = { stage with source := layer.on stage.source } := by
  simp only [next, h]

theorem next_of_ok {reply : Value} (h : stage.answer = .ok reply) :
    stage.next host layer = stage.after (layer.on stage.source)
      (layer.receive host.recorded stage.source reply) := by
  cases reply
  case outcome o =>
    cases failed : o.isSuccess
    case true =>
      cases o
      case success => rw [next_of_success h, Layer.receive_success]
      all_goals cases failed
    case false =>
      rw [next_of_failure h failed, Layer.receive_failure failed]
      simp [after, h]
  all_goals simp only [next, h]

theorem Tells.next (h : stage.Tells host s) : (stage.next host layer).Tells host s := by
  cases answered : stage.answer
  all_goals rw [Tells, answered] at h
  case error => rw [next_of_error answered, Tells, Layer.attempt_on, Act.bind_apply, h, answered]
  case ok reply =>
    have mirrors := layer.mirrors_receive host stage.source reply
    have alone := mirrors.result_eq stage.state []
    have later := mirrors.append stage.state stage.calls
    rw [next_of_ok answered, Tells, Stage.after, alone, Layer.attempt_on, Act.bind_apply, h]
    exact later

theorem Tells.foldl (h : stage.Tells host s) (layers : List Layer) :
    (layers.foldl (Stage.next host) stage).Tells host s := by
  induction layers generalizing stage
  case nil        => exact h
  case cons _ _ ih => exact ih h.next

theorem source_foldl (layers : List Layer) :
    (layers.foldl (next host) stage).source = stage.source.stack layers := by
  induction layers generalizing stage
  case nil        => rfl
  case cons _ _ ih =>
    rw [List.foldl_cons, ih, source_next]
    rfl

theorem foldl_of_failure {o : Outcome} (h : stage.answer = .ok (.outcome o))
    (failed : o.isSuccess = false) (layers : List Layer) :
    layers.foldl (next host) stage = { stage with source := stage.source.stack layers } := by
  induction layers generalizing stage
  case nil        => rfl
  case cons layer _ ih =>
    have := @ih { stage with source := layer.on stage.source } h
    rw [List.foldl_cons, next_of_failure h failed, this]
    rfl

theorem next_matching_of_passes {v test : Value} {description : Option String} {t : σ}
    (h : stage.answer = .ok (.outcome (.success v)))
    (passed : test.passes host v stage.state = (.ok true, t)) :
    (stage.next host (.matching test description)).answer = stage.answer := by
  have recorded := (host.parallel_recorded.passes test v).result_eq stage.state []
  rw [passed] at recorded
  rw [next_of_success h, after, Layer.work, Act.bind_apply, Act.caught_ok recorded, h]
  rfl

theorem calls_next {v : Value} (h : stage.answer = .ok (.outcome (.success v))) :
    ∃ later, (stage.next host layer).calls =
        stage.calls ++ (layer.contacts host v stage.state ++ later) ∧
      (later = [] ∨ ∃ invocation source, layer = .invoking invocation ∧
        (invocation.apply host v stage.state).1 = .ok (.source source)) := by
  have ⟨later, journal, handed⟩ :=
    layer.calls_work host stage.source (.outcome (.success v)) v stage.state
  rw [next_of_success h]
  exact ⟨later, congrArg (stage.calls ++ ·) journal, handed⟩

def ofStack (host : Host σ) (base : Source) (s : σ) (layers : List Layer) : Stage σ :=
  layers.foldl (next host) (first host base s)

theorem tells_ofStack (host : Host σ) (base : Source) (s : σ) (layers : List Layer) :
    (ofStack host base s layers).Tells host s :=
  (tells_first base).foldl layers

theorem source_ofStack (host : Host σ) (base : Source) (s : σ) (layers : List Layer) :
    (ofStack host base s layers).source = base.stack layers :=
  source_foldl layers

theorem ofStack_append (base : Source) (inner outer : List Layer) :
    ofStack host base s (inner ++ outer) = outer.foldl (next host) (ofStack host base s inner) :=
  List.foldl_append

end Stage

-- An attempt at a stack is an attempt at its base that goes on through the layers. It is over at
-- the first outcome that is no success, and until then each layer does its part once and in its
-- turn.
theorem attempt_stack (host : Host σ) (base : Source) (layers : List Layer) (s : σ) :
    (base.stack layers).attempt host.recorded (s, []) =
      ((Stage.ofStack host base s layers).answer,
        ((Stage.ofStack host base s layers).state, (Stage.ofStack host base s layers).calls)) ∧
    (base.stack layers).attempt host s =
      ((Stage.ofStack host base s layers).answer, (Stage.ofStack host base s layers).state) ∧
    (∀ inner outer o, layers = inner ++ outer →
      (Stage.ofStack host base s inner).answer = .ok (.outcome o) → o.isSuccess = false →
      Stage.ofStack host base s layers =
        { Stage.ofStack host base s inner with source := base.stack layers }) ∧
    (∀ inner layer outer v, layers = inner ++ layer :: outer →
      (Stage.ofStack host base s inner).answer = .ok (.outcome (.success v)) →
      (∃ later, (Stage.ofStack host base s (inner ++ [layer])).calls =
          (Stage.ofStack host base s inner).calls ++
            (layer.contacts host v (Stage.ofStack host base s inner).state ++ later) ∧
        (later = [] ∨ ∃ invocation source, layer = .invoking invocation ∧
          (invocation.apply host v (Stage.ofStack host base s inner).state).1 =
            .ok (.source source))) ∧
      ∀ contact, layer.contact? v = some contact →
        layer.contacts host v (Stage.ofStack host base s inner).state = [contact]) ∧
    (∀ inner test description outer v t, layers = inner ++ .matching test description :: outer →
      (Stage.ofStack host base s inner).answer = .ok (.outcome (.success v)) →
      test.passes host v (Stage.ofStack host base s inner).state = (.ok true, t) →
      (Stage.ofStack host base s (inner ++ [.matching test description])).answer =
        .ok (.outcome (.success v))) := by
  -- The stages of the stack tell all of it: each clause is about one of them.
  have told := Stage.tells_ofStack host base s layers
  rw [Stage.Tells, Stage.source_ofStack] at told
  refine ⟨told, (Source.mirrors_attempt host _).forget told, ?stopped, ?own, ?accepted⟩
  case stopped =>
    rintro inner outer o rfl answered failed
    rw [Stage.ofStack_append, Stage.foldl_of_failure answered failed, Stage.source_ofStack]
    simp [Source.stack]
  case own =>
    rintro inner layer outer v rfl answered
    rw [Stage.ofStack_append]
    exact ⟨Stage.calls_next answered, fun _ => Layer.contacts_of_contact?⟩
  case accepted =>
    rintro inner test description outer v t rfl answered passed
    rw [Stage.ofStack_append, ← answered]
    exact Stage.next_matching_of_passes answered passed

end BoundedWait

import BoundedWait.Logging.Setup

namespace BoundedWait

namespace Level

variable {v w : Value} {l k : Level}

theorem ofValue_toValue (l : Level) : ofValue l.toValue = .ok l := by
  cases l
  all_goals rfl

theorem ofValue_of_unknown {s : String} (nameless : ofName? s = none) :
    ofValue (.text s) = .error (unknown (Text.quoted s)) := by
  simp only [ofValue, ofNumber?, nameless]
  rfl

theorem ofValue_eq_ok (h : ofValue v = .ok l) : v = l.toValue ∨ ∃ s, v = .text s := by
  rcases numbered : ofNumber? v with _ | k
  case none =>
    cases v
    case text s => exact .inr ⟨s, rfl⟩
    all_goals
      simp only [ofValue, numbered] at h
      obtain ⟨_, _, thrown⟩ := Except.bind_eq_ok_iff.mp h
      cases thrown
  case some =>
    left
    cases v
    case number n =>
      cases n
      case float x mark => cases numbered
      all_goals
        cases h
        rfl
    all_goals cases numbered

theorem exists_number (l : Level) : ∃ n, l.toValue = .number n ∧ n.value = .finite l.rank := by
  cases l
  case number n => exact ⟨_, rfl, rfl⟩
  case flag b   => exact ⟨_, rfl, by cases b <;> rfl⟩

theorem rank_eq_of_equals (same : l.toValue.equals k.toValue = true) : l.rank = k.rank := by
  have ⟨n, isNumber, value⟩ := exists_number l
  have ⟨m, isNumber', value'⟩ := exists_number k
  rw [isNumber, isNumber', Value.equals_number, Number.eq, value, value'] at same
  simpa [Extended.eq] using same

theorem toValue_equals_text (l : Level) (s : String) : l.toValue.equals (.text s) = false := by
  have ⟨n, isNumber, _⟩ := exists_number l
  simp [isNumber, Value.equals, Value.agrees]

theorem text_equals_toValue (s : String) (l : Level) :
    (Value.text s).equals l.toValue = false := by
  have ⟨n, isNumber, _⟩ := exists_number l
  simp [isNumber, Value.equals, Value.agrees]

theorem exists_rank_of_equals (same : w.equals v = true)
    (given : (∃ s, v = .text s) ∨ ∃ l : Level, v = l.toValue) (known : ofValue w = .ok l) :
    ∃ k, ofValue v = .ok k ∧ l.rank = k.rank := by
  rcases ofValue_eq_ok known with rfl | ⟨t, rfl⟩
  all_goals rcases given with ⟨s, rfl⟩ | ⟨k, rfl⟩
  case inl.inl => cases (toValue_equals_text l s).symm.trans same
  case inl.inr => exact ⟨k, ofValue_toValue k, rank_eq_of_equals same⟩
  case inr.inl =>
    rw [Value.equals_text, beq_iff_eq] at same
    exact ⟨l, same ▸ known, rfl⟩
  case inr.inr => cases (text_equals_toValue t k).symm.trans same

end Level

namespace Logs

variable {α β γ : Type} {logs logs' : Logs} {r : LogRequest} {v w level : Value}
  {left : Option Value} {f : Fault} {l : Level} {s : String} {layout marking : Except Fault Layout}

def Keeps (part : Logs → γ) (a : Action α) : Prop :=
  ∀ logs, part (a logs).2 = part logs

namespace Keeps

variable {part : Logs → γ} {a : Action α}

theorem of (result : Except Fault α) : Keeps part (Act.of result) := fun _ => rfl

theorem pure (x : α) : Keeps part (Pure.pure x) := fun _ => rfl

theorem eq {result : Except Fault α} (keeps : Keeps part a) (h : a logs = (result, logs')) :
    part logs' = part logs := by
  have same := keeps logs
  rwa [h] at same

theorem bind {k : α → Action β} (first : Keeps part a) (next : ∀ x, Keeps part (k x)) :
    Keeps part (a >>= k) := by
  intro logs
  have same := first logs
  rw [Act.bind_apply]
  rcases made : a logs with ⟨f | x, logs'⟩
  all_goals rw [made] at same
  case error => exact same
  case ok    => exact (next x logs').trans same

end Keeps

def rootLevel (logs : Logs) : Level :=
  logs.loggers.root.level

theorem editRoot_keeps_rootLevel (change : List Handler → List Handler) :
    Keeps rootLevel (editRoot change) := fun _ => rfl

theorem setRootLevel_keeps_remembered (level : Value) : Keeps remembered (setRootLevel level) :=
  .bind (.of _) fun _ _ => rfl

theorem align_keeps {part : Logs → γ}
    (edits : ∀ change : List Handler → List Handler, Keeps part (editRoot change))
    (layout : Except Fault Layout) : Keeps part (align layout) := by
  refine .bind (fun _ => rfl) fun logs => ?_
  cases layout
  case ok    => exact edits _
  case error =>
    dsimp only
    split
    case isTrue  => exact .bind (edits _) fun _ _ => rfl
    case isFalse => exact .pure _

theorem install_keeps_remembered (layout marking : Except Fault Layout) (level : Value) :
    Keeps remembered (install layout marking level) := by
  refine .bind (.of _) fun layout => .bind (fun _ => rfl) fun _ => ?_
  exact .bind (setRootLevel_keeps_remembered level) fun _ => .bind (.of _) fun _ _ => rfl

theorem apply_keeps_remembered (r : LogRequest) (level : Value) :
    Keeps remembered (apply r level) := by
  refine .bind (fun _ => rfl) fun logs => ?_
  dsimp only
  split
  case isTrue => exact .bind (install_keeps_remembered _ _ level) fun _ _ => rfl
  case isFalse =>
    refine .bind (setRootLevel_keeps_remembered level) fun _ => ?_
    exact .bind (align_keeps (fun _ _ => rfl) _) fun _ _ => rfl

theorem setRootLevel_of_error (unknown : Level.ofValue level = .error f) (logs : Logs) :
    setRootLevel level logs = (.error f, logs) := by
  rw [setRootLevel, unknown]
  rfl

theorem level_of_setRootLevel (h : setRootLevel level logs = (.ok (), logs')) :
    Level.ofValue level = .ok logs'.rootLevel := by
  cases known : Level.ofValue level
  case error f =>
    rw [setRootLevel_of_error known] at h
    cases h
  case ok l =>
    rw [setRootLevel, known] at h
    cases h
    rfl

theorem level_of_install (h : install layout marking level logs = (.ok (), logs')) :
    Level.ofValue level = .ok logs'.rootLevel := by
  have ⟨_, _, _, added⟩ := Act.bind_eq_ok_iff.mp h
  have ⟨_, _, _, rest⟩ := Act.bind_eq_ok_iff.mp added
  have ⟨_, _, set, rest⟩ := Act.bind_eq_ok_iff.mp rest
  have ⟨_, _, marked, edited⟩ := Act.bind_eq_ok_iff.mp rest
  have kept := (editRoot_keeps_rootLevel _).eq edited
  cases (Prod.mk.inj marked).2
  exact (level_of_setRootLevel set).trans (congrArg Except.ok kept.symm)

theorem level_of_apply (h : apply r level logs = (.ok (), logs')) :
    Level.ofValue level = .ok logs'.rootLevel := by
  unfold apply at h
  have ⟨_, _, here, rest⟩ := Act.bind_eq_ok_iff.mp h
  cases here
  dsimp only at rest
  split at rest
  -- What is done after the level was set does not change it.
  case isTrue =>
    have ⟨_, _, installed, propagated⟩ := Act.bind_eq_ok_iff.mp rest
    have set := level_of_install installed
    cases propagated
    exact set
  case isFalse =>
    have ⟨_, _, set, rest⟩ := Act.bind_eq_ok_iff.mp rest
    have ⟨_, _, aligned, propagated⟩ := Act.bind_eq_ok_iff.mp rest
    cases propagated
    have kept := (align_keeps editRoot_keeps_rootLevel _).eq aligned
    exact (level_of_setRootLevel set).trans (congrArg Except.ok kept.symm)

theorem configure_cases (fresh : logs.isRemembered (logs.levelFor r) = false) :
    (∃ logs', apply r (logs.levelFor r) { logs with remembered := logs.levelFor r } =
        (.ok (), logs') ∧ configure r logs = (.ok (logs.levelFor r), logs')) ∨
    ∃ f logs', apply r (logs.levelFor r) { logs with remembered := logs.levelFor r } =
        (.error f, logs') ∧ configure r logs = (.error f, logs') := by
  simp only [configure, Act.get, fresh, remember, Act.update, Act.bind_apply, Bool.false_eq_true,
    if_false]
  rcases apply r (logs.levelFor r) { logs with remembered := logs.levelFor r } with ⟨f | _, logs'⟩
  case error => exact .inr ⟨f, logs', rfl, rfl⟩
  case ok    => exact .inl ⟨logs', rfl, rfl⟩

def Usual (v : Value) : Prop :=
  v = .null ∨ (∃ s, v = .text s) ∨ ∃ l : Level, v = l.toValue

theorem levelFor_of_usual (usual : Usual r.level) :
    (∃ s, logs.levelFor r = .text s) ∨ ∃ l : Level, logs.levelFor r = l.toValue := by
  unfold levelFor
  rcases usual with none | ⟨s, named⟩ | ⟨l, numbered⟩
  case inl     => exact .inl ⟨_, by rw [none]⟩
  case inr.inl => exact .inl ⟨_, by rw [named]⟩
  case inr.inr =>
    rw [numbered]
    exact .inr ⟨l, by cases l <;> rfl⟩

-- What a sequence of calls may lead to. Between the calls anything may happen that does not change
-- what is remembered and the level of the root. If the last call that did not find its level
-- remembered has failed, it is `left` that it was about.
inductive Reached : Option Value → Logs → Prop
  | fresh {logs : Logs} (nothing : logs.remembered.truthy = false) : Reached none logs
  | meanwhile {left : Option Value} {logs logs' : Logs} (reached : Reached left logs)
    (remembered : logs'.remembered = logs.remembered) (level : logs'.rootLevel = logs.rootLevel) :
    Reached left logs'
  | recalled {left : Option Value} {logs logs' : Logs} {r : LogRequest} {v : Value}
    (reached : Reached left logs) (known : logs.isRemembered (logs.levelFor r) = true)
    (returned : configure r logs = (.ok v, logs')) : Reached left logs'
  | applied {left : Option Value} {logs logs' : Logs} {r : LogRequest} {v : Value}
    (reached : Reached left logs) (fresh : logs.isRemembered (logs.levelFor r) = false)
    (returned : configure r logs = (.ok v, logs')) : Reached none logs'
  | raised {left : Option Value} {logs logs' : Logs} {r : LogRequest} {f : Fault}
    (reached : Reached left logs) (raised : configure r logs = (.error f, logs')) :
    Reached (some (logs.levelFor r)) logs'

-- What a call has left behind is remembered, or else the root has the level that is remembered.
def Consistent : Option Value → Logs → Prop
  | some v, logs => logs.remembered = v
  | none, logs   => logs.remembered.truthy = true →
    ∃ l, Level.ofValue logs.remembered = .ok l ∧ logs.rootLevel.rank = l.rank

theorem level_of_configure (fresh : logs.isRemembered (logs.levelFor r) = false)
    (returned : configure r logs = (.ok v, logs')) :
    logs'.remembered = v ∧ Level.ofValue v = .ok logs'.rootLevel := by
  rcases configure_cases fresh with ⟨_, applied, answered⟩ | ⟨_, _, _, answered⟩
  all_goals cases answered.symm.trans returned
  exact ⟨(apply_keeps_remembered r _).eq applied, level_of_apply applied⟩

theorem remembered_of_raised (raised : configure r logs = (.error f, logs')) :
    logs'.remembered = logs.levelFor r := by
  cases fresh : logs.isRemembered (logs.levelFor r)
  case true => cases (configure_of_remembered fresh).symm.trans raised
  case false =>
    rcases configure_cases fresh with ⟨_, _, answered⟩ | ⟨_, _, failed, answered⟩
    all_goals cases answered.symm.trans raised
    exact (apply_keeps_remembered r _).eq failed

theorem Reached.consistent (reached : Reached left logs) : Consistent left logs := by
  induction reached
  case fresh nothing =>
    intro something
    cases nothing.symm.trans something
  case meanwhile left logs logs' _ remembered level ih =>
    cases left
    case none =>
      intro something
      rw [remembered] at something ⊢
      rw [level]
      exact ih something
    case some v => exact remembered.trans ih
  -- A call that finds its level remembered does nothing.
  case recalled known returned ih =>
    cases (configure_of_remembered known).symm.trans returned
    exact ih
  case applied fresh returned _ =>
    have ⟨remembered, level⟩ := level_of_configure fresh returned
    exact fun _ => ⟨_, remembered ▸ level, rfl⟩
  case raised raised _ => exact remembered_of_raised raised

def withHandlers (logs : Logs) (handlers : List Handler) : Logs :=
  { logs with loggers := { logs.loggers with root := { logs.loggers.root with handlers } } }

theorem withHandlers_self (logs : Logs) : logs.withHandlers logs.loggers.root.handlers = logs := rfl

theorem apply_of_handled (there : logs.loggers.root.handlers.isEmpty = false)
    (unknown : Level.ofValue level = .error f) : apply r level logs = (.error f, logs) := by
  simp only [apply, Act.bind_apply, Act.get, there, setRootLevel_of_error unknown,
    Bool.false_eq_true, if_false]

theorem install_of_unknown (layout : Layout) (unknown : Level.ofValue level = .error f) :
    install (.ok layout) marking level logs = (.error f, logs.withHandlers
      (logs.loggers.root.handlers ++ [⟨.stream, Level.unset, some layout⟩])) := by
  -- The level is refused after the handler was added.
  simp only [install, Act.bind_apply, Act.of_apply, setRootLevel_of_error unknown]
  rfl

def firstLayout (logs : Logs) (r : LogRequest) : Except Fault Layout :=
  Layout.make (logs.templateFor r) (some (logs.dateFormatFor r)) none

-- What is raised if there is no such level, and which handlers the root has from then on. Those
-- that are there stay as they are. Otherwise one has been added by then, unless there is no layout
-- for it.
inductive Refused (unknown : Fault) (layout : Except Fault Layout) :
    List Handler → Fault → List Handler → Prop
  | handled {h : Handler} {hs : List Handler} :
    Refused unknown layout (h :: hs) unknown (h :: hs)
  | added {first : Layout} (made : layout = .ok first) :
    Refused unknown layout [] unknown [⟨.stream, Level.unset, some first⟩]
  | bare {f : Fault} (broken : layout = .error f) : Refused unknown layout [] f []

theorem apply_of_unknown (r : LogRequest) (logs : Logs) (unknown : Level.ofValue level = .error f) :
    ∃ g handlers, apply r level logs = (.error g, logs.withHandlers handlers) ∧
      Refused f (logs.firstLayout r) logs.loggers.root.handlers g handlers := by
  cases there : logs.loggers.root.handlers
  case cons h hs =>
    refine ⟨f, h :: hs, ?_, .handled⟩
    rw [apply_of_handled (by rw [there]; rfl) unknown, ← there, withHandlers_self]
  case nil =>
    have begun : apply r level logs = (do
        install (logs.firstLayout r)
          (Layout.make (logs.templateFor r) (some (logs.dateFormatFor r)) (some logs.supportsColor))
          level
        propagate r.propagateRoot : Action Unit) logs := by
      simp only [apply, firstLayout, Act.bind_apply, Act.get, there, List.isEmpty_nil, if_true]
    rw [begun, Act.bind_apply]
    cases made : logs.firstLayout r
    case error g =>
      refine ⟨g, [], ?_, .bare rfl⟩
      rw [← there, withHandlers_self]
      rfl
    case ok first =>
      refine ⟨f, _, ?_, .added rfl⟩
      rw [install_of_unknown first unknown, there]
      rfl

theorem configure_of_unknown (fresh : logs.isRemembered (logs.levelFor r) = false)
    (named : logs.levelFor r = .text s) (unknown : Level.ofName? s = none) :
    ∃ f handlers,
      configure r logs = (.error f, { logs.withHandlers handlers with remembered := .text s }) ∧
      Refused (Level.unknown (Text.quoted s)) (logs.firstLayout r) logs.loggers.root.handlers f
        handlers := by
  have failed := Level.ofValue_of_unknown unknown
  rcases configure_cases fresh with ⟨_, applied, _⟩ | ⟨f, logs', applied, answered⟩
  all_goals rw [named] at applied
  case inl => cases (level_of_apply applied).symm.trans failed
  case inr =>
    have ⟨g, handlers, made, refused⟩ :=
      apply_of_unknown r { logs with remembered := .text s } failed
    cases applied.symm.trans made
    exact ⟨f, handlers, answered, refused⟩

-- A level that is answered is that of the root, unless it is what the last attempt has left behind.
-- A name that is none of a level raises, but it is left behind, and then it is answered as well.
theorem configure_of_reached (usual : Usual r.level) (reached : Reached left logs) :
    (∀ v logs', configure r logs = (.ok v, logs') → (∀ w, left = some w → w.equals v = false) →
      ∃ l, Level.ofValue v = .ok l ∧ logs'.rootLevel.rank = l.rank) ∧
    (∀ s, logs.levelFor r = .text s → Level.ofName? s = none →
      logs.isRemembered (.text s) = false →
      ∃ f handlers,
        configure r logs = (.error f, { logs.withHandlers handlers with remembered := .text s }) ∧
        Refused (Level.unknown (Text.quoted s)) (logs.firstLayout r) logs.loggers.root.handlers f
          handlers) ∧
    ∀ w, left = some w → w.truthy = true → w.equals (logs.levelFor r) = true →
      configure r logs = (.ok (logs.levelFor r), logs) := by
  have consistent := reached.consistent
  refine ⟨?answered, fun s named unknown fresh => ?unknown, ?left⟩
  case unknown => exact configure_of_unknown (named ▸ fresh) named unknown
  case answered =>
    intro v logs' returned other
    cases known : logs.isRemembered (logs.levelFor r)
    case false =>
      have ⟨_, level⟩ := level_of_configure known returned
      exact ⟨_, level, rfl⟩
    case true =>
      cases (configure_of_remembered known).symm.trans returned
      have ⟨something, same⟩ := Bool.and_eq_true_iff.mp known
      cases left
      case some w => cases (other w rfl).symm.trans (consistent ▸ same)
      case none =>
        have ⟨l, level, rank⟩ := consistent something
        have ⟨k, level', rank'⟩ :=
          Level.exists_rank_of_equals same (levelFor_of_usual usual) level
        exact ⟨k, level', rank.trans rank'⟩
  case left =>
    rintro w rfl something same
    refine configure_of_remembered ?_
    have remembered : logs.remembered = w := consistent
    rw [isRemembered, remembered, something, same]
    rfl

def hosted : Logs :=
  (addHandler Loggers.rootName ⟨.stream, Level.unset, none⟩ (initial .empty)).2

def asking (level : String) : LogRequest :=
  ⟨.text level, none, none, false⟩

theorem usual_asking (level : String) : Usual (asking level).level :=
  .inr (.inl ⟨level, rfl⟩)

theorem reached_hosted : Reached none hosted :=
  .fresh rfl

theorem configure_of_reached_hosted :
    (∃ v logs' l, configure (asking "info") hosted = (.ok v, logs') ∧
      Level.ofValue v = .ok l ∧ logs'.rootLevel.rank = l.rank) ∧
    ∃ f logs', configure (asking "bogus") hosted = (.error f, logs') ∧
      configure (asking "bogus") logs' = (.ok (.text "BOGUS"), logs') := by
  constructor
  case left =>
    have ⟨answered, _, _⟩ := configure_of_reached (usual_asking "info") reached_hosted
    have returned : ((configure (asking "info") hosted).1).toOption.isSome = true := by
      decide +kernel
    rcases made : configure (asking "info") hosted with ⟨f | v, logs'⟩
    case error =>
      rw [made] at returned
      cases returned
    case ok =>
      have ⟨l, level, rank⟩ := answered v logs' made nofun
      exact ⟨v, logs', l, rfl, level, rank⟩
  case right =>
    have ⟨_, unknown, _⟩ := configure_of_reached (usual_asking "bogus") reached_hosted
    have ⟨f, handlers, raised, _⟩ := unknown "BOGUS" rfl (by decide +kernel) rfl
    have ⟨_, _, again⟩ := configure_of_reached (usual_asking "bogus") (reached_hosted.raised raised)
    exact ⟨f, _, raised, again _ rfl rfl ((Value.equals_text _ _).trans (beq_self_eq_true _))⟩

theorem configure_bogus :
    configure (asking "bogus") hosted =
      (.error (Level.unknown (Text.quoted "BOGUS")),
        { hosted with remembered := .text "BOGUS" }) ∧
    configure (asking "bogus") { hosted with remembered := .text "BOGUS" } =
      (.ok (.text "BOGUS"), { hosted with remembered := .text "BOGUS" }) := by
  constructor
  case left =>
    have fresh : hosted.isRemembered (hosted.levelFor (asking "bogus")) = false := rfl
    have ⟨_, _, raised, refused⟩ := configure_of_unknown fresh rfl (by decide +kernel)
    cases refused
    exact raised
  case right => exact configure_of_remembered (by decide +kernel)

theorem configure_pretends :
    ¬ ∀ (logs logs' : Logs) (r : LogRequest) (f : Fault), Usual r.level →
      Level.ofValue (logs.levelFor r) = .error f → configure r logs = (.error f, logs') →
      logs'.remembered = logs.remembered ∧ logs'.rootLevel = logs.rootLevel ∧
      logs'.loggers.root.handlers = logs.loggers.root.handlers ∧
      ∃ g logs'', configure r logs' = (.error g, logs'') := by
  intro claimed
  have unknown : Level.ofValue (hosted.levelFor (asking "bogus")) =
      .error (Level.unknown (Text.quoted "BOGUS")) :=
    Level.ofValue_of_unknown (by decide +kernel)
  have ⟨raised, answered⟩ := configure_bogus
  have ⟨_, _, _, g, _, again⟩ := claimed _ _ _ _ (usual_asking "bogus") unknown raised
  cases answered.symm.trans again

end Logs

end BoundedWait

import BoundedWait.Proofs.Wait.Record

namespace BoundedWait

namespace Act

variable {σ ε α β γ δ : Type}

-- The first computation does what the second one does, with another reading of what it writes and
-- of what it results in, provided that everything that is written is harmless.
def Shadows (harmless : ε → Prop) (reread : ε → ε) (f : α → β) (b : Act (σ × List ε) β)
    (a : Act (σ × List ε) α) : Prop :=
  ∀ s old, old <+: (a (s, old)).2.2 ∧
    ((∀ e ∈ (a (s, old)).2.2, harmless e) →
      b (s, old.map reread) =
        ((a (s, old)).1.map f, ((a (s, old)).2.1, (a (s, old)).2.2.map reread)))

theorem map_eq (f : α → β) (a : Act σ α) (s : σ) : (f <$> a) s = ((a s).1.map f, (a s).2) := by
  rw [map_apply]
  cases a s
  case mk r t => cases r <;> rfl

namespace Shadows

variable {harmless : ε → Prop} {reread : ε → ε} {f : α → β}

theorem of_beside (a : Act σ α) : Shadows harmless reread id a.beside a.beside := by
  refine fun s old => ⟨List.prefix_refl old, fun _ => ?_⟩
  simp [beside]

theorem of_of (r : Except Fault α) :
    Shadows harmless reread id (.of r : Act (σ × List ε) α) (.of r) :=
  of_beside (.of r)

theorem of_pure {x : α} {y : β} (same : y = f x) :
    Shadows harmless reread f (pure y : Act (σ × List ε) β) (pure x) :=
  fun _ old => ⟨List.prefix_refl old, fun _ => by rw [same]; rfl⟩

theorem of_noted {a : Act σ α} {b : Act σ β} {entry : Except Fault α → ε}
    {entry' : Except Fault β → ε} (same : ∀ r, reread (entry r) = entry' (r.map f))
    (h : ∀ s, harmless (entry (a s).1) → b s = ((a s).1.map f, (a s).2)) :
    Shadows harmless reread f (b.noted entry') (a.noted entry) := by
  refine fun s old => ⟨List.prefix_append old _, fun sound => ?_⟩
  have made := h s (sound _ (List.mem_append_right old (List.mem_singleton_self _)))
  simp [noted, made, same]

theorem of_noted_self {entry : Except Fault α → ε} (same : ∀ r, reread (entry r) = entry r)
    (a : Act σ α) : Shadows harmless reread id (a.noted entry) (a.noted entry) :=
  of_noted (fun r => by rw [same, Except.map_id]; rfl) fun s _ => by rw [Except.map_id]; rfl

theorem bind {g : γ → δ} {a : Act (σ × List ε) α} {b : Act (σ × List ε) β}
    {k : α → Act (σ × List ε) γ} {l : β → Act (σ × List ε) δ}
    (h : Shadows harmless reread f b a) (hk : ∀ x, Shadows harmless reread g (l (f x)) (k x)) :
    Shadows harmless reread g (b >>= l) (a >>= k) := by
  intro s old
  have ⟨grown, same⟩ := h s old
  cases made : a (s, old)
  case mk r t =>
    rw [made] at grown same
    cases r
    case error e =>
      simp only [bind_apply, made]
      exact ⟨grown, fun sound => by simp [same sound, Except.map]⟩
    case ok x =>
      have ⟨grown', same'⟩ := hk x t.1 t.2
      simp only [bind_apply, made]
      refine ⟨grown.trans grown', fun sound => ?_⟩
      -- What the first computation wrote stands at the beginning of all that is written, so it is
      -- harmless too.
      have := same fun e mem => sound e (grown'.subset mem)
      simp [this, Except.map, same' sound]

theorem ite {c : Prop} [Decidable c] {a a' : Act (σ × List ε) α} {b b' : Act (σ × List ε) β}
    (h : Shadows harmless reread f b a) (h' : Shadows harmless reread f b' a') :
    Shadows harmless reread f (if c then b else b') (if c then a else a') := by
  split
  case isTrue  => exact h
  case isFalse => exact h'

end Shadows

end Act

def Trial.examined (examine : Value → Option Value) (t : Trial) : Trial :=
  ⟨t.reply, examine t.reply⟩

def Round.examined {τ : Type} (examine : Value → Option Value) (r : Round τ) : Round τ :=
  { r with trial := r.trial.examined examine }

namespace Plan

namespace Event

variable {τ : Type}

def examined (examine : Value → Option Value) : Event τ → Event τ
  | attempt answer => attempt (answer.map (Trial.examined examine))
  | e              => e

def shown? : Event τ → Option Value
  | observe _ reply _ => some reply
  | _                 => none

abbrev shown (journal : List (Event τ)) : List Value :=
  journal.filterMap shown?

instance decidableIsOutcome (v : Value) : Decidable (∃ o, v = .outcome o) :=
  decidable_of_iff (v.outcome?.isSome = true) (by
    simp only [Option.isSome_iff_exists, Value.outcome?_eq_some_iff])

def Harmless (e : Event τ) : Prop :=
  ∀ reply, e.shown? = some reply → ∃ o, reply = .outcome o

end Event

variable {σ τ : Type}

def watchedBy (p : Plan σ τ) (examine : Value → Option Value) (observe : Nat → Value → Act σ Unit) :
    Plan σ τ :=
  { p with
    attempt := Trial.examined examine <$> p.attempt
    observe := observe }

variable {p : Plan σ τ} {examine : Value → Option Value} {observe : Nat → Value → Act σ Unit}
         {start : τ} {n fuel : Nat}

theorem shadows_observe (same : ∀ n o, observe n (.outcome o) = p.observe n (.outcome o))
    (n : Nat) (v : Value) :
    Act.Shadows Event.Harmless (Event.examined examine) id
      ((p.watchedBy examine observe).recorded.observe n v) (p.recorded.observe n v) := by
  refine .of_noted (fun r => by simp [Event.examined]) fun s harmless => ?_
  obtain ⟨o, rfl⟩ := harmless v rfl
  rw [Except.map_id]
  exact congrFun (same n o) s

variable [Span τ]

theorem shadows_look (same : ∀ n o, observe n (.outcome o) = p.observe n (.outcome o)) :
    Act.Shadows Event.Harmless (Event.examined examine) (fun x => (x.1.examined examine, x.2))
      ((p.watchedBy examine observe).recorded.look start n) (p.recorded.look start n) :=
  .bind (.of_noted (fun _ => rfl) fun s _ => Act.map_eq _ p.attempt s) fun trial =>
  .bind (.of_noted_self (fun _ => by rfl) _) fun _ =>
  .bind (.of_of _) fun _ =>
  .bind (shadows_observe same n trial.reply) fun _ =>
  .bind (.of_beside _) fun _ => .of_pure rfl

theorem shadows_settle {pending : Pending τ} {r : Round τ} (j : Judgement) :
    Act.Shadows Event.Harmless (Event.examined examine) id
      ((p.watchedBy examine observe).recorded.settle pending (r.examined examine) j)
      (p.recorded.settle pending r j) := by
  cases j
  case resolved =>
    exact
      .bind (.ite (.of_beside _) (.of_pure rfl)) fun _ =>
      .bind (.of_beside _) fun _ => .of_pure rfl
  case failed =>
    exact
      .ite (.bind (.of_beside _) fun _ => .of_pure rfl) <|
      .bind (.of_of _) fun _ =>
      .ite (.bind (.of_beside _) fun _ => .of_pure rfl) <|
      .bind (.of_noted_self (fun _ => by rfl) _) fun _ =>
      .bind (.of_beside _) fun _ => .of_pure rfl

theorem shadows_step (same : ∀ n o, observe n (.outcome o) = p.observe n (.outcome o))
    (pending : Pending τ) :
    Act.Shadows Event.Harmless (Event.examined examine) (fun x => (x.1.examined examine, x.2))
      ((p.watchedBy examine observe).recorded.step pending) (p.recorded.step pending) :=
  .bind (shadows_look same) fun (_, j) =>
  .bind (shadows_settle j) fun _ => .of_pure rfl

def ended (examine : Value → Option Value) :
    Option (Finish τ × List Trial) → Option (Finish τ × List Trial) :=
  Option.map fun (finish, trials) => (finish, trials.map (Trial.examined examine))

theorem shadows_run (same : ∀ n o, observe n (.outcome o) = p.observe n (.outcome o))
    (pending : Pending τ) (trials : List Trial) :
    Act.Shadows Event.Harmless (Event.examined examine) (ended examine)
      ((p.watchedBy examine observe).recorded.run fuel pending
        (trials.map (Trial.examined examine)))
      (p.recorded.run fuel pending trials) := by
  induction fuel generalizing pending trials
  case zero => exact .of_pure rfl
  case succ ih =>
    rw [run_succ, run_succ]
    refine .bind (shadows_step same pending) fun (trial, progress) => ?_
    cases progress
    case done             => exact .of_pure rfl
    case again delay next =>
      exact .bind (.of_noted_self (fun _ => by rfl) _) fun _ => ih next (trial :: trials)

theorem shadows_wait (same : ∀ n o, observe n (.outcome o) = p.observe n (.outcome o)) :
    Act.Shadows Event.Harmless (Event.examined examine) (ended examine)
      ((p.watchedBy examine observe).recorded.wait fuel) (p.recorded.wait fuel) :=
  .bind (.bind (.of_noted_self (fun _ => by rfl) _) fun _ => .of_pure rfl) fun pending =>
    shadows_run same pending []

theorem wait_watchedBy {r : Except Fault (Option (Finish τ × List Trial))} {s s' : σ}
    {journal : List (Event τ)}
    (same : ∀ n o, observe n (.outcome o) = p.observe n (.outcome o))
    (h : p.recorded.wait fuel (s, []) = (r, (s', journal)))
    (answered : ∀ reply ∈ Event.shown journal, ∃ o, reply = .outcome o) :
    (p.watchedBy examine observe).recorded.wait fuel (s, []) =
      (r.map (ended examine), (s', journal.map (Event.examined examine))) := by
  have shadows : Act.Shadows Event.Harmless (Event.examined examine) (ended examine)
      ((p.watchedBy examine observe).recorded.wait fuel) (p.recorded.wait fuel) :=
    shadows_wait same
  have ⟨_, watched⟩ := shadows s []
  rw [h] at watched
  exact watched fun e mem reply shown => answered reply (List.mem_filterMap.mpr ⟨e, mem, shown⟩)

theorem shown_journal {laps : List (Lap τ)} :
    Event.shown (Lap.journal n laps) = laps.map (·.trial.reply) := by
  induction laps generalizing n
  case nil => rfl
  case cons l laps ih =>
    simp [Lap.journal, Lap.asked, Round.events, List.filterMap_cons, Event.shown?, ih]

theorem shown_of_wait {finish : Finish τ} {trials : List Trial} {s : σ}
    {s' : σ × List (Event τ)}
    (h : p.recorded.wait fuel (s, []) = (.ok (some (finish, trials)), s')) :
    Event.shown s'.2 = trials.reverse.map (·.reply) := by
  have ⟨start, s₁, laps, s₂, last, read, made, finished, _, counted⟩ := wait_eq_some h
  rw [counted, finished.journal, made.journal, (Act.noted_eq_iff.mp read).2]
  simp [trialsOf, shown_journal, Round.events, List.filterMap_cons, Event.shown?]

end Plan

end BoundedWait

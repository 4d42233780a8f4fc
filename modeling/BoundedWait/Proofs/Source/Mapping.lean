import BoundedWait.Proofs.Predicate.ShortCircuit
import BoundedWait.Proofs.Source.Stack

namespace BoundedWait

variable {σ : Type} {host : Host σ}

-- A value that an operation may result in and that stands for nothing but itself.
def Value.isPlain : Value → Bool
  | .outcome _ | .source _ => false
  | _                      => true

theorem Invocation.make_of_isCallable {f : Value} (callable : f.isCallable = true)
    (args : List Value) (keywords : List (String × Value)) (retryOn : List FaultClass) :
    make f args keywords retryOn = .ok (mk (.operation f) args (named keywords) retryOn) := by
  cases f
  all_goals first | rfl | cases callable

theorem Source.followResult_of_isPlain {v : Value} (plain : v.isPlain = true)
    (follow : Source → Act σ Value) (invocation : Invocation) :
    followResult follow invocation (.ok v) = return .outcome (.success v) := by
  cases v
  all_goals first | rfl | cases plain

theorem Source.attempt_invoking_direct (host : Host σ) (v : Value) (i : Invocation) :
    (invoking (.direct v) i).attempt host = (do
      let result ← (i.apply host v).caught
      followResult (attemptTo host host.depth) i result) := by
  have layered := (Layer.invoking i).attempt_on host (.direct v)
  rw [attempt_direct, pure_bind, Layer.receive_success] at layered
  exact layered

namespace Outcome

theorem map_success (f : Value → Act σ Value) (v : Value) :
    (success v).map f = (do
      match ← (f v).caught with
      | .ok w    => return success w
      | .error e => return classify e []) := rfl

theorem map_pure (o : Outcome) : o.map (pure : Value → Act σ Value) = pure o := by
  cases o <;> rfl

theorem isSuccess_classify (f : Fault) (retryOn : List FaultClass) :
    (classify f retryOn).isSuccess = false := by
  rw [← Bool.not_eq_true, isSuccess_iff, classify_cause]
  simp

-- What ends the first function is classified by the first map and passes through the second one; a
-- map of both has only one chance to classify it.
theorem map_map (f g : Value → Act σ Value) (o : Outcome) :
    (do (← o.map f).map g) = o.map (fun v => do g (← f v)) := by
  cases succeeded : o.isSuccess
  case false => simp only [map_eq_self _ succeeded, pure_bind]
  case true =>
    cases o <;> cases succeeded
    case success v =>
      simp only [map_success, Act.caught_bind, bind_assoc]
      refine congrArg (_ >>= ·) (funext fun first => ?_)
      cases first
      case ok w    => simp only [pure_bind, map_success]
      case error e => simp only [pure_bind, map_eq_self _ (isSuccess_classify e [])]

theorem foldlM_map_eq_self {o : Outcome} (fs : List (Value → Act σ Value))
    (failed : o.isSuccess = false) : fs.foldlM (fun o f => o.map f) o = pure o := by
  induction fs
  case nil          => rfl
  case cons f fs ih => rw [List.foldlM_cons, map_eq_self f failed, pure_bind, ih]

theorem attempt_invoking_eq_map {v f : Value} {s : σ} (callable : f.isCallable = true)
    (plain : ∀ w s', f.call host [v] [] s = (.ok w, s') → w.isPlain = true) :
    ∃ i, Invocation.make f [] [] [] = .ok i ∧
      (Source.invoking (.direct v) i).attempt host s =
        (Value.outcome <$> (success v).map fun v => f.call host [v] []) s := by
  refine ⟨_, Invocation.make_of_isCallable callable [] [] [], ?_⟩
  rw [Source.attempt_invoking_direct, map_success, Act.map_apply, Act.bind_apply, Act.bind_apply]
  simp only [Invocation.apply, Invocation.selector, Invocation.args, Invocation.keywords,
    Invocation.named, List.foldl_nil]
  rcases made : (f.call host [v] []).caught s with ⟨fatal | e | w, s'⟩
  case error    => rfl
  case ok.error => rfl
  case ok.ok =>
    simp only [Source.followResult_of_isPlain (plain w s' (Act.of_caught_ok made))]
    rfl

theorem maps_compose (host : Host σ) :
    (∀ (o : Outcome) (f g : Value → Act σ Value),
      (do (← o.map f).map g) = o.map (fun v => do g (← f v))) ∧
    (∀ o : Outcome, o.map (pure : Value → Act σ Value) = pure o) ∧
    (∀ (o : Outcome) (fs : List (Value → Act σ Value)), o.isSuccess = false →
      fs.foldlM (fun o f => o.map f) o = pure o) ∧
    (∀ (v f : Value) (s : σ), f.isCallable = true →
      (∀ w s', f.call host [v] [] s = (.ok w, s') → w.isPlain = true) →
      ∃ i, Invocation.make f [] [] [] = .ok i ∧
        (Source.invoking (.direct v) i).attempt host s =
          (Value.outcome <$> (success v).map fun v => f.call host [v] []) s) :=
  ⟨fun o f g => map_map f g o, map_pure, fun _ fs => foldlM_map_eq_self fs,
    fun _ _ _ => attempt_invoking_eq_map⟩

theorem maps_compose_constructed :
    (∀ w s', (Value.type "bool").call .failing [.text "ready"] [] 0 = (.ok w, s') →
      w.isPlain = true) ∧
    (∃ i, Invocation.make (.type "bool") [] [] [] = .ok i ∧
      (Source.invoking (.direct (.text "ready")) i).attempt .failing 0 =
        (.ok (.outcome (.success (.bool true))), 0)) ∧
    [fun v => Value.probe.call .failing [v] []].foldlM (fun o f => o.map f)
      (terminal (Fault.saying .valueError "") .null) =
        (pure (terminal (Fault.saying .valueError "") .null) : Act Nat Outcome) := by
  have called : (Value.type "bool").call .failing [.text "ready"] [] 0 =
      (.ok (.bool true), 0) := by
    simp only [Value.call]
    rfl
  have plain (w : Value) (s' : Nat)
      (h : (Value.type "bool").call .failing [.text "ready"] [] 0 = (.ok w, s')) :
      w.isPlain = true := by
    cases called.symm.trans h
    rfl
  have ⟨_, _, passed, invoked⟩ := maps_compose Host.failing
  have ⟨i, made, attempted⟩ := invoked (.text "ready") (.type "bool") 0 rfl plain
  refine ⟨plain, ⟨i, made, attempted.trans ?_⟩, passed _ _ rfl⟩
  rw [map_success, Act.map_apply, Act.bind_apply, Act.caught_ok called]
  rfl

end Outcome

end BoundedWait

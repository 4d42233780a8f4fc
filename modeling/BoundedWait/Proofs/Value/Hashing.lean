import BoundedWait.Invocation
import BoundedWait.Value.Hash
import BoundedWait.Config.Keyed
import BoundedWait.Proofs.Number.Double

namespace BoundedWait

-- Two results of hashing that cannot be told apart: one and the same digest, or none because of a
-- type that cannot be hashed, or none because descriptors lie too deep in one another.
inductive HashedAlike {α : Type} : Except Fault α → Except Fault α → Prop
  | hashed (d : α) : HashedAlike (.ok d) (.ok d)
  | unhashable {f g : Fault} (hf : f.isA BuiltinClass.typeError = true)
    (hg : g.isA BuiltinClass.typeError = true) : HashedAlike (.error f) (.error g)
  | tooDeep {f g : Fault} (hf : f.isA BuiltinClass.recursionError = true)
    (hg : g.isA BuiltinClass.recursionError = true) : HashedAlike (.error f) (.error g)

namespace HashedAlike

variable {α β : Type} {a b : Except Fault α} {k l : α → Except Fault β}

theorem bind (first : HashedAlike a b) (next : ∀ d, HashedAlike (k d) (l d)) :
    HashedAlike (a >>= k) (b >>= l) := by
  cases first
  case hashed d         => exact next d
  case unhashable hf hg => exact .unhashable hf hg
  case tooDeep hf hg    => exact .tooDeep hf hg

theorem typed (type : String) :
    HashedAlike (.error (Misuse.unhashable type).fault : Except Fault α)
      (.error (Misuse.unhashable type).fault) :=
  .unhashable rfl rfl

theorem inside {room : Nat} {k l : Nat → Except Fault α}
    (next : ∀ room, HashedAlike (k room) (l room)) :
    HashedAlike (Digest.inside room >>= k) (Digest.inside room >>= l) := by
  cases room
  case zero      => exact .tooDeep rfl rfl
  case succ room => exact next room

end HashedAlike

mutual

-- The values that hashing a thing comes down to and whose equality is a matter of their own:
-- octets, sets and objects.

def Value.leaves : Value → List Value
  | .bytes octets     => [.bytes octets]
  | .bytearray octets => [.bytearray octets]
  | .set items        => [.set items]
  | .frozenset items  => [.frozenset items]
  | .object o         => [.object o]
  | .tuple items      => Value.leavesOfAll items
  | .source s         => s.leaves
  | .outcome o        => o.leaves
  | .null | .number _ | .text _ | .list _ | .dict _ | .type _ | .callable _ | .method _ _ _
  | .fault _ | .predicate _ => []

def Value.leavesOfAll : List Value → List Value
  | []      => []
  | v :: vs => v.leaves ++ Value.leavesOfAll vs

def Outcome.leaves : Outcome → List Value
  | .success v | .retryable _ v | .terminal _ v => v.leaves

def Source.leaves : Source → List Value
  | .direct v               => v.leaves
  | .accessor f _ _ _ _     => f.leaves
  | .invoking base i        => base.leaves ++ i.leaves
  | .reading base _ _       => base.leaves
  | .matching _ base test _ => base.leaves ++ test.leaves
  | .absent _ | .custom _ _ => []

def Invocation.leaves : Invocation → List Value
  | .mk selector args _ _ => selector.leaves ++ Value.leavesOfAll args

def Selector.leaves : Selector → List Value
  | .member _    => []
  | .operation f => f.leaves

end

def HashLawful (as bs : List Value) : Prop :=
  ∀ v ∈ as, ∀ w ∈ bs, v.agrees w = true →
    ∀ room, HashedAlike (v.digestTo room) (w.digestTo room)

namespace HashLawful

variable {as as' bs bs' : List Value}

theorem left (law : HashLawful (as ++ as') (bs ++ bs')) : HashLawful as bs :=
  fun v hv w hw => law v (List.mem_append_left _ hv) w (List.mem_append_left _ hw)

theorem right (law : HashLawful (as ++ as') (bs ++ bs')) : HashLawful as' bs' :=
  fun v hv w hw => law v (List.mem_append_right _ hv) w (List.mem_append_right _ hw)

theorem single {v w : Value} (law : HashLawful [v] [w]) (equal : v.agrees w = true) (room : Nat) :
    HashedAlike (v.digestTo room) (w.digestTo room) :=
  law v (List.mem_singleton_self v) w (List.mem_singleton_self w) equal room

end HashLawful

theorem Extended.eq_of_eq {a b : Extended} (h : a.eq b = true) : a = b := by
  cases a
  case undefined => cases h
  all_goals exact eq_of_beq h

namespace Number

variable {a b : Number}

theorem isNaN_iff {x : Float} : x.isNaN = true ↔ valueOfFloat x = .undefined := by
  have model : x.isNaN = x.toModel.unpack.isNaN := rfl
  rw [Binary64.valueOfFloat_eq, model]
  cases x.toModel.unpack
  case infinity s => cases s <;> simp [Float.Model.UnpackedFloat.isNaN, Binary64.exactly]
  all_goals simp [Float.Model.UnpackedFloat.isNaN, Binary64.exactly]

theorem digest_of_defined (defined : a.value ≠ .undefined) : a.digest = .number a.value 0 := by
  cases a
  case float x m =>
    have proper : ¬ x.isNaN = true := fun h => defined (isNaN_iff.mp h)
    exact if_neg proper
  all_goals rfl

theorem digest_of_eq (h : a.eq b = true) : a.digest = b.digest := by
  have same := Extended.eq_of_eq h
  have defined : a.value ≠ .undefined := by
    intro undefined
    simp [eq, undefined, Extended.eq] at h
  rw [digest_of_defined defined, digest_of_defined (same ▸ defined), same]

theorem digest_of_same (h : a.same b = true) : a.digest = b.digest := by
  cases a
  case float x m =>
    cases b
    case float y n =>
      simp only [same, Bool.and_eq_true, beq_iff_eq] at h
      have ⟨⟨⟨hx, hy⟩, marks⟩, _⟩ := h
      simp only [digest, if_pos hx, if_pos hy, marks]
    all_goals cases h
  all_goals cases h

end Number

open HashedAlike (typed inside)

mutual

theorem Value.alike_of_agrees {room : Nat} : (a b : Value) → HashLawful a.leaves b.leaves →
    a.agrees b = true → HashedAlike (a.digestTo room) (b.digestTo room)
  | .number a, b, _, h => by
    cases b <;> simp only [Value.agrees, Bool.false_eq_true, Bool.or_eq_true] at h
    case number b _ =>
      have same : a.digest = b.digest := h.elim Number.digest_of_eq Number.digest_of_same
      rw [Value.digestTo, Value.digestTo, same]
      exact .hashed _
  | .null, b, _, h => by
    cases b <;> simp only [Value.agrees, Bool.false_eq_true] at h
    exact .hashed _
  | .text s, b, _, h => by
    cases b <;> simp only [Value.agrees, Bool.false_eq_true, beq_iff_eq] at h
    case text t => exact h ▸ .hashed _
  | .bytes s, b, law, h | .bytearray s, b, law, h => by
    cases b <;> simp only [Value.agrees, Bool.false_eq_true] at h
    all_goals exact law.single (by rw [Value.agrees, h]) room
  | .set s, b, law, h | .frozenset s, b, law, h => by
    cases b <;> simp only [Value.agrees, Bool.false_eq_true] at h
    all_goals exact law.single (by rw [Value.agrees, h]) room
  | .object o, b, law, h => by
    cases b <;> simp only [Value.agrees, Bool.false_eq_true] at h
    case object => exact law.single (by rw [Value.agrees, h]) room
  | .list a, b, _, h => by
    cases b <;> simp only [Value.agrees, Bool.false_eq_true] at h
    exact typed "list"
  | .dict a, b, _, h => by
    cases b <;> simp only [Value.agrees, Bool.false_eq_true] at h
    exact typed "dict"
  | .tuple as, b, law, h => by
    cases b <;> simp only [Value.agrees, Bool.false_eq_true] at h
    case tuple bs =>
      rw [Value.digestTo, Value.digestTo]
      exact (Value.alike_of_allAgree as bs law h).bind fun _ => .hashed _
  | .type s, b, _, h => by
    cases b <;> simp only [Value.agrees, Bool.false_eq_true, beq_iff_eq] at h
    case type t => exact h ▸ .hashed _
  | .callable o, b, _, h => by
    cases b <;> simp only [Value.agrees, Bool.false_eq_true, beq_iff_eq] at h
    case callable => rw [Value.digestTo, Value.digestTo, h]; exact .hashed _
  | .method r _ n, b, _, h => by
    cases b <;> simp only [Value.agrees, Bool.false_eq_true, beq_iff_eq, Bool.and_eq_true] at h
    case method => rw [Value.digestTo, Value.digestTo, h.1.1, h.1.2]; exact .hashed _
  | .source s, b, law, h => by
    cases b <;> simp only [Value.agrees, Bool.false_eq_true] at h
    case source t =>
      rw [Value.digestTo, Value.digestTo]
      exact Source.alike_of_agrees s t law h
  | .outcome s, b, law, h => by
    cases b <;> simp only [Value.agrees, Bool.false_eq_true] at h
    case outcome t =>
      rw [Value.digestTo, Value.digestTo]
      exact Outcome.alike_of_agrees s t law h
  | .fault o, b, _, h => by
    cases b <;> simp only [Value.agrees, Bool.false_eq_true, Fault.same, beq_iff_eq] at h
    case fault => rw [Value.digestTo, Value.digestTo, h]; exact .hashed _
  | .predicate o, b, _, h => by
    cases b <;> simp only [Value.agrees, Bool.false_eq_true, beq_iff_eq] at h
    case predicate => rw [Value.digestTo, Value.digestTo, h]; exact .hashed _

theorem Value.alike_of_allAgree {room : Nat} : (as bs : List Value) →
    HashLawful (Value.leavesOfAll as) (Value.leavesOfAll bs) → Value.allAgree as bs = true →
    HashedAlike (Value.digestsTo room as) (Value.digestsTo room bs)
  | [], [], _, _          => .hashed _
  | a :: as, b :: bs, law, h => by
    simp only [Value.allAgree, Bool.and_eq_true] at h
    rw [Value.digestsTo, Value.digestsTo]
    exact (Value.alike_of_agrees a b law.left h.1).bind fun _ =>
      (Value.alike_of_allAgree as bs law.right h.2).bind fun _ => .hashed _
  | [], _ :: _, _, h | _ :: _, [], _, h => by simp [Value.allAgree] at h

theorem Outcome.alike_of_agrees {room : Nat} : (a b : Outcome) → HashLawful a.leaves b.leaves →
    a.agrees b = true → HashedAlike (a.digestTo room) (b.digestTo room)
  | .success a, o, law, h => by
    cases o <;> simp only [Outcome.agrees, Bool.false_eq_true] at h
    case success b =>
      rw [Outcome.digestTo, Outcome.digestTo]
      exact inside fun _ => (Value.alike_of_agrees a b law h).bind fun _ => .hashed _
  | .retryable c a, o, law, h => by
    cases o <;> simp only [Outcome.agrees, Bool.false_eq_true, Bool.and_eq_true, Fault.same,
      beq_iff_eq] at h
    case retryable d b =>
      rw [Outcome.digestTo, Outcome.digestTo, h.2]
      exact inside fun _ => (Value.alike_of_agrees a b law h.1).bind fun _ => .hashed _
  | .terminal c a, o, law, h => by
    cases o <;> simp only [Outcome.agrees, Bool.false_eq_true, Bool.and_eq_true, Fault.same,
      beq_iff_eq] at h
    case terminal d b =>
      rw [Outcome.digestTo, Outcome.digestTo, h.2]
      exact inside fun _ => (Value.alike_of_agrees a b law h.1).bind fun _ => .hashed _

theorem Source.alike_of_agrees {room : Nat} : (a b : Source) → HashLawful a.leaves b.leaves →
    a.agrees b = true → HashedAlike (a.digestTo room) (b.digestTo room)
  | .direct a, s, law, h => by
    cases s <;> simp only [Source.agrees, Bool.false_eq_true] at h
    case direct b =>
      rw [Source.digestTo, Source.digestTo]
      exact inside fun _ => (Value.alike_of_agrees a b law h).bind fun _ => .hashed _
  | .absent t, s, _, h => by
    cases s <;> simp only [Source.agrees, Bool.false_eq_true, beq_iff_eq] at h
    rw [Source.digestTo, Source.digestTo, h]
    exact inside fun _ => .hashed _
  | .accessor f type retryOn noneIsRetryable description, s, law, h => by
    cases s <;> simp only [Source.agrees, Bool.false_eq_true, Bool.and_eq_true, beq_iff_eq] at h
    case accessor g _ _ _ _ =>
      have ⟨⟨⟨⟨operation, sameType⟩, sameClasses⟩, sameFlag⟩, sameWords⟩ := h
      rw [Source.digestTo, Source.digestTo, sameType, sameClasses, sameFlag, sameWords]
      exact inside fun _ => (Value.alike_of_agrees f g law operation).bind fun _ => .hashed _
  | .invoking a i, s, law, h => by
    cases s <;> simp only [Source.agrees, Bool.false_eq_true, Bool.and_eq_true] at h
    case invoking b j =>
      rw [Source.digestTo, Source.digestTo]
      exact inside fun _ => (Source.alike_of_agrees a b law.left h.1).bind fun _ =>
        (Invocation.alike_of_agrees i j law.right h.2).bind fun _ => .hashed _
  | .reading a n t, s, law, h => by
    cases s <;> simp only [Source.agrees, Bool.false_eq_true, Bool.and_eq_true, beq_iff_eq] at h
    case reading b _ _ =>
      have ⟨⟨base, name⟩, type⟩ := h
      rw [Source.digestTo, Source.digestTo, name, type]
      exact inside fun _ => (Source.alike_of_agrees a b law base).bind fun _ => .hashed _
  | .matching _ a p d, s, law, h => by
    cases s <;> simp only [Source.agrees, Bool.false_eq_true, Bool.and_eq_true, beq_iff_eq] at h
    case matching b q _ =>
      have ⟨⟨base, test⟩, description⟩ := h
      rw [Source.digestTo, Source.digestTo, description]
      exact inside fun _ => (Source.alike_of_agrees a b law.left base).bind fun _ =>
        (Value.alike_of_agrees p q law.right test).bind fun _ => .hashed _
  | .custom i _, s, _, h => by
    cases s <;> simp only [Source.agrees, Bool.false_eq_true, beq_iff_eq] at h
    case custom => rw [Source.digestTo, Source.digestTo, h]; exact .hashed _

theorem Invocation.alike_of_agrees {room : Nat} : (i j : Invocation) →
    HashLawful i.leaves j.leaves → i.agrees j = true →
    HashedAlike (i.digestTo room) (j.digestTo room)
  | .mk s a k r, .mk t b l q, law, h => by
    simp only [Invocation.agrees, Bool.and_eq_true, beq_iff_eq] at h
    have ⟨⟨⟨selector, args⟩, _⟩, classes⟩ := h
    rw [Invocation.digestTo, Invocation.digestTo, classes]
    exact inside fun _ => (Selector.alike_of_agrees s t law.left selector).bind fun _ =>
      (Value.alike_of_allAgree a b law.right args).bind fun _ => .hashed _

theorem Selector.alike_of_agrees {room : Nat} : (s t : Selector) → HashLawful s.leaves t.leaves →
    s.agrees t = true → HashedAlike (s.digestTo room) (t.digestTo room)
  | .member n, t, _, h => by
    cases t <;> simp only [Selector.agrees, Bool.false_eq_true, beq_iff_eq] at h
    exact h ▸ .hashed _
  | .operation f, t, law, h => by
    cases t <;> simp only [Selector.agrees, Bool.false_eq_true] at h
    case operation g =>
      rw [Selector.digestTo, Selector.digestTo]
      exact Value.alike_of_agrees f g law h

end

namespace Invocation

variable {k l : List (String × Value)}

def classes (i : Invocation) : Value :=
  .tuple (i.retryOn.map fun c => .type c.name)

end Invocation

def Invocation.counting (start : Value) (keywords : List (String × Value)) : Invocation :=
  .mk (.member "count") [start] keywords [.builtin .keyError]

namespace Source

def nested : Nat → Source
  | 0     => .direct .null
  | n + 1 => .reading (nested n) "real" none

end Source

end BoundedWait

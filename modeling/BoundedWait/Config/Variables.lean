import BoundedWait.Act
import BoundedWait.Config.Keyed
import BoundedWait.Fault.Misuse

namespace BoundedWait

structure Variables where
  entries : List (String × String)

namespace Variables

def empty : Variables := ⟨[]⟩

def get? (vars : Variables) (name : String) : Option String :=
  Keyed.get? vars.entries name

def isSet (vars : Variables) (name : String) : Bool :=
  (vars.get? name).isSome

def unset (vars : Variables) (name : String) : Variables :=
  ⟨Keyed.erase vars.entries name⟩

def set (vars : Variables) (name value : String) : Variables :=
  ⟨Keyed.put vars.entries name value⟩

def refusal? (name value : String) : Option Fault :=
  if name.contains '\x00' || value.contains '\x00' then
    some (Fault.saying .valueError "embedded null byte")
  else if name.contains '=' then
    some (Fault.saying .valueError "illegal environment variable name")
  else if name.isEmpty then
    some (.mk 0 BuiltinClass.osError (.plain [.int 22, .text "Invalid argument"]) none)
  else none

def put (name value : String) : Act Variables Unit := fun vars =>
  match refusal? name value with
  | some f => (.error f, vars)
  | none   => (.ok (), vars.set name value)

def assign (name : String) (value : Option String) : Act Variables Unit :=
  match value with
  | some v => put name v
  | none   => .update (·.unset name)

def offer (name value : String) : Act Variables Unit := fun vars =>
  if vars.isSet name then (.ok (), vars) else put name value vars

def sorted (vars : Variables) : List (String × String) :=
  vars.entries.mergeSort fun a b => a.1 ≤ b.1

theorem get?_unset (vars : Variables) (name other : String) :
    (vars.unset name).get? other = if other = name then none else vars.get? other :=
  Keyed.get?_erase _ _ _

theorem get?_set (vars : Variables) (name value other : String) :
    (vars.set name value).get? other = if other = name then some value else vars.get? other :=
  Keyed.get?_put _ _ _ _

theorem get?_offer {vars : Variables} {other : String} {v : String} (name value : String)
    (h : vars.get? other = some v) : (offer name value vars).2.get? other = some v := by
  unfold offer
  split
  case isTrue  => exact h
  case isFalse hs =>
    have hn : other ≠ name := by
      intro e
      subst e
      simp [isSet, h] at hs
    unfold put
    split
    · exact h
    · rw [get?_set]
      simp [hn, h]

end Variables

end BoundedWait

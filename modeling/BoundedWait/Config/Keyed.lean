namespace BoundedWait

namespace Keyed

variable {κ α : Type} [DecidableEq κ]

def get? (entries : List (κ × α)) (key : κ) : Option α :=
  (entries.find? (·.1 = key)).map (·.2)

def erase (entries : List (κ × α)) (key : κ) : List (κ × α) :=
  entries.filter (·.1 ≠ key)

def put (entries : List (κ × α)) (key : κ) (value : α) : List (κ × α) :=
  (key, value) :: erase entries key

def assign (entries : List (κ × α)) (key : κ) (value : α) : List (κ × α) :=
  match entries with
  | []        => [(key, value)]
  | e :: rest => if e.1 = key then (key, value) :: rest else e :: assign rest key value

@[simp]
theorem get?_nil (key : κ) : get? ([] : List (κ × α)) key = none := rfl

theorem get?_erase (entries : List (κ × α)) (key other : κ) :
    get? (erase entries key) other = if other = key then none else get? entries other := by
  by_cases h : other = key
  case pos => simp [get?, erase, h]
  case neg =>
    have (e : κ × α) : (!decide (e.1 = key) && decide (e.1 = other)) = decide (e.1 = other) := by
      by_cases he : e.1 = other
      case pos => simp [he, h]
      case neg => simp [he]
    simp [get?, erase, h, this]

theorem get?_put (entries : List (κ × α)) (key : κ) (value : α) (other : κ) :
    get? (put entries key value) other =
      if other = key then some value else get? entries other := by
  by_cases h : other = key
  case pos => simp [get?, put, h]
  case neg =>
    have hn : key ≠ other := fun e => h e.symm
    have he := get?_erase entries key other
    simp only [get?, h, if_false] at he
    simp [get?, put, hn, h, he]

theorem get?_cons (e : κ × α) (entries : List (κ × α)) (key : κ) :
    get? (e :: entries) key = if e.1 = key then some e.2 else get? entries key := by
  by_cases h : e.1 = key
  case pos => simp [get?, h]
  case neg => simp [get?, h]

theorem get?_assign (entries : List (κ × α)) (key : κ) (value : α) (other : κ) :
    get? (assign entries key value) other =
      if other = key then some value else get? entries other := by
  induction entries with
  | nil => simp [assign, get?_cons, eq_comm]
  | cons e rest ih =>
    unfold assign
    by_cases he : e.1 = key
    case pos =>
      by_cases ho : other = key
      case pos => simp [he, ho, get?_cons]
      case neg =>
        have hk : key ≠ other := fun e => ho e.symm
        simp [he, ho, hk, get?_cons]
    case neg =>
      by_cases ho : other = key
      case pos =>
        subst ho
        simp [he, get?_cons, ih]
      case neg => simp [he, ho, get?_cons, ih]

theorem get?_eq_none_of_not_mem {entries : List (κ × α)} {key : κ}
    (h : key ∉ entries.map (·.1)) : get? entries key = none := by
  induction entries
  case nil => rfl
  case cons e rest ih =>
    simp only [List.map_cons, List.mem_cons, not_or] at h
    rw [get?_cons, if_neg (Ne.symm h.1), ih h.2]

theorem get?_of_mem {entries : List (κ × α)} (once : (entries.map (·.1)).Nodup) {key : κ}
    {value : α} (mem : (key, value) ∈ entries) : get? entries key = some value := by
  induction entries
  case nil => cases mem
  case cons e rest ih =>
    rw [List.map_cons, List.nodup_cons] at once
    rw [get?_cons]
    cases mem
    case head      => rw [if_pos rfl]
    case tail rest =>
      have other : e.1 ≠ key := fun same => once.1 (same ▸ List.mem_map_of_mem rest)
      rw [if_neg other, ih once.2 rest]

end Keyed

end BoundedWait

/-!
# Tables

A table holds values under keys, in the order in which the keys were first added.
-/
namespace SegmentIndex

/-- Values under texts, in the order in which the texts were first added. -/
abbrev Table (α : Type) := List (String × α)

namespace Table

variable {α : Type}

def get? (key : String) (t : Table α) : Option α := t.lookup key

/-- Changes the value at a key, or adds one at the end. -/
def alter (key : String) (f : Option α → α) : Table α → Table α
  | [] => [(key, f none)]
  | (k, a) :: rest => if k = key then (k, f (some a)) :: rest else (k, a) :: alter key f rest

/-- Changes the value at a key, if the key is present. -/
def adjust (key : String) (f : α → α) (t : Table α) : Table α :=
  t.map fun (k, a) => if k = key then (k, f a) else (k, a)

@[simp] theorem get?_nil (key : String) : get? key ([] : Table α) = none := rfl

theorem get?_cons (key k : String) (a : α) (rest : Table α) :
    get? key ((k, a) :: rest) = if key = k then some a else get? key rest := by
  show (match key == k with
    | true => some a
    | false => get? key rest) = _
  by_cases h : key = k
  · simp [h]
  · have hk : (key == k) = false := by simpa using h
    simp [h, hk]

theorem isSome_get? (key : String) (t : Table α) :
    (get? key t).isSome = true ↔ key ∈ t.map (·.1) := by
  induction t with
  | nil => simp
  | cons e rest ih =>
    rw [get?_cons, List.map_cons, List.mem_cons, ← ih]
    by_cases h : key = e.1 <;> simp [h]

theorem get?_alter (key key' : String) (f : Option α → α) (t : Table α) :
    get? key' (alter key f t) = if key' = key then some (f (get? key t)) else get? key' t := by
  induction t with
  | nil => simp [alter, get?_cons]
  | cons e rest ih =>
    obtain ⟨k, a⟩ := e
    by_cases h : k = key
    · subst h
      simp only [alter, if_true, get?_cons]
      split <;> simp_all
    · simp only [alter, h, if_false, get?_cons, ih]
      by_cases h' : key' = k
      · subst h'; simp [h]
      · simp [h', Ne.symm h]

theorem get?_adjust (key key' : String) (f : α → α) (t : Table α) :
    get? key' (adjust key f t) = if key' = key then (get? key t).map f else get? key' t := by
  induction t with
  | nil => simp [adjust]
  | cons e rest ih =>
    obtain ⟨k, a⟩ := e
    simp only [adjust, List.map_cons] at ih ⊢
    by_cases h : k = key
    · subst h
      by_cases h' : key' = k <;> simp_all [get?_cons]
    · by_cases h' : key' = k
      · subst h'; simp [get?_cons, h]
      · have : ¬ key = k := fun e => h e.symm
        simp [get?_cons, h, h', this, ih]

end Table

end SegmentIndex

/-! Insertion-ordered entries: names with values, where a name keeps the place of its first
entry and a later value is written over the earlier one. Sort keys, document members and
rendered objects are all of this form. -/

universe u

namespace SortPipeline.Entries

variable {α : Type u}

def get? (name : String) : List (String × α) → Option α
  | [] => none
  | (n, v) :: rest => if n = name then some v else get? name rest

def set (name : String) (value : α) : List (String × α) → List (String × α)
  | [] => [(name, value)]
  | (n, v) :: rest => if n = name then (n, value) :: rest else (n, v) :: set name value rest

def insert (name : String) (value : α) : List (String × α) → List (String × α) × Bool
  | [] => ([(name, value)], true)
  | (n, v) :: rest =>
    if n = name then ((n, value) :: rest, false)
    else
      let (rest, isNew) := insert name value rest
      ((n, v) :: rest, isNew)

def ofList (entries : List (String × α)) : List (String × α) :=
  entries.foldl (fun es e => set e.1 e.2 es) []

/-- Takes the first entry of the name out; the last entry moves into its place. -/
def erase (name : String) : List (String × α) → List (String × α)
  | [] => []
  | (n, v) :: rest =>
    if n = name then
      match rest.getLast? with
      | none => []
      | some e => e :: rest.dropLast
    else (n, v) :: erase name rest

def names (entries : List (String × α)) : List String := entries.map (·.1)

@[simp] theorem get?_set (name other : String) (value : α) (es : List (String × α)) :
    get? other (set name value es) = if name = other then some value else get? other es := by
  induction es with
  | nil => simp [set, get?]
  | cons e rest ih =>
    obtain ⟨n, v⟩ := e
    by_cases h : n = name
    · subst h; by_cases ho : n = other <;> simp [set, get?, ho]
    · by_cases ho : n = other
      · subst ho; simp [set, get?, h, Ne.symm h]
      · simp [set, get?, h, ho, ih]

end SortPipeline.Entries

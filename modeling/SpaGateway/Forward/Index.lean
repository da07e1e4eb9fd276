/-!
# Indexes

A finite map as a list of pairs. Putting a pair drops the older pair of its key, so an index
made by `put` and `erase` holds every key at most once.
-/

namespace SpaGateway

/-- A finite map from keys to values. -/
structure Index (α β : Type) where
  entries : List (α × β) := []
  deriving DecidableEq

namespace Index

variable {α β : Type} [DecidableEq α]

instance : Inhabited (Index α β) := ⟨{}⟩

/-- The value of a key. -/
def get? (index : Index α β) (key : α) : Option β :=
  (index.entries.find? (·.1 = key)).map (·.2)

/-- The index without a key. -/
def erase (index : Index α β) (key : α) : Index α β :=
  ⟨index.entries.filter (·.1 ≠ key)⟩

/-- The index with a new value for a key. -/
def put (index : Index α β) (key : α) (value : β) : Index α β :=
  ⟨(key, value) :: (index.erase key).entries⟩

/-- Number of pairs. -/
def size (index : Index α β) : Nat := index.entries.length

@[simp]
theorem get?_erase (index : Index α β) (key other : α) :
    (index.erase key).get? other = if other = key then none else index.get? other := by
  simp only [get?, erase, List.find?_filter]
  split
  · rename_i h
    subst h
    simp
  · rename_i h
    congr 2
    funext pair
    by_cases hp : pair.1 = other <;> simp [hp, h]

@[simp]
theorem get?_put (index : Index α β) (key other : α) (value : β) :
    (index.put key value).get? other = if other = key then some value else index.get? other := by
  by_cases h : other = key
  · subst h
    simp [put, get?]
  · have h' : ¬ key = other := fun e => h e.symm
    have := index.get?_erase key other
    simp only [get?, h, if_false] at this
    simp [put, get?, h, h', this]

end Index

end SpaGateway

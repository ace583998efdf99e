/-!
# Dictionaries

Text under text, in the order in which the keys were first put in. A second value under a key
takes the place of the first and leaves the order as it is.
-/

namespace PrivilegeCatalog

/-- Pairs of a key and its value, each key once. -/
abbrev Dictionary := List (String × String)

namespace Dictionary

/-- The value under a key. -/
def find? (d : Dictionary) (key : String) : Option String :=
  (List.find? (·.1 == key) d).map (·.2)

/-- Whether there is a value under the key. -/
def has (d : Dictionary) (key : String) : Bool := d.any (·.1 == key)

/-- The dictionary with a value under the key: at the key's place, or at the end for a new key. -/
def put (d : Dictionary) (key value : String) : Dictionary :=
  if d.has key then d.map fun entry => if entry.1 == key then (key, value) else entry
  else d ++ [(key, value)]

/-- The dictionary of some pairs, put in one after another. -/
def ofPairs (pairs : List (String × String)) : Dictionary :=
  pairs.foldl (fun d pair => d.put pair.1 pair.2) []

/-- The keys in order. -/
def keys (d : Dictionary) : List String := d.map (·.1)

/-- Two dictionaries hold the same values under the same keys, in whatever order. -/
def same (a b : Dictionary) : Bool :=
  a.length == b.length && a.all fun entry => b.find? entry.1 == some entry.2

theorem has_eq_isSome_find? (d : Dictionary) (key : String) :
    d.has key = (d.find? key).isSome := by
  rw [has, find?, Option.isSome_map]
  induction d with
  | nil => rfl
  | cons entry rest ih => by_cases h : entry.1 = key <;> simp_all

theorem put_of_not_has {d : Dictionary} {key value : String} (h : d.has key = false) :
    d.put key value = d ++ [(key, value)] := by
  simp [put, h]

end Dictionary

end PrivilegeCatalog

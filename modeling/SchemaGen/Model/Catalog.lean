import SchemaGen.Text.Order

/-!
# Catalogs

A catalog holds values under names, sorted by name. Inserting under a name that
is present takes the place of the value there.
-/

namespace SchemaGen

/-- Values under names, sorted by name. -/
structure Catalog (α : Type) where
  entries : List (String × α) := []
  deriving Repr, DecidableEq, Inhabited

namespace Catalog

variable {α : Type}

/-- Insert into a sorted list of entries. -/
def insertInto (name : String) (value : α) : List (String × α) → List (String × α)
  | [] => [(name, value)]
  | (n, v) :: rest =>
    if n = name then (name, value) :: rest
    else if name < n then (name, value) :: (n, v) :: rest
    else (n, v) :: insertInto name value rest

/-- Put a value under a name. -/
def insert (c : Catalog α) (name : String) (value : α) : Catalog α :=
  ⟨insertInto name value c.entries⟩

/-- The value under a name. -/
def get? (c : Catalog α) (name : String) : Option α :=
  c.entries.lookup name

/-- The names, sorted. -/
def names (c : Catalog α) : List String :=
  c.entries.map (·.1)

/-- Is there nothing in it? -/
def isEmpty (c : Catalog α) : Bool :=
  c.entries.isEmpty

/-- How many names it has. -/
def size (c : Catalog α) : Nat :=
  c.entries.length

/-- Insert the entries of another catalog, which win. -/
def overlay (c d : Catalog α) : Catalog α :=
  d.entries.foldl (fun c e => c.insert e.1 e.2) c

/-! ## What insertion does to look-up -/

/-- Look-up in a list that begins with an entry. -/
theorem lookup_cons_eq_ite (n m : String) (v : α) (rest : List (String × α)) :
    List.lookup n ((m, v) :: rest) = if n = m then some v else List.lookup n rest := by
  by_cases h : n = m
  · rw [List.lookup_cons, if_pos h, beq_iff_eq.2 h]
  · rw [List.lookup_cons, if_neg h, beq_eq_false_iff_ne.2 h]

theorem lookup_insertInto (name : String) (value : α) (xs : List (String × α)) (n : String) :
    (insertInto name value xs).lookup n = if n = name then some value else xs.lookup n := by
  induction xs with
  | nil => simp [insertInto, lookup_cons_eq_ite]
  | cons e rest ih =>
    obtain ⟨m, v⟩ := e
    by_cases hm : m = name
    · subst hm
      by_cases h : n = m <;> simp [insertInto, lookup_cons_eq_ite, h]
    · by_cases hlt : name < m
      · simp [insertInto, lookup_cons_eq_ite, hm, hlt]
      · by_cases h : n = m
        · subst h
          simp [insertInto, hm, hlt]
        · simp [insertInto, lookup_cons_eq_ite, hm, hlt, h, ih]

/-- Insertion changes the value under one name only. -/
theorem get?_insert (c : Catalog α) (name : String) (value : α) (n : String) :
    (c.insert name value).get? n = if n = name then some value else c.get? n :=
  lookup_insertInto name value c.entries n

end Catalog

end SchemaGen

/-! Tables from names to values, in the order in which the names came. -/

namespace TankArena

/-- Replaces the value of a name where it stands, or adds the name at the end. -/
def putEntry {α : Type} (name : String) (value : α) : List (String × α) → List (String × α)
  | [] => [(name, value)]
  | e :: es => if e.1 = name then (name, value) :: es else e :: putEntry name value es

theorem mem_keys_putEntry {α : Type} {name other : String} {value : α}
    {es : List (String × α)} :
    other ∈ (putEntry name value es).map Prod.fst ↔ other = name ∨ other ∈ es.map Prod.fst := by
  induction es with
  | nil => simp [putEntry]
  | cons e es ih =>
    rw [putEntry]
    split
    · next h => subst h; simp
    · next h =>
      rw [List.map_cons, List.mem_cons, ih, List.map_cons, List.mem_cons]
      constructor
      · rintro (h | h | h) <;> simp [h]
      · rintro (h | h | h) <;> simp [h]

theorem nodup_keys_putEntry {α : Type} {name : String} {value : α} {es : List (String × α)}
    (h : (es.map Prod.fst).Nodup) : ((putEntry name value es).map Prod.fst).Nodup := by
  induction es with
  | nil => simp [putEntry]
  | cons e es ih =>
    rw [List.map_cons, List.nodup_cons] at h
    rw [putEntry]
    split
    · next he => subst he; exact List.nodup_cons.2 h
    · next he =>
      refine List.nodup_cons.2 ⟨?_, ih h.2⟩
      rw [mem_keys_putEntry]
      exact fun hm => hm.elim he h.1

/-- A table: each name once, in the order of first insertion. -/
structure Table (α : Type) where
  entries : List (String × α)
  nodup : (entries.map Prod.fst).Nodup
  deriving DecidableEq

namespace Table

variable {α β : Type}

def empty : Table α := ⟨[], .nil⟩

instance : EmptyCollection (Table α) := ⟨empty⟩

instance : Inhabited (Table α) := ⟨empty⟩

def keys (t : Table α) : List String := t.entries.map Prod.fst

def size (t : Table α) : Nat := t.entries.length

def get? (t : Table α) (name : String) : Option α := t.entries.lookup name

def contains (t : Table α) (name : String) : Bool := (t.get? name).isSome

/-- A known name keeps its place and takes the new value; a new one goes to the end. -/
def insert (t : Table α) (name : String) (value : α) : Table α :=
  ⟨putEntry name value t.entries, nodup_keys_putEntry t.nodup⟩

/-- Inserts the pairs one after the other. -/
def insertAll (t : Table α) (pairs : List (String × α)) : Table α :=
  pairs.foldl (fun t e => t.insert e.1 e.2) t

def ofList (pairs : List (String × α)) : Table α := empty.insertAll pairs

/-- The same names with the same values, in whatever order. -/
def agrees [BEq α] (t u : Table α) : Bool :=
  t.size == u.size && t.entries.all fun e => u.get? e.1 == some e.2

end Table

end TankArena

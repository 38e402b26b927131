/-!
# Maps from names, in order of insertion

A `NameMap` lists its entries in the order in which their names were first
inserted, and holds each name once.  Inserting under a name that is present
replaces the value in its place.

* `toList`, `names` — the entries and their names, in order.
* `get?`, `contains` — look-up by name; `get?_of_mem_toList` — what an entry is found by.
* `get?_insert` — what an insertion does to every look-up.
* `names_insert_of_mem`, `names_insert_of_not_mem` — what it does to the order.
-/

namespace QueryArtifacts

/-- Entries with distinct names, in order of first insertion. -/
structure NameMap (α : Type) where
  toList : List (String × α)
  distinct : (toList.map Prod.fst).Nodup
  deriving DecidableEq

namespace NameMap

variable {α β : Type}

/-- The map without entries. -/
def empty : NameMap α where
  toList := []
  distinct := List.nodup_nil

instance : Inhabited (NameMap α) := ⟨empty⟩

instance : EmptyCollection (NameMap α) := ⟨empty⟩

/-- The names, in order. -/
def names (m : NameMap α) : List String :=
  m.toList.map Prod.fst

/-- The number of entries. -/
def size (m : NameMap α) : Nat :=
  m.toList.length

/-- Whether there is no entry. -/
def isEmpty (m : NameMap α) : Bool :=
  m.toList.isEmpty

/-- The value under a name. -/
def get? (m : NameMap α) (name : String) : Option α :=
  m.toList.lookup name

/-- Whether there is a value under a name. -/
def contains (m : NameMap α) (name : String) : Bool :=
  (m.get? name).isSome

/-- Replace the value of the entry called `name`, or append such an entry. -/
def insertEntry (name : String) (value : α) : List (String × α) → List (String × α)
  | [] => [(name, value)]
  | (other, old) :: rest =>
      if other = name then
        (name, value) :: rest
      else
        (other, old) :: insertEntry name value rest

theorem mem_names_insertEntry {name other : String} {value : α} {entries : List (String × α)} :
    other ∈ (insertEntry name value entries).map Prod.fst ↔
      other = name ∨ other ∈ entries.map Prod.fst := by
  induction entries with
  | nil => simp [insertEntry]
  | cons entry rest ih =>
      obtain ⟨first, old⟩ := entry
      by_cases hfirst : first = name
      · simp [insertEntry, hfirst]
      · simp only [insertEntry, hfirst, if_false, List.map_cons, List.mem_cons, ih]
        exact or_left_comm

theorem nodup_insertEntry {name : String} {value : α} {entries : List (String × α)}
    (hentries : (entries.map Prod.fst).Nodup) :
    ((insertEntry name value entries).map Prod.fst).Nodup := by
  induction entries with
  | nil => simp [insertEntry]
  | cons entry rest ih =>
      obtain ⟨first, old⟩ := entry
      rw [List.map_cons, List.nodup_cons] at hentries
      by_cases hfirst : first = name
      · subst hfirst
        simpa [insertEntry] using hentries
      · simp only [insertEntry, hfirst, if_false, List.map_cons, List.nodup_cons]
        refine ⟨?_, ih hentries.2⟩
        rw [mem_names_insertEntry]
        exact not_or.mpr ⟨hfirst, hentries.1⟩

/-- Put a value under a name, in the place of an earlier value if there is one. -/
def insert (m : NameMap α) (name : String) (value : α) : NameMap α where
  toList := insertEntry name value m.toList
  distinct := nodup_insertEntry m.distinct

/-- Insert all entries in order, so that the last value of a name wins. -/
def ofList (entries : List (String × α)) : NameMap α :=
  entries.foldl (fun m entry => m.insert entry.1 entry.2) empty

/-- Apply a function to every value. -/
def map (f : String → α → β) (m : NameMap α) : NameMap β where
  toList := m.toList.map fun entry => (entry.1, f entry.1 entry.2)
  distinct := by
    simpa [List.map_map, Function.comp_def] using m.distinct

theorem get?_map (m : NameMap α) (f : String → α → β) (name : String) :
    (m.map f).get? name = (m.get? name).map (f name) := by
  change (m.toList.map fun entry => (entry.1, f entry.1 entry.2)).lookup name =
    (m.toList.lookup name).map (f name)
  induction m.toList with
  | nil => rfl
  | cons entry rest ih =>
      obtain ⟨other, value⟩ := entry
      rw [List.map_cons, List.lookup_cons, List.lookup_cons, ih]
      cases hname : name == other with
      | false => rfl
      | true => rw [eq_of_beq hname]; rfl

theorem mem_toList_of_get? {m : NameMap α} {name : String} {value : α}
    (hget : m.get? name = some value) : (name, value) ∈ m.toList := by
  obtain ⟨before, after, hlist, -⟩ := List.lookup_eq_some_iff.mp hget
  rw [hlist]
  exact List.mem_append_right before (List.mem_cons_self ..)

/-- An entry is found under its name. -/
theorem get?_of_mem_toList {m : NameMap α} {entry : String × α} (hmem : entry ∈ m.toList) :
    m.get? entry.1 = some entry.2 := by
  have found : ∀ entries : List (String × α), (entries.map Prod.fst).Nodup → entry ∈ entries →
      entries.lookup entry.1 = some entry.2 := by
    intro entries hdistinct hentry
    induction entries with
    | nil => cases hentry
    | cons first rest ih =>
        rw [List.map_cons, List.nodup_cons] at hdistinct
        rw [List.lookup_cons]
        rcases List.mem_cons.mp hentry with rfl | hrest
        · rw [beq_self_eq_true]
        · have hne : entry.1 ≠ first.1 := fun heq => hdistinct.1 (heq ▸ List.mem_map_of_mem hrest)
          rw [beq_eq_false_iff_ne.mpr hne]
          exact ih hdistinct.2 hrest
  exact found m.toList m.distinct hmem

theorem ext {m n : NameMap α} (hlist : m.toList = n.toList) : m = n := by
  cases m
  cases n
  simpa using hlist

theorem lookup_insertEntry (name other : String) (value : α) (entries : List (String × α)) :
    (insertEntry name value entries).lookup other =
      if other = name then some value else entries.lookup other := by
  induction entries with
  | nil => grind [insertEntry]
  | cons entry rest ih => grind [insertEntry]

/-- An insertion changes the look-up of its own name and no other. -/
theorem get?_insert (m : NameMap α) (name other : String) (value : α) :
    (m.insert name value).get? other = if other = name then some value else m.get? other :=
  lookup_insertEntry name other value m.toList

/-- A name that is present keeps its place. -/
theorem names_insert_of_mem {m : NameMap α} {name : String} {value : α}
    (hname : name ∈ m.names) : (m.insert name value).names = m.names := by
  have keep : ∀ entries : List (String × α), name ∈ entries.map Prod.fst →
      (insertEntry name value entries).map Prod.fst = entries.map Prod.fst := by
    intro entries
    induction entries with
    | nil => simp
    | cons entry rest ih =>
        obtain ⟨first, old⟩ := entry
        intro hmem
        by_cases hfirst : first = name
        · simp [insertEntry, hfirst]
        · have hrest : name ∈ rest.map Prod.fst := by
            rcases List.mem_cons.mp hmem with h | h
            · exact absurd h.symm hfirst
            · exact h
          simp [insertEntry, hfirst, ih hrest]
  exact keep m.toList hname

/-- A new name goes to the end. -/
theorem names_insert_of_not_mem {m : NameMap α} {name : String} {value : α}
    (hname : name ∉ m.names) : (m.insert name value).names = m.names ++ [name] := by
  have add : ∀ entries : List (String × α), name ∉ entries.map Prod.fst →
      (insertEntry name value entries).map Prod.fst = entries.map Prod.fst ++ [name] := by
    intro entries
    induction entries with
    | nil => simp [insertEntry]
    | cons entry rest ih =>
        obtain ⟨first, old⟩ := entry
        intro hmem
        rw [List.map_cons, List.mem_cons, not_or] at hmem
        simp [insertEntry, Ne.symm hmem.1, ih hmem.2]
  exact add m.toList hname

end NameMap
end QueryArtifacts

/-!
# Maps from names

A finite map from names, kept as a list in strictly ascending order of the names. Names are
ordered by their characters, which is also the order of their bytes in UTF-8.
-/

namespace CronCalendar
set_option autoImplicit false

/-- A finite map from names. -/
structure NameMap (α : Type) where
  entries : List (String × α)
  ascending : entries.Pairwise fun p q => p.1 < q.1

namespace NameMap

variable {α β : Type}

/-- The map without entries. -/
def empty : NameMap α := ⟨[], List.Pairwise.nil⟩

/-- The entries with one for a name, in place of any entry for it. -/
def insertEntry (name : String) (a : α) : List (String × α) → List (String × α)
  | [] => [(name, a)]
  | p :: rest =>
    if name < p.1 then (name, a) :: p :: rest
    else if name = p.1 then (name, a) :: rest
    else p :: insertEntry name a rest

theorem lt_of_not_lt_of_ne {a b : String} (h : ¬ a < b) (h' : a ≠ b) : b < a := by grind

theorem mem_insertEntry {name : String} {a : α} {p : String × α} {ps : List (String × α)}
    (h : p ∈ insertEntry name a ps) : p = (name, a) ∨ p ∈ ps := by
  induction ps with
  | nil => simpa [insertEntry] using h
  | cons q rest ih =>
    simp only [insertEntry] at h
    split at h
    · simpa using h
    · split at h
      · exact (List.mem_cons.1 h).imp_right (List.mem_cons_of_mem _)
      · rcases List.mem_cons.1 h with h | h
        · exact .inr (h ▸ List.mem_cons_self)
        · exact (ih h).imp_right (List.mem_cons_of_mem _)

theorem pairwise_insertEntry {name : String} {a : α} {ps : List (String × α)}
    (h : ps.Pairwise fun p q => p.1 < q.1) :
    (insertEntry name a ps).Pairwise fun p q => p.1 < q.1 := by
  induction ps with
  | nil => exact List.pairwise_singleton _ _
  | cons q rest ih =>
    rw [List.pairwise_cons] at h
    simp only [insertEntry]
    split
    · rename_i lt
      refine List.pairwise_cons.2 ⟨fun p hp => ?_, List.pairwise_cons.2 h⟩
      rcases List.mem_cons.1 hp with rfl | hp
      · exact lt
      · exact String.lt_trans lt (h.1 p hp)
    · split
      · rename_i eq
        exact List.pairwise_cons.2 ⟨fun p hp => eq ▸ h.1 p hp, h.2⟩
      · rename_i notLt ne
        refine List.pairwise_cons.2 ⟨fun p hp => ?_, ih h.2⟩
        rcases mem_insertEntry hp with rfl | hp
        · exact lt_of_not_lt_of_ne notLt ne
        · exact h.1 p hp

/-- The map with an entry for a name, in place of any entry for it. -/
def insert (m : NameMap α) (name : String) (a : α) : NameMap α :=
  ⟨insertEntry name a m.entries, pairwise_insertEntry m.ascending⟩

/-- The map without an entry for a name. -/
def erase (m : NameMap α) (name : String) : NameMap α :=
  ⟨m.entries.filter fun p => p.1 != name, m.ascending.filter _⟩

/-- What the map holds for a name. -/
def get? (m : NameMap α) (name : String) : Option α := m.entries.lookup name

/-- Whether the map has an entry for a name. -/
def contains (m : NameMap α) (name : String) : Bool := (m.get? name).isSome

/-- The names with an entry, in ascending order. -/
def names (m : NameMap α) : List String := m.entries.map Prod.fst

/-- What the map holds, in the order of the names. -/
def values (m : NameMap α) : List α := m.entries.map Prod.snd

/-- Whether the map has no entries. -/
def isEmpty (m : NameMap α) : Bool := m.entries.isEmpty

/-- The map of some entries. Of two entries for one name, the last counts. -/
def ofList (ps : List (String × α)) : NameMap α :=
  ps.foldl (fun m p => m.insert p.1 p.2) empty

/-- The map with each entry replaced by a function of it and its name. -/
def map (f : String → α → β) (m : NameMap α) : NameMap β :=
  ⟨m.entries.map fun p => (p.1, f p.1 p.2), List.pairwise_map.2 m.ascending⟩

end NameMap

end CronCalendar

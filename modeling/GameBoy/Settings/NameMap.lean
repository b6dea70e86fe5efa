/-!
# `GameBoy.Settings.NameMap`: names with values, in order

A map from names to values that lists its entries in ascending order of the
names, code point by code point. Each name has one value: inserting it again
replaces the value. The order is part of the type, so two maps with the same
values are equal.

The order matters to more than equality. Entries are gone through from the first
to the last, and where two of them name the same thing the last one counts. Main
statement: inserting changes the value of one name and of no other
(`NameMap.get?_insert`).
-/

set_option autoImplicit false

namespace GameBoy

/-- A map from names to values. -/
structure NameMap where
  /-- The entries, in ascending order of their names. -/
  entries : List (String × String)
  ascending : entries.Pairwise fun a b => a.1 < b.1
deriving DecidableEq

namespace NameMap

/-- The map with no names. -/
def empty : NameMap := ⟨[], .nil⟩

/-- The value of a name. -/
def get? (map : NameMap) (name : String) : Option String := map.entries.lookup name

/-- Puts an entry into a list in its place. -/
def place (name value : String) : List (String × String) → List (String × String)
  | [] => [(name, value)]
  | entry :: rest =>
    if name < entry.1 then (name, value) :: entry :: rest
    else if name = entry.1 then (name, value) :: rest
    else entry :: place name value rest

/-- An entry of the new list is the placed one or was there before. -/
theorem mem_place {name value : String} {entries : List (String × String)}
    {entry : String × String} (h : entry ∈ place name value entries) :
    entry = (name, value) ∨ entry ∈ entries := by
  induction entries with
  | nil => exact .inl (List.mem_singleton.1 h)
  | cons first rest ih =>
    simp only [place] at h
    split at h
    · exact List.mem_cons.1 h
    · split at h
      · exact (List.mem_cons.1 h).imp_right (List.mem_cons_of_mem first)
      · rcases List.mem_cons.1 h with rfl | later
        · exact .inr List.mem_cons_self
        · exact (ih later).imp_right (List.mem_cons_of_mem first)

/-- Placing an entry keeps the order. It goes before the first name that is greater, or takes the
place of an equal one. -/
theorem ascending_place {name value : String} {entries : List (String × String)}
    (h : entries.Pairwise fun a b => a.1 < b.1) :
    (place name value entries).Pairwise fun a b => a.1 < b.1 := by
  induction entries with
  | nil => simp [place]
  | cons first rest ih =>
    obtain ⟨before, later⟩ := List.pairwise_cons.1 h
    simp only [place]
    split
    · next less =>
      refine List.pairwise_cons.2 ⟨fun entry mem => ?_, h⟩
      rcases List.mem_cons.1 mem with rfl | mem
      · exact less
      · exact String.lt_trans less (before entry mem)
    · split
      · next same => exact List.pairwise_cons.2 ⟨fun entry mem => same ▸ before entry mem, later⟩
      · next notLess notSame =>
        refine List.pairwise_cons.2 ⟨fun entry mem => ?_, ih later⟩
        rcases mem_place mem with rfl | mem
        · rcases Decidable.em (first.1 < name) with less | notGreater
          · exact less
          · exact absurd
              (String.le_antisymm (String.not_lt.1 notGreater) (String.not_lt.1 notLess)) notSame
        · exact before entry mem

/-- Gives a name a value. -/
def insert (map : NameMap) (name value : String) : NameMap :=
  ⟨place name value map.entries, ascending_place map.ascending⟩

/-- A look-up settles on the first entry or goes on to the rest. -/
theorem lookup_cons (key held other : String) (rest : List (String × String)) :
    ((key, held) :: rest).lookup other = if other = key then some held else rest.lookup other := by
  rw [List.lookup_cons]
  by_cases h : other = key
  · simp [h]
  · simp [beq_eq_false_iff_ne.2 h, h]

/-- A look-up finds what stands in a list in which no name stands twice. -/
theorem lookup_eq_some_iff_mem {α : Type} {entries : List (String × α)}
    (distinct : (entries.map Prod.fst).Nodup) {name : String} {value : α} :
    entries.lookup name = some value ↔ (name, value) ∈ entries := by
  rw [List.lookup_eq_some_iff]
  constructor
  · rintro ⟨before, after, rfl, -⟩
    exact List.mem_append_right before List.mem_cons_self
  · intro mem
    obtain ⟨before, after, rfl⟩ := List.append_of_mem mem
    refine ⟨before, after, rfl, ?_⟩
    rw [List.map_append, List.map_cons, List.nodup_append] at distinct
    intro earlier among
    have apart := distinct.2.2 earlier.1 (List.mem_map_of_mem among) name List.mem_cons_self
    simpa using apart.symm

/-- Inserting changes the value of the name it gives and of no other. By induction on the entries:
what is looked up is found before the place of the new entry, at it, or behind it. -/
theorem get?_insert (map : NameMap) (name value other : String) :
    (map.insert name value).get? other = if other = name then some value else map.get? other := by
  obtain ⟨entries, ascending⟩ := map
  simp only [get?, insert]
  clear ascending
  induction entries with
  | nil => exact lookup_cons name value other []
  | cons first rest ih =>
    obtain ⟨key, held⟩ := first
    simp only [place]
    split
    · exact lookup_cons name value other _
    · split
      · next same =>
        subst same
        by_cases h : other = name <;> simp [lookup_cons, h]
      · next notSame =>
        by_cases h : other = key
        · simp [h, show key ≠ name from fun e => notSame e.symm]
        · simp [lookup_cons, h, ih]

end NameMap

end GameBoy

set_option relaxedAutoImplicit false
set_option autoImplicit false

/-!
# Maps keyed by name

A finite map from names to values, kept as a list in increasing name order. The order is part of
the type, so that two maps with the same entries are equal and every traversal is in name order.

## Main definitions

* `Microbatch.NameMap` — the map, a list of entries with strictly increasing names.
* `Microbatch.NameMap.find?`, `Microbatch.NameMap.insert`, `Microbatch.NameMap.ofList` — look-up,
  insertion (the new value replaces an old one) and the map of a list (the last entry wins).

## Main results

* `Microbatch.NameMap.find?_insert` — what a look-up sees after an insertion.
* `Microbatch.NameMap.ext_find?` — maps that answer every look-up alike are equal.
-/

namespace Microbatch

universe u v

/-- **A map from names to values.** Entries are listed by increasing name, each name once. -/
structure NameMap (α : Type u) where
  /-- The entries in name order. -/
  entries : List (String × α)
  /-- Names increase strictly along the list. -/
  sorted : entries.Pairwise (fun a b => a.1 < b.1)

namespace NameMap

variable {α : Type u} {β : Type v}

/-! ### Construction and look-up -/

/-- The map without entries. -/
def empty : NameMap α := ⟨[], .nil⟩

instance : Inhabited (NameMap α) := ⟨empty⟩

/-- Places an entry in a list ordered by name; an entry of the same name is replaced. -/
def place (name : String) (value : α) : List (String × α) → List (String × α)
  | [] => [(name, value)]
  | entry :: rest =>
    if name < entry.1 then (name, value) :: entry :: rest
    else if entry.1 < name then entry :: place name value rest
    else (name, value) :: rest

theorem mem_place {name : String} {value : α} {entries : List (String × α)} {e : String × α}
    (h : e ∈ place name value entries) : e = (name, value) ∨ e ∈ entries := by
  induction entries with
  | nil => exact .inl (by simpa [place] using h)
  | cons entry rest ih =>
    unfold place at h
    split at h
    · simpa using h
    · split at h
      · rcases List.mem_cons.1 h with h | h
        · exact .inr (by simp [h])
        · exact (ih h).imp id (List.mem_cons_of_mem _)
      · rcases List.mem_cons.1 h with h | h
        · exact .inl h
        · exact .inr (List.mem_cons_of_mem _ h)

/-- Names that are ordered neither way are equal. -/
theorem eq_of_not_lt {a b : String} (hab : ¬ a < b) (hba : ¬ b < a) : a = b :=
  String.le_antisymm (String.not_lt.1 hba) (String.not_lt.1 hab)

theorem pairwise_place (name : String) (value : α) {entries : List (String × α)}
    (sorted : entries.Pairwise (fun a b => a.1 < b.1)) :
    (place name value entries).Pairwise (fun a b => a.1 < b.1) := by
  induction entries with
  | nil => simp [place]
  | cons entry rest ih =>
    obtain ⟨above, below⟩ := List.pairwise_cons.1 sorted
    unfold place
    split
    · rename_i lt
      refine List.pairwise_cons.2 ⟨fun e he => ?_, sorted⟩
      rcases List.mem_cons.1 he with rfl | he
      · exact lt
      · exact String.lt_trans lt (above e he)
    · split
      · rename_i lt
        refine List.pairwise_cons.2 ⟨fun e he => ?_, ih below⟩
        rcases mem_place he with rfl | he
        · exact lt
        · exact above e he
      · rename_i hle hge
        obtain rfl : name = entry.1 := eq_of_not_lt hle hge
        exact List.pairwise_cons.2 ⟨above, below⟩

/-- Sets the value of a name. -/
def insert (m : NameMap α) (name : String) (value : α) : NameMap α :=
  ⟨place name value m.entries, pairwise_place name value m.sorted⟩

/-- The value of a name, if it has one. -/
def find? (m : NameMap α) (name : String) : Option α := m.entries.lookup name

/-- Whether a name has a value. -/
def contains (m : NameMap α) (name : String) : Bool := (m.find? name).isSome

/-- The map of a list of entries; of two entries with one name the later wins. -/
def ofList (entries : List (String × α)) : NameMap α :=
  entries.foldl (fun m e => m.insert e.1 e.2) empty

/-- Sets every entry of a list, in order. -/
def insertAll (m : NameMap α) (entries : List (String × α)) : NameMap α :=
  entries.foldl (fun m e => m.insert e.1 e.2) m

/-! ### Views -/

/-- The entries in name order. -/
def toList (m : NameMap α) : List (String × α) := m.entries

/-- The names in increasing order. -/
def names (m : NameMap α) : List String := m.entries.map (·.1)

/-- The values in the order of their names. -/
def values (m : NameMap α) : List α := m.entries.map (·.2)

/-- The number of names. -/
def size (m : NameMap α) : Nat := m.entries.length

/-- Whether no name has a value. -/
def isEmpty (m : NameMap α) : Bool := m.entries.isEmpty

/-- Applies a function to every value; names stay. -/
def mapValues (f : String → α → β) (m : NameMap α) : NameMap β where
  entries := m.entries.map (fun e => (e.1, f e.1 e.2))
  sorted := List.pairwise_map.2 m.sorted

instance [DecidableEq α] : DecidableEq (NameMap α) := fun a b =>
  decidable_of_iff (a.entries = b.entries)
    ⟨fun h => by cases a; cases b; cases h; rfl, fun h => h ▸ rfl⟩

/-! ### Laws of look-up -/

/-- An entry under another name is passed over. -/
theorem lookup_cons_of_ne {name key : String} (h : name ≠ key) (value : α)
    (rest : List (String × α)) : ((key, value) :: rest).lookup name = rest.lookup name := by
  have : (name == key) = false := by simp [h]
  rw [List.lookup_cons, this]

theorem lookup_place (name other : String) (value : α) {entries : List (String × α)}
    (sorted : entries.Pairwise (fun a b => a.1 < b.1)) :
    (place name value entries).lookup other =
      if other = name then some value else entries.lookup other := by
  induction entries with
  | nil =>
    by_cases h : other = name
    · simp [place, h]
    · simp [place, h, lookup_cons_of_ne h]
  | cons entry rest ih =>
    obtain ⟨above, below⟩ := List.pairwise_cons.1 sorted
    obtain ⟨key, old⟩ := entry
    unfold place
    split
    · by_cases h : other = name
      · simp [h]
      · simp [h, lookup_cons_of_ne h]
    · split
      · rename_i lt
        by_cases hk : other = key
        · subst hk
          have ne : other ≠ name := fun e => String.lt_irrefl name (e ▸ lt)
          simp [ne]
        · simp [lookup_cons_of_ne hk, ih below]
      · rename_i hle hge
        obtain rfl : name = key := eq_of_not_lt hle hge
        by_cases h : other = name
        · simp [h]
        · simp [h, lookup_cons_of_ne h]

/-- **A look-up after an insertion** sees the inserted value under its name and the old values
elsewhere. -/
theorem find?_insert (m : NameMap α) (name other : String) (value : α) :
    (m.insert name value).find? other = if other = name then some value else m.find? other :=
  lookup_place name other value m.sorted

@[simp] theorem find?_empty (name : String) : (empty : NameMap α).find? name = none := rfl

theorem find?_mapValues (f : String → α → β) (m : NameMap α) (name : String) :
    (m.mapValues f).find? name = (m.find? name).map (f name) := by
  show (m.entries.map fun e => (e.1, f e.1 e.2)).lookup name =
    (m.entries.lookup name).map (f name)
  induction m.entries with
  | nil => rfl
  | cons entry rest ih =>
    obtain ⟨key, value⟩ := entry
    by_cases h : name = key
    · simp [h]
    · simpa [lookup_cons_of_ne h] using ih

theorem mem_of_lookup {entries : List (String × α)} {name : String} {value : α}
    (h : entries.lookup name = some value) : (name, value) ∈ entries := by
  induction entries with
  | nil => simp at h
  | cons entry rest ih =>
    obtain ⟨key, old⟩ := entry
    by_cases hk : name = key
    · subst hk
      simp only [List.lookup_cons_self, Option.some.injEq] at h
      simp [h]
    · rw [lookup_cons_of_ne hk] at h
      exact List.mem_cons_of_mem _ (ih h)

theorem lookup_of_mem {entries : List (String × α)}
    (sorted : entries.Pairwise (fun a b => a.1 < b.1)) {name : String} {value : α}
    (h : (name, value) ∈ entries) : entries.lookup name = some value := by
  induction entries with
  | nil => simp at h
  | cons entry rest ih =>
    obtain ⟨above, below⟩ := List.pairwise_cons.1 sorted
    obtain ⟨key, old⟩ := entry
    rcases List.mem_cons.1 h with e | h
    · cases e
      simp
    · have ne : name ≠ key := fun e => String.lt_irrefl key (e ▸ above _ h)
      rw [lookup_cons_of_ne ne]
      exact ih below h

/-- A name has a value exactly when the entry is listed. -/
theorem find?_eq_some_iff {m : NameMap α} {name : String} {value : α} :
    m.find? name = some value ↔ (name, value) ∈ m.entries :=
  ⟨mem_of_lookup, lookup_of_mem m.sorted⟩

theorem contains_iff_mem_names {m : NameMap α} {name : String} :
    m.contains name = true ↔ name ∈ m.names := by
  constructor
  · intro h
    obtain ⟨value, hv⟩ := Option.isSome_iff_exists.1 h
    exact List.mem_map.2 ⟨(name, value), find?_eq_some_iff.1 hv, rfl⟩
  · intro h
    obtain ⟨⟨key, value⟩, hm, rfl⟩ := List.mem_map.1 h
    exact Option.isSome_iff_exists.2 ⟨value, find?_eq_some_iff.2 hm⟩

/-- Lists ordered by name that answer every look-up alike are equal. -/
theorem eq_of_lookup {xs ys : List (String × α)} (hx : xs.Pairwise (fun a b => a.1 < b.1))
    (hy : ys.Pairwise (fun a b => a.1 < b.1))
    (h : ∀ name, xs.lookup name = ys.lookup name) : xs = ys := by
  induction xs generalizing ys with
  | nil =>
    cases ys with
    | nil => rfl
    | cons y ys => exact nomatch (h y.1).trans (lookup_of_mem hy (List.mem_cons_self ..))
  | cons x xs ih =>
    cases ys with
    | nil => exact nomatch (h x.1).symm.trans (lookup_of_mem hx (List.mem_cons_self ..))
    | cons y ys =>
      obtain ⟨xa, xb⟩ := List.pairwise_cons.1 hx
      obtain ⟨ya, yb⟩ := List.pairwise_cons.1 hy
      have hxy : (x.1, x.2) ∈ y :: ys :=
        mem_of_lookup ((h x.1).symm.trans (lookup_of_mem hx (List.mem_cons_self ..)))
      have hyx : (y.1, y.2) ∈ x :: xs :=
        mem_of_lookup ((h y.1).trans (lookup_of_mem hy (List.mem_cons_self ..)))
      have head : x = y := by
        rcases List.mem_cons.1 hxy with e | hxm
        · exact e
        · rcases List.mem_cons.1 hyx with e | hym
          · exact e.symm
          · exact absurd (String.lt_trans (xa _ hym) (ya _ hxm)) (String.lt_irrefl _)
      subst head
      congr 1
      refine ih xb yb fun name => ?_
      by_cases hn : name = x.1
      · have nx : xs.lookup name = none := by
          rcases hl : xs.lookup name with _ | v
          · rfl
          · exact absurd (xa _ (mem_of_lookup hl)) (hn ▸ String.lt_irrefl _)
        have ny : ys.lookup name = none := by
          rcases hl : ys.lookup name with _ | v
          · rfl
          · exact absurd (ya _ (mem_of_lookup hl)) (hn ▸ String.lt_irrefl _)
        rw [nx, ny]
      · have eq := h name
        obtain ⟨key, value⟩ := x
        rwa [lookup_cons_of_ne hn, lookup_cons_of_ne hn] at eq

/-- **Extensionality.** Maps that answer every look-up alike are equal. -/
theorem ext_find? {a b : NameMap α} (h : ∀ name, a.find? name = b.find? name) : a = b := by
  obtain ⟨xs, hx⟩ := a
  obtain ⟨ys, hy⟩ := b
  obtain rfl := eq_of_lookup hx hy h
  rfl

end NameMap

end Microbatch

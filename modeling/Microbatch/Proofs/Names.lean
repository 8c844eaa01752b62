import Mathlib.Data.List.Forall2
import Mathlib.Tactic.Lemma
import Microbatch.NameMap

set_option relaxedAutoImplicit false
set_option autoImplicit false

/-!
# Laws of maps keyed by name

A map takes over the entries of another map, and a map is rebuilt from its own entries. What a
look-up sees afterwards is said here once, so that no later proof goes through the insertions
again.

## Main results

* `Microbatch.NameMap.find?_insertAll_entries` — a look-up after taking over another map.
* `Microbatch.NameMap.insertAll_eq_of_names` — a map that names the same takes the other one's
  place.
* `Microbatch.NameMap.ofList_eq_of_names` — a list in the order of a map is the list of a map.
* `Microbatch.NameMap.find?_ofList_eq_some_iff` — a list with distinct names as a map.
-/

namespace Microbatch.NameMap

universe u v

variable {α : Type u} {β : Type v}

/-! ### Names -/

lemma entries_mapValues (f : String → α → β) (m : NameMap α) :
    (m.mapValues f).entries = m.entries.map fun e => (e.1, f e.1 e.2) := rfl

@[simp] lemma names_mapValues (f : String → α → β) (m : NameMap α) :
    (m.mapValues f).names = m.names := by
  simp [names, mapValues, Function.comp_def]

/-- The names of a map increase strictly. -/
lemma pairwise_names (m : NameMap α) : m.names.Pairwise (· < ·) :=
  List.pairwise_map.2 m.sorted

/-- A map lists every name once. -/
lemma nodup_names (m : NameMap α) : m.names.Nodup := by
  refine m.pairwise_names.imp fun before same => ?_
  exact String.lt_irrefl _ (same ▸ before)

/-- A name among the names has a value. -/
lemma find?_of_mem_names {m : NameMap α} {name : String} (h : name ∈ m.names) :
    ∃ value, m.find? name = some value :=
  Option.isSome_iff_exists.1 (contains_iff_mem_names.2 h)

/-- A name has no value exactly when it is not among the names. -/
lemma find?_eq_none_iff {m : NameMap α} {name : String} :
    m.find? name = none ↔ name ∉ m.names := by
  rw [← contains_iff_mem_names, contains]
  simp

/-- Maps with the same values under some reading name the same. -/
lemma names_eq_of_mapValues {γ : Type} {f : String → α → γ} {g : String → β → γ} {a : NameMap α}
    {b : NameMap β} (h : a.mapValues f = b.mapValues g) : a.names = b.names := by
  simpa using congrArg names h

/-- A value under a name has a partner there, in a map with the same values under some reading. -/
lemma exists_find?_of_mapValues {γ : Type} {f : String → α → γ} {g : String → β → γ}
    {a : NameMap α} {b : NameMap β} (h : a.mapValues f = b.mapValues g) {name : String} {value : α}
    (found : a.find? name = some value) :
    ∃ partner, b.find? name = some partner ∧ g name partner = f name value := by
  have here := congrArg (·.find? name) h
  simp only [find?_mapValues, found, Option.map_some] at here
  exact Option.map_eq_some_iff.1 here.symm

/-- Maps that name the same list their names alike. -/
lemma names_eq_of_mem_iff {a : NameMap α} {b : NameMap β}
    (h : ∀ name, name ∈ a.names ↔ name ∈ b.names) : a.names = b.names := by
  refine names_eq_of_mapValues (f := fun _ _ => ()) (g := fun _ _ => ()) (ext_find? fun name => ?_)
  rw [find?_mapValues, find?_mapValues]
  cases ha : a.find? name with
  | none =>
    have missing : name ∉ b.names := fun known => find?_eq_none_iff.1 ha ((h name).2 known)
    rw [find?_eq_none_iff.2 missing]
    rfl
  | some value =>
    have known : name ∈ a.names := contains_iff_mem_names.1 (Option.isSome_of_eq_some ha)
    obtain ⟨value', hb⟩ := find?_of_mem_names ((h name).1 known)
    rw [hb]
    rfl

/-- A look-up by the name of an entry finds the entry. -/
lemma find?_of_mem_entries {m : NameMap α} {e : String × α} (h : e ∈ m.entries) :
    m.find? e.1 = some e.2 :=
  find?_eq_some_iff.2 h

/-- Maps with the same entries are equal. -/
lemma ext_entries {a b : NameMap α} (h : a.entries = b.entries) : a = b := by
  cases a
  cases b
  cases h
  rfl

/-! ### Taking over entries -/

/-- In a list ordered by name, it does not matter from which end a name is looked up. -/
lemma lookup_reverse {entries : List (String × α)}
    (sorted : entries.Pairwise (fun a b => a.1 < b.1)) (name : String) :
    entries.reverse.lookup name = entries.lookup name := by
  have mem : ∀ value, entries.reverse.lookup name = some value → entries.lookup name = some value :=
    fun value h => lookup_of_mem sorted (List.mem_reverse.1 (mem_of_lookup h))
  cases hr : entries.reverse.lookup name with
  | some value => exact (mem value hr).symm
  | none =>
    cases hl : entries.lookup name with
    | none => rfl
    | some value =>
      rw [List.lookup_eq_none_iff] at hr
      have := hr _ (List.mem_reverse.2 (mem_of_lookup hl))
      simp at this

/-- **A look-up after taking over a list of entries**: the last entry of a name wins. -/
lemma find?_insertAll (m : NameMap α) (entries : List (String × α)) (name : String) :
    (m.insertAll entries).find? name = (entries.reverse.lookup name).or (m.find? name) := by
  induction entries generalizing m with
  | nil => simp [insertAll]
  | cons entry rest ih =>
    have unfolded : m.insertAll (entry :: rest) = (m.insert entry.1 entry.2).insertAll rest := rfl
    rw [unfolded, ih, find?_insert, List.reverse_cons, List.lookup_append]
    obtain ⟨key, value⟩ := entry
    by_cases h : name = key
    · cases rest.reverse.lookup name <;> simp [h]
    · cases rest.reverse.lookup name <;> simp [h, lookup_cons_of_ne h]

/-- **A look-up after taking over another map**: the other map's values win. -/
lemma find?_insertAll_entries (m other : NameMap α) (name : String) :
    (m.insertAll other.entries).find? name = (other.find? name).or (m.find? name) := by
  rw [find?_insertAll, lookup_reverse other.sorted]
  rfl

/-- The map of a list answers like the list, the last entry of a name first. -/
lemma find?_ofList (entries : List (String × α)) (name : String) :
    (ofList entries).find? name = entries.reverse.lookup name := by
  have := find?_insertAll empty entries name
  simpa [insertAll, ofList] using this

/-- What the map of a list holds is listed. -/
lemma mem_of_find?_ofList {entries : List (String × α)} {name : String} {value : α}
    (found : (ofList entries).find? name = some value) : (name, value) ∈ entries := by
  rw [find?_ofList] at found
  exact List.mem_reverse.1 (mem_of_lookup found)

/-- The map of a list names what the list names. -/
lemma mem_names_ofList {entries : List (String × α)} {name : String} :
    name ∈ (ofList entries).names ↔ name ∈ entries.map (·.1) := by
  rw [← contains_iff_mem_names, contains, find?_ofList, Option.isSome_iff_ne_none, ne_eq,
    List.lookup_eq_none_iff]
  simp

/-- The map of a list in name order has that list as its entries. -/
lemma entries_ofList {entries : List (String × α)}
    (sorted : entries.Pairwise (fun a b => a.1 < b.1)) : (ofList entries).entries = entries := by
  have same : ofList entries = ⟨entries, sorted⟩ := by
    refine ext_find? fun name => ?_
    rw [find?_ofList, lookup_reverse sorted]
    rfl
  rw [same]

/-- A list whose names are those of a map is the list of a map. -/
lemma ofList_eq_of_names {entries : List (String × α)} {m : NameMap β}
    (h : entries.map (·.1) = m.names) : (ofList entries).entries = entries :=
  entries_ofList (List.pairwise_map.1 (h ▸ m.pairwise_names))

/-- Lists with the same names in the same order: what is found in the one comes from what is found
in the other, if each value does. -/
lemma lookup_of_forall₂ {f : α → Option β} {entries : List (String × α)}
    {entries' : List (String × β)}
    (h : List.Forall₂ (fun e e' => e'.1 = e.1 ∧ f e.2 = some e'.2) entries entries')
    (name : String) : entries'.lookup name = (entries.lookup name).bind f := by
  induction h with
  | nil => rfl
  | @cons e e' _ _ first _ ih =>
    obtain ⟨key, value⟩ := e
    obtain ⟨key', value'⟩ := e'
    obtain ⟨rfl, related⟩ := first
    by_cases h : name = key'
    · simpa [h] using related.symm
    · rw [lookup_cons_of_ne h, lookup_cons_of_ne h, ih]

section Related

variable {γ : Type} {R : γ → String × α → Prop} {nameOf : γ → String} {xs : List γ}
  {entries : List (String × α)}

/-- Entries of the names of some elements have these names. -/
lemma map_fst_of_forall₂ (related : List.Forall₂ R xs entries)
    (named : ∀ x e, R x e → e.1 = nameOf x) : entries.map (·.1) = xs.map nameOf := by
  rw [← List.forall₂_eq_eq_eq, List.forall₂_map_left_iff, List.forall₂_map_right_iff]
  exact (related.imp fun x e related => named x e related).flip

/-- **What the map of a list holds under a name comes from the last element of that name**, if every
entry comes from an element of its name. -/
lemma exists_findRev?_of_find? (related : List.Forall₂ R xs entries)
    (named : ∀ x e, R x e → e.1 = nameOf x) {name : String} {value : α}
    (found : (ofList entries).find? name = some value) :
    ∃ x, xs.findRev? (nameOf · == name) = some x ∧ R x (name, value) := by
  rw [find?_ofList] at found
  rw [List.findRev?_eq_find?_reverse]
  have related := List.rel_reverse related
  generalize xs.reverse = ys at related ⊢
  generalize entries.reverse = reversed at related found
  induction related with
  | nil => cases found
  | @cons x e _ _ first _ ih =>
    obtain ⟨key, current⟩ := e
    have same : key = nameOf x := named x _ first
    by_cases here : name = key
    · subst here
      rw [List.lookup_cons_self, Option.some.injEq] at found
      exact ⟨x, List.find?_cons_of_pos (by simp [same]), found ▸ first⟩
    · rw [lookup_cons_of_ne here] at found
      obtain ⟨y, last, related⟩ := ih found
      refine ⟨y, ?_, related⟩
      rw [List.find?_cons_of_neg (by simpa [← same] using Ne.symm here), last]

end Related

/-- The list of some values of a map, each as often as it likes, is the list of the map if no name
is missing. -/
lemma ofList_eq_of_values {entries : List (String × α)} {m : NameMap α}
    (values : ∀ e ∈ entries, m.find? e.1 = some e.2)
    (complete : ∀ name ∈ m.names, name ∈ entries.map (·.1)) : ofList entries = m := by
  refine ext_find? fun name => ?_
  rw [find?_ofList]
  cases hl : entries.reverse.lookup name with
  | some value => exact (values _ (List.mem_reverse.1 (mem_of_lookup hl))).symm
  | none =>
    have missing : name ∉ m.names := by
      intro known
      obtain ⟨e, he, rfl⟩ := List.mem_map.1 (complete name known)
      have other := List.lookup_eq_none_iff.1 hl e (List.mem_reverse.2 he)
      simp at other
    exact (find?_eq_none_iff.2 missing).symm

/-- Among entries with distinct names, a look-up by the name of an entry finds the entry. -/
lemma lookup_of_nodup {entries : List (String × α)} (distinct : (entries.map (·.1)).Nodup)
    {name : String} {value : α} (h : (name, value) ∈ entries) :
    entries.lookup name = some value := by
  induction entries with
  | nil => cases h
  | cons entry rest ih =>
    obtain ⟨key, old⟩ := entry
    rw [List.map_cons, List.nodup_cons] at distinct
    rcases List.mem_cons.1 h with same | later
    · cases same
      exact List.lookup_cons_self
    · have other : name ≠ key := by
        rintro rfl
        exact distinct.1 (List.mem_map.2 ⟨(name, value), later, rfl⟩)
      rw [lookup_cons_of_ne other]
      exact ih distinct.2 later

/-- **The map of a list with distinct names** has the entries of the list and no others. -/
lemma find?_ofList_eq_some_iff {entries : List (String × α)}
    (distinct : (entries.map (·.1)).Nodup) {name : String} {value : α} :
    (ofList entries).find? name = some value ↔ (name, value) ∈ entries := by
  refine ⟨mem_of_find?_ofList, fun member => ?_⟩
  rw [find?_ofList]
  refine lookup_of_nodup ?_ (List.mem_reverse.2 member)
  rw [List.map_reverse]
  exact List.pairwise_reverse.2 (distinct.imp Ne.symm)

/-- A map that takes over another one with the same names becomes the other one. -/
lemma insertAll_eq_of_names {m other : NameMap α} (h : m.names = other.names) :
    m.insertAll other.entries = other := by
  refine ext_find? fun name => ?_
  rw [find?_insertAll_entries]
  cases ho : other.find? name with
  | some value => rfl
  | none =>
    have : m.find? name = none := by
      rw [find?_eq_none_iff, h, ← find?_eq_none_iff, ho]
    simp [this]

/-- A name is known after an insertion if it was known before. -/
lemma find?_insert_of_ne {m : NameMap α} {name other : String} (value : α) (h : other ≠ name) :
    (m.insert name value).find? other = m.find? other := by
  rw [find?_insert, if_neg h]

@[simp] lemma find?_insert_self (m : NameMap α) (name : String) (value : α) :
    (m.insert name value).find? name = some value := by
  rw [find?_insert, if_pos rfl]

/-- An insertion makes one name known. -/
lemma mem_names_insert {m : NameMap α} {name other : String} {value : α} :
    other ∈ (m.insert name value).names ↔ other ∈ m.names ∨ other = name := by
  rw [← contains_iff_mem_names, contains, find?_insert, ← contains_iff_mem_names, contains]
  by_cases h : other = name
  · simp [h]
  · simp [h]

/-- A name is known once some value is found under it. -/
lemma mem_names_of_find? {m : NameMap α} {name : String} {value : α}
    (h : m.find? name = some value) : name ∈ m.names :=
  contains_iff_mem_names.1 (Option.isSome_of_eq_some h)

/-- The map of a single entry holds that entry only. -/
lemma eq_of_find?_single {key name : String} {value found : α}
    (h : (ofList [(key, value)]).find? name = some found) : name = key ∧ found = value := by
  rw [show ofList [(key, value)] = empty.insert key value from rfl, find?_insert] at h
  split at h
  · exact ⟨by assumption, (Option.some.inj h).symm⟩
  · cases h

/-! ### Values -/

/-- Two readings of a map agree when they agree on every value. -/
lemma mapValues_congr {f g : String → α → β} {m : NameMap α}
    (h : ∀ name value, m.find? name = some value → f name value = g name value) :
    m.mapValues f = m.mapValues g := by
  refine ext_find? fun name => ?_
  rw [find?_mapValues, find?_mapValues]
  cases hv : m.find? name with
  | none => rfl
  | some value => simp [h name value hv]

/-- Reading a map twice is reading it once. -/
lemma mapValues_mapValues {γ : Type} (f : String → α → β) (g : String → β → γ) (m : NameMap α) :
    (m.mapValues f).mapValues g = m.mapValues fun name value => g name (f name value) := by
  refine ext_find? fun name => ?_
  rw [find?_mapValues, find?_mapValues, find?_mapValues, Option.map_map]
  rfl

/-- Reading a map with one more value. -/
lemma mapValues_insert (f : String → α → β) (m : NameMap α) (name : String) (value : α) :
    (m.insert name value).mapValues f = (m.mapValues f).insert name (f name value) := by
  refine ext_find? fun other => ?_
  rw [find?_mapValues, find?_insert, find?_insert, find?_mapValues]
  split
  · rename_i same
    rw [same]
    rfl
  · rfl

/-- Reading a map that has taken over a list. -/
lemma mapValues_insertAll (f : String → α → β) (m : NameMap α) (entries : List (String × α)) :
    (m.insertAll entries).mapValues f =
      (m.mapValues f).insertAll (entries.map fun e => (e.1, f e.1 e.2)) := by
  induction entries generalizing m with
  | nil => rfl
  | cons e rest ih =>
    have unfolded : m.insertAll (e :: rest) = (m.insert e.1 e.2).insertAll rest := rfl
    rw [unfolded, ih, mapValues_insert]
    rfl

end Microbatch.NameMap

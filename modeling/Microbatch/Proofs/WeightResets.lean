import Microbatch.Proofs.HostSession

set_option relaxedAutoImplicit false
set_option autoImplicit false

/-!
# Resetting weights in place

A reset goes through two lists. It checks what the source offers, entry by entry of the source; then
it replaces weights, entry by entry of the store; and only behind the replacements it notices that
there was nothing to replace. Done in place, none of this leaves a store half replaced: the checks
come before the first replacement, and a loop that replaces nothing changes nothing.

## Main definitions

* `Microbatch.WeightStore.replaceEach`, `Microbatch.WeightStore.resetInPlace` — a reset that
  overwrites one weight after the other.
* `Microbatch.WeightStore.Refuses` — a source that a store does not take.
* `Microbatch.WeightStore.ResetBy` — a store after a reset.

## Main results

* `Microbatch.WeightStore.find?_replaceEach` — what the replacing loop leaves.
* `Microbatch.WeightStore.resetInPlace_eq` — in place, a reset does the same.
* `Microbatch.WeightStore.resetInPlace_cases` — a reset is refused and changes nothing, or it
  replaces all shared weights.
-/

namespace Microbatch.WeightStore

variable {store source left : WeightStore} {count : Nat}

/-! ### One weight after the other -/

/-- **Overwrites weights, one name after the other**, and counts them. -/
def replaceEach (source : WeightStore) : List String → Nat → WeightStore → Nat × WeightStore
  | [], replaced, store => (replaced, store)
  | name :: rest, replaced, store =>
    match source.find? name with
    | some t => replaceEach source rest (replaced + 1) (store.insert name t)
    | none => replaceEach source rest replaced store

/-- **A reset in place**: the outcome, and the store that is left. The source is checked first, then
the weights of the store are replaced, and a store with weights of which none was replaced is
reported. -/
def resetInPlace (store source : WeightStore) : Except Fault Nat × WeightStore :=
  match store.checkReplacements source with
  | .error cause => (.error (.mismatch cause), store)
  | .ok () =>
    let (replaced, left) := replaceEach source store.names 0 store
    if replaced = 0 ∧ left.isEmpty = false then (.error (.model .unrelated), left)
    else (.ok replaced, left)

/-- The replacing loop counts the names that the source has. -/
lemma fst_replaceEach (names : List String) (replaced : Nat) (store : WeightStore) :
    (replaceEach source names replaced store).1 =
      replaced + (names.filter source.contains).length := by
  induction names generalizing replaced store with
  | nil => rfl
  | cons name rest ih =>
    unfold replaceEach
    split
    · rename_i t offered
      rw [ih, List.filter_cons_of_pos (by rw [NameMap.contains, offered]; rfl), List.length_cons]
      omega
    · rename_i missing
      rw [ih, List.filter_cons_of_neg (by rw [NameMap.contains, missing]; simp)]

/-- **What the replacing loop leaves**: under the names that it goes through what the source has, if
it has something, and the rest as it was. -/
lemma find?_replaceEach (names : List String) (replaced : Nat) (store : WeightStore)
    (name : String) : (replaceEach source names replaced store).2.find? name =
      if name ∈ names then (source.find? name).or (store.find? name) else store.find? name := by
  induction names generalizing replaced store with
  | nil => simp [replaceEach]
  | cons first rest ih =>
    unfold replaceEach
    split
    · rename_i t offered
      rw [ih, NameMap.find?_insert]
      by_cases here : name = first
      · simp [here, offered]
      · simp [here]
    · rename_i missing
      rw [ih]
      by_cases here : name = first
      · simp [here, missing]
      · simp [here]

/-- Going through the names of a store replaces all shared weights. -/
lemma replaceEach_names (store source : WeightStore) :
    replaceEach source store.names 0 store =
      (store.sharedCount source, store.replaceFrom source) := by
  refine Prod.ext ?_ (NameMap.ext_find? fun name => ?_)
  · rw [fst_replaceEach, Nat.zero_add, sharedCount]
  · rw [find?_replaceEach, replaceFrom, NameMap.find?_mapValues]
    split
    · rename_i known
      obtain ⟨current, found⟩ := NameMap.find?_of_mem_names known
      rw [found]
      cases source.find? name <;> rfl
    · rename_i unknown
      rw [NameMap.find?_eq_none_iff.2 unknown]
      rfl

/-! ### Stores that share nothing -/

lemma sharedCount_eq_zero_iff :
    store.sharedCount source = 0 ↔ ∀ name ∈ store.names, name ∉ source.names := by
  rw [sharedCount, List.length_eq_zero_iff, List.filter_eq_nil_iff]
  simp only [NameMap.contains_iff_mem_names]

/-- A reset that replaces nothing leaves the store as it is. -/
lemma replaceFrom_eq_self (apart : store.sharedCount source = 0) :
    store.replaceFrom source = store := by
  refine NameMap.ext_find? fun name => ?_
  rw [replaceFrom, NameMap.find?_mapValues]
  cases found : store.find? name with
  | none => rfl
  | some current =>
    have missing := sharedCount_eq_zero_iff.1 apart name (NameMap.mem_names_of_find? found)
    rw [NameMap.find?_eq_none_iff.2 missing]
    rfl

/-- **In place, a reset does the same**: it has the same outcome, and if it fails the store is as it
was. -/
lemma resetInPlace_eq (store source : WeightStore) :
    store.resetInPlace source =
      match store.resetFrom source with
      | .error cause => (.error cause, store)
      | .ok (count, left) => (.ok count, left) := by
  have same_empty : (store.replaceFrom source).isEmpty = store.isEmpty := List.isEmpty_map
  unfold resetInPlace resetFrom
  cases store.checkReplacements source with
  | error cause => rfl
  | ok =>
    simp only [replaceEach_names, same_empty]
    split
    · rename_i unrelated
      -- reported behind the loop, which has replaced nothing
      rw [replaceFrom_eq_self unrelated.1]
    · rfl

/-! ### What is refused, and what is done -/

/-- **A source that a store does not take.** -/
inductive Refuses (store source : WeightStore) : Prop where
  /-- It offers a tensor of another element type, shape or size than the weight of that name. -/
  | unfit {name : String} {current t : Tensor} (held : store.find? name = some current)
    (offered : source.find? name = some t) (unfit : ¬ t.Fits current.info) : Refuses store source
  /-- The store has weights, and it has none of them. -/
  | unrelated (held : store.names ≠ []) (apart : ∀ name ∈ store.names, name ∉ source.names) :
    Refuses store source

/-- **A store after a reset.** -/
structure ResetBy (store source : WeightStore) (count : Nat) (left : WeightStore) : Prop where
  /-- The count is that of the shared names. -/
  count : count = (store.names.filter (· ∈ source.names)).length
  /-- The names stay. -/
  names : left.names = store.names
  /-- Element types and shapes stay. -/
  described : (left.mapValues fun _ t => t.info) = store.mapValues fun _ t => t.info
  /-- Under every shared name there is what the source has. -/
  taken : ∀ name ∈ store.names, ∀ t, source.find? name = some t → left.find? name = some t
  /-- Under every other name there is what was there. -/
  kept : ∀ name, name ∉ source.names → left.find? name = store.find? name

/-- A reset succeeds exactly if the source is not refused. -/
lemma resetFrom_eq_ok_iff : store.resetFrom source = .ok (count, left) ↔ ¬ store.Refuses source ∧
    count = store.sharedCount source ∧ left = store.replaceFrom source := by
  have fits_iff : store.checkReplacements source = .ok () ↔ _ := checkReplacements_eq_ok_iff
  have empty_iff : store.isEmpty = false ↔ store.names ≠ [] := by
    rw [NameMap.isEmpty, NameMap.names, List.isEmpty_eq_false_iff, ne_eq, ne_eq,
      List.map_eq_nil_iff]
  unfold resetFrom
  cases checked : store.checkReplacements source with
  | error cause =>
    refine iff_of_false (by simp) ?_
    rintro ⟨accepted, -⟩
    rw [checked] at fits_iff
    refine absurd (fits_iff.2 fun name current t held offered => ?_) (by simp)
    exact not_not.1 fun unfit => accepted (.unfit held offered unfit)
  | ok =>
    have fits := fits_iff.1 checked
    have refuses_iff : store.Refuses source ↔
        store.sharedCount source = 0 ∧ store.isEmpty = false := by
      rw [sharedCount_eq_zero_iff, empty_iff]
      constructor
      · rintro (⟨held, offered, unfit⟩ | ⟨held, apart⟩)
        · exact absurd (fits _ _ _ held offered) unfit
        · exact ⟨apart, held⟩
      · rintro ⟨apart, held⟩
        exact .unrelated held apart
    dsimp only
    split
    · rename_i unrelated
      exact iff_of_false (by simp) fun accepted => accepted.1 (refuses_iff.2 unrelated)
    · rename_i related
      rw [Except.ok.injEq, Prod.mk.injEq, eq_comm, @eq_comm _ left]
      exact (and_iff_right (mt refuses_iff.1 related)).symm

/-- What a reset makes of the store. -/
lemma resetBy_of_resetFrom (taken : store.resetFrom source = .ok (count, left)) :
    store.ResetBy source count left := by
  have described := mapValues_info_resetFrom taken
  obtain ⟨-, rfl, rfl⟩ := resetFrom_eq_ok_iff.1 taken
  refine ⟨?_, NameMap.names_mapValues _ _, described, fun name known t offered => ?_,
    fun name missing => ?_⟩
  · rw [sharedCount]
    simp only [← NameMap.contains_iff_mem_names, Bool.decide_eq_true]
  · obtain ⟨current, held⟩ := NameMap.find?_of_mem_names known
    rw [replaceFrom, NameMap.find?_mapValues, held, offered]
    rfl
  · rw [replaceFrom, NameMap.find?_mapValues, NameMap.find?_eq_none_iff.2 missing]
    simp

/-- **A reset that is repeated** counts the same weights and leaves the same store. -/
lemma resetFrom_again (taken : store.resetFrom source = .ok (count, left)) :
    left.resetFrom source = .ok (count, left) := by
  have by_reset := resetBy_of_resetFrom taken
  obtain ⟨accepted, counted, replaced⟩ := resetFrom_eq_ok_iff.1 taken
  refine resetFrom_eq_ok_iff.2 ⟨fun refuses => ?_, ?_, ?_⟩
  · cases refuses with
    | @unfit name current t held offered unfit =>
      have known : name ∈ store.names := by_reset.names ▸ NameMap.mem_names_of_find? held
      obtain rfl := Option.some.inj (held.symm.trans (by_reset.taken name known t offered))
      obtain ⟨before, held_before⟩ := NameMap.find?_of_mem_names known
      refine accepted (.unfit held_before offered fun fits => unfit ?_)
      exact ⟨rfl, (congrArg TensorInfo.byteCount? fits.1).trans fits.2⟩
    | unrelated held apart =>
      exact accepted (.unrelated (by_reset.names ▸ held) (by_reset.names ▸ apart))
  · rw [counted, sharedCount, sharedCount, by_reset.names]
  · rw [replaced, replaceFrom, replaceFrom, NameMap.mapValues_mapValues]
    refine NameMap.mapValues_congr fun name current _ => ?_
    cases source.find? name <;> rfl

/-- **A reset is all or nothing.** In place, one weight after the other, a reset is refused and
leaves the store as it was, or it replaces all weights that the source has, counts them, and keeps
the names, the descriptions and the other weights. It is refused exactly if the source offers a
tensor that does not fit the weight of its name or if a store that has weights shares none of them
with the source. If it is repeated, the count is the same and the store stays.

**Proof sketch.** The replacing loop goes through every name of the store once, so that it replaces
what the reset of the whole store replaces, and counts it. A loop that counts nothing has replaced
nothing, which is why the store is as it was also when that is reported last. -/
theorem resetInPlace_cases (store source : WeightStore) :
    store.resetFrom source =
        (store.resetInPlace source).1.map (fun count => (count, (store.resetInPlace source).2)) ∧
      (store.Refuses source ∧ (∃ cause, store.resetInPlace source = (.error cause, store)) ∨
        ¬ store.Refuses source ∧ ∃ count left, store.resetInPlace source = (.ok count, left) ∧
          store.ResetBy source count left ∧ left.resetInPlace source = (.ok count, left)) := by
  rw [resetInPlace_eq store source]
  cases outcome : store.resetFrom source with
  | error cause =>
    refine ⟨rfl, .inl ⟨?_, cause, rfl⟩⟩
    by_contra accepted
    rw [resetFrom_eq_ok_iff.2 ⟨accepted, rfl, rfl⟩] at outcome
    cases outcome
  | ok result =>
    obtain ⟨count, left⟩ := result
    refine ⟨rfl, .inr ⟨(resetFrom_eq_ok_iff.1 outcome).1, count, left, rfl,
      resetBy_of_resetFrom outcome, ?_⟩⟩
    rw [resetInPlace_eq, resetFrom_again outcome]

end Microbatch.WeightStore

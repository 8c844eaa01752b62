import Mathlib.Data.List.Nodup
import Microbatch.Anchor.Registry
import Microbatch.Proofs.Names
import Microbatch.Proofs.Outcomes

set_option relaxedAutoImplicit false
set_option autoImplicit false

/-!
# What a registry records

A registry can be kept in three parts that have to agree: the available tensors, the anchors in the
order of registration, and an index of the places at which names stand among the anchors. A look-up
goes through the index to the anchors, and the layouts go from the anchors to the available tensors,
both without a check. All registrations keep the parts in agreement, so that no look-up misses; and
what such a registry answers is what the registry answers that looks through its anchors.

## Main definitions

* `Microbatch.attempts` — calls one after the other, the failed ones among them.
* `Microbatch.IndexedRegistry` — a registry with an index.
* `Microbatch.IndexedRegistry.Mirrors` — its parts agree, and with those of a registry without
  index.

## Main results

* `Microbatch.IndexedRegistry.Mirrors.after_register`,
  `Microbatch.IndexedRegistry.Mirrors.after_attempts` — one call, and any calls, keep the agreement.
* `Microbatch.IndexedRegistry.records_calls` — what is registered, found and laid out after any
  calls.
-/

namespace Microbatch

/-- What stands at a place of a list with one element more. -/
lemma getElem?_concat_eq_some_iff {α : Type} {xs : List α} {x y : α} {i : Nat} :
    (xs ++ [x])[i]? = some y ↔ xs[i]? = some y ∨ i = xs.length ∧ x = y := by
  rcases Nat.lt_trichotomy i xs.length with inside | rfl | outside
  · rw [List.getElem?_append_left inside]
    exact (or_iff_left fun h => Nat.ne_of_lt inside h.1).symm
  · simp
  · rw [List.getElem?_eq_none (by simp; omega), List.getElem?_eq_none (by omega)]
    refine iff_of_false (by simp) ?_
    rintro (none_there | ⟨rfl, -⟩)
    · cases none_there
    · exact Nat.lt_irrefl _ outside

/-! ### Calls -/

/-- **Calls one after the other**: the outcomes, and the state after the last one. A call that fails
does not keep the next from being made. -/
def attempts {σ : Type} (call : σ → Anchor → Except Fault Unit × σ) :
    σ → List Anchor → List (Except Fault Unit) × σ
  | s, [] => ([], s)
  | s, a :: rest =>
    let (outcome, s') := call s a
    let (outcomes, last) := attempts call s' rest
    (outcome :: outcomes, last)

/-- The calls that succeeded, in order. -/
def succeeded (calls : List Anchor) (outcomes : List (Except Fault Unit)) : List Anchor :=
  ((calls.zip outcomes).filter (·.2.isOk)).map (·.1)

@[simp] lemma succeeded_cons_ok (a : Anchor) (calls : List Anchor)
    (outcomes : List (Except Fault Unit)) :
    succeeded (a :: calls) (.ok () :: outcomes) = a :: succeeded calls outcomes := rfl

@[simp] lemma succeeded_cons_error (a : Anchor) (calls : List Anchor) (fault : Fault)
    (outcomes : List (Except Fault Unit)) :
    succeeded (a :: calls) (.error fault :: outcomes) = succeeded calls outcomes := rfl

/-- There is an outcome for every call. -/
lemma length_attempts {σ : Type} (call : σ → Anchor → Except Fault Unit × σ) (s : σ)
    (calls : List Anchor) : (attempts call s calls).1.length = calls.length := by
  induction calls generalizing s with
  | nil => rfl
  | cons a rest ih => exact congrArg Nat.succ (ih _)

/-- One registration: the outcome, and the registry behind it. -/
def Registry.attempt (r : Registry) (a : Anchor) : Except Fault Unit × Registry :=
  match r.register a.name a.policy with
  | .ok r' => (.ok (), r')
  | .error fault => (.error fault, r)

/-! ### A registry with an index -/

/-- **A look-up that misses** what has to be there. -/
inductive Miss where
  /-- There is no anchor at a place. -/
  | anchor (place : Nat)
  /-- A tensor is not available. -/
  | tensor (name : String)

/-- **A registry with an index**: every registered name has its place among the anchors. -/
structure IndexedRegistry where
  /-- The tensors that can be anchored. -/
  available : NameMap TensorInfo
  /-- The anchors in registration order. -/
  anchors : List Anchor
  /-- The places of the registered names. -/
  index : NameMap Nat

namespace IndexedRegistry

/-- The registry without anchors. -/
def ofAvailable (available : NameMap TensorInfo) : IndexedRegistry := ⟨available, [], .empty⟩

/-- The registered names in order. -/
def names (r : IndexedRegistry) : List String := r.anchors.map (·.name)

/-- The registry with one anchor more: the index gets the place behind the last anchor, and the
anchor comes there. -/
def add (r : IndexedRegistry) (a : Anchor) : IndexedRegistry :=
  let indexed := { r with index := r.index.insert a.name r.anchors.length }
  { indexed with anchors := indexed.anchors ++ [a] }

/-- What helps with a name that is not available. -/
def hint? (r : IndexedRegistry) (name : String) : Option Hint :=
  (Registry.ofAvailable r.available).hint? name

/-- **Registers an anchor**, if its name is not in the index and its tensor is available. -/
def register (r : IndexedRegistry) (a : Anchor) : Except Fault Unit × IndexedRegistry :=
  if r.index.contains a.name then (.error (.duplicateAnchor a.name), r)
  else if r.available.contains a.name then (.ok (), r.add a)
  else (.error (.unknownTensor a.name (r.hint? a.name)), r)

/-- **The anchor of a tensor**: the one at the place that the index gives to the name. -/
def find? (r : IndexedRegistry) (name : String) : Except Miss (Option Anchor) :=
  match r.index.find? name with
  | none => .ok none
  | some place =>
    match r.anchors[place]? with
    | some a => .ok (some a)
    | none => .error (.anchor place)

/-- The layout of an anchor, whose tensor is looked up among the available ones. -/
def layout (r : IndexedRegistry) (microBatches : Nat) (a : Anchor) :
    Except (Miss ⊕ ConfigurationFault) Layout :=
  match r.available.find? a.name with
  | none => .error (.inl (.tensor a.name))
  | some info => (RegisteredAnchor.layout ⟨a, info⟩ microBatches).mapError .inr

/-- **The buffer layouts** in registration order. -/
def layouts (r : IndexedRegistry) (microBatches : Nat) :
    Except (Miss ⊕ ConfigurationFault) (List Layout) :=
  r.anchors.mapM (r.layout microBatches)

/-! ### Agreement -/

/-- **The parts of a registry agree**, with each other and with a registry that has no index. -/
structure Mirrors (r : IndexedRegistry) (plain : Registry) : Prop where
  /-- The same tensors are available. -/
  available : r.available = plain.available
  /-- The same anchors are registered. -/
  anchors : r.anchors = plain.anchors.map (·.toAnchor)
  /-- The index has the place of every name, and no others. -/
  index : ∀ name place, r.index.find? name = some place ↔ r.names[place]? = some name
  /-- Every registered tensor is available, as it is described. -/
  described : ∀ a ∈ plain.anchors, plain.available.find? a.name = some a.info

variable {r : IndexedRegistry} {plain : Registry} {available : NameMap TensorInfo}

lemma mirrors_ofAvailable (available : NameMap TensorInfo) :
    (ofAvailable available).Mirrors (.ofAvailable available) where
  available := rfl
  anchors := rfl
  index name place := by simp [ofAvailable, names]
  described := List.forall_mem_nil _

/-- There is no anchor of a name that is not registered. -/
lemma find?_anchors_eq_none_iff {name : String} :
    r.anchors.find? (·.name == name) = none ↔ name ∉ r.names := by
  rw [List.find?_eq_none, names, List.mem_map]
  simp

namespace Mirrors

variable (same : r.Mirrors plain)
include same

/-- A name is in the index exactly if it is registered. -/
lemma contains_index_iff {name : String} : r.index.contains name ↔ name ∈ r.names := by
  rw [NameMap.contains, Option.isSome_iff_exists, List.mem_iff_getElem?]
  exact exists_congr fun place => same.index name place

/-- **Registered names are pairwise distinct**, since the index has one place for each. -/
lemma nodup : r.names.Nodup := by
  rw [List.nodup_iff_getElem?_ne_getElem?]
  intro i j before inside equal
  have here : r.names[j]? = some r.names[j] := List.getElem?_eq_getElem inside
  have first := (same.index _ _).2 here
  rw [(same.index _ _).2 (equal.trans here)] at first
  exact absurd (Option.some.inj first) (Nat.ne_of_lt before)

/-- The registry without index has the same names. -/
lemma names_eq : plain.names = r.names := by
  rw [names, same.anchors, List.map_map]
  rfl

/-- The registry without index finds a name exactly if it is registered. -/
lemma isSome_find?_iff {name : String} : (plain.find? name).isSome ↔ name ∈ r.names := by
  rw [← same.names_eq, Registry.find?, List.find?_isSome, Registry.names, List.mem_map]
  simp only [beq_iff_eq]

/-- A hint needs the available tensors only. -/
lemma hint?_eq (name : String) : r.hint? name = plain.hint? name := by
  rw [hint?, same.available]
  rfl

/-- **An anchor is added** in agreement: its name gets the place at which it comes to stand, and the
places of all other names stay. -/
lemma after_add {a : Anchor} {info : TensorInfo} (fresh : a.name ∉ r.names)
    (found : plain.available.find? a.name = some info) :
    (r.add a).Mirrors { plain with anchors := plain.anchors ++ [⟨a, info⟩] } where
  available := same.available
  anchors := by simp [add, same.anchors]
  index name place := by
    have added : (r.add a).names = r.names ++ [a.name] := by simp [names, add]
    have length : r.anchors.length = r.names.length := by simp [names]
    rw [added, getElem?_concat_eq_some_iff, add, NameMap.find?_insert, length,
      ← same.index]
    by_cases here : name = a.name
    · have unplaced : r.index.find? name ≠ some place := fun placed =>
        fresh (here ▸ List.mem_of_getElem? ((same.index _ _).1 placed))
      rw [if_pos here, Option.some.injEq, eq_comm, or_iff_right unplaced, and_iff_left here.symm]
    · rw [if_neg here, or_iff_left fun h => here h.2.symm]
  described := by simpa [or_imp, forall_and, found] using same.described

/-- **One call keeps the agreement**, and it has the same outcome without an index. -/
lemma after_register (a : Anchor) : (r.register a).1 = (plain.attempt a).1 ∧
    (r.register a).2.Mirrors (plain.attempt a).2 := by
  unfold register Registry.attempt Registry.register
  by_cases known : a.name ∈ r.names
  · rw [if_pos (same.contains_index_iff.2 known), if_pos (same.isSome_find?_iff.2 known)]
    exact ⟨rfl, same⟩
  rw [if_neg (mt same.contains_index_iff.1 known), if_neg (mt same.isSome_find?_iff.1 known),
    NameMap.contains, same.available, same.hint?_eq]
  cases found : plain.available.find? a.name with
  | none => exact ⟨rfl, same⟩
  | some info => exact ⟨rfl, same.after_add known found⟩

/-- There is one anchor of a registered name. -/
lemma find?_anchors_eq_some_iff {name : String} {a : Anchor} :
    r.anchors.find? (·.name == name) = some a ↔ a ∈ r.anchors ∧ a.name = name := by
  constructor
  · intro found
    exact ⟨List.mem_of_find?_eq_some found, by simpa using List.find?_some found⟩
  · rintro ⟨member, rfl⟩
    obtain ⟨b, found⟩ := Option.isSome_iff_exists.1
      (List.find?_isSome (p := (·.name == a.name)).2 ⟨a, member, by simp⟩)
    have alike : b.name = a.name := by simpa using List.find?_some found
    rw [found, List.inj_on_of_nodup_map same.nodup (List.mem_of_find?_eq_some found) member alike]

/-- **A look-up finds the anchor of the name**, or that there is none; it does not miss. -/
lemma find?_eq (name : String) : r.find? name = .ok (r.anchors.find? (·.name == name)) := by
  rw [IndexedRegistry.find?]
  cases placed : r.index.find? name with
  | none =>
    have unknown : name ∉ r.names := by
      rw [← same.contains_index_iff, NameMap.contains, placed]
      simp
    rw [find?_anchors_eq_none_iff.2 unknown]
  | some place =>
    have stands := (same.index name place).1 placed
    rw [names, List.getElem?_map, Option.map_eq_some_iff] at stands
    obtain ⟨a, here, named⟩ := stands
    rw [same.find?_anchors_eq_some_iff.2 ⟨List.mem_of_getElem? here, named⟩]
    simp only [here]

/-- The registry without index finds the same anchor. -/
lemma find?_plain (name : String) :
    (plain.find? name).map (·.toAnchor) = r.anchors.find? (·.name == name) := by
  rw [same.anchors, List.find?_map]
  rfl

/-- **The layouts do not miss** a tensor, and they are those of the registry without index. -/
lemma layouts_eq (microBatches : Nat) :
    r.layouts microBatches = (plain.layouts microBatches).mapError .inr := by
  rw [IndexedRegistry.layouts, Registry.layouts, same.anchors, List.mapM_map,
    ← Outcome.mapM_mapError]
  refine Outcome.mapM_congr fun a member => ?_
  rw [Function.comp_apply, IndexedRegistry.layout, same.available, same.described a member]

/-- A registered tensor is available. -/
lemma exists_available {a : Anchor} (member : a ∈ r.anchors) :
    ∃ info, r.available.find? a.name = some info := by
  rw [same.anchors] at member
  obtain ⟨registered, listed, rfl⟩ := List.mem_map.1 member
  exact ⟨registered.info, same.available ▸ same.described registered listed⟩

end Mirrors

/-! ### One call -/

/-- **What a registry does with one call.** -/
structure Answers (r : IndexedRegistry) (a : Anchor) : Prop where
  /-- A registered name is refused as such. -/
  duplicate_iff : (r.register a).1 = .error (.duplicateAnchor a.name) ↔ a.name ∈ r.names
  /-- Any other name is refused if it is not available. -/
  unknown_iff : (r.register a).1 = .error (.unknownTensor a.name (r.hint? a.name)) ↔
    a.name ∉ r.names ∧ a.name ∉ r.available.names
  /-- The other names are registered. -/
  ok_iff : (r.register a).1 = .ok () ↔ a.name ∉ r.names ∧ a.name ∈ r.available.names
  /-- A call that fails changes nothing. -/
  failed : ∀ fault, (r.register a).1 = .error fault → (r.register a).2 = r
  /-- A call that succeeds puts its anchor behind the others. -/
  added : (r.register a).1 = .ok () →
    (r.register a).2.anchors = r.anchors ++ [a] ∧ (r.register a).2.available = r.available

/-- What a registration does, said by the registered names in place of the index. -/
lemma Mirrors.register_eq (same : r.Mirrors plain) (a : Anchor) : r.register a =
    if a.name ∈ r.names then (.error (.duplicateAnchor a.name), r)
    else if a.name ∈ r.available.names then (.ok (), r.add a)
    else (.error (.unknownTensor a.name (r.hint? a.name)), r) := by
  unfold register
  simp only [same.contains_index_iff, NameMap.contains_iff_mem_names]

/-- Where the parts agree, a call is answered by the names. -/
lemma Mirrors.answers (same : r.Mirrors plain) (a : Anchor) : r.Answers a := by
  have answer := same.register_eq a
  by_cases known : a.name ∈ r.names
  · rw [if_pos known] at answer
    constructor <;> simp [answer, known]
  by_cases offered : a.name ∈ r.available.names
  · rw [if_neg known, if_pos offered] at answer
    constructor <;> simp [answer, known, offered, add]
  · rw [if_neg known, if_neg offered] at answer
    constructor <;> simp [answer, known, offered]

/-! ### Any calls -/

/-- **Any calls keep the agreement**, and they have the same outcomes without an index. -/
lemma Mirrors.after_attempts (same : r.Mirrors plain) (calls : List Anchor) :
    (attempts register r calls).1 = (attempts Registry.attempt plain calls).1 ∧
      (attempts register r calls).2.Mirrors (attempts Registry.attempt plain calls).2 := by
  induction calls generalizing r plain with
  | nil => exact ⟨rfl, same⟩
  | cons a rest ih =>
    obtain ⟨first, next⟩ := same.after_register a
    obtain ⟨others, last⟩ := ih next
    exact ⟨congrArg₂ List.cons first others, last⟩

/-- **The anchors behind any calls** are those of before and then those of the calls that
succeeded. -/
lemma Mirrors.anchors_attempts (same : r.Mirrors plain) (calls : List Anchor) :
    (attempts register r calls).2.anchors =
        r.anchors ++ succeeded calls (attempts register r calls).1 ∧
      (attempts register r calls).2.available = r.available := by
  induction calls generalizing r plain with
  | nil => exact ⟨(List.append_nil _).symm, rfl⟩
  | cons a rest ih =>
    obtain ⟨-, next⟩ := same.after_register a
    obtain ⟨anchors, available⟩ := ih next
    have answers := same.answers a
    have run : attempts register r (a :: rest) =
        ((r.register a).1 :: (attempts register (r.register a).2 rest).1,
          (attempts register (r.register a).2 rest).2) := rfl
    rw [run]
    cases outcome : (r.register a).1 with
    | error fault =>
      rw [succeeded_cons_error, anchors, available, answers.failed fault outcome]
      exact ⟨rfl, rfl⟩
    | ok done =>
      obtain ⟨here, kept⟩ := answers.added outcome
      rw [succeeded_cons_ok, anchors, available, here, kept, List.append_assoc]
      exact ⟨rfl, rfl⟩

/-! ### Layouts -/

/-- **The layout of an anchor** among the available tensors. -/
structure LaysOut (available : NameMap TensorInfo) (microBatches : Nat) (a : Anchor)
    (layout : Layout) : Prop where
  /-- It has the name of the anchor. -/
  name : layout.name = a.name
  /-- It has the policy of the anchor. -/
  policy : layout.policy = a.policy
  /-- One micro-batch yields the tensor as it is available. -/
  described : available.find? a.name = some layout.microBatch
  /-- The buffer has the element type of the tensor. -/
  elementType : layout.buffer.elementType = layout.microBatch.elementType
  /-- The buffer has the shape that the policy makes of the tensor's. -/
  shape : a.policy.bufferShape layout.microBatch.shape microBatches = .ok layout.buffer.shape

variable {microBatches : Nat} {a : Anchor} {info : TensorInfo}

/-- An anchor has its layout if its buffer has a shape. -/
lemma layout_eq_ok_iff (found : r.available.find? a.name = some info) {layout : Layout} :
    r.layout microBatches a = .ok layout ↔ LaysOut r.available microBatches a layout := by
  rw [IndexedRegistry.layout, found]
  simp only [RegisteredAnchor.layout, Outcome.mapError_eq_ok_iff, Outcome.bind_eq_ok_iff,
    Outcome.pure_eq_ok, Except.ok.injEq]
  constructor
  · rintro ⟨shape, derived, rfl⟩
    exact ⟨rfl, rfl, found, rfl, derived⟩
  · rintro ⟨name, policy, described, elementType, shape⟩
    obtain rfl := Option.some.inj (found.symm.trans described)
    obtain ⟨layoutName, layoutPolicy, microBatch, ⟨bufferType, bufferShape⟩⟩ := layout
    dsimp only at name policy elementType shape
    subst name policy elementType
    exact ⟨bufferShape, shape, rfl⟩

/-- An anchor has no layout if its buffer has no shape, and for no other reason. -/
lemma layout_eq_error_iff (found : r.available.find? a.name = some info)
    {stop : Miss ⊕ ConfigurationFault} : r.layout microBatches a = .error stop ↔
      ∃ cause, a.policy.bufferShape info.shape microBatches = .error cause ∧ .inr cause = stop := by
  rw [IndexedRegistry.layout, found]
  simp only [RegisteredAnchor.layout, Outcome.mapError_eq_error_iff, Outcome.bind_eq_error_iff,
    Outcome.pure_eq_ok]
  simp

/-- **There are layouts** exactly if every anchor has one, and then they are in the order of the
anchors. -/
lemma Mirrors.layouts_eq_ok_iff (same : r.Mirrors plain) {layouts : List Layout} :
    r.layouts microBatches = .ok layouts ↔
      List.Forall₂ (LaysOut r.available microBatches) r.anchors layouts := by
  have offered : ∀ a ∈ r.anchors, ∃ info, r.available.find? a.name = some info :=
    fun a => same.exists_available
  rw [IndexedRegistry.layouts, Outcome.mapM_eq_ok_iff]
  constructor
  · intro made
    refine ((List.forall₂_and_left _ _).2 ⟨offered, made⟩).imp ?_
    rintro a layout ⟨⟨info, found⟩, here⟩
    exact (layout_eq_ok_iff found).1 here
  · intro laid
    refine ((List.forall₂_and_left _ _).2 ⟨offered, laid⟩).imp ?_
    rintro a layout ⟨⟨info, found⟩, here⟩
    exact (layout_eq_ok_iff found).2 here

/-- **No layout misses** its tensor. -/
lemma Mirrors.layouts_ne_missed (same : r.Mirrors plain) (miss : Miss) :
    r.layouts microBatches ≠ .error (.inl miss) := by
  intro missed
  rw [same.layouts_eq, Outcome.mapError_eq_error_iff] at missed
  obtain ⟨cause, -, impossible⟩ := missed
  cases impossible

/-- **There are no layouts** exactly if the buffer of some anchor has no shape. -/
lemma Mirrors.exists_layouts_eq_error_iff (same : r.Mirrors plain) :
    (∃ cause, r.layouts microBatches = .error (.inr cause)) ↔ ∃ a ∈ r.anchors, ∃ info cause,
      r.available.find? a.name = some info ∧
        a.policy.bufferShape info.shape microBatches = .error cause := by
  constructor
  · rintro ⟨cause, refused⟩
    obtain ⟨a, member, here⟩ := Outcome.exists_of_mapM_eq_error refused
    obtain ⟨info, found⟩ := same.exists_available member
    obtain ⟨cause, shapeless, -⟩ := (layout_eq_error_iff found).1 here
    exact ⟨a, member, info, cause, found, shapeless⟩
  · rintro ⟨a, member, info, cause, found, shapeless⟩
    cases outcome : r.layouts microBatches with
    | error stop =>
      cases stop with
      | inl miss => exact absurd outcome (same.layouts_ne_missed miss)
      | inr cause => exact ⟨cause, rfl⟩
    | ok layouts =>
      obtain ⟨layout, -, laid⟩ :=
        Outcome.exists_of_forall₂_right (same.layouts_eq_ok_iff.1 outcome).flip member
      obtain rfl := Option.some.inj (found.symm.trans laid.described)
      rw [laid.shape] at shapeless
      cases shapeless

/-! ### What is recorded -/

/-- **A registry records the calls that succeeded.** Take any available tensors, and make any calls,
of which some may fail.

The registered names are pairwise distinct and available, and the anchors are those of the calls
that succeeded, in order and with their policies. The index gives exactly the places of the names,
so that a look-up finds the anchor of a registered name and finds that another name has none, and
never misses. The next call is refused for a registered name, refused for another name that is not
available, and succeeds otherwise; a call that is refused changes nothing. The layouts never miss a
tensor: there is one for each anchor, in order, with the available description and with the buffer
of the same element type and the derived shape; and there are none exactly if some shape cannot be
derived.

A registry without index has the same outcomes, names, anchors and layouts.

**Proof sketch.** One call keeps the parts in agreement, since a new name gets the place at which
its anchor comes to stand; then induction on the calls. -/
theorem records_calls (available : NameMap TensorInfo) (calls : List Anchor) :
    ∃ outcomes r, attempts register (ofAvailable available) calls = (outcomes, r) ∧
      (r.names.Nodup ∧ ∀ name ∈ r.names, name ∈ available.names) ∧
      (outcomes.length = calls.length ∧ r.anchors = succeeded calls outcomes ∧
        r.available = available) ∧
      (∀ name,
        (∀ place, r.index.find? name = some place ↔ r.names[place]? = some name) ∧
        (∀ a, r.find? name = .ok (some a) ↔ a ∈ r.anchors ∧ a.name = name) ∧
        (r.find? name = .ok none ↔ name ∉ r.names)) ∧
      (∀ a, r.Answers a) ∧
      (∀ microBatches,
        (∀ miss, r.layouts microBatches ≠ .error (.inl miss)) ∧
        (∀ layouts, r.layouts microBatches = .ok layouts ↔
          List.Forall₂ (LaysOut available microBatches) r.anchors layouts) ∧
        ((∃ cause, r.layouts microBatches = .error (.inr cause)) ↔
          ∃ a ∈ r.anchors, ∃ info cause, available.find? a.name = some info ∧
            a.policy.bufferShape info.shape microBatches = .error cause)) ∧
      ∃ plain, attempts Registry.attempt (.ofAvailable available) calls = (outcomes, plain) ∧
        plain.names = r.names ∧
        (∀ name, r.find? name = .ok ((plain.find? name).map (·.toAnchor))) ∧
        ∀ microBatches, r.layouts microBatches = (plain.layouts microBatches).mapError .inr := by
  have start := mirrors_ofAvailable available
  obtain ⟨outcomes_eq, same⟩ := start.after_attempts calls
  obtain ⟨anchors, kept⟩ := start.anchors_attempts calls
  refine ⟨_, _, rfl, ⟨same.nodup, fun name member => ?_⟩, ⟨length_attempts _ _ _, anchors, kept⟩,
    fun name => ⟨same.index name, fun a => ?_, ?_⟩, same.answers, fun microBatches =>
      ⟨same.layouts_ne_missed, fun layouts => ?_, ?_⟩, _, Prod.ext outcomes_eq.symm rfl,
    same.names_eq, fun name => ?_, same.layouts_eq⟩
  · obtain ⟨a, listed, rfl⟩ := List.mem_map.1 member
    obtain ⟨info, found⟩ := same.exists_available listed
    rw [kept] at found
    exact NameMap.mem_names_of_find? found
  · rw [same.find?_eq, Except.ok.injEq, same.find?_anchors_eq_some_iff]
  · rw [same.find?_eq, Except.ok.injEq, find?_anchors_eq_none_iff]
  · rw [same.layouts_eq_ok_iff, kept]
    rfl
  · rw [same.exists_layouts_eq_error_iff, kept]
    rfl
  · rw [same.find?_eq, same.find?_plain]

/-- Two tensors that can be anchored. -/
def twoAvailable : NameMap TensorInfo := .ofList [("w", .float32 [6, 2]), ("x", .float32 [5])]

/-- Calls of which one asks for a gradient that is not available and one for a tensor again. -/
def fourCalls : List Anchor := [⟨"x", .last⟩, ⟨"d__w", .all⟩, ⟨"x", .sum⟩, ⟨"w", .sum⟩]

/-- **Failures in between**: of four calls two are refused, and the other two are recorded. With
three micro-batches both have a layout; with four the sum has none. -/
theorem records_calls_sample : ∃ outcomes r,
    attempts register (ofAvailable twoAvailable) fourCalls = (outcomes, r) ∧
    outcomes = [.ok (), .error (.unknownTensor "d__w" (some (.noGradient "w"))),
      .error (.duplicateAnchor "x"), .ok ()] ∧
    r.anchors = [⟨"x", .last⟩, ⟨"w", .sum⟩] ∧ r.names.Nodup ∧
    r.find? "w" = .ok (some ⟨"w", .sum⟩) ∧ r.find? "d__w" = .ok none ∧
    r.layouts 3 = .ok [⟨"x", .last, .float32 [5], .float32 [5]⟩,
      ⟨"w", .sum, .float32 [6, 2], .float32 [2, 2]⟩] ∧
    ∃ cause, r.layouts 4 = .error (.inr cause) := by
  obtain ⟨outcomes, r, run, ⟨nodup, -⟩, ⟨-, recorded, -⟩, found, -, laid, -⟩ :=
    records_calls twoAvailable fourCalls
  have answered : outcomes = [.ok (), .error (.unknownTensor "d__w" (some (.noGradient "w"))),
      .error (.duplicateAnchor "x"), .ok ()] := by
    rw [← show (attempts register (ofAvailable twoAvailable) fourCalls).1 = outcomes by rw [run]]
    decide +kernel
  have anchors : r.anchors = [⟨"x", .last⟩, ⟨"w", .sum⟩] := by
    rw [recorded, answered]
    rfl
  have tensors : twoAvailable.find? "x" = some (.float32 [5]) ∧
      twoAvailable.find? "w" = some (.float32 [6, 2]) := by decide +kernel
  refine ⟨outcomes, r, run, answered, anchors, nodup, ((found "w").2.1 _).2 ?_,
    (found "d__w").2.2.2 ?_, ((laid 3).2.1 _).2 ?_, (laid 4).2.2.2 ?_⟩
  · simp [anchors]
  · simp [names, anchors]
  · rw [anchors]
    exact .cons ⟨rfl, rfl, tensors.1, rfl, rfl⟩ (.cons ⟨rfl, rfl, tensors.2, rfl, rfl⟩ .nil)
  · exact ⟨⟨"w", .sum⟩, by simp [anchors], _, _, tensors.2, rfl⟩

end IndexedRegistry

end Microbatch

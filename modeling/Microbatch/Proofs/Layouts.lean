import Microbatch.Proofs.Feeds

set_option relaxedAutoImplicit false
set_option autoImplicit false

/-!
# The two layouts of step inputs

A step brings the data of its micro-batches flat, stacked along the outer dimension, or with a step
dimension in front. Either way the micro-batches lie one after the other in the payload, so that a
flat tensor can be given a step dimension without any difference to what the micro-batches are fed.

## Main definitions

* `Microbatch.Tensor.IsFlat`, `Microbatch.Tensor.IsStepped` — the two layouts.
* `Microbatch.Stream.microBatchAt` — the part of one micro-batch, cut out where it begins.
* `Microbatch.StepInputs.withSteps` — the inputs with some tensors given a step dimension.

## Main results

* `Microbatch.StepInputs.exists_streams_iff` — which inputs are accepted.
* `Microbatch.Tensor.IsFlat.addStepDimension` — a flat tensor takes a step dimension.
* `Microbatch.Stream.Whole.mapM_microBatchAt` — the parts are there and make up the payload.
* `Microbatch.StepInputs.layouts_interchangeable` — either layout feeds the same.
-/

namespace Microbatch

/-! ### Parts of a list -/

/-- **The rows of a list of that length make up the list.** -/
lemma flatten_rows {α : Type} {count width : Nat} {xs : List α}
    (length : xs.length = count * width) : (rows count width xs).flatten = xs := by
  induction count generalizing xs with
  | zero =>
    rw [Nat.zero_mul] at length
    rw [rows_zero, List.flatten_nil, List.length_eq_zero_iff.1 length]
  | succ count ih =>
    have rest : (xs.drop width).length = count * width := by
      rw [List.length_drop, length, Nat.succ_mul, Nat.add_sub_cancel]
    rw [rows_succ, List.flatten_cons, ih rest, List.take_append_drop]

/-! ### The layouts -/

section OneTensor

variable {info : TensorInfo} {k : Nat} {t : Tensor}

/-- **The flat layout**: the micro-batches are stacked along the outer dimension. -/
def Tensor.IsFlat (info : TensorInfo) (k : Nat) (t : Tensor) : Prop :=
  ∃ leading rest, info.shape.dims = leading :: rest ∧
    t.info = ⟨info.elementType, ⟨k * leading :: rest⟩⟩

/-- **The layout with a step dimension** in front. -/
def Tensor.IsStepped (info : TensorInfo) (k : Nat) (t : Tensor) : Prop :=
  t.info = ⟨info.elementType, ⟨k :: info.shape.dims⟩⟩

/-- Stacked elements can be counted exactly if those behind a step dimension can, and then there are
as many. -/
lemma Shape.count?_stacked_iff {leading : Nat} {rest : List Nat} {n : Nat} :
    (⟨k :: leading :: rest⟩ : Shape).count? = some n ↔
      k < Size.limit ∧ (⟨k * leading :: rest⟩ : Shape).count? = some n := by
  constructor
  · intro counted
    have fits : k < Size.limit := Shape.leading_lt_of_count? (Option.isSome_of_eq_some counted)
    refine ⟨fits, ?_⟩
    rw [Shape.count?_cons fits, List.foldlM_cons, Option.bind_eq_bind,
      Option.bind_eq_some_iff] at counted
    obtain ⟨stacked, product, counted⟩ := counted
    obtain ⟨rfl, fits_product⟩ := Size.mul?_eq_some_iff.1 product
    rwa [Shape.count?_cons fits_product]
  · rintro ⟨fits, counted⟩
    have inside := Shape.leading_lt_of_count? (Option.isSome_of_eq_some counted)
    rwa [Shape.count?_cons_cons fits inside]

/-- A tensor that is well formed has elements that can be counted. -/
lemma Tensor.WellFormed.counted (wellFormed : t.WellFormed) : t.info.shape.count?.isSome := by
  obtain ⟨count, counted, -⟩ := Option.bind_eq_some_iff.1 wellFormed
  exact Option.isSome_of_eq_some counted

/-- **The tensors that are accepted for one input**: those of one of the two layouts, with a payload
of the described size. -/
lemma StepInputs.checkLayout_eq_ok_iff {name : String} (ranked : 0 < info.shape.rank)
    (pos : 0 < k) :
    checkLayout name info k t = .ok () ↔
      (t.IsFlat info k ∨ t.IsStepped info k) ∧ t.WellFormed := by
  obtain ⟨leading, rest, dims⟩ := List.exists_cons_of_length_pos ranked
  constructor
  · intro checked
    unfold checkLayout at checked
    split at checked
    · cases checked
    rename_i flat laid_flat
    dsimp only at checked
    split at checked
    · rename_i layout
      refine ⟨layout.imp (fun same => ⟨leading, rest, dims, ?_⟩) id, ?_⟩
      · obtain ⟨shape, stacked, made⟩ := Outcome.bind_eq_ok_iff.1 laid_flat
        cases made
        obtain ⟨-, rfl, -⟩ := Policy.bufferShape_eq_ok stacked
        rw [same, dims, Policy.scaledDims, Nat.mul_comm]
      · exact Tensor.fits_self_iff.1
          (TensorInfo.validate_eq_ok_iff.1 (Outcome.mapError_eq_ok_iff.1 checked))
    · cases checked
  · rintro ⟨layout, wellFormed⟩
    have counted : (⟨k * leading :: rest⟩ : Shape).count?.isSome := by
      have whole := wellFormed.counted
      rcases layout with ⟨leading', rest', dims', same⟩ | same
      · obtain ⟨rfl, rfl⟩ : leading' = leading ∧ rest' = rest := by
          simpa using dims'.symm.trans dims
        rwa [same] at whole
      · rw [same, dims] at whole
        obtain ⟨n, counted⟩ := Option.isSome_iff_exists.1 whole
        exact Option.isSome_of_eq_some (Shape.count?_stacked_iff.1 counted).2
    have allowed : t.info = ⟨info.elementType, ⟨k * leading :: rest⟩⟩ ∨
        t.info = info.stepped k := by
      refine layout.imp ?_ id
      rintro ⟨leading', rest', dims', same⟩
      obtain ⟨rfl, rfl⟩ : leading' = leading ∧ rest' = rest := by
        simpa using dims'.symm.trans dims
      exact same
    have valid : t.info.validate name t = .ok () :=
      TensorInfo.validate_eq_ok_iff.2 (Tensor.fits_self_iff.2 wellFormed)
    rw [checkLayout, TensorInfo.flat_eq_ok pos dims counted]
    simp only
    rw [if_pos allowed, valid]
    rfl

/-- **A flat tensor takes a step dimension**, with the same payload. -/
lemma Tensor.IsFlat.addStepDimension (flat : t.IsFlat info k) (wellFormed : t.WellFormed)
    (pos : 0 < k) (size : k < Size.limit) : t.addStepDimension k = .ok ⟨info.stepped k, t.payload⟩ ∧
      Tensor.WellFormed ⟨info.stepped k, t.payload⟩ := by
  obtain ⟨leading, rest, dims, same⟩ := flat
  obtain ⟨count, counted, bytes⟩ := Option.bind_eq_some_iff.1 wellFormed
  rw [same] at counted bytes
  have stepped : (⟨k :: leading :: rest⟩ : Shape).count? = some count :=
    Shape.count?_stacked_iff.2 ⟨size, counted⟩
  have split : (t.info.shape.withLeading (k * leading / k)).withOuter k =
      ⟨k :: leading :: rest⟩ := by
    rw [same, Nat.mul_div_cancel_left _ pos]
    rfl
  have same_count : (⟨k :: leading :: rest⟩ : Shape).count = t.info.shape.count := by
    rw [same, Shape.count, Shape.count, stepped, counted]
  have first : t.info.shape.leading? = some (k * leading) := by
    rw [same]
    rfl
  constructor
  · rw [Tensor.addStepDimension, if_neg (Nat.ne_of_gt pos), first]
    simp only
    rw [if_pos (Nat.mul_mod_right k leading), split, reshape, if_pos same_count, same,
      TensorInfo.stepped, Shape.withOuter, dims]
  · rw [WellFormed, TensorInfo.byteCount?, TensorInfo.stepped, Shape.withOuter, dims, stepped]
    exact bytes

end OneTensor

/-! ### All inputs of a step -/

namespace StepInputs

/-- **Inputs as a step brings them**: one for each expected input, in one of the two layouts and
with a payload of the described size. -/
structure WellLaid (expected : NameMap TensorInfo) (k : Nat) (inputs : StepInputs) : Prop where
  /-- They name exactly what is expected. -/
  names : inputs.names = expected.names
  /-- Each is flat or has a step dimension. -/
  layout : ∀ name info t, expected.find? name = some info → inputs.find? name = some t →
    t.IsFlat info k ∨ t.IsStepped info k
  /-- Each payload has the described size. -/
  wellFormed : ∀ name t, inputs.find? name = some t → t.WellFormed

variable {inputs : StepInputs} {expected : NameMap TensorInfo} {k : Nat}

/-- What is given for an expected name. -/
lemma WellLaid.find? (laid : inputs.WellLaid expected k) {name : String} {info : TensorInfo}
    (hi : expected.find? name = some info) : ∃ t, inputs.find? name = some t :=
  NameMap.find?_of_mem_names
    (laid.names ▸ NameMap.contains_iff_mem_names.1 (Option.isSome_of_eq_some hi))

/-- What is expected under a given name. -/
lemma WellLaid.expects (laid : inputs.WellLaid expected k) {name : String} {t : Tensor}
    (ht : inputs.find? name = some t) : ∃ info, expected.find? name = some info :=
  NameMap.find?_of_mem_names
    (laid.names ▸ NameMap.contains_iff_mem_names.1 (Option.isSome_of_eq_some ht))

/-- **Which inputs are accepted**: exactly those that a step brings as it should. -/
lemma exists_streams_iff
    (ranked : ∀ name info, expected.find? name = some info → 0 < info.shape.rank) (pos : 0 < k) :
    (∃ streams, inputs.streams expected k = .ok streams) ↔ inputs.WellLaid expected k := by
  constructor
  · rintro ⟨streams, accepted⟩
    obtain ⟨known, checked⟩ := streams_eq_ok_iff.1 accepted
    have given : ∀ name info, expected.find? name = some info → ∃ t, inputs.find? name = some t ∧
        (t.IsFlat info k ∨ t.IsStepped info k) ∧ t.WellFormed := by
      intro name info hi
      obtain ⟨s, -, -, -, found, valid⟩ :=
        Outcome.exists_of_forall₂_right checked.flip (NameMap.find?_eq_some_iff.1 hi)
      exact ⟨s.tensor, found, (checkLayout_eq_ok_iff (ranked name info hi) pos).1 valid⟩
    refine ⟨NameMap.names_eq_of_mem_iff fun name => ⟨known name, fun member => ?_⟩, ?_, ?_⟩
    · obtain ⟨info, hi⟩ := NameMap.find?_of_mem_names member
      obtain ⟨t, found, -⟩ := given name info hi
      exact NameMap.contains_iff_mem_names.1 (Option.isSome_of_eq_some found)
    · intro name info t hi ht
      obtain ⟨t', found, layout, -⟩ := given name info hi
      exact Option.some.inj (found.symm.trans ht) ▸ layout
    · intro name t ht
      have member := known name (NameMap.contains_iff_mem_names.1 (Option.isSome_of_eq_some ht))
      obtain ⟨info, hi⟩ := NameMap.find?_of_mem_names member
      obtain ⟨t', found, -, wellFormed⟩ := given name info hi
      exact Option.some.inj (found.symm.trans ht) ▸ wellFormed
  · intro laid
    refine ⟨expected.entries.map fun e => ⟨e.1, (inputs.find? e.1).getD default, e.2⟩,
      streams_eq_ok_iff.2 ⟨fun name member => laid.names ▸ member, ?_⟩⟩
    rw [List.forall₂_map_right_iff, List.forall₂_same]
    intro e he
    have hi := NameMap.find?_of_mem_entries he
    obtain ⟨t, ht⟩ := laid.find? hi
    rw [ht, Option.getD_some]
    exact ⟨rfl, rfl, rfl, (checkLayout_eq_ok_iff (ranked e.1 e.2 hi) pos).2
      ⟨laid.layout e.1 e.2 t hi ht, laid.wellFormed e.1 t ht⟩⟩

end StepInputs

/-! ### Parts of the micro-batches -/

/-- **The part of one micro-batch**, cut out of the payload where it begins. -/
def Stream.microBatchAt (s : Stream) (index : Nat) : Except TensorFault Tensor :=
  s.tensor.view (index * s.microBatch.byteCount) s.microBatch

/-- **All parts are there**: cut out one after the other they are what the micro-batches are fed,
each of the described size, and together they are the payload. -/
lemma Stream.Whole.mapM_microBatchAt {k : Nat} {s : Stream} (whole : s.Whole k) :
    (List.range k).mapM s.microBatchAt = .ok (s.parts k) ∧
      (∀ part ∈ s.parts k, part.Fits s.microBatch) ∧
      (s.parts k).flatMap (·.payload) = s.tensor.payload := by
  have length : (s.parts k).length = k := by simp [parts]
  refine ⟨?_, fun part member => ?_, ?_⟩
  · rw [Outcome.mapM_eq_ok_iff, List.forall₂_iff_get]
    refine ⟨by rw [List.length_range, length], fun i within inside => ?_⟩
    rw [List.length_range] at within
    obtain ⟨part, viewed, there, -⟩ := whole.view_eq_ok within
    rw [List.getElem?_eq_getElem inside, Option.some.injEq] at there
    simpa [microBatchAt, there] using viewed
  · obtain ⟨-, -, fits⟩ := whole.exists_view_eq_ok member
    exact fits
  · rw [parts, List.flatMap_map, List.flatMap_id']
    exact flatten_rows whole.length

/-- Streams of one payload, read as the same micro-batches, have the same parts. -/
lemma Stream.parts_eq_of_payload {s s' : Stream} (info : s'.microBatch = s.microBatch)
    (payload : s'.tensor.payload = s.tensor.payload) :
    s'.parts = s.parts ∧ s'.microBatchAt = s.microBatchAt := by
  constructor
  · funext k
    rw [parts, parts, info, payload]
  · funext index
    rw [microBatchAt, microBatchAt, Tensor.view, Tensor.view, info, payload]

namespace StepInputs

variable {inputs inputs' : StepInputs} {expected : NameMap TensorInfo} {k : Nat}
  {chosen : String → Bool}

/-! ### Step dimensions for some inputs -/

/-- A tensor with a step dimension in front if it is chosen, or else as it is. -/
def withStep (chosen : Bool) (k : Nat) (t : Tensor) : Except TensorFault Tensor :=
  if chosen then t.addStepDimension k else .ok t

/-- **The inputs with the chosen tensors given a step dimension.** -/
def withSteps (inputs : StepInputs) (chosen : String → Bool) (k : Nat) :
    Except TensorFault StepInputs := do
  let entries ← inputs.entries.mapM fun e => return (e.1, ← withStep (chosen e.1) k e.2)
  return .ofList entries

/-- If every chosen tensor takes a step dimension, so that something holds of the results, then all
inputs are there afterwards and it holds of them. -/
lemma exists_withSteps {P : String → Tensor → Tensor → Prop}
    (each : ∀ name t, inputs.find? name = some t →
      ∃ t', withStep (chosen name) k t = .ok t' ∧ P name t t') :
    ∃ inputs', inputs.withSteps chosen k = .ok inputs' ∧ inputs'.names = inputs.names ∧
      ∀ name t, inputs.find? name = some t →
        ∃ t', withStep (chosen name) k t = .ok t' ∧ inputs'.find? name = some t' ∧ P name t t' := by
  choose! result made holds using each
  refine ⟨inputs.mapValues result, ?_, NameMap.names_mapValues _ _, fun name t found =>
    ⟨result name t, made name t found, ?_, holds name t found⟩⟩
  · have entries : (inputs.entries.mapM fun e => return (e.1, ← withStep (chosen e.1) k e.2)) =
        .ok (inputs.mapValues result).entries := by
      rw [NameMap.entries_mapValues, Outcome.mapM_eq_ok_iff, List.forall₂_map_right_iff,
        List.forall₂_same]
      intro e he
      rw [made e.1 e.2 (NameMap.find?_of_mem_entries he)]
      rfl
    rw [withSteps, entries, Outcome.ok_bind]
    exact congrArg Except.ok (NameMap.ext_entries (NameMap.ofList_eq_of_names rfl))
  · rw [NameMap.find?_mapValues, found]
    rfl

/-- **Flat inputs can be given step dimensions**: each chosen one takes it and keeps its payload,
and the inputs are as a step should bring them again. -/
lemma WellLaid.withSteps (laid : inputs.WellLaid expected k) (pos : 0 < k) (size : k < Size.limit)
    (flat : ∀ name info t, chosen name = true → expected.find? name = some info →
      inputs.find? name = some t → t.IsFlat info k) :
    ∃ inputs', inputs.withSteps chosen k = .ok inputs' ∧ inputs'.WellLaid expected k ∧
      ∀ name t, inputs.find? name = some t → ∃ t', withStep (chosen name) k t = .ok t' ∧
        inputs'.find? name = some t' ∧ t'.payload = t.payload := by
  have taken : ∀ name t, inputs.find? name = some t → ∃ t', withStep (chosen name) k t = .ok t' ∧
      t'.payload = t.payload ∧ t'.WellFormed ∧ ∀ info, expected.find? name = some info →
        t'.IsFlat info k ∨ t'.IsStepped info k := by
    intro name t ht
    have wellFormed := laid.wellFormed name t ht
    cases choice : chosen name with
    | false => exact ⟨t, rfl, rfl, wellFormed, fun info hi => laid.layout name info t hi ht⟩
    | true =>
      obtain ⟨info, hi⟩ := laid.expects ht
      obtain ⟨stepped, well⟩ := (flat name info t choice hi ht).addStepDimension wellFormed pos size
      refine ⟨_, stepped, rfl, well, fun info' hi' => .inr ?_⟩
      obtain rfl : info' = info := Option.some.inj (hi'.symm.trans hi)
      rfl
  obtain ⟨inputs', made, names, each⟩ := exists_withSteps taken
  have source : ∀ name t', inputs'.find? name = some t' → ∃ t, inputs.find? name = some t ∧
      t'.WellFormed ∧ ∀ info, expected.find? name = some info →
        t'.IsFlat info k ∨ t'.IsStepped info k := by
    intro name t' ht'
    obtain ⟨t, ht⟩ := NameMap.find?_of_mem_names
      (names ▸ NameMap.contains_iff_mem_names.1 (Option.isSome_of_eq_some ht'))
    obtain ⟨t₁, -, found, -, wellFormed, layout⟩ := each name t ht
    obtain rfl : t₁ = t' := Option.some.inj (found.symm.trans ht')
    exact ⟨t, ht, wellFormed, layout⟩
  refine ⟨inputs', made,
    ⟨names.trans laid.names, fun name info t' hi ht' => ?_, fun name t' ht' => ?_⟩,
    fun name t ht => ?_⟩
  · obtain ⟨-, -, -, layout⟩ := source name t' ht'
    exact layout info hi
  · obtain ⟨-, -, wellFormed, -⟩ := source name t' ht'
    exact wellFormed
  · obtain ⟨t', stepped, found, payload, -⟩ := each name t ht
    exact ⟨t', stepped, found, payload⟩

/-- **Streams that feed the same**: the same inputs of the same micro-batches, with the same part
for every one of them. -/
def FeedAlike (streams streams' : List Stream) : Prop :=
  List.Forall₂ (fun s s' => s'.name = s.name ∧ s'.microBatch = s.microBatch ∧
    s'.microBatchAt = s.microBatchAt ∧ s'.parts = s.parts) streams streams'

/-- Streams that feed the same feed the same. -/
lemma FeedAlike.feeds_eq {streams streams' : List Stream} (alike : FeedAlike streams streams')
    (k : Nat) : Stream.feeds streams' k = Stream.feeds streams k := by
  have parts : (streams.map fun s => (s.parts k).map fun t => (s.name, t)) =
      streams'.map fun s => (s.parts k).map fun t => (s.name, t) := by
    rw [← List.forall₂_eq_eq_eq, List.forall₂_map_left_iff, List.forall₂_map_right_iff]
    exact alike.imp fun s s' ⟨name, _, _, parts⟩ => by rw [name, parts]
  rw [Stream.feeds, Stream.feeds, parts]

/-- **The two layouts of step inputs are interchangeable.** Take what a graph expects of one
micro-batch, all of rank one at least, and a positive number of micro-batches.

Inputs are accepted exactly if they name what is expected and each is in one of the two layouts with
a payload of the described size. Of accepted inputs every micro-batch finds its part of every input,
the parts are of the expected description, and one after the other they are the payload.

Give any of the flat tensors among accepted inputs a step dimension. Each takes it, the inputs are
accepted again, and the micro-batches find the same parts and are fed the same.

**Proof sketch.** Both layouts count the same elements: those behind the step dimension are counted
as the stacked ones once the first two dimensions are multiplied. The payload does not change, and
the parts are cut out of the payload by the size of a micro-batch alone. -/
theorem layouts_interchangeable
    (ranked : ∀ name info, expected.find? name = some info → 0 < info.shape.rank) (pos : 0 < k)
    (size : k < Size.limit) :
    ((∃ streams, inputs.streams expected k = .ok streams) ↔ inputs.WellLaid expected k) ∧
    ∀ streams, inputs.streams expected k = .ok streams →
      List.Forall₂ (fun e s => s.name = e.1 ∧ s.microBatch = e.2 ∧
        inputs.find? e.1 = some s.tensor) expected.entries streams ∧
      (∀ s ∈ streams, (List.range k).mapM s.microBatchAt = .ok (s.parts k) ∧
        (∀ part ∈ s.parts k, part.Fits s.microBatch) ∧
        (s.parts k).flatMap (·.payload) = s.tensor.payload) ∧
      ∀ chosen : String → Bool,
        (∀ name info t, chosen name = true → expected.find? name = some info →
          inputs.find? name = some t → t.IsFlat info k) →
        ∃ inputs' streams', inputs.withSteps chosen k = .ok inputs' ∧
          (∀ name t, inputs.find? name = some t → ∃ t', withStep (chosen name) k t = .ok t' ∧
            inputs'.find? name = some t') ∧
          inputs'.streams expected k = .ok streams' ∧ FeedAlike streams streams' ∧
          Stream.feeds streams' k = Stream.feeds streams k := by
  have accepted_iff : (∃ streams, inputs.streams expected k = .ok streams) ↔
      inputs.WellLaid expected k := exists_streams_iff ranked pos
  refine ⟨accepted_iff, fun streams accepted => ?_⟩
  have laid := accepted_iff.1 ⟨streams, accepted⟩
  obtain ⟨-, checked⟩ := streams_eq_ok_iff.1 accepted
  refine ⟨checked.imp fun e s ⟨name, info, found, _⟩ => ⟨name, info, found⟩, fun s member => ?_,
    fun chosen flat => ?_⟩
  · obtain ⟨e, -, -, -, whole⟩ :=
      Outcome.exists_of_forall₂_right (streams_eq_ok pos accepted) member
    exact whole.mapM_microBatchAt
  · obtain ⟨inputs', made, laid', each⟩ := laid.withSteps pos size flat
    obtain ⟨streams', accepted'⟩ := (exists_streams_iff ranked pos).2 laid'
    obtain ⟨-, checked'⟩ := streams_eq_ok_iff.1 accepted'
    have alike : FeedAlike streams streams' := by
      refine Outcome.forall₂_of_common checked checked' ?_
      rintro e s s' ⟨name, info, found, -⟩ ⟨name', info', found', -⟩
      obtain ⟨t', -, there, payload⟩ := each e.1 s.tensor found
      rw [← Option.some.inj (found'.symm.trans there)] at payload
      obtain ⟨parts, at_place⟩ := Stream.parts_eq_of_payload (info'.trans info.symm) payload
      exact ⟨name'.trans name.symm, info'.trans info.symm, at_place, parts⟩
    refine ⟨inputs', streams', made, fun name t ht => ?_, accepted', alike, alike.feeds_eq k⟩
    obtain ⟨t', stepped, found, -⟩ := each name t ht
    exact ⟨t', stepped, found⟩

/-- Three inputs of one micro-batch, one of them empty. -/
def threeExpected : NameMap TensorInfo :=
  .ofList [("empty", .float32 [0, 3]), ("labels", ⟨.int32, ⟨[1]⟩⟩), ("x", .float32 [2, 1])]

/-- The inputs of three micro-batches; only the labels have a step dimension. -/
def threeInputs : StepInputs :=
  .ofList [("empty", .ofSingles ⟨[0, 3]⟩ []), ("labels", .ofInts ⟨[3, 1]⟩ [7, 8, 9]),
    ("x", .ofSingles ⟨[6, 1]⟩ (List.replicate 5 Single.zero ++ [Single.one]))]

/-- **Layouts can be mixed**: with a step dimension for the other two inputs, the empty one among
them, three micro-batches are fed the same. -/
theorem layouts_interchangeable_sample : ∃ streams inputs' streams',
    threeInputs.streams threeExpected 3 = .ok streams ∧
    threeInputs.withSteps (· != "labels") 3 = .ok inputs' ∧
    (inputs'.find? "x").map (·.info) = some (.float32 [3, 2, 1]) ∧
    inputs'.streams threeExpected 3 = .ok streams' ∧ FeedAlike streams streams' ∧
    Stream.feeds streams' 3 = Stream.feeds streams 3 := by
  have ranked : ∀ name info, threeExpected.find? name = some info → 0 < info.shape.rank := by
    have each : ∀ e ∈ threeExpected.entries, 0 < e.2.shape.rank := by decide +kernel
    exact fun name info known => each (name, info) (NameMap.find?_eq_some_iff.1 known)
  obtain ⟨streams, accepted, -⟩ := Outcome.exists_of_any_toOption
    (show (threeInputs.streams threeExpected 3).toOption.any (fun _ => true) = true by
      decide +kernel)
  have flat : ∀ name info t, (name != "labels") = true → threeExpected.find? name = some info →
      threeInputs.find? name = some t → t.IsFlat info 3 := by
    have each : ∀ e ∈ threeExpected.entries, e.1 ≠ "labels" →
        (threeInputs.find? e.1).map (·.info) =
          some ⟨e.2.elementType, ⟨3 * e.2.shape.dims.headI :: e.2.shape.dims.tail⟩⟩ ∧
        e.2.shape.dims = e.2.shape.dims.headI :: e.2.shape.dims.tail := by decide +kernel
    intro name info t other hi ht
    obtain ⟨stacked, dims⟩ :=
      each (name, info) (NameMap.find?_eq_some_iff.1 hi) (by simpa using other)
    rw [ht] at stacked
    exact ⟨_, _, dims, Option.some.inj stacked⟩
  obtain ⟨-, laid⟩ := @layouts_interchangeable threeInputs threeExpected 3 ranked
    (by decide) (by decide)
  obtain ⟨-, -, replace⟩ := laid streams accepted
  obtain ⟨inputs', streams', made, -, accepted', alike, feeds⟩ := replace (· != "labels") flat
  refine ⟨streams, inputs', streams', accepted, made, ?_, accepted', alike, feeds⟩
  obtain ⟨found, same, shape⟩ := Outcome.exists_of_any_toOption
    (show (threeInputs.withSteps (· != "labels") 3).toOption.any (fun inputs' : StepInputs =>
      decide ((inputs'.find? "x").map (·.info) = some (.float32 [3, 2, 1]))) = true by
        decide +kernel)
  obtain rfl : found = inputs' := Except.ok.inj (same.symm.trans made)
  exact of_decide_eq_true shape

end StepInputs

end Microbatch

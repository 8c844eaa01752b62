import Microbatch.Proofs.SideBySide
import Microbatch.Proofs.Soundness

set_option relaxedAutoImplicit false
set_option autoImplicit false

/-!
# Steps of several micro-batches and steps of one

A step of some micro-batches does what as many steps of one micro-batch do, one after the other: a
device takes no notice of where a step ends. It moves the weights in the same way, and what the
step shows is put together from what the small steps show, unless it adds up.

## Main definitions

* `Microbatch.StepInputs.split` — the micro-batches of a step as steps of their own.
* `Microbatch.Shows`, `Microbatch.PutTogether` — what a step shows, said by the values of its
  micro-batches and by what these show as steps.
* `Microbatch.Session.Steady` — a session that takes every step with accepted inputs.
* `Microbatch.Session.Finer` — sessions that run the same micro-batches in steps of two lengths.

## Main results

* `Microbatch.StepInputs.streams_ofList` — a micro-batch is accepted as a step of its own.
* `Microbatch.Shows.putTogether` — what a step shows comes from what its micro-batches show.
* `Microbatch.Session.Steady.runStep` — one step of such a session.
* `Microbatch.Session.Steady.play_ofList` — micro-batches as steps of their own.
* `Microbatch.Session.play_split` — all steps of a session, and the same steps split.
-/

namespace Microbatch

/-! ### Micro-batches as steps of their own -/

/-- The only column of rows of one element. -/
lemma columns_one {α : Type} (xs : List α) : columns 1 (xs.map fun x => [x]) = [xs] := by
  induction xs with
  | nil => rfl
  | cons x xs ih =>
    have unfolded : columns 1 ((x :: xs).map fun x => [x]) =
        List.zipWith List.cons [x] (columns 1 (xs.map fun x => [x])) := rfl
    rw [unfolded, ih]
    rfl

/-- One micro-batch with a leading dimension is laid out flat as it is. -/
lemma TensorInfo.flat_one {info : TensorInfo} (fits : info.byteCount?.isSome)
    (some_dim : info.shape.dims ≠ []) : info.flat 1 = .ok info := by
  obtain ⟨elementType, ⟨dims⟩⟩ := info
  cases dims with
  | nil => exact absurd rfl some_dim
  | cons leading rest =>
    obtain ⟨size, hs⟩ := Option.isSome_iff_exists.1 fits
    obtain ⟨count, counted, -⟩ := Option.bind_eq_some_iff.1 hs
    have leading_fits : leading < Size.limit := by
      simp only [Shape.count?, List.foldlM_cons] at counted
      rw [Option.bind_eq_bind, Option.bind_eq_some_iff] at counted
      obtain ⟨first, hf, -⟩ := counted
      obtain ⟨rfl, small⟩ := Size.mul?_eq_some_iff.1 hf
      rwa [Nat.one_mul] at small
    have scaled : Size.mul? leading 1 = some leading :=
      Size.mul?_eq_some_iff.2 ⟨Nat.mul_one leading, leading_fits⟩
    simp [flat, Policy.bufferShape, Shape.leading?, Policy.scaleLeading, scaled, Shape.withLeading,
      counted]

namespace StepInputs

/-- **The micro-batches of a step as steps of their own**; there are none if the inputs are not
accepted. -/
def split (expected : NameMap TensorInfo) (microBatches : Nat) (inputs : StepInputs) :
    List StepInputs :=
  match inputs.streams expected microBatches with
  | .error _ => []
  | .ok streams => (Stream.feeds streams microBatches).map .ofList

/-- What a micro-batch is fed of one input is accepted as that input, and is all of it. -/
lemma stream_one {inputs : StepInputs} {name : String} {info : TensorInfo} {t : Tensor}
    (found : inputs.find? name = some t) (fits : t.Fits info) (some_dim : info.shape.dims ≠ []) :
    inputs.stream 1 name info = .ok ⟨name, t, info⟩ ∧
      Stream.parts ⟨name, t, info⟩ 1 = [t] := by
  have size : info.byteCount?.isSome := Option.isSome_iff_exists.2 ⟨_, fits.2⟩
  have checked : checkLayout name info 1 t = .ok () := by
    have valid : t.info.validate name t = .ok () := by
      rw [fits.1]
      exact TensorInfo.validate_eq_ok_iff.2 fits
    unfold checkLayout
    rw [TensorInfo.flat_one size some_dim]
    dsimp only
    rw [if_pos (.inl fits.1), valid]
    rfl
  constructor
  · simp only [stream, found, checked, Except.map]
  · have length : t.payload.length = info.byteCount := (TensorInfo.byteCount_of_eq_some fits.2).symm
    rw [Stream.parts, rows_succ, rows_zero, ← length, List.take_length, List.map_singleton,
      ← fits.1]

/-- What a micro-batch is fed of all inputs is accepted as these inputs. -/
lemma mapM_stream_one {inputs : StepInputs} {entries : List (String × TensorInfo)}
    {feed : List (String × Tensor)}
    (fed : List.Forall₂ (fun e t => t.1 = e.1 ∧ t.2.Fits e.2) entries feed)
    (rank : ∀ e ∈ entries, e.2.shape.dims ≠ [])
    (found : ∀ t ∈ feed, inputs.find? t.1 = some t.2) :
    ∃ streams : List Stream,
      entries.mapM (fun e => inputs.stream 1 e.1 e.2) = .ok streams ∧
      (streams.map fun s => (s.parts 1).map fun t => (s.name, t)) = feed.map fun t => [t] := by
  induction fed with
  | nil => exact ⟨[], rfl, rfl⟩
  | @cons e t entries feed first _ ih =>
    obtain ⟨same, fits⟩ := first
    obtain ⟨rank_first, rank_rest⟩ := List.forall_mem_cons.1 rank
    obtain ⟨found_first, found_rest⟩ := List.forall_mem_cons.1 found
    obtain ⟨streams, accepted, parts⟩ := ih rank_rest found_rest
    rw [same] at found_first
    obtain ⟨accepted_first, part⟩ := stream_one found_first fits rank_first
    refine ⟨⟨e.1, t.2, e.2⟩ :: streams, ?_, ?_⟩
    · rw [List.mapM_cons, accepted_first, accepted]
      rfl
    · rw [List.map_cons, List.map_cons, parts, part, ← same]
      rfl

/-- **A micro-batch is accepted as a step of its own**, of which it is the only micro-batch. -/
lemma streams_ofList {expected : NameMap TensorInfo}
    (rank : ∀ name info, expected.find? name = some info → info.shape.dims ≠ [])
    {feed : List (String × Tensor)} (fed : FeedFits expected feed) :
    ∃ streams, StepInputs.streams (.ofList feed) expected 1 = .ok streams ∧
      Stream.feeds streams 1 = [feed] := by
  have names : feed.map (·.1) = expected.names :=
    NameMap.map_fst_of_forall₂ fed fun _ _ matched => matched.1
  have entries : (NameMap.ofList feed).entries = feed := NameMap.ofList_eq_of_names names
  have all_expected : (NameMap.ofList feed).names.find? (fun name => !expected.contains name) =
      none := by
    rw [List.find?_eq_none]
    intro name hn
    have known : name ∈ expected.names := by
      rw [← names]
      rwa [NameMap.names, entries] at hn
    simp [NameMap.contains_iff_mem_names.2 known]
  obtain ⟨streams, accepted, parts⟩ := mapM_stream_one fed
    (fun e he => rank e.1 e.2 (NameMap.find?_of_mem_entries he))
    (fun t ht => NameMap.find?_of_mem_entries (entries.symm ▸ ht))
  refine ⟨streams, ?_, ?_⟩
  · rw [StepInputs.streams, all_expected]
    exact accepted
  · rw [Stream.feeds, parts, columns_one]

end StepInputs

/-! ### What steps show -/

/-- **What a step shows for the values of its micro-batches**, anchor by anchor: stacked values in a
row, or the last one. -/
structure Shows (anchors : List RegisteredAnchor) (microBatches : Nat)
    (values : List (List Tensor)) (shown : List (String × Tensor)) : Prop where
  /-- Every anchor shows a tensor of its name and layout. -/
  each : ∀ (i : Nat) (a : RegisteredAnchor), anchors[i]? = some a → ∃ payload,
    shown[i]? = some (a.name, ⟨⟨a.info.elementType,
      ⟨a.policy.scaledDims microBatches a.info.shape.dims⟩⟩, payload⟩) ∧
    (a.policy = .all → payload = ((Buffer.column i values).map (·.payload)).flatten) ∧
    (a.policy = .last → ((Buffer.column i values).map (·.payload)).getLast? = some payload)

/-- **What a step shows, put together from what its micro-batches show** as steps of their own.
Stacks follow each other, and their leading dimensions add up; a last value is that of the last
micro-batch. -/
structure PutTogether (anchors : List Anchor) (microBatches : Nat) (whole : List (String × Tensor))
    (parts : List (List (String × Tensor))) : Prop where
  /-- There is a part for every micro-batch. -/
  count : parts.length = microBatches
  /-- A stack is the stacks of the parts in a row. -/
  all : ∀ (i : Nat) (anchor : Anchor), anchors[i]? = some anchor → anchor.policy = .all →
    ∃ (elementType : ElementType) (dims : List Nat) (payloads : List Bytes),
      whole[i]? = some (anchor.name,
        ⟨⟨elementType, ⟨Policy.all.scaledDims microBatches dims⟩⟩, payloads.flatten⟩) ∧
      List.Forall₂ (fun part payload => part[i]? = some (anchor.name,
        ⟨⟨elementType, ⟨Policy.all.scaledDims 1 dims⟩⟩, payload⟩)) parts payloads
  /-- A last value is that of the last part. -/
  last : ∀ (i : Nat) (anchor : Anchor), anchors[i]? = some anchor → anchor.policy = .last →
    ∃ t part, whole[i]? = some (anchor.name, t) ∧ parts.getLast? = some part ∧
      part[i]? = some (anchor.name, t)

/-- The stacks that micro-batches show as steps of their own are in a row the values of all. -/
lemma Shows.exists_payloads {anchors : List RegisteredAnchor} {values : List (List Tensor)}
    {parts : List (List (String × Tensor))}
    (each : List.Forall₂ (fun tensors part => Shows anchors 1 [tensors] part) values parts)
    {i : Nat} {a : RegisteredAnchor} (ha : anchors[i]? = some a) (policy : a.policy = .all) :
    ∃ payloads : List Bytes,
      List.Forall₂ (fun part payload => part[i]? = some (a.name,
        (⟨⟨a.info.elementType, ⟨Policy.all.scaledDims 1 a.info.shape.dims⟩⟩, payload⟩ : Tensor)))
          parts payloads ∧
      payloads.flatten = ((Buffer.column i values).map (·.payload)).flatten := by
  induction each with
  | nil => exact ⟨[], .nil, rfl⟩
  | @cons tensors part values parts first _ ih =>
    obtain ⟨payload, here, alone, -⟩ := first.each i a ha
    obtain ⟨payloads, rows, joined⟩ := ih
    rw [policy] at here
    refine ⟨payload :: payloads, .cons here rows, ?_⟩
    have front : Buffer.column i (tensors :: values) =
        Buffer.column i [tensors] ++ Buffer.column i values :=
      Buffer.column_append i [tensors] values
    rw [front, List.map_append, List.flatten_append, ← joined, ← alone policy, List.flatten_cons]

/-- **What a step shows is put together from what its micro-batches show.** -/
lemma Shows.putTogether {anchors : List RegisteredAnchor} {microBatches : Nat}
    {values : List (List Tensor)} {whole : List (String × Tensor)}
    {parts : List (List (String × Tensor))} (h : Shows anchors microBatches values whole)
    (each : List.Forall₂ (fun tensors part => Shows anchors 1 [tensors] part) values parts)
    (count : values.length = microBatches) (pos : 0 < microBatches) :
    PutTogether (anchors.map (·.toAnchor)) microBatches whole parts := by
  have registered : ∀ {i : Nat} {anchor : Anchor},
      (anchors.map (·.toAnchor))[i]? = some anchor → ∃ a : RegisteredAnchor,
        anchors[i]? = some a ∧ a.toAnchor = anchor := by
    intro i anchor hi
    rwa [List.getElem?_map, Option.map_eq_some_iff] at hi
  refine ⟨each.length_eq.symm.trans count, fun i anchor hi policy => ?all,
    fun i anchor hi policy => ?last⟩
  case all =>
    obtain ⟨a, ha, rfl⟩ := registered hi
    obtain ⟨payload, shown, stacked, -⟩ := h.each i a ha
    obtain ⟨payloads, rows, joined⟩ := exists_payloads each ha policy
    rw [policy, stacked policy, ← joined] at shown
    exact ⟨_, _, payloads, shown, rows⟩
  case last =>
    obtain ⟨a, ha, rfl⟩ := registered hi
    obtain ⟨payload, shown, -, kept⟩ := h.each i a ha
    -- the last micro-batch, and what it shows
    have some_value : values ≠ [] := List.ne_nil_of_length_pos (count ▸ pos)
    have at_last : values[values.length - 1]? = some (values.getLast some_value) := by
      rw [← List.getLast?_eq_getElem?, List.getLast?_eq_some_getLast some_value]
    obtain ⟨part, last_part, alone⟩ := exists_getElem?_of_forall₂ each at_last
    obtain ⟨payload', here, -, kept'⟩ := alone.each i a ha
    have same : payload' = payload := by
      have last_kept := kept policy
      rw [← List.dropLast_append_getLast some_value, Buffer.column_append, List.map_append,
        List.getLast?_append, kept' policy, Option.some_or, Option.some.injEq] at last_kept
      exact last_kept
    rw [policy] at shown here
    refine ⟨_, part, shown, ?_, same ▸ here⟩
    rw [List.getLast?_eq_getElem?, ← each.length_eq, last_part]

namespace Session

/-! ### Steps that do not fail -/

/-- **A session that takes every step with accepted inputs**: it is sound and ready, its buffers are
in order, and it checks no numbers. -/
structure Steady (expected : NameMap TensorInfo) (s : Session HostDevice) : Prop where
  /-- The session is sound. -/
  sound : s.Sound
  /-- The buffers belong to the anchors. -/
  order : s.InOrder
  /-- A step can run. -/
  ready : s.requireReady = .ok ()
  /-- Numbers are not checked. -/
  unchecked : s.options.checkNumerics = false
  /-- What the program expects. -/
  inputs : s.device.program.signature.inputs = expected

variable {expected : NameMap TensorInfo} {s t : Session HostDevice}

/-- **A step with accepted inputs runs all micro-batches**, shows their values, and leaves a session
that goes on. -/
lemma Steady.runStep (h : s.Steady expected) {inputs : StepInputs} {streams : List Stream}
    (accepted : inputs.streams expected s.flow.microBatches = .ok streams) :
    ∃ values shown s', s.runStepSnapshot inputs = (.ok shown, s') ∧
      executeAll s.registry.names s.device (Stream.feeds streams s.flow.microBatches) =
        (.ok values, s'.device) ∧
      s'.Steady expected ∧ SameSetup s s' ∧
      Shows s.registry.anchors s.flow.microBatches values shown := by
  have accepted' := accepted
  rw [← h.inputs] at accepted'
  obtain ⟨s', ran⟩ : ∃ s', s.runStep inputs = (.ok (), s') := by
    rcases h.sound.unchecked_cases h.order h.ready h.unchecked inputs with
      ⟨fault, refused, -⟩ | ⟨-, s', -, ran⟩
    · rw [accepted'] at refused
      cases refused
    · exact ⟨s', ran⟩
  have program := (transition_perform h.sound.consistent (.runStep inputs)).program_eq
  have sound := h.sound.perform (.runStep inputs)
  have setup := sameSetup_runStep inputs s
  rw [Session.perform, ran] at program sound
  rw [ran] at setup
  have order := h.order.runStep ran
  obtain ⟨streams', values, begins, executed, count, width, filled, made⟩ := runStep_eq_ok ran
  obtain rfl : streams' = streams := Except.ok.inj (begins.2.symm.trans accepted')
  obtain ⟨-, synced, fresh⟩ := requireReady_eq_ok_iff.1 h.ready
  refine ⟨values, snapshot s'.buffers, s', ?_, executed, ⟨sound, order, ?_, ?_, ?_⟩, setup, ⟨?_⟩⟩
  · have live : s'.requireLive = .ok () := by
      rw [made]
      rfl
    rw [runStepSnapshot, ran]
    simp only [anchors, live, Except.map]
  · rw [made]
    exact requireReady_eq_ok_iff.2 ⟨.inr rfl, synced, fresh⟩
  · rw [setup.options, h.unchecked]
  · rw [← h.inputs, ← program]
  · intro i a ha
    obtain ⟨old, new, ho, hn, taken, column⟩ := (h.order.fillStep count width filled).2 i a ha
    obtain ⟨belongs, fits, full⟩ := h.order.each i a old ha ho
    have result := Buffer.stepResult_of_fillStep belongs full fits column taken
    obtain ⟨-, layout, -⟩ := result.owner.layout_eq
    refine ⟨new.data, ?_, result.all, fun policy => ?_⟩
    · rw [snapshot, List.getElem?_map, hn, Option.map_some, Buffer.name, Buffer.toTensor, layout]
    · obtain ⟨v, last, kept⟩ := result.last policy
      rw [List.getLast?_map, last, kept]
      rfl

/-- **Micro-batches as steps of their own** run like those of one step, and each shows its own
values.

**Proof sketch.** Induction on the micro-batches. Each is the only one of an accepted step, and
leaves a device that runs the next one as the device of the one step does. -/
lemma Steady.play_ofList (h : t.Steady expected) (one : t.flow.microBatches = 1)
    (rank : ∀ name info, expected.find? name = some info → info.shape.dims ≠ [])
    {feeds : List (List (String × Tensor))} (fed : ∀ feed ∈ feeds, FeedFits expected feed)
    {d d' : HostDevice} (twin : d.Twin t.device) {values : List (List Tensor)}
    (executed : executeAll t.registry.names d feeds = (.ok values, d')) :
    ∃ parts t', t.play (feeds.map .ofList) = (parts.map .ok, t') ∧ t'.Steady expected ∧
      SameSetup t t' ∧ d'.Twin t'.device ∧ List.Forall₂ (fun tensors part =>
        Shows t.registry.anchors 1 [tensors] part) values parts := by
  induction feeds generalizing t d values with
  | nil =>
    cases executed
    exact ⟨[], t, rfl, h, .refl t, twin, .nil⟩
  | cons feed rest ih =>
    obtain ⟨fed_first, fed_rest⟩ := List.forall_mem_cons.1 fed
    obtain ⟨first, next, others, here, ran, rfl⟩ := executeAll_cons_eq_ok executed
    obtain ⟨streams, accepted, alone⟩ := StepInputs.streams_ofList rank fed_first
    rw [← one] at accepted
    obtain ⟨values, shown, t₁, stepped, executed₁, steady, setup, shows⟩ := h.runStep accepted
    rw [one] at executed₁ shows
    rw [alone] at executed₁
    obtain ⟨first', next', others', here', ran', rfl⟩ := executeAll_cons_eq_ok executed₁
    cases ran'
    -- the two devices return the same, and are left alike
    obtain ⟨returned, twin₁⟩ := twin.execute feed t.registry.names
    change d.execute feed t.registry.names = _ at here
    change t.device.execute feed t.registry.names = _ at here'
    rw [here, here'] at returned twin₁
    obtain rfl : first' = first := Except.ok.inj returned
    rw [← setup.registry] at ran
    obtain ⟨parts, t', played, steady', setup', twin', each⟩ :=
      ih steady (by rw [setup.flow, one]) fed_rest twin₁ ran
    rw [setup.registry] at each
    refine ⟨shown :: parts, t', ?_, steady', setup.trans setup', twin', .cons shows each⟩
    rw [List.map_cons, play_cons, stepped, played]
    rfl

/-! ### Steps and their parts -/

/-- Steps behind other steps. -/
lemma play_append {D : Type} [Device D] (s : Session D) (steps rest : List StepInputs) :
    s.play (steps ++ rest) = ((s.play steps).1 ++ ((s.play steps).2.play rest).1,
      ((s.play steps).2.play rest).2) := by
  induction steps generalizing s with
  | nil => rfl
  | cons first others ih => rw [List.cons_append, play_cons, play_cons, ih, List.cons_append]

/-- **Sessions that run the same micro-batches**, of which the other one makes every one a step. -/
structure Finer (expected : NameMap TensorInfo) (s t : Session HostDevice) : Prop where
  /-- The one takes every accepted step. -/
  coarse : s.Steady expected
  /-- The other one does. -/
  fine : t.Steady expected
  /-- The other one runs one micro-batch in a step. -/
  one : t.flow.microBatches = 1
  /-- The anchors. -/
  registry : t.registry = s.registry
  /-- The devices. -/
  device : s.device.Twin t.device

/-- **One step, and its parts.** -/
lemma Finer.runStep (h : Finer expected s t)
    (rank : ∀ name info, expected.find? name = some info → info.shape.dims ≠ [])
    {inputs : StepInputs} {streams : List Stream}
    (accepted : inputs.streams expected s.flow.microBatches = .ok streams) :
    ∃ whole parts s' t', s.runStepSnapshot inputs = (.ok whole, s') ∧
      t.play (inputs.split expected s.flow.microBatches) = (parts.map .ok, t') ∧
      Finer expected s' t' ∧ SameSetup s s' ∧
      PutTogether (s.registry.anchors.map (·.toAnchor)) s.flow.microBatches whole parts := by
  obtain ⟨values, whole, s', stepped, executed, steady, setup, shows⟩ := h.coarse.runStep accepted
  have fed : ∀ feed ∈ Stream.feeds streams s.flow.microBatches, FeedFits expected feed :=
    fun feed hf => fits_feeds s.flow.microBatches_pos accepted hf
  have count : values.length = s.flow.microBatches := by
    rw [length_executeAll executed, length_feeds]
  rw [← h.registry] at executed
  obtain ⟨parts, t', played, steady', setup', twin, each⟩ :=
    h.fine.play_ofList h.one rank fed h.device executed
  rw [h.registry] at each
  refine ⟨whole, parts, s', t', stepped, ?_,
    ⟨steady, steady', by rw [setup'.flow, h.one], ?_, twin⟩, setup,
    shows.putTogether each count s.flow.microBatches_pos⟩
  · rw [StepInputs.split, accepted]
    exact played
  · rw [setup'.registry, h.registry, setup.registry]

/-- **Several steps, and their parts.** -/
lemma Finer.play (h : Finer expected s t)
    (rank : ∀ name info, expected.find? name = some info → info.shape.dims ≠ [])
    (steps : List StepInputs)
    (accepted : ∀ inputs ∈ steps, ∃ streams,
      inputs.streams expected s.flow.microBatches = .ok streams) :
    ∃ shown parts s' t', s.play steps = (shown.map .ok, s') ∧
      t.play (steps.flatMap (StepInputs.split expected s.flow.microBatches)) =
        (parts.flatten.map .ok, t') ∧
      Finer expected s' t' ∧
      List.Forall₂ (PutTogether (s.registry.anchors.map (·.toAnchor)) s.flow.microBatches)
        shown parts := by
  induction steps generalizing s t with
  | nil => exact ⟨[], [], s, t, rfl, rfl, h, .nil⟩
  | cons first rest ih =>
    obtain ⟨⟨streams, accepted_first⟩, accepted_rest⟩ := List.forall_mem_cons.1 accepted
    obtain ⟨whole, part, s₁, t₁, stepped, played, finer, setup, together⟩ :=
      h.runStep rank accepted_first
    rw [← setup.flow] at accepted_rest
    obtain ⟨shown, parts, s', t', stepped', played', finer', each⟩ := ih finer accepted_rest
    rw [setup.flow] at played' each
    rw [setup.registry] at each
    refine ⟨whole :: shown, part :: parts, s', t', ?_, ?_, finer', .cons together each⟩
    · rw [play_cons, stepped, stepped', List.map_cons]
    · rw [List.flatMap_cons, play_append, played, played', List.flatten_cons, List.map_append]

/-- A session that is ready takes every accepted step, if it was built from a loaded graph and
checks no numbers. -/
lemma steady_after {model : Bytes} {shapes : NameMap TensorInfo} {graph : Graph} {flow : DataFlow}
    {target : Target} {kind : Kind} {options : Options} {s₀ : Session HostDevice}
    (loaded : Exchange.loadGraph model shapes = .ok graph)
    (unchecked : options.checkNumerics = false)
    (built : build HostDevice.backend graph flow target kind options = .ok s₀)
    (fits : ∀ name info, s₀.device.program.infos.find? name = some info → info.byteCount?.isSome)
    (buffers_fit : ∀ b ∈ s₀.buffers, b.layout.buffer.byteCount?.isSome) {requests : List Request}
    (ready : (s₀.after requests).requireReady = .ok ()) :
    (s₀.after requests).Steady graph.inputs := by
  have live : (s₀.after requests).state ≠ .faulted := by
    obtain ⟨usable | usable, -⟩ := requireReady_eq_ok_iff.1 ready <;> simp [usable]
  have setup := sameSetup_after s₀ requests
  obtain ⟨program, -⟩ := program_after (consistent_build built) requests
  refine ⟨(sound_build loaded built fits).after requests,
    inOrder_after (inOrder_build built buffers_fit) requests live, ready, ?_, ?_⟩
  · rw [setup.options, (setup_build built).2.2, unchecked]
  · rw [program]
    obtain ⟨device, registry, buffers, compiled, -, -, made⟩ := build_eq_ok built
    obtain ⟨program, hp, rfl⟩ := HostDevice.compile_eq_ok compiled
    obtain ⟨-, -, -, -, -, -, -, -, -, -, -, signature⟩ := Program.compile_eq_ok hp
    rw [made, signature]

/-- Sessions for one graph register the same anchors in the same way. -/
lemma registry_build {graph : Graph} {flow flow' : DataFlow} {target : Target} {kind : Kind}
    {options : Options} {s₀ t₀ : Session HostDevice} (anchors : flow'.anchors = flow.anchors)
    (built : build HostDevice.backend graph flow target kind options = .ok s₀)
    (built' : build HostDevice.backend graph flow' target kind options = .ok t₀) :
    t₀.registry = s₀.registry ∧ s₀.registry.anchors.map (·.toAnchor) = flow.anchors ∧
      t₀.device = s₀.device := by
  obtain ⟨device, registry, buffers, compiled, registered, -, rfl⟩ := build_eq_ok built
  obtain ⟨device', registry', buffers', compiled', registered', -, rfl⟩ := build_eq_ok built'
  obtain rfl : device' = device := Except.ok.inj (compiled'.symm.trans compiled)
  rw [anchors] at registered'
  obtain ⟨added, placed, order, -, -⟩ := Registry.registerAll_eq_ok registered
  obtain rfl : registry.anchors = added := placed
  exact ⟨Except.ok.inj (registered'.symm.trans registered), order, rfl⟩

/-- **Steps can be split.** Take two sessions that were built from one loaded graph, all of whose
inputs have a dimension, with the same anchors, the other one with one micro-batch in a step. They
check no numbers, all payload sizes fit, and whatever has been asked of them, both are ready and
have the same weights and the same optimizer on their devices.

Any steps with accepted inputs succeed in the one, and their micro-batches succeed in the other as
steps of their own. The weights are the same afterwards, and what every step shows is put together
from what its micro-batches show: its stacks are theirs in a row, and its last values are those of
the last of them.

**Proof sketch.** Every micro-batch is accepted as a step of its own, and neither session fails. So
the devices run the same micro-batches and return the same values, which fill the buffers of the one
in a row and those of the other one at a time. Induction on the steps. -/
theorem play_split {model : Bytes} {shapes : NameMap TensorInfo} {graph : Graph}
    {flow flow' : DataFlow} {target : Target} {kind : Kind} {options : Options}
    {s₀ t₀ : Session HostDevice} (loaded : Exchange.loadGraph model shapes = .ok graph)
    (rank : ∀ name info, graph.inputs.find? name = some info → info.shape.dims ≠ [])
    (unchecked : options.checkNumerics = false) (one : flow'.microBatches = 1)
    (anchors : flow'.anchors = flow.anchors)
    (built : build HostDevice.backend graph flow target kind options = .ok s₀)
    (built' : build HostDevice.backend graph flow' target kind options = .ok t₀)
    (fits : ∀ name info, s₀.device.program.infos.find? name = some info → info.byteCount?.isSome)
    (buffers_fit : ∀ b ∈ s₀.buffers, b.layout.buffer.byteCount?.isSome)
    (buffers_fit' : ∀ b ∈ t₀.buffers, b.layout.buffer.byteCount?.isSome)
    {requests requests' : List Request} (ready : (s₀.after requests).requireReady = .ok ())
    (ready' : (t₀.after requests').requireReady = .ok ())
    (weights : (t₀.after requests').device.weights = (s₀.after requests).device.weights)
    (optimizer : (t₀.after requests').device.optimizer = (s₀.after requests).device.optimizer)
    (steps : List StepInputs)
    (accepted : ∀ inputs ∈ steps, ∃ streams,
      inputs.streams graph.inputs flow.microBatches = .ok streams) :
    ∃ shown parts, ((s₀.after requests).play steps).1 = shown.map .ok ∧
      ((t₀.after requests').play
          (steps.flatMap (StepInputs.split graph.inputs flow.microBatches))).1 =
        parts.flatten.map .ok ∧
      List.Forall₂ (PutTogether flow.anchors flow.microBatches) shown parts ∧
      ((t₀.after requests').play
          (steps.flatMap (StepInputs.split graph.inputs flow.microBatches))).2.device.weights =
        ((s₀.after requests).play steps).2.device.weights := by
  obtain ⟨registry, order, device⟩ := registry_build anchors built built'
  have setup := sameSetup_after s₀ requests
  have setup' := sameSetup_after t₀ requests'
  have consistent := consistent_after (consistent_build built) requests
  have consistent' := consistent_after (consistent_build built') requests'
  obtain ⟨program, training⟩ := program_after (consistent_build built) requests
  obtain ⟨program', training'⟩ := program_after (consistent_build built') requests'
  obtain ⟨-, flow_eq, -⟩ := setup_build built
  obtain ⟨-, flow_eq', -⟩ := setup_build built'
  have twin : (s₀.after requests).device.Twin (t₀.after requests').device := by
    refine ⟨?_, ?_, ?_, weights, fun _ => optimizer⟩
    · rw [program, program', device]
    · rw [training, training', device]
    · rw [consistent.attached, consistent'.attached,
        consistent.usable (requireReady_eq_ok_iff.1 ready).1,
        consistent'.usable (requireReady_eq_ok_iff.1 ready').1]
  have finer : Finer graph.inputs (s₀.after requests) (t₀.after requests') :=
    ⟨steady_after loaded unchecked built fits buffers_fit ready,
      steady_after loaded unchecked built' (device ▸ fits) buffers_fit' ready',
      by rw [setup'.flow, flow_eq', one], by rw [setup.registry, setup'.registry, registry], twin⟩
  obtain ⟨shown, parts, s', t', played, played', finer', each⟩ := finer.play rank steps
    (by rwa [setup.flow, flow_eq])
  rw [setup.flow, flow_eq] at played' each
  rw [setup.registry, order] at each
  rw [played, played']
  exact ⟨shown, parts, rfl, rfl, each, finer'.device.weights⟩

/-- Stacks of a product and of a loss, and the last gradient. -/
def stackFlow (microBatches : Nat) (pos : 0 < microBatches) : DataFlow :=
  ⟨microBatches, [⟨"MatMul:0", .all⟩, ⟨"loss", .all⟩, ⟨"d__w", .last⟩], pos⟩

/-- Training on the product that moves the weight. -/
def movingTraining : Kind :=
  .training [⟨"MatMul:0", "loss", ⟨0x3f800000⟩, .sum⟩] ⟨.replaceable, ⟨0x3f800000⟩, Single.zero⟩

/-- Two steps of the small session with two micro-batches, which are four with one. -/
theorem play_split_sample : ∃ s₀ t₀ shown parts,
    samplePair (stackFlow 2 (by decide)) (stackFlow 1 (by decide)) movingTraining {} =
      some (s₀, t₀) ∧
    ((s₀.after [.prepare, .pushWeights, .pushOptimizer]).play
      [sampleInputs ⟨0x3f800000⟩, sampleInputs ⟨0x40000000⟩]).1 = shown.map .ok ∧
    ((t₀.after [.prepare, .pushWeights, .pushOptimizer]).play
      ([sampleInputs ⟨0x3f800000⟩, sampleInputs ⟨0x40000000⟩].flatMap
        (StepInputs.split s₀.graph.inputs 2))).1 = parts.flatten.map .ok ∧
    List.Forall₂ (PutTogether (stackFlow 2 (by decide)).anchors 2) shown parts := by
  obtain ⟨graph, s₀, t₀, found, loaded, built, built', tested⟩ :=
    exists_of_samplePair (stackFlow 2 (by decide)) (stackFlow 1 (by decide)) movingTraining {}
      (fun s t =>
        let ready := s.after [.prepare, .pushWeights, .pushOptimizer]
        let ready' := t.after [.prepare, .pushWeights, .pushOptimizer]
        s.device.program.infos.entries.all (fun e => e.2.byteCount?.isSome) &&
          s.buffers.all (fun b => b.layout.buffer.byteCount?.isSome) &&
          t.buffers.all (fun b => b.layout.buffer.byteCount?.isSome) &&
          s.graph.inputs.entries.all (fun e => e.2.shape.dims ≠ []) &&
          ready.requireReady.toOption.isSome && ready'.requireReady.toOption.isSome &&
          ready'.device.weights = ready.device.weights &&
          ready'.device.optimizer = ready.device.optimizer &&
          [sampleInputs ⟨0x3f800000⟩, sampleInputs ⟨0x40000000⟩].all fun inputs =>
            (StepInputs.streams inputs s.graph.inputs 2).toOption.isSome)
      (by decide +kernel)
  obtain ⟨graph_eq, -, -⟩ := setup_build built
  simp only [Bool.and_eq_true, List.all_eq_true, decide_eq_true_eq, graph_eq] at tested
  obtain ⟨⟨⟨⟨⟨⟨⟨⟨fits, buffers_fit⟩, buffers_fit'⟩, rank⟩, ready⟩, ready'⟩, weights⟩, optimizer⟩,
    accepted⟩ := tested
  obtain ⟨_, ready⟩ := Option.isSome_iff_exists.1 ready
  obtain ⟨_, ready'⟩ := Option.isSome_iff_exists.1 ready'
  have anchors : (stackFlow 1 (by decide)).anchors = (stackFlow 2 (by decide)).anchors := rfl
  obtain ⟨shown, parts, played, played', together, -⟩ := play_split loaded
    (fun name info known => rank (name, info) (NameMap.find?_eq_some_iff.1 known)) rfl rfl anchors
    built built'
    (fun name info known => fits (name, info) (NameMap.find?_eq_some_iff.1 known)) buffers_fit
    buffers_fit' (Outcome.toOption_eq_some_iff.1 ready) (Outcome.toOption_eq_some_iff.1 ready')
    weights optimizer [sampleInputs ⟨0x3f800000⟩, sampleInputs ⟨0x40000000⟩]
    (fun inputs member => by
      obtain ⟨streams, hs⟩ := Option.isSome_iff_exists.1 (accepted inputs member)
      exact ⟨streams, Outcome.toOption_eq_some_iff.1 hs⟩)
  rw [← graph_eq] at played'
  exact ⟨s₀, t₀, shown, parts, found, played, played', together⟩

end Session

end Microbatch

import Microbatch.Exchange.Decoding
import Microbatch.Exchange.Encoding
import Microbatch.Proofs.Wire

set_option relaxedAutoImplicit false
set_option autoImplicit false

/-!
# Messages that are written are read back

The two directions of the codec meet in one relation: a list of fields *builds* a message if its
fields can be written and if, taken in one after the other, they lead from one message to another.
Lists that build compose by appending, and a message field builds whatever its own fields build, so
that every message type needs one chain that follows its fields.

A plain number is left out when it is a negative zero, so this one value is read back as zero.

## Main definitions

* `Microbatch.Exchange.ModelMessage.normal` and its siblings — a message with zero in place of the
  negative zeros among its plain numbers.
* `Microbatch.Exchange.Builds` — fields that lead from one message to another.
* `Microbatch.Exchange.AnyMessage` — a message of any type of the format.

## Main results

* `Microbatch.Exchange.ModelMessage.builds` — the fields of a model build the model.
* `Microbatch.Exchange.AnyMessage.ascending` — every message is written in increasing field number.
* `Microbatch.Exchange.ModelMessage.decode_encode_eq_normal` — a model that is written is read back
  up to negative zeros.
-/

namespace Microbatch

/-- A number, with zero in place of negative zero. -/
def Single.dropNegZero (x : Single) : Single := if x = .negZero then .zero else x

namespace Exchange

open Wire

/-! ### Values -/

lemma text?_textBytes (s : String) : Value.text? (.bytes (textBytes s)) = some s := by
  have valid : ByteArray.IsValidUTF8 ⟨(textBytes s).toArray⟩ := by
    simpa [textBytes] using s.isValidUTF8
  show textOfBytes? (textBytes s) = some s
  rw [textOfBytes?, String.fromUTF8?, dif_pos valid]
  simp [textBytes, String.fromUTF8]

lemma int64?_int64Number (v : Int64) : Value.int64? (.varint (int64Number v)) = some v := by
  simp [Value.int64?, int64Number]

/-- The low half of a sign extension is the number itself. -/
lemma setWidth_signExtend (v : BitVec 32) : (v.signExtend 64).setWidth 32 = v := by
  ext i hi
  rw [BitVec.getElem_setWidth, BitVec.getLsbD_signExtend]
  simp only [hi, if_true, BitVec.getLsbD_eq_getElem]
  simp [Nat.lt_of_lt_of_le hi]

lemma int32?_int32Number (v : Int32) : Value.int32? (.varint (int32Number v)) = some v := by
  have low : (int32Number v).toUInt32.toInt32 = v := by
    apply Int32.toBitVec_inj.1
    simpa [int32Number] using setWidth_signExtend v.toBitVec
  rw [Value.int32?, low]

lemma int64s?_packed (vs : List Int64) :
    Value.int64s? (.bytes (vs.flatMap fun v => writeVarint (int64Number v).toNat)) = some vs := by
  have read := varints_flatMap (vs.map int64Number)
  rw [List.flatMap_map] at read
  have back : UInt64.toInt64 ∘ int64Number = id := by
    funext v
    simp [int64Number]
  simp [Value.int64s?, read, back]

lemma singles?_packed (xs : List Single) :
    Value.singles? (.bytes (Single.bytesOfList xs)) = some xs := by
  simp [Value.singles?]

/-! ### Negative zeros -/

/-- A setting as it is read back: without a negative zero. -/
def AttributeMessage.normal (m : AttributeMessage) : AttributeMessage :=
  { m with number := m.number.dropNegZero }

/-- A node as it is read back. -/
def NodeMessage.normal (m : NodeMessage) : NodeMessage :=
  { m with attributes := m.attributes.map AttributeMessage.normal }

/-- A graph as it is read back. -/
def GraphMessage.normal (m : GraphMessage) : GraphMessage :=
  { m with nodes := m.nodes.map NodeMessage.normal }

/-- **A model as it is read back**: the plain numbers of its settings are no negative zeros. -/
def ModelMessage.normal (m : ModelMessage) : ModelMessage :=
  { m with graph := m.graph.map GraphMessage.normal }

/-! ### Lists of fields -/

/-- **Fields that build a message**: they can be written, and they lead from one message to another
when they are taken in one after the other. The latter may rest on the length of what is written,
because a length prefix is a 64-bit number. -/
structure Builds {M : Type} (step : M → Field → Option M) (fs : List Field) (start result : M) :
    Prop where
  /-- Every field can be written. -/
  plain : ∀ f ∈ fs, f.Plain
  /-- The fields lead to the result. -/
  taken : (render fs).length < Size.limit → fs.foldlM step start = some result

section Builds

variable {M N : Type} {step : M → Field → Option M} {inner : N → Field → Option N}
  {fs gs : List Field} {number : Nat}

lemma Builds.nil (m : M) : Builds step [] m m := ⟨by simp, fun _ => rfl⟩

lemma Builds.single {f : Field} {start result : M} (plain : f.Plain)
    (taken : f.render.length < Size.limit → step start f = some result) :
    Builds step [f] start result where
  plain := by simpa using plain
  taken fits := by
    rw [render_cons, render_nil, List.append_nil] at fits
    simp [taken fits]

lemma Builds.append {start middle result : M} (first : Builds step fs start middle)
    (second : Builds step gs middle result) : Builds step (fs ++ gs) start result where
  plain f hf := (List.mem_append.1 hf).elim (first.plain f) (second.plain f)
  taken fits := by
    rw [render_append, List.length_append] at fits
    rw [List.foldlM_append, first.taken (by omega)]
    exact second.taken (by omega)

/-- **Fields that build a message are read back as it.** -/
lemma Builds.absorb {start result : M} (depth : Nat) (builds : Builds step fs start result)
    (fits : (render fs).length < Size.limit) :
    absorb depth step start (render fs) = some result := by
  rw [Exchange.absorb, fields_render depth builds.plain fits]
  exact builds.taken fits

/-! ### One field

A field is described by what it sets: `set a` is the message so far with the value `a` in it.
-/

/-- A field with a value that reads as `a` builds the message with `a` set. -/
lemma Builds.value {A : Type} {read : Value → Option A} {start : M} {a : A} {v : Value}
    (set : A → M) (known : 1 ≤ number ∧ number < 2 ^ 29) (present : v ≠ .group)
    (back : read v = some a) (taken : ∀ v, step start ⟨number, v⟩ = (read v).map set) :
    Builds step [⟨number, v⟩] start (set a) :=
  .single ⟨known.1, known.2, present⟩ fun _ => by simp [taken, back]

/-- A plain field is left out when its value is the one that a message starts with. -/
lemma Builds.unlessDefault {A : Type} {read : Value → Option A} {start : M} {default a : A}
    [Decidable (a = default)] {v : Value} (set : A → M) (known : 1 ≤ number ∧ number < 2 ^ 29)
    (present : v ≠ .group) (back : read v = some a) (skipped : start = set default)
    (taken : ∀ v, step start ⟨number, v⟩ = (read v).map set) :
    Builds step (if a = default then [] else [⟨number, v⟩]) start (set a) := by
  split
  · subst a
    exact skipped ▸ .nil _
  · exact .value set known present back taken

lemma builds_textField {start : M} (set : String → M) (s : String)
    (known : 1 ≤ number ∧ number < 2 ^ 29) (skipped : start = set "")
    (taken : ∀ v, step start ⟨number, v⟩ = v.text?.map set) :
    Builds step (textField number s) start (set s) :=
  .unlessDefault set known (by simp) (text?_textBytes s) skipped taken

lemma builds_bytesField {start : M} (set : Bytes → M) (content : Bytes)
    (known : 1 ≤ number ∧ number < 2 ^ 29) (skipped : start = set [])
    (taken : ∀ v, step start ⟨number, v⟩ = v.content?.map set) :
    Builds step (bytesField number content) start (set content) :=
  .unlessDefault set known (by simp) rfl skipped taken

lemma builds_int64Field {start : M} (set : Int64 → M) (v : Int64)
    (known : 1 ≤ number ∧ number < 2 ^ 29) (skipped : start = set 0)
    (taken : ∀ v, step start ⟨number, v⟩ = v.int64?.map set) :
    Builds step (int64Field number v) start (set v) :=
  .unlessDefault set known (by simp) (int64?_int64Number v) skipped taken

lemma builds_int32Field {start : M} (set : Int32 → M) (v : Int32)
    (known : 1 ≤ number ∧ number < 2 ^ 29) (skipped : start = set 0)
    (taken : ∀ v, step start ⟨number, v⟩ = v.int32?.map set) :
    Builds step (int32Field number v) start (set v) :=
  .unlessDefault set known (by simp) (int32?_int32Number v) skipped taken

/-- A number is read back with negative zero as zero. -/
lemma builds_singleField {start : M} (set : Single → M) (x : Single)
    (known : 1 ≤ number ∧ number < 2 ^ 29) (skipped : start = set .zero)
    (taken : ∀ v, step start ⟨number, v⟩ = v.single?.map set) :
    Builds step (singleField number x) start (set x.dropNegZero) := by
  unfold singleField Single.dropNegZero
  split
  · rename_i default
    rw [ite_eq_left_iff.2 fun other => default.resolve_right other]
    exact skipped ▸ .nil _
  · rename_i written
    rw [if_neg fun negative => written (.inr negative)]
    exact .value set known (by simp) rfl taken

lemma builds_int64sField {start : M} (set : List Int64 → M) (vs : List Int64)
    (known : 1 ≤ number ∧ number < 2 ^ 29) (skipped : start = set [])
    (taken : ∀ v, step start ⟨number, v⟩ = v.int64s?.map set) :
    Builds step (int64sField number vs) start (set vs) := by
  cases vs with
  | nil => exact skipped ▸ .nil _
  | cons v vs =>
    rw [int64sField, bytesField, if_neg (by simp [writeVarint_ne_nil])]
    exact .value set known (by simp) (int64s?_packed (v :: vs)) taken

lemma builds_singlesField {start : M} (set : List Single → M) (xs : List Single)
    (known : 1 ≤ number ∧ number < 2 ^ 29) (skipped : start = set [])
    (taken : ∀ v, step start ⟨number, v⟩ = v.singles?.map set) :
    Builds step (singlesField number xs) start (set xs) := by
  cases xs with
  | nil => exact skipped ▸ .nil _
  | cons x xs =>
    have written : Single.bytesOfList (x :: xs) ≠ [] := by
      apply List.ne_nil_of_length_pos
      simp
    rw [singlesField, bytesField, if_neg written]
    exact .value set known (by simp) (singles?_packed (x :: xs)) taken

/-! ### Messages within messages -/

/-- **The field of a message builds what the fields of the message build.** -/
lemma builds_messageField {start : M} {before result : N} {depth : Nat} (set : N → M)
    (known : 1 ≤ number ∧ number < 2 ^ 29) (nested : Builds inner fs before result)
    (taken : ∀ v, step start ⟨number, v⟩ = (v.message? depth inner before).map set) :
    Builds step [messageField number fs] start (set result) := by
  refine .single ⟨known.1, known.2, by simp [messageField]⟩ fun fits => ?_
  have shorter : (render fs).length < Size.limit := Nat.lt_of_le_of_lt length_content_le fits
  have read : Value.message? depth inner before (.bytes (render fs)) = some result :=
    nested.absorb depth shorter
  rw [messageField, taken, read]
  rfl

lemma builds_optionalField {start : M} {before : N} {depth : Nat} {toFields : N → List Field}
    (set : Option N → M) (normal : N → N) (o : Option N) (known : 1 ≤ number ∧ number < 2 ^ 29)
    (nested : ∀ n, Builds inner (toFields n) before (normal n)) (skipped : start = set none)
    (taken : ∀ v, step start ⟨number, v⟩
      = (v.message? depth inner before).map fun n => set (some n)) :
    Builds step (optionalField toFields number o) start (set (o.map normal)) := by
  cases o with
  | none => exact skipped ▸ .nil _
  | some n => exact builds_messageField (fun n => set (some n)) known (nested n) taken

/-- A message that is read back as it is needs no reading of its own. -/
lemma builds_optionalField_self {start : M} {before : N} {depth : Nat} {toFields : N → List Field}
    (set : Option N → M) (o : Option N) (known : 1 ≤ number ∧ number < 2 ^ 29)
    (nested : ∀ n, Builds inner (toFields n) before n) (skipped : start = set none)
    (taken : ∀ v, step start ⟨number, v⟩
      = (v.message? depth inner before).map fun n => set (some n)) :
    Builds step (optionalField toFields number o) start (set o) := by
  have built := builds_optionalField set id o known nested skipped taken
  rwa [Option.map_id] at built

/-- Fields that append one element each build the whole list. -/
lemma Builds.each {A B : Type} {toField : A → Field} (set : List B → M) (normal : A → B)
    (one : ∀ before a, Builds step [toField a] (set before) (set (before ++ [normal a])))
    (elements : List A) (before : List B) :
    Builds step (elements.map toField) (set before) (set (before ++ elements.map normal)) := by
  induction elements generalizing before with
  | nil => simpa using .nil (set before)
  | cons a elements ih => simpa using (one before a).append (ih (before ++ [normal a]))

lemma builds_repeatedField {before : N} {depth : Nat} {toFields : N → List Field}
    (set : List N → M) (normal : N → N) (ms : List N) (known : 1 ≤ number ∧ number < 2 ^ 29)
    (nested : ∀ n, Builds inner (toFields n) before (normal n))
    (taken : ∀ ns v, step (set ns) ⟨number, v⟩
      = (v.message? depth inner before).map fun n => set (ns ++ [n])) :
    Builds step (repeatedField toFields number ms) (set []) (set (ms.map normal)) :=
  .each set normal
    (fun ns n => builds_messageField (fun n => set (ns ++ [n])) known (nested n) (taken ns)) ms []

lemma builds_repeatedField_self {before : N} {depth : Nat} {toFields : N → List Field}
    (set : List N → M) (ms : List N) (known : 1 ≤ number ∧ number < 2 ^ 29)
    (nested : ∀ n, Builds inner (toFields n) before n)
    (taken : ∀ ns v, step (set ns) ⟨number, v⟩
      = (v.message? depth inner before).map fun n => set (ns ++ [n])) :
    Builds step (repeatedField toFields number ms) (set []) (set ms) := by
  have built := builds_repeatedField set id ms known nested taken
  rwa [List.map_id] at built

lemma builds_textsField (set : List String → M) (texts : List String)
    (known : 1 ≤ number ∧ number < 2 ^ 29)
    (taken : ∀ ts v, step (set ts) ⟨number, v⟩ = v.text?.map fun s => set (ts ++ [s])) :
    Builds step (textsField number texts) (set []) (set texts) := by
  have one (ts : List String) (s : String) :
      Builds step [⟨number, .bytes (textBytes s)⟩] (set ts) (set (ts ++ [s])) :=
    .value (fun s => set (ts ++ [s])) known (by simp) (text?_textBytes s) (taken ts)
  have built := Builds.each set id one texts []
  rwa [List.map_id, List.nil_append] at built

end Builds

/-! ### The messages -/

theorem DimensionMessage.builds (m : DimensionMessage) :
    Builds DimensionMessage.step m.toFields {} m := by
  obtain ⟨value, parameter⟩ := m
  have sized : Builds DimensionMessage.step
      (value.map fun v => (⟨1, .varint (int64Number v)⟩ : Field)).toList {}
      { value := value } := by
    cases value with
    | none => exact .nil _
    | some v =>
      exact .value (fun v => ({ value := some v } : DimensionMessage)) (by decide) (by simp)
        (int64?_int64Number v) fun _ => rfl
  have named : Builds DimensionMessage.step
      (parameter.map fun s => (⟨2, .bytes (textBytes s)⟩ : Field)).toList { value := value }
      { value := value, parameter := parameter } := by
    cases parameter with
    | none => exact .nil _
    | some s =>
      exact .value (fun s => ({ value := value, parameter := some s } : DimensionMessage))
        (by decide) (by simp) (text?_textBytes s) fun _ => rfl
  exact sized.append named

theorem ShapeMessage.builds (m : ShapeMessage) : Builds ShapeMessage.step m.toFields {} m :=
  builds_repeatedField_self (fun dims => ({ dims } : ShapeMessage)) m.dims (by decide)
    DimensionMessage.builds fun _ _ => rfl

theorem TensorTypeMessage.builds (m : TensorTypeMessage) :
    Builds TensorTypeMessage.step m.toFields {} m := by
  have code : Builds TensorTypeMessage.step (int32Field 1 m.elementCode) {}
      { elementCode := m.elementCode } :=
    builds_int32Field (fun elementCode => ({ elementCode } : TensorTypeMessage)) _ (by decide)
      rfl fun _ => rfl
  have shape : Builds TensorTypeMessage.step (optionalField ShapeMessage.toFields 2 m.shape)
      { elementCode := m.elementCode } m :=
    builds_optionalField_self (fun shape => { m with shape }) _ (by decide) ShapeMessage.builds rfl
      fun _ => rfl
  exact code.append shape

theorem TypeMessage.builds (m : TypeMessage) : Builds TypeMessage.step m.toFields {} m :=
  builds_optionalField_self (fun tensorType => ({ tensorType } : TypeMessage)) m.tensorType
    (by decide) TensorTypeMessage.builds rfl fun _ => rfl

theorem ValueMessage.builds (m : ValueMessage) : Builds ValueMessage.step m.toFields {} m := by
  have name : Builds ValueMessage.step (textField 1 m.name) {} { name := m.name } :=
    builds_textField (fun name => ({ name } : ValueMessage)) _ (by decide) rfl fun _ => rfl
  have type : Builds ValueMessage.step (optionalField TypeMessage.toFields 2 m.type)
      { name := m.name } m :=
    builds_optionalField_self (fun type => { m with type }) _ (by decide) TypeMessage.builds rfl
      fun _ => rfl
  exact name.append type

theorem TensorMessage.builds (m : TensorMessage) : Builds TensorMessage.step m.toFields {} m := by
  have dims : Builds TensorMessage.step (int64sField 1 m.dims) {} { dims := m.dims } :=
    builds_int64sField (fun dims => ({ dims } : TensorMessage)) _ (by decide) rfl fun _ => rfl
  have code : Builds TensorMessage.step (int32Field 2 m.elementCode) { dims := m.dims }
      { m with floats := [], name := "", raw := [] } :=
    builds_int32Field (fun elementCode => ({ dims := m.dims, elementCode } : TensorMessage)) _
      (by decide) rfl fun _ => rfl
  have floats : Builds TensorMessage.step (singlesField 4 m.floats)
      { m with floats := [], name := "", raw := [] } { m with name := "", raw := [] } :=
    builds_singlesField (fun floats => { m with floats, name := "", raw := [] }) _ (by decide) rfl
      fun _ => rfl
  have name : Builds TensorMessage.step (textField 8 m.name) { m with name := "", raw := [] }
      { m with raw := [] } :=
    builds_textField (fun name => { m with name, raw := [] }) _ (by decide) rfl fun _ => rfl
  have raw : Builds TensorMessage.step (bytesField 9 m.raw) { m with raw := [] } m :=
    builds_bytesField (fun raw => { m with raw }) _ (by decide) rfl fun _ => rfl
  exact (((dims.append code).append floats).append name).append raw

theorem AttributeMessage.builds (m : AttributeMessage) :
    Builds AttributeMessage.step m.toFields {} m.normal := by
  have name : Builds AttributeMessage.step (textField 1 m.name) {} { name := m.name } :=
    builds_textField (fun name => ({ name } : AttributeMessage)) _ (by decide) rfl fun _ => rfl
  have number : Builds AttributeMessage.step (singleField 2 m.number) { name := m.name }
      { m.normal with integer := 0, kindCode := 0 } :=
    builds_singleField (fun number => ({ name := m.name, number } : AttributeMessage)) _
      (by decide) rfl fun _ => rfl
  have integer : Builds AttributeMessage.step (int64Field 3 m.integer)
      { m.normal with integer := 0, kindCode := 0 } { m.normal with kindCode := 0 } :=
    builds_int64Field (fun integer => { m.normal with integer, kindCode := 0 }) _ (by decide) rfl
      fun _ => rfl
  have kindCode : Builds AttributeMessage.step (int32Field 20 m.kindCode)
      { m.normal with kindCode := 0 } m.normal :=
    builds_int32Field (fun kindCode => { m.normal with kindCode }) _ (by decide) rfl fun _ => rfl
  exact ((name.append number).append integer).append kindCode

theorem NodeMessage.builds (m : NodeMessage) :
    Builds NodeMessage.step m.toFields {} m.normal := by
  have inputs : Builds NodeMessage.step (textsField 1 m.inputs) {} { inputs := m.inputs } :=
    builds_textsField (fun inputs => ({ inputs } : NodeMessage)) _ (by decide) fun _ _ => rfl
  have outputs : Builds NodeMessage.step (textsField 2 m.outputs) { inputs := m.inputs }
      { inputs := m.inputs, outputs := m.outputs } :=
    builds_textsField (fun outputs => ({ inputs := m.inputs, outputs } : NodeMessage)) _
      (by decide) fun _ _ => rfl
  have name : Builds NodeMessage.step (textField 3 m.name)
      { inputs := m.inputs, outputs := m.outputs }
      { m with operation := "", attributes := [], domain := "" } :=
    builds_textField (fun name => { m with name, operation := "", attributes := [], domain := "" })
      _ (by decide) rfl fun _ => rfl
  have operation : Builds NodeMessage.step (textField 4 m.operation)
      { m with operation := "", attributes := [], domain := "" }
      { m with attributes := [], domain := "" } :=
    builds_textField (fun operation => { m with operation, attributes := [], domain := "" })
      _ (by decide) rfl fun _ => rfl
  have attributes : Builds NodeMessage.step
      (repeatedField AttributeMessage.toFields 5 m.attributes)
      { m with attributes := [], domain := "" } { m.normal with domain := "" } :=
    builds_repeatedField (fun attributes => { m with attributes, domain := "" })
      AttributeMessage.normal _ (by decide) AttributeMessage.builds fun _ _ => rfl
  have domain : Builds NodeMessage.step (textField 7 m.domain) { m.normal with domain := "" }
      m.normal :=
    builds_textField (fun domain => { m.normal with domain }) _ (by decide) rfl fun _ => rfl
  exact ((((inputs.append outputs).append name).append operation).append attributes).append domain

theorem GraphMessage.builds (m : GraphMessage) :
    Builds GraphMessage.step m.toFields {} m.normal := by
  have nodes : Builds GraphMessage.step (repeatedField NodeMessage.toFields 1 m.nodes) {}
      { nodes := m.normal.nodes } :=
    builds_repeatedField (fun nodes => ({ nodes } : GraphMessage)) NodeMessage.normal _ (by decide)
      NodeMessage.builds fun _ _ => rfl
  have name : Builds GraphMessage.step (textField 2 m.name) { nodes := m.normal.nodes }
      { nodes := m.normal.nodes, name := m.name } :=
    builds_textField (fun name => ({ nodes := m.normal.nodes, name } : GraphMessage)) _ (by decide)
      rfl fun _ => rfl
  have initializers : Builds GraphMessage.step
      (repeatedField TensorMessage.toFields 5 m.initializers)
      { nodes := m.normal.nodes, name := m.name } { m.normal with inputs := [], outputs := [] } :=
    builds_repeatedField_self
      (fun initializers => { m.normal with initializers, inputs := [], outputs := [] })
      _ (by decide) TensorMessage.builds fun _ _ => rfl
  have inputs : Builds GraphMessage.step (repeatedField ValueMessage.toFields 11 m.inputs)
      { m.normal with inputs := [], outputs := [] } { m.normal with outputs := [] } :=
    builds_repeatedField_self (fun inputs => { m.normal with inputs, outputs := [] }) _ (by decide)
      ValueMessage.builds fun _ _ => rfl
  have outputs : Builds GraphMessage.step (repeatedField ValueMessage.toFields 12 m.outputs)
      { m.normal with outputs := [] } m.normal :=
    builds_repeatedField_self (fun outputs => { m.normal with outputs }) _ (by decide)
      ValueMessage.builds fun _ _ => rfl
  exact (((nodes.append name).append initializers).append inputs).append outputs

theorem OperatorSetMessage.builds (m : OperatorSetMessage) :
    Builds OperatorSetMessage.step m.toFields {} m := by
  have domain : Builds OperatorSetMessage.step (textField 1 m.domain) {} { domain := m.domain } :=
    builds_textField (fun domain => ({ domain } : OperatorSetMessage)) _ (by decide) rfl
      fun _ => rfl
  have version : Builds OperatorSetMessage.step (int64Field 2 m.version) { domain := m.domain } m :=
    builds_int64Field (fun version => { m with version }) _ (by decide) rfl fun _ => rfl
  exact domain.append version

/-- **The fields of a model build the model**, up to negative zeros. -/
theorem ModelMessage.builds (m : ModelMessage) :
    Builds ModelMessage.step m.toFields {} m.normal := by
  have version : Builds ModelMessage.step (int64Field 1 m.formatVersion) {}
      { formatVersion := m.formatVersion } :=
    builds_int64Field (fun formatVersion => ({ formatVersion } : ModelMessage)) _ (by decide) rfl
      fun _ => rfl
  have producer : Builds ModelMessage.step (textField 2 m.producer)
      { formatVersion := m.formatVersion } { m with graph := none, operatorSets := [] } :=
    builds_textField (fun producer => { m with producer, graph := none, operatorSets := [] })
      _ (by decide) rfl fun _ => rfl
  have graph : Builds ModelMessage.step (optionalField GraphMessage.toFields 7 m.graph)
      { m with graph := none, operatorSets := [] } { m.normal with operatorSets := [] } :=
    builds_optionalField (fun graph => { m with graph, operatorSets := [] }) GraphMessage.normal
      _ (by decide) GraphMessage.builds rfl fun _ => rfl
  have operatorSets : Builds ModelMessage.step
      (repeatedField OperatorSetMessage.toFields 8 m.operatorSets)
      { m.normal with operatorSets := [] } m.normal :=
    builds_repeatedField_self (fun operatorSets => { m.normal with operatorSets }) _ (by decide)
      OperatorSetMessage.builds fun _ _ => rfl
  exact ((version.append producer).append graph).append operatorSets

/-! ### A message without negative zeros is written alike -/

lemma singleField_dropNegZero (number : Nat) (x : Single) :
    singleField number x.dropNegZero = singleField number x := by
  unfold Single.dropNegZero
  split
  · subst x
    simp [singleField]
  · rfl

lemma AttributeMessage.toFields_normal (m : AttributeMessage) : m.normal.toFields = m.toFields := by
  simp [AttributeMessage.toFields, AttributeMessage.normal, singleField_dropNegZero]

/-- Messages that are written alike make repeated fields that are written alike. -/
lemma repeatedField_map {N : Type} {toFields : N → List Field} {normal : N → N}
    (alike : ∀ n, toFields (normal n) = toFields n) (number : Nat) (ms : List N) :
    repeatedField toFields number (ms.map normal) = repeatedField toFields number ms := by
  simp [repeatedField, alike, Function.comp_def]

lemma NodeMessage.toFields_normal (m : NodeMessage) : m.normal.toFields = m.toFields := by
  simp [NodeMessage.toFields, NodeMessage.normal,
    repeatedField_map AttributeMessage.toFields_normal]

lemma GraphMessage.toFields_normal (m : GraphMessage) : m.normal.toFields = m.toFields := by
  simp [GraphMessage.toFields, GraphMessage.normal, repeatedField_map NodeMessage.toFields_normal]

theorem ModelMessage.toFields_normal (m : ModelMessage) : m.normal.toFields = m.toFields := by
  obtain ⟨version, producer, graph, operatorSets⟩ := m
  cases graph with
  | none => rfl
  | some g =>
    simp [ModelMessage.toFields, ModelMessage.normal, optionalField, GraphMessage.toFields_normal]

/-! ### The order of fields -/

/-- Fields of one number. -/
def Numbered (number : Nat) (fs : List Field) : Prop := ∀ f ∈ fs, f.number = number

lemma numbered_textField (number : Nat) (s : String) : Numbered number (textField number s) := by
  unfold Numbered textField
  split <;> simp

lemma numbered_bytesField (number : Nat) (content : Bytes) :
    Numbered number (bytesField number content) := by
  unfold Numbered bytesField
  split <;> simp

lemma numbered_int64Field (number : Nat) (v : Int64) : Numbered number (int64Field number v) := by
  unfold Numbered int64Field
  split <;> simp

lemma numbered_int32Field (number : Nat) (v : Int32) : Numbered number (int32Field number v) := by
  unfold Numbered int32Field
  split <;> simp

lemma numbered_singleField (number : Nat) (x : Single) :
    Numbered number (singleField number x) := by
  unfold Numbered singleField
  split <;> simp

lemma numbered_textsField (number : Nat) (texts : List String) :
    Numbered number (textsField number texts) := by
  simp [Numbered, textsField]

lemma numbered_toList {A : Type} (number : Nat) (value : A → Value) (o : Option A) :
    Numbered number (o.map fun a => (⟨number, value a⟩ : Field)).toList := by
  cases o <;> simp [Numbered]

lemma numbered_optionalField {N : Type} (toFields : N → List Field) (number : Nat) (o : Option N) :
    Numbered number (optionalField toFields number o) := by
  cases o <;> simp [Numbered, optionalField, messageField]

lemma numbered_repeatedField {N : Type} (toFields : N → List Field) (number : Nat) (ms : List N) :
    Numbered number (repeatedField toFields number ms) := by
  simp [Numbered, repeatedField, messageField]

/-- Fields in increasing number up to a last one. -/
structure AscendingTo (last : Nat) (fs : List Field) : Prop where
  /-- The numbers increase. -/
  ascending : Ascending fs
  /-- The last number is the highest. -/
  le_last : ∀ f ∈ fs, f.number ≤ last

lemma AscendingTo.of_numbered {number : Nat} {fs : List Field} (numbered : Numbered number fs) :
    AscendingTo number fs where
  ascending := List.pairwise_of_forall_mem_list fun f hf g hg =>
    Nat.le_of_eq ((numbered f hf).trans (numbered g hg).symm)
  le_last f hf := Nat.le_of_eq (numbered f hf)

/-- Fields of a higher number may follow. -/
lemma AscendingTo.append {last next : Nat} {fs gs : List Field} (before : AscendingTo last fs)
    (numbered : Numbered next gs) (later : last ≤ next) : AscendingTo next (fs ++ gs) where
  ascending := by
    refine List.pairwise_append.2
      ⟨before.ascending, (of_numbered numbered).ascending, fun f hf g hg => ?_⟩
    rw [numbered g hg]
    exact Nat.le_trans (before.le_last f hf) later
  le_last f hf := by
    rcases List.mem_append.1 hf with hf | hf
    · exact Nat.le_trans (before.le_last f hf) later
    · exact Nat.le_of_eq (numbered f hf)

/-- **A message of the format**, of any of its types. -/
inductive AnyMessage where
  /-- A dimension. -/
  | dimension (m : DimensionMessage)
  /-- A list of dimensions. -/
  | shape (m : ShapeMessage)
  /-- A tensor type. -/
  | tensorType (m : TensorTypeMessage)
  /-- A type. -/
  | type (m : TypeMessage)
  /-- A declaration. -/
  | value (m : ValueMessage)
  /-- An initializer. -/
  | tensor (m : TensorMessage)
  /-- A setting. -/
  | setting (m : AttributeMessage)
  /-- A node. -/
  | node (m : NodeMessage)
  /-- A graph. -/
  | graph (m : GraphMessage)
  /-- An operator set. -/
  | operatorSet (m : OperatorSetMessage)
  /-- A model. -/
  | model (m : ModelMessage)

/-- The fields of a message. -/
def AnyMessage.toFields : AnyMessage → List Field
  | dimension m => m.toFields
  | shape m => m.toFields
  | tensorType m => m.toFields
  | type m => m.toFields
  | value m => m.toFields
  | tensor m => m.toFields
  | setting m => m.toFields
  | node m => m.toFields
  | graph m => m.toFields
  | operatorSet m => m.toFields
  | model m => m.toFields

/-- **Every message is written in increasing field number.** -/
theorem AnyMessage.ascending (m : AnyMessage) : Ascending m.toFields := by
  cases m with
  | dimension m =>
    exact ((AscendingTo.of_numbered (numbered_toList 1 _ m.value)).append
      (numbered_toList 2 _ m.parameter) (by decide)).ascending
  | shape m => exact (AscendingTo.of_numbered (numbered_repeatedField _ 1 m.dims)).ascending
  | tensorType m =>
    exact ((AscendingTo.of_numbered (numbered_int32Field 1 m.elementCode)).append
      (numbered_optionalField _ 2 m.shape) (by decide)).ascending
  | type m => exact (AscendingTo.of_numbered (numbered_optionalField _ 1 m.tensorType)).ascending
  | value m =>
    exact ((AscendingTo.of_numbered (numbered_textField 1 m.name)).append
      (numbered_optionalField _ 2 m.type) (by decide)).ascending
  | tensor m =>
    exact (((((AscendingTo.of_numbered (numbered_bytesField 1 _)).append
      (numbered_int32Field 2 m.elementCode) (by decide)).append
      (numbered_bytesField 4 _) (by decide)).append
      (numbered_textField 8 m.name) (by decide)).append
      (numbered_bytesField 9 m.raw) (by decide)).ascending
  | setting m =>
    exact ((((AscendingTo.of_numbered (numbered_textField 1 m.name)).append
      (numbered_singleField 2 m.number) (by decide)).append
      (numbered_int64Field 3 m.integer) (by decide)).append
      (numbered_int32Field 20 m.kindCode) (by decide)).ascending
  | node m =>
    exact ((((((AscendingTo.of_numbered (numbered_textsField 1 m.inputs)).append
      (numbered_textsField 2 m.outputs) (by decide)).append
      (numbered_textField 3 m.name) (by decide)).append
      (numbered_textField 4 m.operation) (by decide)).append
      (numbered_repeatedField _ 5 m.attributes) (by decide)).append
      (numbered_textField 7 m.domain) (by decide)).ascending
  | graph m =>
    exact (((((AscendingTo.of_numbered (numbered_repeatedField _ 1 m.nodes)).append
      (numbered_textField 2 m.name) (by decide)).append
      (numbered_repeatedField _ 5 m.initializers) (by decide)).append
      (numbered_repeatedField _ 11 m.inputs) (by decide)).append
      (numbered_repeatedField _ 12 m.outputs) (by decide)).ascending
  | operatorSet m =>
    exact ((AscendingTo.of_numbered (numbered_textField 1 m.domain)).append
      (numbered_int64Field 2 m.version) (by decide)).ascending
  | model m =>
    exact ((((AscendingTo.of_numbered (numbered_int64Field 1 m.formatVersion)).append
      (numbered_textField 2 m.producer) (by decide)).append
      (numbered_optionalField _ 7 m.graph) (by decide)).append
      (numbered_repeatedField _ 8 m.operatorSets) (by decide)).ascending

/-! ### Negative integers -/

lemma top_int64Number {v : Int64} (negative : v < 0) : 2 ^ 63 ≤ (int64Number v).toNat := by
  have below : v.toInt < 0 := Int64.lt_iff_toInt_lt.1 negative
  have read : v.toInt = v.toBitVec.toInt := rfl
  have written : (int64Number v).toNat = v.toBitVec.toNat := rfl
  have signed := BitVec.toInt_eq_toNat_cond v.toBitVec
  split at signed <;> omega

lemma top_int32Number {v : Int32} (negative : v < 0) : 2 ^ 63 ≤ (int32Number v).toNat := by
  refine top_int64Number (Int64.lt_iff_toInt_lt.2 ?_)
  rw [Int32.toInt_toInt64]
  exact Int32.lt_iff_toInt_lt.1 negative

/-! ### Models -/

/-- What is read of a written model. -/
lemma ModelMessage.decode_encode {m : ModelMessage} (fits : m.encode.length < Size.limit) :
    decode m.encode = .ok m.normal := by
  rw [decode, decode?, encode, m.builds.absorb 0 fits]

/-- What is read of a written model is written alike. -/
lemma ModelMessage.encode_normal (m : ModelMessage) : m.normal.encode = m.encode := by
  rw [encode, encode, m.toFields_normal]

/-- **A model that is written is read back**, with zero in place of the negative zeros among the
plain numbers of its settings. So a model that was read from some bytes, written and read again is
written with the same bytes once more. On the wire, every message has its fields in increasing
number and every negative integer takes ten bytes, whatever its width.

Lengths on the wire are 64-bit numbers; no byte string of the program is too long for them. -/
theorem ModelMessage.decode_encode_eq_normal (m : ModelMessage)
    (fits : m.encode.length < Size.limit) :
    decode m.encode = .ok m.normal ∧ m.normal.encode = m.encode
      ∧ (∀ bytes, decode bytes = .ok m → ∃ again, decode m.encode = .ok again
        ∧ again.encode = m.encode)
      ∧ (∀ any : AnyMessage, Ascending any.toFields)
      ∧ (∀ v : Int64, v < 0 → (writeVarint (int64Number v).toNat).length = 10)
      ∧ ∀ v : Int32, v < 0 → (writeVarint (int32Number v).toNat).length = 10 := by
  have read := decode_encode fits
  have alike := encode_normal m
  exact ⟨read, alike, fun _ _ => ⟨m.normal, read, alike⟩, AnyMessage.ascending,
    fun v negative => length_writeVarint_eq_ten (top_int64Number negative),
    fun v negative => length_writeVarint_eq_ten (top_int32Number negative)⟩

/-- A model with a negative zero, negative integers, an empty text in a list and an optional value
that is present but zero. -/
def negativeSample : ModelMessage where
  formatVersion := -1
  producer := "é"
  graph := some
    { nodes := [{
        inputs := ["", "x"]
        operation := "Scale"
        attributes := [{ name := "scale", number := .negZero, kindCode := -1 }] }]
      inputs := [{
        name := "x"
        type := some { tensorType := some { shape := some { dims := [{ value := some 0 }] } } } }] }

theorem ModelMessage.decode_encode_eq_normal_sample :
    negativeSample.encode.length < Size.limit
      ∧ decode negativeSample.encode = .ok negativeSample.normal := by
  have fits : negativeSample.encode.length < Size.limit := by decide +kernel
  exact ⟨fits, (decode_encode_eq_normal negativeSample fits).1⟩

end Exchange

end Microbatch

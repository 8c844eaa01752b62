import Mathlib.Data.List.Nodup
import Mathlib.Tactic.Lemma
import Microbatch.Exchange.Builder

set_option relaxedAutoImplicit false
set_option autoImplicit false

/-!
# Calls of a builder

A call adds an input, a weight, an output or an operation. What a list of calls makes of a graph is
said here once, so that no later proof goes through the calls again.

Operations are named by a running number behind a colon. No operation has a colon in its name, so
the number can be read off the name of a result, and no two results get the same name.

## Main definitions

* `Microbatch.Exchange.Builder.Call.operation?`, `Microbatch.Exchange.Builder.Call.operands` — the
  operation of a call.
* `Microbatch.Exchange.Builder.Call.streamed?`, `Microbatch.Exchange.Builder.Call.weight?` — the
  streamed input or the weight that a call adds.
* `Microbatch.Exchange.Builder.results` — the operations of calls, each with the name of its result.
* `Microbatch.Exchange.Builder.ReadsReturned` — operations read what was returned before.

## Main results

* `Microbatch.Exchange.Builder.graph_performAll` — the graph that calls make.
* `Microbatch.Exchange.Builder.nodup_results` — results have distinct names.
-/

namespace Microbatch.Exchange.Builder

/-! ### Calls -/

namespace Call

/-- The operation that a call adds, if it adds one. -/
def operation? : Call → Option String
  | matmul .. => some "MatMul"
  | add .. => some "Add"
  | relu _ => some "Relu"
  | identity _ => some "Identity"
  | scale .. => some "Scale"
  | _ => none

/-- The tensors that the operation of a call reads. -/
def operands : Call → List String
  | matmul left right => [left, right]
  | add left right => [left, right]
  | relu operand => [operand]
  | identity operand => [operand]
  | scale operand _ => [operand]
  | _ => []

/-- The settings of the operation of a call. -/
def settings : Call → List AttributeMessage
  | scale _ factor => [{ name := "scale", number := factor, kindCode := numberKind }]
  | _ => []

/-- The node of the operation of a call. -/
def node (call : Call) (result : String) : NodeMessage where
  inputs := call.operands
  outputs := [result]
  name := result
  operation := call.operation?.getD ""
  attributes := call.settings

/-- The input that a call declares, if it declares one; weights are declared as well. -/
def declared? : Call → Option ValueMessage
  | input name info => some { name := name, type := infoType info }
  | dynamic name elementType dims => some { name := name, type := tensorType elementType dims }
  | weight name value => some { name := name, type := infoType value.info }
  | _ => none

/-- The name that a call gives to an input or a weight. -/
def given? : Call → Option String
  | input name _ => some name
  | dynamic name _ _ => some name
  | weight name _ => some name
  | _ => none

/-- The dimensions that a call writes down. -/
def dims : Call → List Nat
  | input _ info => info.shape.dims
  | dynamic _ _ dims => dims.filterMap id
  | weight _ value => value.info.shape.dims
  | _ => []

/-- The weight that a call adds. -/
def weight? : Call → Option (String × Tensor)
  | weight name value => some (name, value)
  | _ => none

/-- The name of an input with open dimensions. -/
def open? : Call → Option String
  | dynamic name _ dims => if none ∈ dims then some name else none
  | _ => none

/-- **The streamed input that a call adds**, with its description: the one that it is declared with,
and for an input with open dimensions the one that is supplied. -/
def streamed? (shapes : NameMap TensorInfo) : Call → Option (String × TensorInfo)
  | input name info => some (name, info)
  | dynamic name elementType dims =>
    match dims.mapM id with
    | some dims => some (name, ⟨elementType, ⟨dims⟩⟩)
    | none => (shapes.find? name).map fun info => (name, info)
  | _ => none

end Call

/-- The operation that a call adds, with the name of its result. -/
def produced (b : Builder) (call : Call) : List (Call × String) :=
  if call.operation?.isSome then (b.perform call).1.toList.map fun result => (call, result) else []

/-- **The operations of calls**, in order, each with the name that the call returns. -/
def results (b : Builder) : List Call → List (Call × String)
  | [] => []
  | call :: rest => b.produced call ++ (b.perform call).2.results rest

/-- The builder after some calls. -/
def build (title : String) (calls : List Call) : Builder := ((named title).performAll calls).2

/-- **Operations read what was returned before**: names known from the start and names that earlier
calls returned. -/
def ReadsReturned (b : Builder) (known : List String) : List Call → Prop
  | [] => True
  | call :: rest => (∀ name ∈ call.operands, name ∈ known) ∧
    (b.perform call).2.ReadsReturned (known ++ (b.perform call).1.toList) rest

instance decidableReadsReturned (b : Builder) (known : List String) :
    (calls : List Call) → Decidable (b.ReadsReturned known calls)
  | [] => inferInstanceAs (Decidable True)
  | call :: rest =>
    have := decidableReadsReturned (b.perform call).2 (known ++ (b.perform call).1.toList) rest
    inferInstanceAs (Decidable ((∀ name ∈ call.operands, name ∈ known) ∧
      (b.perform call).2.ReadsReturned (known ++ (b.perform call).1.toList) rest))

variable {b : Builder} {call : Call} {calls rest : List Call} {op : String}
  {shapes : NameMap TensorInfo}

/-! ### What one call does -/

/-- **A call with an operation** returns the operation's name with the next number, and adds the
node. -/
lemma perform_operation (h : call.operation? = some op) :
    b.perform call = (some s!"{op}:{b.next}",
      { graph := { b.graph with
          nodes := b.graph.nodes ++ [call.node s!"{op}:{b.next}"] }
        next := b.next + 1 }) := by
  cases call <;> cases h <;> rfl

/-- **A call without an operation** returns the name that it gives, and takes no number. -/
lemma perform_plain (h : call.operation? = none) :
    (b.perform call).1 = call.given? ∧ (b.perform call).2.next = b.next := by
  cases call <;> cases h <;> exact ⟨rfl, rfl⟩

lemma results_cons_operation (h : call.operation? = some op) :
    b.results (call :: rest) =
      (call, s!"{op}:{b.next}") :: (b.perform call).2.results rest := by
  rw [results, produced, h, perform_operation h]
  rfl

lemma results_cons_plain (h : call.operation? = none) :
    b.results (call :: rest) = (b.perform call).2.results rest := by
  rw [results, produced, h]
  rfl

/-- What a call adds to the graph. -/
lemma graph_perform (b : Builder) (call : Call) :
    (b.perform call).2.graph.nodes =
      b.graph.nodes ++ (b.produced call).map (fun r => r.1.node r.2) ∧
    (b.perform call).2.graph.inputs = b.graph.inputs ++ call.declared?.toList ∧
    (b.perform call).2.graph.initializers =
      b.graph.initializers ++ call.weight?.toList.map fun e => .ofTensor e.1 e.2 := by
  cases call <;>
    simp [perform, operation, declare, addInitializer, produced, Call.node, Call.operation?,
      Call.operands, Call.settings, Call.declared?, Call.weight?]

/-- **The graph that calls make**: the nodes of the operations, the declared inputs and the weights,
each in the order of the calls. -/
lemma graph_performAll (b : Builder) (calls : List Call) :
    (b.performAll calls).2.graph.nodes =
      b.graph.nodes ++ (b.results calls).map (fun r => r.1.node r.2) ∧
    (b.performAll calls).2.graph.inputs = b.graph.inputs ++ calls.filterMap Call.declared? ∧
    (b.performAll calls).2.graph.initializers =
      b.graph.initializers ++ (calls.filterMap Call.weight?).map fun e => .ofTensor e.1 e.2 := by
  induction calls generalizing b with
  | nil => simp [performAll, results]
  | cons call rest ih =>
    obtain ⟨nodes, inputs, initializers⟩ := graph_perform b call
    obtain ⟨nodes', inputs', initializers'⟩ := ih (b.perform call).2
    have unfolded : (b.performAll (call :: rest)).2 = ((b.perform call).2.performAll rest).2 := rfl
    rw [unfolded, nodes', inputs', initializers', nodes, inputs, initializers, results]
    refine ⟨by simp, ?_, ?_⟩
    · rw [List.append_assoc, List.filterMap_cons]
      cases call.declared? <;> rfl
    · rw [List.append_assoc, List.filterMap_cons]
      cases call.weight? <;> rfl

/-! ### Names of results -/

/-- No operation has a colon in its name. -/
lemma not_mem_operation? (h : call.operation? = some op) : ':' ∉ op.toList := by
  cases call <;> cases h <;> decide

/-- In a result's name, the digits of the number stand behind the first colon. -/
lemma dropWhile_name (plain : ':' ∉ op.toList) (number : Nat) :
    (s!"{op}:{number}").toList.dropWhile (· != ':') = ':' :: Nat.toDigits 10 number := by
  have letters : (s!"{op}:{number}").toList =
      op.toList ++ ':' :: Nat.toDigits 10 number := by
    rw [String.toList_append, String.toList_append, List.append_assoc,
      Nat.toString_eq_ofList_toDigits, String.toList_ofList]
    rfl
  have before : ∀ c ∈ op.toList, (c != ':') = true := by
    intro c member
    rw [bne_iff_ne]
    rintro rfl
    exact plain member
  rw [letters, List.dropWhile_append_of_pos before]
  simp

/-- Results with the same name have the same number. -/
lemma number_eq_of_name_eq {other : String} {i j : Nat} (plain : ':' ∉ op.toList)
    (plain' : ':' ∉ other.toList) (same : s!"{op}:{i}" = s!"{other}:{j}") :
    i = j := by
  have behind := dropWhile_name plain i
  rw [same, dropWhile_name plain' j, List.cons.injEq] at behind
  calc
    i = Nat.ofDigitChars 10 (Nat.toDigits 10 i) 0 := Nat.ofDigitChars_ten_toDigits.symm
    _ = Nat.ofDigitChars 10 (Nat.toDigits 10 j) 0 := by rw [behind.2]
    _ = j := Nat.ofDigitChars_ten_toDigits

/-- The numbers of results go on from the next number. -/
lemma exists_number_of_mem_results {r : Call × String} (h : r ∈ b.results calls) :
    ∃ op number, r.1.operation? = some op ∧ b.next ≤ number ∧
      r.2 = s!"{op}:{number}" := by
  induction calls generalizing b with
  | nil => cases h
  | cons call rest ih =>
    cases added : call.operation? with
    | none =>
      rw [results_cons_plain added] at h
      rw [← (perform_plain added).2]
      exact ih h
    | some op =>
      rw [results_cons_operation added] at h
      rcases List.mem_cons.1 h with rfl | later
      · exact ⟨op, b.next, added, Nat.le_refl _, rfl⟩
      · obtain ⟨later_op, number, added', above, name⟩ := ih later
        rw [perform_operation added] at above
        exact ⟨later_op, number, added', Nat.le_of_succ_le above, name⟩

/-- **Results have distinct names**, whatever the calls are. -/
lemma nodup_results (b : Builder) (calls : List Call) : ((b.results calls).map (·.2)).Nodup := by
  induction calls generalizing b with
  | nil => exact List.nodup_nil
  | cons call rest ih =>
    cases added : call.operation? with
    | none =>
      rw [results_cons_plain added]
      exact ih _
    | some op =>
      rw [results_cons_operation added, List.map_cons, List.nodup_cons]
      refine ⟨fun again => ?_, ih _⟩
      -- a later result of that name would have the number of this one, but numbers go on
      obtain ⟨r, later, same⟩ := List.mem_map.1 again
      obtain ⟨later_op, number, added', above, name⟩ := exists_number_of_mem_results later
      have behind : b.next + 1 ≤ number := by
        rw [perform_operation added] at above
        exact above
      have same_number : number = b.next := number_eq_of_name_eq (not_mem_operation? added')
        (not_mem_operation? added) (name.symm.trans same)
      omega

/-! ### Names of inputs and weights -/

lemma given?_of_weight? {e : String × Tensor} (h : call.weight? = some e) :
    call.given? = some e.1 := by
  cases call <;> cases h
  rfl

lemma given?_of_declared? {value : ValueMessage} (h : call.declared? = some value) :
    call.given? = some value.name := by
  cases call <;> cases h <;> rfl

lemma exists_declared? {name : String} (h : call.given? = some name) :
    ∃ value, call.declared? = some value := by
  cases call <;> cases h <;> exact ⟨_, rfl⟩

/-- A weight is not streamed. -/
lemma streamed?_of_weight? {e : String × Tensor} (h : call.weight? = some e) :
    call.streamed? shapes = none := by
  cases call <;> cases h
  rfl

/-- What is not declared is not streamed. -/
lemma streamed?_of_not_declared (h : call.declared? = none) : call.streamed? shapes = none := by
  cases call <;> cases h <;> rfl

lemma given?_of_open? {name : String} (h : call.open? = some name) : call.given? = some name := by
  cases call with
  | dynamic given elementType dims =>
    simp only [Call.open?, Option.ite_none_right_eq_some] at h
    exact h.2
  | _ => cases h

lemma given?_of_streamed? {e : String × TensorInfo} (h : call.streamed? shapes = some e) :
    call.given? = some e.1 := by
  cases call with
  | input given info =>
    cases h
    rfl
  | dynamic given elementType dims =>
    simp only [Call.streamed?] at h
    split at h
    · cases h
      rfl
    · obtain ⟨info, -, rfl⟩ := Option.map_eq_some_iff.1 h
      rfl
  | _ => cases h

lemma mem_given?_cons {name : String} (h : name ∈ rest.filterMap Call.given?) :
    name ∈ (call :: rest).filterMap Call.given? := by
  obtain ⟨later, member, gives⟩ := List.mem_filterMap.1 h
  exact List.mem_filterMap.2 ⟨later, List.mem_cons_of_mem _ member, gives⟩

/-- Two calls that give the same name are the same call. -/
lemma eq_of_given? (distinct : (calls.filterMap Call.given?).Nodup) {call' : Call} {name : String}
    (member : call ∈ calls) (member' : call' ∈ calls) (h : call.given? = some name)
    (h' : call'.given? = some name) : call = call' := by
  have apart := List.pairwise_filterMap.1 distinct
  clear distinct
  induction calls with
  | nil => cases member
  | cons first rest ih =>
    obtain ⟨here, later⟩ := List.pairwise_cons.1 apart
    rcases List.mem_cons.1 member with rfl | behind
    · rcases List.mem_cons.1 member' with rfl | behind'
      · rfl
      · exact absurd rfl (here call' behind' name h name h')
    · rcases List.mem_cons.1 member' with rfl | behind'
      · exact absurd rfl (here call behind name h' name h)
      · exact ih behind behind' later

/-- What calls list under the names that they give has distinct names. -/
lemma nodup_filterMap {α : Type} {f : Call → Option (String × α)}
    (named : ∀ call e, f call = some e → call.given? = some e.1)
    (distinct : (calls.filterMap Call.given?).Nodup) :
    ((calls.filterMap f).map (·.1)).Nodup := by
  refine List.Nodup.sublist ?_ distinct
  clear distinct
  induction calls with
  | nil => exact List.Sublist.slnil
  | cons call rest ih =>
    rw [List.filterMap_cons, List.filterMap_cons]
    cases listed : f call with
    | none =>
      cases call.given? with
      | none => exact ih
      | some name => exact ih.cons name
    | some e =>
      rw [named call e listed]
      exact ih.cons_cons e.1

/-! ### Open dimensions -/

/-- Dimensions are all there exactly when none is open. -/
lemma mapM_id_eq_none_iff {dims : List (Option Nat)} : dims.mapM id = none ↔ none ∈ dims := by
  induction dims with
  | nil => simp
  | cons d rest ih =>
    cases d with
    | none => simp
    | some n =>
      rw [List.mapM_cons]
      cases closed : rest.mapM id with
      | none => simpa using ih.1 closed
      | some sizes =>
        have not_open : none ∉ rest := by
          rw [← ih, closed]
          simp
        simp [not_open]

/-- An input with open dimensions is streamed with what is supplied. -/
lemma streamed?_of_open? {name : String} {info : TensorInfo} (leaves : call.open? = some name)
    (supplied : shapes.find? name = some info) : call.streamed? shapes = some (name, info) := by
  cases call with
  | dynamic given elementType dims =>
    simp only [Call.open?, Option.ite_none_right_eq_some, Option.some.injEq] at leaves
    obtain ⟨is_open, rfl⟩ := leaves
    simp only [Call.streamed?, mapM_id_eq_none_iff.2 is_open, supplied, Option.map_some]
  | _ => cases leaves

end Microbatch.Exchange.Builder

import Mathlib.Analysis.Calculus.Deriv.Add
import Mathlib.Analysis.Calculus.Deriv.Mul
import Mathlib.LinearAlgebra.AffineSpace.Slope
import Mathlib.Topology.Algebra.Module.ModuleTopology
import Microbatch.Proofs.Tangents

set_option relaxedAutoImplicit false
set_option autoImplicit false

/-!
# Gradients are derivatives

When one weight of a program moves along a line, every tensor of its graph moves, and so do the
losses. Over exact numbers the gradient of the weight is the slope of the losses that read a tensor
of the graph: by the rules of differentiation always, and as a limit of quotients wherever no
operand of a cut-off and no element of a loss lies on its kink at zero. A loss that reads the result
of another loss has no share in the gradient, although its value depends on the weight.

## Main definitions

* `Microbatch.Loss.slope` — how a loss changes with its input, by the rules.
* `Microbatch.Program.AvoidsKinks` — values at which every rule is a derivative.
* `Microbatch.MovesBy` — a list that depends on a number, with its derivative at zero.

## Main results

* `Microbatch.MovesBy.matmul` and its siblings — the rules of nodes are derivatives.
* `Microbatch.NodesTyped.movesBy` — the changes of a program are derivatives.
* `Microbatch.gradient_is_slope` — the gradient of a trained weight.
* `Microbatch.gradient_leaves_out_chained_loss` — a loss of a loss that the gradient leaves out.
-/

namespace Microbatch

open Finset Kernel

section Rules

variable [Reading]

/-! ### Lists that move -/

/-- **A list that depends on a number**, with the derivative of each of its elements at zero. -/
structure MovesBy (xs : ℚ → List ℚ) (d : List ℚ) : Prop where
  /-- The list keeps its length. -/
  length : ∀ t, (xs t).length = d.length
  /-- Each element has the derivative at its place. -/
  slope : ∀ i < d.length, HasDerivAt (fun t => entry (xs t) i) (entry d i) 0

namespace MovesBy

variable {a b : ℚ → List ℚ} {da db : List ℚ}

/-- A list that does not depend on the number. -/
lemma const (xs : List ℚ) : MovesBy (fun _ => xs) (xs.map fun _ => 0) := by
  refine ⟨fun _ => (List.length_map _).symm, fun i hi => ?_⟩
  rw [List.length_map] at hi
  rw [entry_map _ hi]
  exact hasDerivAt_const 0 _

/-- A list that moves along a line. -/
lemma line {xs d : List ℚ} (h : xs.length = d.length) :
    MovesBy (fun t => List.zipWith (fun x e => x + t * e) xs d) d := by
  refine ⟨fun t => by rw [List.length_zipWith, h, Nat.min_self], fun i hi => ?_⟩
  have each : (fun t => entry (List.zipWith (fun x e => x + t * e) xs d) i) =
      fun t => entry xs i + t * entry d i :=
    funext fun t => entry_zipWith _ h (h.symm ▸ hi)
  rw [each]
  simpa using ((hasDerivAt_id (0 : ℚ)).mul_const (entry d i)).const_add (entry xs i)

/-- **The product rule.** -/
lemma matmul {size : MatrixSize} (ha : MovesBy a da) (hb : MovesBy b db)
    (rows : da.length = size.rows * size.inner) (columns : db.length = size.inner * size.columns) :
    MovesBy (fun t => Kernel.matmul size (a t) (b t))
      (List.zipWith (· + ·) (Kernel.matmul size da (b 0)) (Kernel.matmul size (a 0) db)) := by
  have both : (Kernel.matmul size da (b 0)).length = (Kernel.matmul size (a 0) db).length := by
    rw [length_matmul, length_matmul]
  have total : (List.zipWith (· + ·) (Kernel.matmul size da (b 0))
      (Kernel.matmul size (a 0) db)).length = size.rows * size.columns := by
    rw [List.length_zipWith, both, length_matmul, Nat.min_self]
  refine ⟨fun t => by rw [total, length_matmul], fun q hq => ?_⟩
  rw [total] at hq
  obtain ⟨i, hi, j, hj, rfl⟩ := exists_place hq
  have rows_at : ∀ t, (a t).length = size.rows * size.inner := fun t => (ha.length t).trans rows
  have columns_at : ∀ t, (b t).length = size.inner * size.columns :=
    fun t => (hb.length t).trans columns
  have each : (fun t => entry (Kernel.matmul size (a t) (b t)) (i * size.columns + j)) = fun t =>
      ∑ p ∈ range size.inner,
        entry (a t) (i * size.inner + p) * entry (b t) (p * size.columns + j) :=
    funext fun t => entry_matmul (rows_at t) (columns_at t) hi hj
  rw [each, entry_zipWith _ both (by rw [length_matmul]; exact hq),
    entry_matmul rows (columns_at 0) hi hj, entry_matmul (rows_at 0) columns hi hj,
    ← sum_add_distrib]
  refine HasDerivAt.fun_sum fun p hp => ?_
  have hp := mem_range.1 hp
  exact (ha.slope _ (covers_of_length rows i hi p hp)).mul
    (hb.slope _ (covers_of_length columns p hp j hj))

/-- **The sum rule**, with a repeated row. -/
lemma add {count width : ℕ} (ha : MovesBy a da) (hb : MovesBy b db)
    (rows : da.length = count * width) (row : db.length = width) :
    MovesBy (fun t => Kernel.add (a t) (b t)) (Kernel.add da db) := by
  refine ⟨fun t => by rw [length_add, length_add, ha.length], fun q hq => ?_⟩
  rw [length_add, rows] at hq
  obtain ⟨i, hi, j, hj, rfl⟩ := exists_place hq
  have each : (fun t => entry (Kernel.add (a t) (b t)) (i * width + j)) =
      fun t => entry (a t) (i * width + j) + entry (b t) j :=
    funext fun t => entry_add ((ha.length t).trans rows) ((hb.length t).trans row) hi hj
  rw [each, entry_add rows row hi hj]
  exact (ha.slope _ (covers_of_length rows i hi j hj)).add (hb.slope _ (row.symm ▸ hj))

end MovesBy

/-! ### Kinks -/

section Kinks

variable {f : ℚ → ℚ} {f' : ℚ}

omit [Reading] in
/-- What is above zero stays above zero nearby. -/
lemma eventually_pos (h : HasDerivAt f f' 0) (pos : 0 < f 0) : ∀ᶠ t in nhds 0, 0 < f t :=
  h.continuousAt.eventually (eventually_gt_nhds pos)

omit [Reading] in
/-- What is below zero stays below zero nearby. -/
lemma eventually_neg (h : HasDerivAt f f' 0) (neg : f 0 < 0) : ∀ᶠ t in nhds 0, f t < 0 :=
  h.continuousAt.eventually (eventually_lt_nhds neg)

omit [Reading] in
/-- **The cut-off is differentiable off its kink**: it is the number itself above zero, and zero
below. -/
lemma hasDerivAt_cutoff (h : HasDerivAt f f' 0) (off : f 0 ≠ 0) :
    HasDerivAt (fun t => if 0 < f t then f t else 0) (if 0 < f 0 then f' else 0) 0 := by
  rcases lt_or_gt_of_ne off with neg | pos
  · rw [if_neg neg.not_gt]
    refine (hasDerivAt_const (0 : ℚ) (0 : ℚ)).congr_of_eventuallyEq ?_
    filter_upwards [eventually_neg h neg] with t below
    exact if_neg below.not_gt
  · rw [if_pos pos]
    refine h.congr_of_eventuallyEq ?_
    filter_upwards [eventually_pos h pos] with t above
    exact if_pos above

omit [Reading] in
/-- **The absolute value is differentiable off its kink**, with the sign as its slope. -/
lemma hasDerivAt_abs_of_ne (h : HasDerivAt f f' 0) (off : f 0 ≠ 0) :
    HasDerivAt (fun t => |f t|) (SignType.sign (f 0) * f') 0 := by
  rcases lt_or_gt_of_ne off with neg | pos
  · have slope : (SignType.sign (f 0) : ℚ) * f' = -f' := by simp [neg]
    rw [slope]
    refine h.neg.congr_of_eventuallyEq ?_
    filter_upwards [eventually_neg h neg] with t below
    exact abs_of_neg below
  · have slope : (SignType.sign (f 0) : ℚ) * f' = f' := by simp [pos]
    rw [slope]
    refine h.congr_of_eventuallyEq ?_
    filter_upwards [eventually_pos h pos] with t above
    exact abs_of_pos above

end Kinks

/-- What is not in a list is at none of its places. -/
lemma entry_ne_zero {xs : List ℚ} (off : (0 : ℚ) ∉ xs) {i : ℕ} (hi : i < xs.length) :
    entry xs i ≠ 0 := by
  intro zero
  exact off (zero ▸ List.mem_of_getElem? (getElem?_eq_entry hi))

namespace MovesBy

variable {xs : ℚ → List ℚ} {d : List ℚ}

/-- **The cut-off rule**, off the kink. -/
lemma relu (h : MovesBy xs d) (off : (0 : ℚ) ∉ xs 0) : MovesBy (fun t => Kernel.relu (xs t))
    (List.zipWith (fun x e => if 0 < x then e else 0) (xs 0) d) := by
  have total : (List.zipWith (fun x e : ℚ => if 0 < x then e else 0) (xs 0) d).length =
      d.length := by
    rw [List.length_zipWith, h.length, Nat.min_self]
  refine ⟨fun t => by rw [total, length_relu, h.length], fun i hi => ?_⟩
  rw [total] at hi
  have inside : ∀ t, i < (xs t).length := fun t => (h.length t).symm ▸ hi
  have each : (fun t => entry (Kernel.relu (xs t)) i) =
      fun t => if 0 < entry (xs t) i then entry (xs t) i else 0 := by
    funext t
    rw [Kernel.relu, entry_map _ (inside t)]
    simp [Scalar.isPositive, scalar_zero]
  rw [each, entry_zipWith _ (h.length 0) (inside 0)]
  exact hasDerivAt_cutoff (h.slope i hi) (entry_ne_zero off (inside 0))

/-- **The rule of multiples.** -/
lemma scale (h : MovesBy xs d) (factor : ℚ) :
    MovesBy (fun t => Kernel.scale factor (xs t)) (d.map (· * factor)) := by
  refine ⟨fun t => by rw [length_scale, List.length_map, h.length], fun i hi => ?_⟩
  rw [List.length_map] at hi
  have each : (fun t => entry (Kernel.scale factor (xs t)) i) =
      fun t => entry (xs t) i * factor := by
    funext t
    rw [Kernel.scale, entry_map _ ((h.length t).symm ▸ hi), scalar_mul]
  rw [each, entry_map _ hi]
  exact (h.slope i hi).mul_const factor

end MovesBy

/-! ### Losses -/

/-- What the absolute values of a list change by in total: each by the change of the element, with
the sign of the element, which is zero at zero. -/
def signedTotal (xs d : List ℚ) : ℚ :=
  (List.zipWith (fun x e : ℚ => (SignType.sign x : ℚ) * e) xs d).sum

/-- **How a loss changes with its input**, by the rules. -/
def Loss.slope (loss : Loss) (xs d : List ℚ) : ℚ :=
  match loss.reduction with
  | .sum => Reading.value loss.lambda * signedTotal xs d
  | .mean => Reading.value loss.lambda * signedTotal xs d / (max xs.length 1 : ℕ)

/-- The total of signed changes by entries. -/
lemma signedTotal_eq_sum {xs d : List ℚ} (h : xs.length = d.length) :
    signedTotal xs d = ∑ i ∈ range d.length, (SignType.sign (entry xs i) : ℚ) * entry d i := by
  have length : (List.zipWith (fun x e : ℚ => (SignType.sign x : ℚ) * e) xs d).length =
      d.length := by
    rw [List.length_zipWith, h, Nat.min_self]
  rw [signedTotal, sum_eq_sum_entry length]
  exact sum_congr rfl fun i hi => entry_zipWith _ h (h.symm ▸ mem_range.1 hi)

namespace Loss

variable (loss : Loss)

/-- The slope of a loss is the weight of an element times the total of signed changes. -/
lemma slope_eq (xs d : List ℚ) : loss.slope xs d = loss.elementWeight xs * signedTotal xs d := by
  unfold slope elementWeight
  cases loss.reduction with
  | sum => rfl
  | mean => exact mul_div_right_comm _ _ _

/-- The value of a loss is the weight of an element times the total of absolute values. -/
lemma value_eq (xs : List ℚ) :
    loss.value xs = loss.elementWeight xs * (xs.map fun x => |x|).sum := by
  unfold value elementWeight
  rw [scalar_sum]
  cases loss.reduction with
  | sum => rfl
  | mean => exact mul_div_right_comm _ _ _

/-- **The seed of a loss is its slope.** -/
lemma dot_gradient {xs d : List ℚ} (h : xs.length = d.length) :
    dot (loss.gradient xs) d = loss.slope xs d := by
  have length : (loss.gradient xs).length = d.length := (List.length_map _).trans h
  rw [dot_eq_sum length rfl, slope_eq, signedTotal_eq_sum h, mul_sum]
  refine sum_congr rfl fun i hi => ?_
  have inside : i < xs.length := h.symm ▸ mem_range.1 hi
  rw [gradient, entry_map _ inside, scalar_mul, scalar_sign, mul_assoc]

end Loss

/-- **The slope of a loss is its derivative**, off the kinks. -/
lemma MovesBy.hasDerivAt_value {xs : ℚ → List ℚ} {d : List ℚ} (h : MovesBy xs d)
    (off : (0 : ℚ) ∉ xs 0) (loss : Loss) :
    HasDerivAt (fun t => loss.value (xs t)) (loss.slope (xs 0) d) 0 := by
  have weight : ∀ t, loss.elementWeight (xs t) = loss.elementWeight (xs 0) := by
    intro t
    unfold Loss.elementWeight meanDivisor
    rw [h.length t, h.length 0]
  have each : (fun t => loss.value (xs t)) = fun t =>
      loss.elementWeight (xs 0) * ∑ i ∈ range d.length, |entry (xs t) i| := by
    funext t
    have length : ((xs t).map fun x => |x|).length = d.length :=
      (List.length_map _).trans (h.length t)
    rw [Loss.value_eq, weight, sum_eq_sum_entry length]
    congr 1
    exact sum_congr rfl fun i hi => entry_map _ ((h.length t).symm ▸ mem_range.1 hi)
  rw [each, Loss.slope_eq, signedTotal_eq_sum (h.length 0)]
  refine HasDerivAt.const_mul _ (HasDerivAt.fun_sum fun i hi => ?_)
  have inside : i < (xs 0).length := (h.length 0).symm ▸ mem_range.1 hi
  exact hasDerivAt_abs_of_ne (h.slope i (mem_range.1 hi)) (entry_ne_zero off inside)

omit [Reading] in
/-- Losses that are added up. -/
lemma hasDerivAt_total {losses : List Loss} {value : Loss → ℚ → ℚ} {slope : Loss → ℚ}
    (each : ∀ loss ∈ losses, HasDerivAt (value loss) (slope loss) 0) :
    HasDerivAt (fun t => (losses.map fun loss => value loss t).sum) (losses.map slope).sum 0 := by
  induction losses with
  | nil => exact hasDerivAt_const 0 0
  | cons loss rest ih =>
    obtain ⟨first, others⟩ := List.forall_mem_cons.1 each
    simp only [List.map_cons, List.sum_cons]
    exact first.fun_add (ih others)

/-! ### Nodes -/

/-- **Values at which every rule is a derivative**: no operand of a cut-off has an element at its
kink, and no tensor of the graph that a loss reads has an element at zero. -/
def Program.AvoidsKinks (program : Program) (values : Values ℚ) : Prop :=
  (∀ node ∈ program.nodes, ∀ operand, node.expression = .relu operand →
    (0 : ℚ) ∉ values.elements operand) ∧
  ∀ loss ∈ program.graphLosses, (0 : ℚ) ∉ values.elements loss.input

variable {infos infos' known : NameMap TensorInfo} {values : ℚ → Values ℚ} {changes : Values ℚ}

/-- **The rule of an expression is its derivative.** -/
lemma Expression.HasInfo.movesBy {e : Expression} {info : TensorInfo} (t : e.HasInfo infos info)
    (later : Extends infos known) (typed : ∀ t, (values t).Typed known)
    (sized : Sized infos changes)
    (off : ∀ operand, e = .relu operand → (0 : ℚ) ∉ (values 0).elements operand)
    (moves : ∀ name info, infos.find? name = some info →
      MovesBy (fun t => (values t).elements name) (changes.elements name))
    {result : ℚ → List ℚ} (computed : ∀ t, e.evaluate (values t) = .ok (result t)) :
    MovesBy result (e.tangent (values 0) changes) := by
  cases t with
  | @matmul size left right a b left_known right_known left_dims right_dims =>
    have product : result = fun t =>
        Kernel.matmul size ((values t).elements left) ((values t).elements right) := by
      funext t
      have at_t := computed t
      rw [Expression.evaluate, (typed t).read_elements (later _ _ left_known), Outcome.ok_bind,
        (typed t).read_elements (later _ _ right_known)] at at_t
      exact (Except.ok.inj at_t).symm
    rw [product]
    refine (moves _ _ left_known).matmul (moves _ _ right_known) ?_ ?_
    · rw [sized _ _ left_known, left_dims, List.prod_cons, List.prod_singleton]
    · rw [sized _ _ right_known, right_dims, List.prod_cons, List.prod_singleton]
  | @add left right a b left_known right_known alike =>
    have sum : result = fun t =>
        Kernel.add ((values t).elements left) ((values t).elements right) := by
      funext t
      have at_t := computed t
      rw [Expression.evaluate, (typed t).read_elements (later _ _ left_known), Outcome.ok_bind,
        (typed t).read_elements (later _ _ right_known)] at at_t
      exact (Except.ok.inj at_t).symm
    obtain ⟨count, repeated⟩ := exists_repetitions alike
    rw [sum]
    exact (moves _ _ left_known).add (moves _ _ right_known)
      ((sized _ _ left_known).trans repeated) (sized _ _ right_known)
  | @relu operand _ operand_known =>
    have cut : result = fun t => Kernel.relu ((values t).elements operand) := by
      funext t
      have at_t := computed t
      rw [Expression.evaluate, (typed t).read_elements (later _ _ operand_known)] at at_t
      exact (Except.ok.inj at_t).symm
    rw [cut]
    exact (moves _ _ operand_known).relu (off operand rfl)
  | @identity operand _ operand_known =>
    have same : result = fun t => (values t).elements operand := by
      funext t
      have at_t := computed t
      rw [Expression.evaluate, (typed t).read_elements (later _ _ operand_known)] at at_t
      exact (Except.ok.inj at_t).symm
    rw [same]
    exact moves _ _ operand_known
  | @scale factor operand _ operand_known =>
    have multiple : result = fun t =>
        Kernel.scale (Reading.value factor) ((values t).elements operand) := by
      funext t
      have at_t := computed t
      rw [Expression.evaluate, (typed t).read_elements (later _ _ operand_known)] at at_t
      exact (Except.ok.inj at_t).symm
    rw [multiple]
    exact (moves _ _ operand_known).scale _

/-- **The changes of a program are derivatives.**

**Proof sketch.** Induction on the typing. A node's operands are known before it, so that they move
by their changes, and the rule of the node is its derivative. -/
lemma NodesTyped.movesBy {nodes : List Node} (t : NodesTyped infos nodes infos')
    (later : Extends infos' known) (typed : ∀ t, (values t).Typed known)
    (equations : ∀ t, ∀ node ∈ nodes, ∃ xs, node.expression.evaluate (values t) = .ok xs ∧
      (values t).find? node.output = some xs)
    (sized : Sized infos' changes) (follows : Follows (values 0) changes nodes)
    (off : ∀ node ∈ nodes, ∀ operand, node.expression = .relu operand →
      (0 : ℚ) ∉ (values 0).elements operand)
    (moves : ∀ name info, infos.find? name = some info →
      MovesBy (fun t => (values t).elements name) (changes.elements name)) :
    ∀ name info, infos'.find? name = some info →
      MovesBy (fun t => (values t).elements name) (changes.elements name) := by
  induction t with
  | nil infos => exact moves
  | @cons infos infos' node rest described fresh others ih =>
    have now := (extends_insert fresh).trans others.extends
    obtain ⟨rule, follows_rest⟩ := List.forall_mem_cons.1 follows
    obtain ⟨off_here, off_rest⟩ := List.forall_mem_cons.1 off
    have computed : ∀ t, node.expression.evaluate (values t) =
        .ok ((values t).elements node.output) := by
      intro t
      obtain ⟨xs, evaluated, found⟩ := equations t node (List.mem_cons_self ..)
      rw [evaluated, NameMap.elements_of_find? found]
    have here := described.movesBy (now.trans later) typed
      (fun name info known => sized name info (now name info known)) off_here moves computed
    refine ih later (fun t other h => equations t other (List.mem_cons_of_mem _ h)) sized
      follows_rest off_rest fun name info found => ?_
    rw [NameMap.find?_insert] at found
    split at found
    · rename_i same
      rw [same, rule]
      exact here
    · exact moves name info found

/-! ### Weights that move -/

/-- **A change of one weight**; all other inputs and weights stay. -/
def weightChange (start : Values ℚ) (weight : String) (d : List ℚ) : Values ℚ :=
  NameMap.insert (start.mapValues fun _ xs => xs.map fun _ => 0) weight d

/-- **A weight moved along a line**; all other inputs and weights stay. -/
def moveWeight (start : Values ℚ) (weight : String) (d : List ℚ) (t : ℚ) : Values ℚ :=
  start.insert weight (List.zipWith (fun x e => x + t * e) (start.elements weight) d)

/-- The results of some losses, added up. -/
def lossTotal (losses : List Loss) (values : Values ℚ) : ℚ :=
  (losses.map fun loss => (values.elements loss.output).sum).sum

omit [Reading] in
/-- A known description is not changed by setting it again. -/
lemma insert_of_find? {α : Type} {m : NameMap α} {name : String} {value : α}
    (h : m.find? name = some value) : m.insert name value = m := by
  refine NameMap.ext_find? fun other => ?_
  rw [NameMap.find?_insert]
  split
  · rename_i same
    rw [same, h]
  · rfl

omit [Reading] in
/-- Nothing is added to a list. -/
lemma zipWith_zero_mul {xs d : List ℚ} (h : xs.length = d.length) :
    List.zipWith (fun x e : ℚ => x + 0 * e) xs d = xs := by
  induction xs generalizing d with
  | nil => rfl
  | cons x xs ih =>
    cases d with
    | nil => cases h
    | cons e d => rw [List.zipWith_cons_cons, ih (Nat.succ.inj h), zero_mul, add_zero]

omit [Reading] in
/-- A change by nothing has no inner product. -/
lemma dot_map_zero (g xs : List ℚ) : dot g (xs.map fun _ => 0) = 0 := by
  induction g generalizing xs with
  | nil => rfl
  | cons y g ih =>
    cases xs with
    | nil => rfl
    | cons x xs => exact (congrArg₂ (· + ·) (mul_zero y) (ih xs)).trans (zero_add 0)

section Line

variable {sources : NameMap TensorInfo} {start : Values ℚ} {weight : String} {info : TensorInfo}
  {d : List ℚ}

omit [Reading] in
lemma typed_weightChange (typed : start.Typed sources) (here : sources.find? weight = some info)
    (length : d.length = info.shape.dims.prod) : (weightChange start weight d).Typed sources := by
  have zeros : Values.Typed sources (start.mapValues fun _ xs => xs.map fun _ => (0 : ℚ)) := by
    rw [Values.Typed, NameMap.mapValues_mapValues, ← typed]
    simp only [List.length_map]
  have changed : Values.Typed (sources.insert weight info) (weightChange start weight d) :=
    zeros.insert length
  rwa [insert_of_find? here] at changed

omit [Reading] in
lemma typed_moveWeight (typed : start.Typed sources) (here : sources.find? weight = some info)
    (length : d.length = info.shape.dims.prod) (t : ℚ) :
    (moveWeight start weight d t).Typed sources := by
  have size : (List.zipWith (fun x e : ℚ => x + t * e) (start.elements weight) d).length =
      info.shape.dims.prod := by
    rw [List.length_zipWith, typed.sized _ _ here, length, Nat.min_self]
  have moved : Values.Typed (sources.insert weight info) (moveWeight start weight d t) :=
    typed.insert size
  rwa [insert_of_find? here] at moved

omit [Reading] in
/-- At zero the weight has not moved. -/
lemma moveWeight_zero (typed : start.Typed sources) (here : sources.find? weight = some info)
    (length : d.length = info.shape.dims.prod) : moveWeight start weight d 0 = start := by
  obtain ⟨xs, found, size⟩ := typed.find? here
  have same := zipWith_zero_mul (size.trans length.symm)
  rw [moveWeight, NameMap.elements_of_find? found, same, insert_of_find? found]

/-- Inputs and weights move by their changes. -/
lemma movesBy_moveWeight (typed : start.Typed sources) (here : sources.find? weight = some info)
    (length : d.length = info.shape.dims.prod) {name : String} {other : TensorInfo}
    (known : sources.find? name = some other) :
    MovesBy (fun t => (moveWeight start weight d t).elements name)
      ((weightChange start weight d).elements name) := by
  by_cases same : name = weight
  · subst same
    obtain rfl : other = info := Option.some.inj (known.symm.trans here)
    simp only [moveWeight, weightChange, NameMap.elements_insert_self]
    exact .line ((typed.sized _ _ known).trans length.symm)
  · obtain ⟨xs, found, -⟩ := typed.find? known
    have still : (start.mapValues fun _ xs => xs.map fun _ => (0 : ℚ)).elements name =
        xs.map fun _ => 0 :=
      NameMap.elements_of_find? (by rw [NameMap.find?_mapValues, found]; rfl)
    simp only [moveWeight, weightChange, NameMap.elements_insert_of_ne _ same, still,
      NameMap.elements_of_find? found]
    exact .const xs

end Line

namespace Program

variable {program : Program} {sources infos : NameMap TensorInfo} {start : Values ℚ}
  {weight : String} {info : TensorInfo} {d : List ℚ}

/-- **The gradient of a weight is the slope of the losses that read a tensor of the graph.** -/
lemma dot_weight_gradient (nodes : NodesTyped sources program.nodes infos)
    (losses : LossesTyped infos program.losses program.infos)
    (graph_tensors : ∀ name, program.isGraphTensor name = infos.contains name)
    (start_typed : start.Typed sources) (here : sources.find? weight = some info)
    (length : d.length = info.shape.dims.prod) {values : Values ℚ}
    (typed : values.Typed program.infos) {gradients : Gradients ℚ}
    (ran : program.backward values = .ok gradients) :
    dot (gradients.elements weight) d =
      (program.graphLosses.map fun loss => loss.slope (values.elements loss.input)
        ((program.tangents values (weightChange start weight d)).elements loss.input)).sum := by
  have changes_typed := typed_weightChange start_typed here length
  have paired := pairing_backward nodes losses graph_tensors typed changes_typed ran
  have member : weight ∈ sources.names.toFinset :=
    List.mem_toFinset.2 (NameMap.contains_iff_mem_names.1 (by rw [NameMap.contains, here]; rfl))
  rw [sum_eq_single_of_mem weight member fun name known other => ?_] at paired
  · have changed : (weightChange start weight d).elements weight = d :=
      NameMap.elements_insert_self _ _ _
    rw [changed] at paired
    rw [paired]
    refine congrArg List.sum (List.map_congr_left fun loss h => ?_)
    obtain ⟨-, graph⟩ := List.mem_filter.1 h
    rw [graph_tensors] at graph
    obtain ⟨described, known⟩ := Option.isSome_iff_exists.1 graph
    obtain ⟨tangents_typed, -, -⟩ := nodes.tangents
      (fun name info known => typed.sized name info (losses.extends name info known))
      changes_typed
    refine Loss.dot_gradient loss ?_
    rw [tangents, tangents_typed.sized _ _ known, typed.sized _ _ (losses.extends _ _ known)]
  · obtain ⟨_, described⟩ := NameMap.find?_of_mem_names (List.mem_toFinset.1 known)
    obtain ⟨xs, found, -⟩ := start_typed.find? described
    have still : (weightChange start weight d).elements name = xs.map fun _ => 0 := by
      rw [weightChange, NameMap.elements_insert_of_ne _ other]
      exact NameMap.elements_of_find? (by rw [NameMap.find?_mapValues, found]; rfl)
    rw [still, dot_map_zero]

omit [Reading] in
/-- A trained weight is a weight that some loss depends on. -/
lemma trained_of_compile {graph : Graph} {kind : Kind} {program : Program}
    (compiled : compile graph kind = .ok program) {weight : String}
    (trained : weight ∈ program.trainable) :
    ∃ info, (Program.sources graph).find? weight = some info ∧
      weight ∈ live program.nodes program.losses := by
  obtain ⟨-, -, -, -, -, -, -, -, same_losses, weights, trainable, -⟩ := compile_eq_ok compiled
  rw [trainable] at trained
  unfold trainableWeights at trained
  split at trained
  · obtain ⟨member, live⟩ := List.mem_filter.1 trained
    obtain ⟨info, found⟩ := NameMap.find?_of_mem_names member
    rw [weights] at found
    refine ⟨info, ?_, ?_⟩
    · rw [Program.sources, NameMap.find?_insertAll_entries, found]
      rfl
    · rw [same_losses]
      exact List.contains_iff_mem.1 live
  · cases trained

/-- **A program runs wherever a weight has moved**, and where it avoids the kinks the losses that
read a tensor of the graph have the slopes of the rules as their derivative. -/
lemma exists_moved (nodes : NodesTyped sources program.nodes infos)
    (losses : LossesTyped infos program.losses program.infos)
    (graph_tensors : ∀ name, program.isGraphTensor name = infos.contains name)
    (start_typed : start.Typed sources) (here : sources.find? weight = some info)
    (length : d.length = info.shape.dims.prod) {values : Values ℚ}
    (ran : program.forward start = .ok values) (avoids : program.AvoidsKinks values) :
    ∃ moved : ℚ → Values ℚ,
      (∀ t, program.forward (moveWeight start weight d t) = .ok (moved t)) ∧
      HasDerivAt (fun t => lossTotal program.graphLosses (moved t))
        (program.graphLosses.map fun loss => loss.slope (values.elements loss.input)
          ((program.tangents values (weightChange start weight d)).elements loss.input)).sum 0 := by
  have runs : ∀ t, ∃ moved, program.forward (moveWeight start weight d t) = .ok moved ∧
      moved.Typed program.infos := by
    intro t
    obtain ⟨moved, -, forward, -, typed, -⟩ :=
      exists_sweeps nodes losses (typed_moveWeight start_typed here length t)
    exact ⟨moved, forward, typed⟩
  choose moved forward typed using runs
  have begun : moved 0 = values := by
    have at_zero := forward 0
    rw [moveWeight_zero start_typed here length, ran] at at_zero
    exact (Except.ok.inj at_zero).symm
  subst begun
  obtain ⟨tangents_typed, follows, kept⟩ := nodes.tangents
    (fun name info known => (typed 0).sized name info (losses.extends name info known))
    (typed_weightChange start_typed here length)
  have moves := nodes.movesBy losses.extends typed
    (fun t => (forward_eq_ok nodes losses (forward t)).2.1) tangents_typed.sized follows avoids.1
    fun name other known => by
      have still : (fun t => (moved t).elements name) =
          fun t => (moveWeight start weight d t).elements name := by
        funext t
        rw [NameMap.elements, (forward_eq_ok nodes losses (forward t)).1 name other known,
          NameMap.elements]
      rw [still, kept name other known]
      exact movesBy_moveWeight start_typed here length known
  refine ⟨moved, forward, ?_⟩
  have valued : ∀ t, lossTotal program.graphLosses (moved t) =
      (program.graphLosses.map fun loss => loss.value ((moved t).elements loss.input)).sum := by
    intro t
    refine congrArg List.sum (List.map_congr_left fun loss h => ?_)
    obtain ⟨xs, read, result⟩ :=
      (forward_eq_ok nodes losses (forward t)).2.2 loss (List.mem_filter.1 h).1
    rw [NameMap.elements_of_find? read, NameMap.elements_of_find? result, List.sum_singleton]
  rw [funext valued]
  have each : ∀ loss ∈ program.graphLosses,
      HasDerivAt (fun t => loss.value ((moved t).elements loss.input))
        (loss.slope ((moved 0).elements loss.input)
          ((program.tangents (moved 0) (weightChange start weight d)).elements loss.input)) 0 := by
    intro loss h
    have graph := (List.mem_filter.1 h).2
    rw [graph_tensors] at graph
    obtain ⟨described, known⟩ := Option.isSome_iff_exists.1 graph
    exact (moves _ _ known).hasDerivAt_value (avoids.2 loss h) loss
  exact hasDerivAt_total each

end Program

/-- **The gradient of a trained weight is the slope of the losses that read a tensor of the graph.**
Take a compiled program, a weight that it trains, and values of the declared sizes for its inputs
and weights. The program runs forward and back, and leaves a gradient of the size of the weight. For
every change of the weight, the inner product of the gradient with it is the sum of what those
losses change by under the rules, where the sign of zero is zero and a cut-off passes what is above
zero; and wherever no rule is at its kink, it is the derivative of the sum of their results along
the line on which the weight moves.

**Proof sketch.** The weight is trained because some loss depends on it, so that a gradient has
reached it. The reverse sweep is the transpose of the rules, and the change begins at the weight
alone. The rules are derivatives, one node after the other. -/
theorem gradient_is_slope {graph : Graph} {kind : Kind} {program : Program}
    (compiled : Program.compile graph kind = .ok program) {weight : String}
    (trained : weight ∈ program.trainable) {start : Values ℚ}
    (typed : start.Typed (Program.sources graph)) :
    ∃ values gradients gradient, program.forward start = .ok values ∧
      program.backward values = .ok gradients ∧ gradients.find? weight = some gradient ∧
      gradient.length = (start.elements weight).length ∧
      ∀ d : List ℚ, d.length = gradient.length →
        dot gradient d = (program.graphLosses.map fun loss =>
          loss.slope (values.elements loss.input)
            ((program.tangents values (weightChange start weight d)).elements loss.input)).sum ∧
        (program.AvoidsKinks values → ∃ moved : ℚ → Values ℚ,
          (∀ t, program.forward (moveWeight start weight d t) = .ok (moved t)) ∧
          HasDerivAt (fun t => lossTotal program.graphLosses (moved t)) (dot gradient d) 0) := by
  obtain ⟨infos, nodes, losses, graph_tensors⟩ := Program.described_of_compile compiled
  obtain ⟨info, here, live⟩ := Program.trained_of_compile compiled trained
  obtain ⟨values, gradients, forward, backward, values_typed, gradients_typed⟩ :=
    Program.exists_sweeps nodes losses typed
  obtain ⟨gradient, reached⟩ :=
    Option.isSome_iff_exists.1 ((Program.contains_gradients backward).2 live)
  obtain ⟨info', here', length⟩ := gradients_typed _ _ reached
  obtain rfl : info' = info := Option.some.inj
    (here'.symm.trans (losses.extends _ _ (nodes.extends _ _ here)))
  refine ⟨values, gradients, gradient, forward, backward, reached, ?_, fun d size => ?_⟩
  · rw [length, typed.sized _ _ here]
  · have slope := Program.dot_weight_gradient nodes losses graph_tensors typed here
      (size.trans length) values_typed backward
    rw [NameMap.elements_of_find? reached] at slope
    refine ⟨slope, fun avoids => ?_⟩
    rw [slope]
    exact Program.exists_moved nodes losses graph_tensors typed here (size.trans length) forward
      avoids

end Rules

/-! ### A loss of a loss -/

/-- A weight and an input for the small model. -/
def chainedStart : Values ℚ := .ofList [("w", [2]), ("x", [1, -3])]

/-- The loss of the product. -/
def firstLoss : Loss := ⟨"MatMul:0", "first", Single.one, .sum⟩

/-- The loss of the first loss. -/
def secondLoss : Loss := ⟨"first", "second", Single.one, .sum⟩

/-- The first loss adds up absolute values. -/
lemma firstLoss_value (xs : List ℚ) : firstLoss.value xs = (xs.map fun x => |x|).sum := by
  have unit : firstLoss.elementWeight xs = 1 := by
    show Single.toRat .one = 1
    decide +kernel
  rw [Loss.value_eq, unit, one_mul]

/-- The second loss gives the value of the first again. -/
lemma secondLoss_value (xs : List ℚ) :
    secondLoss.value [firstLoss.value xs] = firstLoss.value xs := by
  have same : secondLoss.value [firstLoss.value xs] = firstLoss.value [firstLoss.value xs] := rfl
  have above : 0 ≤ firstLoss.value xs := by
    rw [firstLoss_value]
    refine List.sum_nonneg fun y h => ?_
    obtain ⟨x, -, rfl⟩ := List.mem_map.1 h
    exact abs_nonneg x
  rw [same, firstLoss_value [_], List.map_singleton, List.sum_singleton, abs_of_nonneg above]

/-- **What the small model gives with the two losses**: the weight is trained, no kink is near, and
the gradient is that of the first loss. -/
lemma exists_chained : ∃ graph program values gradients,
    Exchange.loadGraph Session.sampleModel .empty = .ok graph ∧
    Program.compile graph chainedTraining = .ok program ∧
    "w" ∈ program.trainable ∧ chainedStart.Typed (Program.sources graph) ∧
    program.losses = [firstLoss, secondLoss] ∧ program.graphLosses = [firstLoss] ∧
    program.forward chainedStart = .ok values ∧ program.AvoidsKinks values ∧
    program.backward values = .ok gradients ∧ gradients.find? "w" = some [4] := by
  obtain ⟨graph, program, loaded, compiled, tested⟩ := exists_of_compiledSample chainedTraining
    (fun graph program => program.trainable.contains "w" &&
      decide (chainedStart.Typed (Program.sources graph)) &&
      decide (program.losses = [firstLoss, secondLoss]) &&
      decide (program.graphLosses = [firstLoss]) &&
      (program.nodes.all fun node =>
        match node.expression with
        | .relu _ => false
        | _ => true) &&
      (program.forward chainedStart).toOption.any fun values : Values ℚ =>
        decide ((0 : ℚ) ∉ values.elements "MatMul:0") &&
        (program.backward values).toOption.any fun gradients : Gradients ℚ =>
          decide (gradients.find? "w" = some [4]))
    (by decide +kernel)
  simp only [Bool.and_eq_true, decide_eq_true_eq, List.contains_iff_mem] at tested
  obtain ⟨⟨⟨⟨⟨trained, typed⟩, losses⟩, graph_losses⟩, no_cut⟩, ran⟩ := tested
  obtain ⟨values, forward, ran⟩ := (Option.any_eq_true _ _).1 ran
  obtain ⟨off, ran⟩ := Bool.and_eq_true_iff.1 ran
  obtain ⟨gradients, backward, gradient⟩ := (Option.any_eq_true _ _).1 ran
  refine ⟨graph, program, values, gradients, loaded, compiled, trained, typed, losses, graph_losses,
    Outcome.toOption_eq_some_iff.1 forward, ⟨fun node h operand cut => ?_, ?_⟩,
    Outcome.toOption_eq_some_iff.1 backward, of_decide_eq_true gradient⟩
  · have tested := List.all_eq_true.1 no_cut node h
    rw [cut] at tested
    cases tested
  · rw [graph_losses]
    intro loss h
    rw [List.mem_singleton.1 h]
    exact of_decide_eq_true off

/-- **The slope in numbers.** With the input `(1, -3)` and the weight `2`, the product is `(2, -6)`,
and the first loss changes by `4` when the weight changes by `1`. -/
theorem gradient_is_slope_sample : ∃ graph program values gradients, ∃ moved : ℚ → Values ℚ,
    Exchange.loadGraph Session.sampleModel .empty = .ok graph ∧
    Program.compile graph chainedTraining = .ok program ∧ "w" ∈ program.trainable ∧
    chainedStart.Typed (Program.sources graph) ∧
    program.forward chainedStart = .ok values ∧ program.AvoidsKinks values ∧
    program.backward values = .ok gradients ∧ gradients.find? "w" = some [4] ∧
    (∀ t, program.forward (moveWeight chainedStart "w" [1] t) = .ok (moved t)) ∧
    HasDerivAt (fun t => lossTotal program.graphLosses (moved t)) (dot [4] [1]) 0 := by
  obtain ⟨graph, program, values, gradients, loaded, compiled, trained, typed, -, -, forward,
    avoids, backward, reached⟩ := exists_chained
  obtain ⟨values', gradients', gradient, forward', backward', reached', -, slopes⟩ :=
    gradient_is_slope compiled trained typed
  obtain rfl : values' = values := Except.ok.inj (forward'.symm.trans forward)
  obtain rfl : gradients' = gradients := Except.ok.inj (backward'.symm.trans backward)
  obtain rfl : gradient = [4] := Option.some.inj (reached'.symm.trans reached)
  obtain ⟨moved, runs, slope⟩ := (slopes [1] rfl).2 avoids
  exact ⟨graph, program, values', gradients', moved, loaded, compiled, trained, typed, forward,
    avoids, backward, reached, runs, slope⟩

/-- **A loss of a loss is left out of the gradient.** The second loss is the absolute value of the
first, which is not below zero, so that both change by `4` when the weight changes by `1`. The sum
of all results changes by `8`; the gradient is `4`. -/
theorem gradient_leaves_out_chained_loss : ∃ graph program values gradients, ∃ moved : ℚ → Values ℚ,
    Exchange.loadGraph Session.sampleModel .empty = .ok graph ∧
    Program.compile graph chainedTraining = .ok program ∧ "w" ∈ program.trainable ∧
    program.forward chainedStart = .ok values ∧ program.AvoidsKinks values ∧
    program.backward values = .ok gradients ∧ gradients.find? "w" = some [4] ∧
    (∀ t, program.forward (moveWeight chainedStart "w" [1] t) = .ok (moved t)) ∧
    HasDerivAt (fun t => lossTotal program.losses (moved t)) 8 0 := by
  obtain ⟨graph, program, values, gradients, loaded, compiled, trained, typed, all_losses,
    graph_losses, forward, avoids, backward, reached⟩ := exists_chained
  obtain ⟨infos, nodes, losses, graph_tensors⟩ := Program.described_of_compile compiled
  obtain ⟨info, here, -⟩ := Program.trained_of_compile compiled trained
  obtain ⟨values', -, forward', -, values_typed, -⟩ := Program.exists_sweeps nodes losses typed
  obtain rfl : values' = values := Except.ok.inj (forward'.symm.trans forward)
  have size : ([1] : List ℚ).length = info.shape.dims.prod := typed.sized _ _ here
  obtain ⟨moved, runs, slope⟩ :=
    Program.exists_moved nodes losses graph_tensors typed here size forward avoids
  rw [← Program.dot_weight_gradient nodes losses graph_tensors typed here size values_typed
    backward, NameMap.elements_of_find? reached] at slope
  refine ⟨graph, program, values', gradients, moved, loaded, compiled, trained, forward, avoids,
    backward, reached, runs, ?_⟩
  -- both losses have one value, so that the total is twice that of the first
  have twice : ∀ t, lossTotal program.losses (moved t) =
      2 * lossTotal program.graphLosses (moved t) := by
    intro t
    have equations := (Program.forward_eq_ok nodes losses (runs t)).2.2
    rw [all_losses] at equations
    obtain ⟨ys, -, first⟩ := equations firstLoss (by simp)
    obtain ⟨xs, read, second⟩ := equations secondLoss (by simp)
    obtain rfl : xs = [firstLoss.value ys] := Option.some.inj (read.symm.trans first)
    rw [all_losses, graph_losses]
    simp only [lossTotal, List.map_cons, List.map_nil, List.sum_cons, List.sum_nil,
      NameMap.elements_of_find? first, NameMap.elements_of_find? second, secondLoss_value]
    ring
  have total : (8 : ℚ) = 2 * dot [4] [1] := by decide +kernel
  rw [funext twice, total]
  exact slope.const_mul 2

end Microbatch

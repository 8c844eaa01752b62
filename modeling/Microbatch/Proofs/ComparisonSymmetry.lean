import Microbatch.Proofs.Comparisons

set_option relaxedAutoImplicit false
set_option autoImplicit false

/-!
# Comparisons the other way round

A comparison goes through the tensors of its first run and looks each up in the second, and a report
takes the updates of its first run first. Neither order shows in what comes out, except in which of
two sizes is named first. Of the arithmetic it is only needed that products commute and that a
difference has the square of the difference the other way round.

## Main definitions

* `Microbatch.Accuracy.Fault.swapped` — the fault of a comparison the other way round.

## Main results

* `Microbatch.Accuracy.relativeError_swap`, `Microbatch.Accuracy.compare_swap`,
  `Microbatch.Accuracy.Report.ofWeights_swap` — errors, comparisons and reports the other way round.
* `Microbatch.Accuracy.comparison_symmetric` — all of them.
-/

namespace Microbatch.Accuracy

variable {M : Type}

/-- **The fault of a comparison the other way round**: it names the sizes the other way round. -/
def Fault.swapped : Fault M → Fault M
  | .lengths name left right => .lengths name right left
  | fault => fault

@[simp] lemma Fault.swapped_swapped (fault : Fault M) : fault.swapped.swapped = fault := by
  cases fault <;> rfl

/-- Lists in name order with the same entries are equal. -/
lemma eq_of_mem_iff {α : Type} {xs ys : List (String × α)}
    (hx : xs.Pairwise (fun a b => a.1 < b.1)) (hy : ys.Pairwise (fun a b => a.1 < b.1))
    (same : ∀ name value, (name, value) ∈ xs ↔ (name, value) ∈ ys) : xs = ys := by
  refine NameMap.eq_of_lookup hx hy fun name => Option.ext fun value => ?_
  constructor
  · intro found
    exact NameMap.lookup_of_mem hy ((same name value).1 (NameMap.mem_of_lookup found))
  · intro found
    exact NameMap.lookup_of_mem hx ((same name value).2 (NameMap.mem_of_lookup found))

section Laws

variable [Metric M] (mul_comm : ∀ x y : M, Metric.mul x y = Metric.mul y x)
  (square_comm : ∀ x y : M, Metric.mul (Metric.sub x y) (Metric.sub x y) =
    Metric.mul (Metric.sub y x) (Metric.sub y x))

/-! ### Errors -/

include square_comm in
/-- The squares of differences add up alike, from whatever they start. -/
lemma squaredLength_difference_comm (xs ys : List M) :
    squaredLength (difference xs ys) = squaredLength (difference ys xs) := by
  have step : ∀ (xs ys : List M) (start : M),
      ((difference xs ys).zip (difference xs ys)).foldl
          (fun acc p => Metric.add acc (Metric.mul p.1 p.2)) start =
        ((difference ys xs).zip (difference ys xs)).foldl
          (fun acc p => Metric.add acc (Metric.mul p.1 p.2)) start := by
    intro xs
    induction xs with
    | nil => intro ys start; cases ys <;> rfl
    | cons x xs ih =>
      intro ys start
      cases ys with
      | nil => rfl
      | cons y ys =>
        show List.foldl _ (Metric.add start (Metric.mul (Metric.sub x y) (Metric.sub x y))) _ = _
        rw [square_comm x y]
        exact ih ys _
  exact step xs ys Metric.zero

include mul_comm square_comm

/-- The quotient of two vectors is that of the vectors the other way round. -/
lemma quotient_comm (xs ys : List M) : quotient xs ys = quotient ys xs := by
  unfold quotient
  rw [squaredLength_difference_comm square_comm, mul_comm (squaredLength xs)]

/-- **The error of two lists of values** the other way round. -/
lemma relativeError_swap (xs ys : List M) :
    relativeError ys xs = (relativeError xs ys).mapError Fault.swapped := by
  rw [relativeError_eq, relativeError_eq, quotient_comm mul_comm square_comm ys xs]
  by_cases same : xs.length = ys.length
  · rw [if_neg (not_not.2 same), if_neg (not_not.2 same.symm)]
    split <;> rfl
  · rw [if_pos same, if_pos (Ne.symm same)]
    rfl

lemma HasError.symm {x y : Tensor} {error : M} (h : HasError x y error) : HasError y x error := by
  cases h with
  | @intro xs ys left right same number =>
    rw [quotient_comm mul_comm square_comm] at number ⊢
    exact .intro right left same.symm number

lemma Incomparable.symm {name : String} {x y : Tensor} {fault : Fault M}
    (h : Incomparable name x y fault) : Incomparable name y x fault.swapped := by
  cases h with
  | halfPrecision half => exact .halfPrecision half.symm
  | lengths left right differ => exact .lengths right left differ.symm
  | notNumber left right same noNumber =>
    rw [quotient_comm mul_comm square_comm] at noNumber
    exact .notNumber right left same.symm noNumber

/-! ### Comparisons -/

omit mul_comm square_comm [Metric M] in
lemma Shares.symm {a b : NameMap Tensor} {name : String} {left right : Tensor}
    (h : Shares a b name left right) : Shares b a name right left := ⟨h.right, h.left⟩

section Compared

variable {a b : NameMap Tensor} {tolerance : M}

/-- **A comparison the other way round fails on the same tensor.** -/
lemma FailsOn.symm {name : String} {fault : Fault M} (h : FailsOn a b tolerance name fault) :
    FailsOn b a tolerance name fault.swapped := by
  cases h with
  | incomparable shared cause first =>
    refine .incomparable shared.symm (cause.symm mul_comm square_comm)
      fun other smaller left right shared => ?_
    exact (first other smaller right left shared.symm).imp
      fun _ has => has.symm mul_comm square_comm
  | exceeded shared has above complete first =>
    refine .exceeded shared.symm (has.symm mul_comm square_comm) above
      (fun other left right shared => ?_) fun other smaller left right error shared has => ?_
    · exact (complete other right left shared.symm).imp
        fun _ has => has.symm mul_comm square_comm
    · exact first other smaller right left error shared.symm (has.symm mul_comm square_comm)

/-- A comparison the other way round lists the same errors. -/
lemma compare_eq_ok_symm {errors : List (String × M)}
    (passed : compare a b tolerance = .ok errors) : compare b a tolerance = .ok errors := by
  obtain ⟨errors', passed'⟩ : ∃ errors', compare b a tolerance = .ok errors' := by
    refine exists_compare_iff.2 fun name left right shared => ?_
    obtain ⟨error, has, within⟩ :=
      exists_compare_iff.1 ⟨errors, passed⟩ name right left shared.symm
    exact ⟨error, has.symm mul_comm square_comm, within⟩
  have measured := (compare_eq_ok_iff.1 passed).1
  have measured' := (compare_eq_ok_iff.1 passed').1
  have same : errors' = errors := by
    refine eq_of_mem_iff (pairwise_of_measureAll (pairwise_sharedEntries b a) measured')
      (pairwise_of_measureAll (pairwise_sharedEntries a b) measured) fun name error => ?_
    rw [mem_of_sharedErrors measured, mem_of_sharedErrors measured']
    constructor
    · rintro ⟨left, right, shared, has⟩
      exact ⟨right, left, shared.symm, has.symm mul_comm square_comm⟩
    · rintro ⟨left, right, shared, has⟩
      exact ⟨right, left, shared.symm, has.symm mul_comm square_comm⟩
  rw [passed', same]

/-- **A comparison the other way round.** -/
lemma compare_swap (a b : NameMap Tensor) (tolerance : M) :
    compare b a tolerance = (compare a b tolerance).mapError Fault.swapped := by
  cases compared : compare a b tolerance with
  | ok errors => exact compare_eq_ok_symm mul_comm square_comm compared
  | error fault =>
    obtain ⟨name, fails⟩ := compare_eq_error_iff.1 compared
    exact compare_eq_error_iff.2 ⟨name, fails.symm mul_comm square_comm⟩

end Compared

/-! ### Reports -/

namespace Report

lemma HasUpdateError.symm {w₀ w₁ v₀ v₁ : Tensor} {error : M}
    (h : HasUpdateError w₀ w₁ v₀ v₁ error) : HasUpdateError v₀ v₁ w₀ w₁ error := by
  cases h with
  | intro left right same number =>
    rw [quotient_comm mul_comm square_comm] at number ⊢
    exact .intro right left same.symm number

omit mul_comm square_comm [Metric M] in
lemma Shares.symm {a₀ a₁ b₀ b₁ : WeightStore} {name : String} {w₀ w₁ v₀ v₁ : Tensor}
    (h : Shares a₀ a₁ b₀ b₁ name w₀ w₁ v₀ v₁) : Shares b₀ b₁ a₀ a₁ name v₀ v₁ w₀ w₁ :=
  ⟨h.otherStart, h.otherFinal, h.start, h.final⟩

/-- **A report the other way round** lists the same errors. -/
lemma ofWeights_swap {a₀ a₁ b₀ b₁ : WeightStore} {r : Report M}
    (reported : ofWeights a₀ a₁ b₀ b₁ = .ok r) : ofWeights b₀ b₁ a₀ a₁ = .ok r := by
  obtain ⟨⟨errors⟩, reported'⟩ : ∃ r' : Report M, ofWeights b₀ b₁ a₀ a₁ = .ok r' := by
    refine exists_ofWeights_iff.2 fun name w₀ w₁ v₀ v₁ shared => ?_
    exact (exists_ofWeights_iff.1 ⟨r, reported⟩ name v₀ v₁ w₀ w₁ shared.symm).imp
      fun _ has => has.symm mul_comm square_comm
  have same : errors = r.errors := by
    refine eq_of_mem_iff (pairwise_of_ofWeights reported') (pairwise_of_ofWeights reported)
      fun name error => ?_
    rw [mem_of_ofWeights reported, mem_of_ofWeights reported']
    constructor
    · rintro ⟨w₀, w₁, v₀, v₁, shared, has⟩
      exact ⟨v₀, v₁, w₀, w₁, shared.symm, has.symm mul_comm square_comm⟩
    · rintro ⟨w₀, w₁, v₀, v₁, shared, has⟩
      exact ⟨v₀, v₁, w₀, w₁, shared.symm, has.symm mul_comm square_comm⟩
  rw [reported', same]

end Report

/-- **Comparisons are symmetric in the two runs**, in every arithmetic in which products commute and
a difference has the square of the difference the other way round.

* Two lists of values have the same error the other way round, or for both it is no number, or they
  are not equally long and the lengths are named the other way round.
* Two comparisons give the same list, or fail on the same tensor, and for the same reason.
* There is a report exactly if there is one the other way round, and it lists the same errors.

**Proof sketch.** The sums of squares of differences agree by induction on the lists, so that two
tensors have the same error the other way round. Which comparisons pass, what they list and what
they fail on is said by name, and a name is shared either way round; a list in name order is given
by what it lists. -/
theorem comparison_symmetric :
    (∀ xs ys : List M, relativeError ys xs = (relativeError xs ys).mapError Fault.swapped) ∧
    (∀ (a b : NameMap Tensor) (tolerance : M),
      (∀ errors, compare a b tolerance = .ok errors ↔ compare b a tolerance = .ok errors) ∧
      (∀ fault, compare a b tolerance = .error fault ↔
        compare b a tolerance = .error fault.swapped) ∧
      ∀ fault, compare a b tolerance = .error fault → ∃ name,
        FailsOn a b tolerance name fault ∧ FailsOn b a tolerance name fault.swapped) ∧
    ∀ (a₀ a₁ b₀ b₁ : WeightStore) (r : Report M),
      Report.ofWeights a₀ a₁ b₀ b₁ = .ok r ↔ Report.ofWeights b₀ b₁ a₀ a₁ = .ok r := by
  refine ⟨relativeError_swap mul_comm square_comm, fun a b tolerance => ⟨fun errors => ?_,
    fun fault => ?_, fun fault failed => ?_⟩, fun a₀ a₁ b₀ b₁ r => ?_⟩
  · exact ⟨compare_eq_ok_symm mul_comm square_comm, compare_eq_ok_symm mul_comm square_comm⟩
  · rw [compare_swap mul_comm square_comm a b, Outcome.mapError_eq_error_iff]
    constructor
    · intro failed
      exact ⟨fault, failed, rfl⟩
    · rintro ⟨cause, failed, same⟩
      rw [failed, ← Fault.swapped_swapped cause, same, Fault.swapped_swapped]
  · obtain ⟨name, fails⟩ := compare_eq_error_iff.1 failed
    exact ⟨name, fails, fails.symm mul_comm square_comm⟩
  · exact ⟨Report.ofWeights_swap mul_comm square_comm, Report.ofWeights_swap mul_comm square_comm⟩

end Laws

/-- **Two runs compared** either way round in double precision; the second tensor that they share
has one element in the one run and two in the other. -/
theorem comparison_symmetric_sample :
    relativeError [Float.ofBits 0] [Float.ofBits 0x3ff0000000000000] = .ok hundredMillion ∧
    relativeError [Float.ofBits 0x3ff0000000000000] [Float.ofBits 0] = .ok hundredMillion ∧
    compare runSample otherSample half = .error (.lengths (some "v") 1 2) ∧
    compare otherSample runSample half = .error (.lengths (some "v") 2 1) ∧
    ∃ name, FailsOn runSample otherSample half name (.lengths (some "v") 1 2) ∧
      FailsOn otherSample runSample half name (.lengths (some "v") 2 1) := by
  obtain ⟨errors, comparisons, -⟩ := comparison_symmetric Double.mul_comm Double.square_sub_comm
  obtain ⟨-, failures, tensors⟩ := comparisons runSample otherSample half
  have error : relativeError [Float.ofBits 0] [Float.ofBits 0x3ff0000000000000] =
      .ok hundredMillion := by
    decide +kernel
  have failed : compare runSample otherSample half = .error (.lengths (some "v") 1 2) := by
    decide +kernel
  refine ⟨error, ?_, failed, (failures _).1 failed, tensors _ failed⟩
  rw [errors, error]
  rfl

end Microbatch.Accuracy

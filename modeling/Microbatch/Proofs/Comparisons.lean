import Microbatch.Accuracy.Comparison
import Microbatch.Accuracy.Report
import Microbatch.Proofs.Doubles
import Microbatch.Proofs.Names
import Microbatch.Proofs.Outcomes

set_option relaxedAutoImplicit false
set_option autoImplicit false

/-!
# What a passed comparison means

Two runs are compared by the tensors that they share. A comparison that passes lists the errors of
all of these in name order, and none of them is above the tolerance. A comparison that fails tells
of the first tensor that has no error, whatever the errors of those before it are; if all have one,
it tells of the first error above the tolerance. The same is said of the errors in a report.

Not to be above a tolerance is the same as to be at most the tolerance, unless the tolerance is no
number: nothing is above that, and every error passes.

## Main definitions

* `Microbatch.Accuracy.HasError`, `Microbatch.Accuracy.Incomparable` — when two tensors have an
  error, and why they have none.
* `Microbatch.Accuracy.Shares` — two runs share a tensor.
* `Microbatch.Accuracy.FailsOn` — the tensor that a comparison fails on.
* `Microbatch.Accuracy.Report.HasUpdateError` — when two updates of a weight have an error.

## Main results

* `Microbatch.Accuracy.tensorError_eq_ok_iff`, `Microbatch.Accuracy.tensorError_eq_error_iff` — the
  error of two tensors.
* `Microbatch.Accuracy.exists_compare_iff`, `Microbatch.Accuracy.compare_eq_error_iff` — comparisons
  in any arithmetic.
* `Microbatch.Accuracy.passes_iff_within` — comparisons and reports in double precision.
-/

namespace Microbatch.Accuracy

/-! ### Measuring in name order -/

section Listed

variable {ε α ι : Type}

/-- **The first of some entries in name order** is preceded by those of smaller names. -/
lemma exists_split_iff {xs : List (String × ι)} (sorted : xs.Pairwise (fun a b => a.1 < b.1))
    {P Q : String × ι → Prop} :
    (∃ front x back, xs = front ++ x :: back ∧ (∀ y ∈ front, P y) ∧ Q x) ↔
      ∃ x ∈ xs, (∀ y ∈ xs, y.1 < x.1 → P y) ∧ Q x := by
  constructor
  · rintro ⟨front, x, back, rfl, before, here⟩
    refine ⟨x, by simp, fun y member smaller => ?_, here⟩
    obtain ⟨-, later, -⟩ := List.pairwise_append.1 sorted
    rcases List.mem_append.1 member with member | member
    · exact before y member
    rcases List.mem_cons.1 member with rfl | member
    · exact absurd smaller (String.lt_irrefl _)
    · have larger := (List.pairwise_cons.1 later).1 y member
      exact absurd (String.lt_trans smaller larger) (String.lt_irrefl _)
  · rintro ⟨x, member, before, here⟩
    obtain ⟨front, back, rfl⟩ := List.append_of_mem member
    refine ⟨front, x, back, rfl, fun y hy => before y (by simp [hy]) ?_, here⟩
    exact (List.pairwise_append.1 sorted).2.2 y hy x (List.mem_cons_self ..)

variable {measure : String × ι → Except ε α} {items : List (String × ι)}

/-- Named things that are measured in order have an error each. -/
lemma measureAll_eq_ok_iff {errors : List (String × α)} :
    (items.mapM fun e => return (e.1, ← measure e)) = .ok errors ↔
      List.Forall₂ (fun e r => measure e = .ok r.2 ∧ r.1 = e.1) items errors := by
  rw [Outcome.mapM_eq_ok_iff]
  refine iff_of_eq (congrFun (congrFun (congrArg List.Forall₂ ?_) _) _)
  funext e r
  rw [eq_iff_iff, Outcome.bind_eq_ok_iff]
  constructor
  · rintro ⟨error, measured, h⟩
    cases h
    exact ⟨measured, rfl⟩
  · rintro ⟨measured, same⟩
    exact ⟨r.2, measured, by rw [← same]; rfl⟩

/-- Named things are measured if each of them has an error. -/
lemma exists_measureAll_iff :
    (∃ errors, (items.mapM fun e => return (e.1, ← measure e)) = .ok errors) ↔
      ∀ e ∈ items, ∃ error, measure e = .ok error := by
  constructor
  · rintro ⟨errors, measured⟩ e listed
    obtain ⟨r, -, found, -⟩ :=
      Outcome.exists_of_forall₂_right (measureAll_eq_ok_iff.1 measured).flip listed
    exact ⟨r.2, found⟩
  · intro each
    refine Outcome.exists_mapM_eq_ok fun e listed => ?_
    obtain ⟨error, found⟩ := each e listed
    rw [found]
    exact ⟨_, rfl⟩

/-- The errors of named things in order are in the same order. -/
lemma pairwise_of_measureAll {errors : List (String × α)}
    (sorted : items.Pairwise (fun a b => a.1 < b.1))
    (measured : (items.mapM fun e => return (e.1, ← measure e)) = .ok errors) :
    errors.Pairwise (fun a b => a.1 < b.1) := by
  have names := NameMap.map_fst_of_forall₂ (measureAll_eq_ok_iff.1 measured)
    (fun _ _ related => related.2)
  rw [← List.pairwise_map (f := Prod.fst) (R := (· < ·))] at sorted ⊢
  rwa [names]

/-- The errors of named things are just the errors that they have. -/
lemma mem_of_measureAll {errors : List (String × α)}
    (measured : (items.mapM fun e => return (e.1, ← measure e)) = .ok errors)
    {name : String} {error : α} :
    (name, error) ∈ errors ↔ ∃ item, (name, item) ∈ items ∧ measure (name, item) = .ok error := by
  have related := measureAll_eq_ok_iff.1 measured
  constructor
  · intro member
    obtain ⟨⟨key, item⟩, listed, found, same⟩ := Outcome.exists_of_forall₂_right related member
    cases same
    exact ⟨item, listed, found⟩
  · rintro ⟨item, listed, found⟩
    obtain ⟨⟨key, other⟩, member, found', same⟩ :=
      Outcome.exists_of_forall₂_right related.flip listed
    cases same
    rw [found] at found'
    cases found'
    exact member

/-- Named things that are measured in order fail by the first that has no error. -/
lemma measureAll_eq_error_iff {fault : ε}
    (sorted : items.Pairwise (fun a b => a.1 < b.1)) :
    (items.mapM fun e => return (e.1, ← measure e)) = .error fault ↔
      ∃ x ∈ items, (∀ y ∈ items, y.1 < x.1 → ∃ error, measure y = .ok error) ∧
        measure x = .error fault := by
  rw [Outcome.mapM_eq_error_iff, ← exists_split_iff sorted]
  have step : ∀ e : String × ι,
      (do return (e.1, ← measure e) : Except ε (String × α)) =
        (measure e).map fun error => (e.1, error) := by
    intro e
    cases measure e <;> rfl
  simp only [step, Outcome.map_eq_error_iff, Outcome.map_eq_ok_iff]
  simp

end Listed

variable {M : Type} [Metric M]

/-! ### The error of two tensors -/

/-- **The length of the difference** of two vectors over the length of either. -/
def quotient (xs ys : List M) : M :=
  Metric.div (Metric.sqrt (squaredLength (difference xs ys)))
    (Metric.add (Metric.sqrt (Metric.mul (squaredLength xs) (squaredLength ys))) Metric.epsilon)

/-- The error of two lists of values is their quotient. -/
lemma relativeError_eq (xs ys : List M) : relativeError xs ys =
    if xs.length ≠ ys.length then .error (.lengths none xs.length ys.length)
    else if Metric.isNaN (quotient xs ys) then .error (.notNumber none)
    else .ok (quotient xs ys) := rfl

/-- Two lists of values have an error if they are equally long and the quotient is a number. -/
lemma relativeError_eq_ok_iff {xs ys : List M} {error : M} : relativeError xs ys = .ok error ↔
    xs.length = ys.length ∧ Metric.isNaN (quotient xs ys) = false ∧ quotient xs ys = error := by
  rw [relativeError_eq]
  split
  · simp [*]
  rename_i same
  rw [not_not] at same
  split <;> simp [*]

/-- Two lists of values without an error are not equally long, or the quotient is no number. -/
lemma relativeError_eq_error_iff {xs ys : List M} {fault : Fault M} :
    relativeError xs ys = .error fault ↔
      xs.length ≠ ys.length ∧ .lengths none xs.length ys.length = fault ∨
      xs.length = ys.length ∧ Metric.isNaN (quotient xs ys) = true ∧ .notNumber none = fault := by
  rw [relativeError_eq]
  split
  · simp [*]
  rename_i same
  rw [not_not] at same
  split <;> simp [*]

/-- Only half-precision tensors have no values. -/
lemma tensorValues_eq_error_iff {t : Tensor} {fault : Fault M} :
    tensorValues t = .error fault ↔
      t.info.elementType = .float16 ∧ fault = .halfPrecision := by
  unfold tensorValues
  split <;> simp [*, eq_comm]

/-- **Two tensors have an error**: both have values, equally many, and the quotient is a number. -/
inductive HasError (x y : Tensor) : M → Prop where
  /-- The error is the quotient. -/
  | intro {xs ys : List M} (left : tensorValues x = .ok xs) (right : tensorValues y = .ok ys)
      (same : xs.length = ys.length) (number : Metric.isNaN (quotient xs ys) = false) :
      HasError x y (quotient xs ys)

/-- **Two tensors of one name have no error**, and why. -/
inductive Incomparable (name : String) (x y : Tensor) : Fault M → Prop where
  /-- One of them has no values. -/
  | halfPrecision (half : x.info.elementType = .float16 ∨ y.info.elementType = .float16) :
      Incomparable name x y .halfPrecision
  /-- One of them has more values. -/
  | lengths {xs ys : List M} (left : tensorValues x = .ok xs) (right : tensorValues y = .ok ys)
      (differ : xs.length ≠ ys.length) :
      Incomparable name x y (.lengths (some name) xs.length ys.length)
  /-- The quotient is no number. -/
  | notNumber {xs ys : List M} (left : tensorValues x = .ok xs) (right : tensorValues y = .ok ys)
      (same : xs.length = ys.length) (noNumber : Metric.isNaN (quotient xs ys) = true) :
      Incomparable name x y (.notNumber (some name))

/-- An error is a number. -/
lemma HasError.number {x y : Tensor} {error : M} (h : HasError x y error) :
    Metric.isNaN error = false := by
  cases h with
  | intro _ _ _ number => exact number

/-- **The error of two tensors.** -/
lemma tensorError_eq_ok_iff {name : String} {x y : Tensor} {error : M} :
    tensorError name x y = .ok error ↔ HasError x y error := by
  unfold tensorError
  constructor
  · intro h
    obtain ⟨xs, left, h⟩ := Outcome.bind_eq_ok_iff.1 h
    obtain ⟨ys, right, h⟩ := Outcome.bind_eq_ok_iff.1 h
    obtain ⟨same, number, rfl⟩ := relativeError_eq_ok_iff.1 (Outcome.mapError_eq_ok_iff.1 h)
    exact .intro left right same number
  · intro h
    cases h with
    | intro left right same number =>
      rw [left, right, Outcome.ok_bind, Outcome.ok_bind, Outcome.mapError_eq_ok_iff,
        relativeError_eq_ok_iff]
      exact ⟨same, number, rfl⟩

/-- Two tensors have one error. -/
lemma HasError.unique {x y : Tensor} {error error' : M} (h : HasError x y error)
    (h' : HasError x y error') : error = error' := by
  have measured : tensorError "" x y = .ok error := tensorError_eq_ok_iff.2 h
  have measured' : tensorError "" x y = .ok error' := tensorError_eq_ok_iff.2 h'
  exact Except.ok.inj (measured.symm.trans measured')

/-- **The fault of two tensors** that have no error. -/
lemma tensorError_eq_error_iff {name : String} {x y : Tensor} {fault : Fault M} :
    tensorError name x y = .error fault ↔ Incomparable name x y fault := by
  unfold tensorError
  constructor
  · intro h
    rcases Outcome.bind_eq_error_iff.1 h with h | ⟨xs, left, h⟩
    · obtain ⟨half, rfl⟩ := tensorValues_eq_error_iff.1 h
      exact .halfPrecision (.inl half)
    rcases Outcome.bind_eq_error_iff.1 h with h | ⟨ys, right, h⟩
    · obtain ⟨half, rfl⟩ := tensorValues_eq_error_iff.1 h
      exact .halfPrecision (.inr half)
    obtain ⟨cause, failed, rfl⟩ := Outcome.mapError_eq_error_iff.1 h
    rcases relativeError_eq_error_iff.1 failed with ⟨differ, rfl⟩ | ⟨same, noNumber, rfl⟩
    · exact .lengths left right differ
    · exact .notNumber left right same noNumber
  · intro h
    cases h with
    | halfPrecision half =>
      cases hx : (tensorValues x : Except (Fault M) _) with
      | error cause =>
        obtain ⟨-, rfl⟩ := tensorValues_eq_error_iff.1 hx
        rfl
      | ok xs =>
        have other : y.info.elementType = .float16 := by
          refine half.resolve_left fun here => ?_
          rw [tensorValues_eq_error_iff.2 ⟨here, rfl⟩] at hx
          cases hx
        rw [tensorValues_eq_error_iff.2 ⟨other, rfl⟩]
        rfl
    | lengths left right differ =>
      rw [left, right, Outcome.ok_bind, Outcome.ok_bind,
        relativeError_eq_error_iff.2 (.inl ⟨differ, rfl⟩)]
      rfl
    | notNumber left right same noNumber =>
      rw [left, right, Outcome.ok_bind, Outcome.ok_bind,
        relativeError_eq_error_iff.2 (.inr ⟨same, noNumber, rfl⟩)]
      rfl

/-! ### Errors and margins -/

/-- **Whether an error is within a margin.** -/
lemma checkError_eq_ok_iff {name : String} {error margin : M} :
    checkError name error margin = .ok () ↔
      Metric.isNaN error = false ∧ Metric.exceeds error margin = false := by
  unfold checkError
  split
  · simp [*]
  split <;> simp [*]

/-- An error that is a number and not within a margin is above it. -/
lemma checkError_eq_error_iff {name : String} {error margin : M} {fault : Fault M}
    (number : Metric.isNaN error = false) :
    checkError name error margin = .error fault ↔
      Metric.exceeds error margin = true ∧ fault = .exceeded name error margin := by
  unfold checkError
  rw [number, if_neg Bool.false_ne_true]
  split <;> simp [*, eq_comm]

section Checked

variable {errors : List (String × M)} {margin : M}

/-- **Errors that are numbers pass** if none of them is above the margin. -/
lemma checkErrors_eq_ok_iff (numbers : ∀ e ∈ errors, Metric.isNaN e.2 = false) :
    checkErrors errors margin = .ok () ↔ ∀ e ∈ errors, Metric.exceeds e.2 margin = false := by
  unfold checkErrors
  rw [Outcome.forM_eq_ok_iff]
  refine forall₂_congr fun e member => ?_
  rw [checkError_eq_ok_iff, and_iff_right (numbers e member)]

/-- **Errors that are numbers fail** by the first that is above the margin. -/
lemma checkErrors_eq_error_iff {fault : Fault M} (numbers : ∀ e ∈ errors, Metric.isNaN e.2 = false)
    (sorted : errors.Pairwise (fun a b => a.1 < b.1)) :
    checkErrors errors margin = .error fault ↔
      ∃ e ∈ errors, Metric.exceeds e.2 margin = true ∧ fault = .exceeded e.1 e.2 margin ∧
        ∀ e' ∈ errors, e'.1 < e.1 → Metric.exceeds e'.2 margin = false := by
  unfold checkErrors
  rw [Outcome.forM_eq_error_iff, exists_split_iff sorted]
  refine exists_congr fun e => and_congr_right fun member => ?_
  have before : (∀ y ∈ errors, y.1 < e.1 → checkError y.1 y.2 margin = .ok ()) ↔
      ∀ y ∈ errors, y.1 < e.1 → Metric.exceeds y.2 margin = false := by
    refine forall₂_congr fun y hy => ?_
    rw [checkError_eq_ok_iff, and_iff_right (numbers y hy)]
  rw [before, checkError_eq_error_iff (numbers e member)]
  tauto

end Checked

/-! ### Comparisons -/

/-- **Two runs share a tensor** of some name. -/
structure Shares (a b : NameMap Tensor) (name : String) (left right : Tensor) : Prop where
  /-- The tensor of the one run. -/
  left : a.find? name = some left
  /-- The tensor of the other run. -/
  right : b.find? name = some right

/-- **The tensor that a comparison fails on**, and why. -/
inductive FailsOn (a b : NameMap Tensor) (tolerance : M) (name : String) : Fault M → Prop where
  /-- It is the first that has no error. -/
  | incomparable {left right : Tensor} {fault : Fault M} (shared : Shares a b name left right)
      (cause : Incomparable name left right fault)
      (first : ∀ other < name, ∀ left right, Shares a b other left right →
        ∃ error : M, HasError left right error) :
      FailsOn a b tolerance name fault
  /-- All have an error, and it is the first with one above the tolerance. -/
  | exceeded {left right : Tensor} {error : M} (shared : Shares a b name left right)
      (has : HasError left right error) (above : Metric.exceeds error tolerance = true)
      (complete : ∀ other left right, Shares a b other left right →
        ∃ error : M, HasError left right error)
      (first : ∀ other < name, ∀ left right error, Shares a b other left right →
        HasError left right error → Metric.exceeds error tolerance = false) :
      FailsOn a b tolerance name (.exceeded name error tolerance)

/-- The shared entries are the tensors that two runs share. -/
lemma mem_sharedEntries {a b : NameMap Tensor} {name : String} {left right : Tensor} :
    (name, left, right) ∈ sharedEntries a b ↔ Shares a b name left right := by
  simp only [sharedEntries, List.mem_filterMap, Option.map_eq_some_iff, Prod.mk.injEq]
  constructor
  · rintro ⟨⟨key, x⟩, listed, y, found, rfl, rfl, rfl⟩
    exact ⟨NameMap.find?_eq_some_iff.2 listed, found⟩
  · rintro ⟨hl, hr⟩
    exact ⟨(name, left), NameMap.find?_eq_some_iff.1 hl, right, hr, rfl, rfl, rfl⟩

/-- The shared entries are in name order. -/
lemma pairwise_sharedEntries (a b : NameMap Tensor) :
    (sharedEntries a b).Pairwise (fun x y => x.1 < y.1) := by
  refine a.sorted.filterMap _ fun e e' before x hx y hy => ?_
  obtain ⟨_, -, rfl⟩ := Option.map_eq_some_iff.1 hx
  obtain ⟨_, -, rfl⟩ := Option.map_eq_some_iff.1 hy
  exact before

section Compared

variable {a b : NameMap Tensor} {tolerance : M} {errors : List (String × M)}

/-- The errors of shared tensors, by name. -/
lemma mem_of_sharedErrors (measured : sharedErrors a b = .ok errors) {name : String} {error : M} :
    (name, error) ∈ errors ↔
      ∃ left right, Shares a b name left right ∧ HasError left right error := by
  rw [mem_of_measureAll measured, Prod.exists]
  refine exists₂_congr fun left right => ?_
  rw [mem_sharedEntries, tensorError_eq_ok_iff]

/-- The errors of shared tensors are numbers. -/
lemma numbers_of_sharedErrors (measured : sharedErrors a b = .ok errors) :
    ∀ e ∈ errors, Metric.isNaN e.2 = false := by
  rintro ⟨name, error⟩ member
  obtain ⟨left, right, -, has⟩ := (mem_of_sharedErrors measured).1 member
  exact has.number

/-- Shared tensors are measured if each has an error. -/
lemma exists_sharedErrors_iff : (∃ errors : List (String × M), sharedErrors a b = .ok errors) ↔
    ∀ name left right, Shares a b name left right → ∃ error : M, HasError left right error := by
  unfold sharedErrors
  simp only [exists_measureAll_iff, Prod.forall, mem_sharedEntries, tensorError_eq_ok_iff]

/-- Shared tensors are not measured if one has no error; the fault is that of the first. -/
lemma sharedErrors_eq_error_iff {fault : Fault M} : sharedErrors a b = .error fault ↔
    ∃ name left right, Shares a b name left right ∧ Incomparable name left right fault ∧
      ∀ other < name, ∀ left right, Shares a b other left right →
        ∃ error : M, HasError left right error := by
  unfold sharedErrors
  rw [measureAll_eq_error_iff (pairwise_sharedEntries a b)]
  constructor
  · rintro ⟨⟨name, left, right⟩, listed, before, failed⟩
    refine ⟨name, left, right, mem_sharedEntries.1 listed, tensorError_eq_error_iff.1 failed,
      fun other smaller left' right' shared => ?_⟩
    exact (before (other, left', right') (mem_sharedEntries.2 shared) smaller).imp
      fun _ => tensorError_eq_ok_iff.1
  · rintro ⟨name, left, right, shared, cause, first⟩
    refine ⟨(name, left, right), mem_sharedEntries.2 shared, fun e listed smaller => ?_,
      tensorError_eq_error_iff.2 cause⟩
    exact (first e.1 smaller e.2.1 e.2.2 (mem_sharedEntries.1 listed)).imp
      fun _ => tensorError_eq_ok_iff.2

/-- **A comparison passes** if shared tensors have errors that are not above the tolerance. -/
lemma compare_eq_ok_iff : compare a b tolerance = .ok errors ↔
    sharedErrors a b = .ok errors ∧ ∀ e ∈ errors, Metric.exceeds e.2 tolerance = false := by
  unfold compare
  rw [Outcome.bind_eq_ok_iff]
  constructor
  · rintro ⟨errors', measured, h⟩
    obtain ⟨⟨⟩, checked, same⟩ := Outcome.bind_eq_ok_iff.1 h
    cases same
    exact ⟨measured, (checkErrors_eq_ok_iff (numbers_of_sharedErrors measured)).1 checked⟩
  · rintro ⟨measured, within⟩
    refine ⟨errors, measured, Outcome.bind_eq_ok_iff.2 ⟨(), ?_, rfl⟩⟩
    exact (checkErrors_eq_ok_iff (numbers_of_sharedErrors measured)).2 within

/-- **Which comparisons pass**, by name. -/
lemma exists_compare_iff : (∃ errors, compare a b tolerance = .ok errors) ↔
    ∀ name left right, Shares a b name left right →
      ∃ error, HasError left right error ∧ Metric.exceeds error tolerance = false := by
  constructor
  · rintro ⟨errors, passed⟩ name left right shared
    obtain ⟨measured, within⟩ := compare_eq_ok_iff.1 passed
    obtain ⟨error, has⟩ := exists_sharedErrors_iff.1 ⟨errors, measured⟩ name left right shared
    exact ⟨error, has, within _ ((mem_of_sharedErrors measured).2 ⟨left, right, shared, has⟩)⟩
  · intro each
    obtain ⟨errors, measured⟩ := exists_sharedErrors_iff.2 fun name left right shared =>
      (each name left right shared).imp fun _ => And.left
    refine ⟨errors, compare_eq_ok_iff.2 ⟨measured, ?_⟩⟩
    rintro ⟨name, error⟩ member
    obtain ⟨left, right, shared, has⟩ := (mem_of_sharedErrors measured).1 member
    obtain ⟨error', has', within⟩ := each name left right shared
    exact has.unique has' ▸ within

/-- **Which comparisons fail**, on which tensor, and why. -/
lemma compare_eq_error_iff {fault : Fault M} :
    compare a b tolerance = .error fault ↔ ∃ name, FailsOn a b tolerance name fault := by
  unfold compare
  rw [Outcome.bind_eq_error_iff]
  constructor
  · rintro (failed | ⟨errors, measured, h⟩)
    · obtain ⟨name, left, right, shared, cause, first⟩ := sharedErrors_eq_error_iff.1 failed
      exact ⟨name, .incomparable shared cause first⟩
    rcases Outcome.bind_eq_error_iff.1 h with failed | ⟨_, -, impossible⟩
    · obtain ⟨⟨name, error⟩, member, above, rfl, first⟩ :=
        (checkErrors_eq_error_iff (numbers_of_sharedErrors measured)
          (pairwise_of_measureAll (pairwise_sharedEntries a b) measured)).1 failed
      obtain ⟨left, right, shared, has⟩ := (mem_of_sharedErrors measured).1 member
      refine ⟨name, .exceeded shared has above (exists_sharedErrors_iff.1 ⟨errors, measured⟩)
        fun other smaller left' right' error' shared' has' => ?_⟩
      exact first (other, error') ((mem_of_sharedErrors measured).2 ⟨_, _, shared', has'⟩) smaller
    · cases impossible
  · rintro ⟨name, fails⟩
    cases fails with
    | incomparable shared cause first =>
      exact .inl (sharedErrors_eq_error_iff.2 ⟨name, _, _, shared, cause, first⟩)
    | @exceeded left right error shared has above complete first =>
      obtain ⟨errors, measured⟩ := exists_sharedErrors_iff.2 complete
      refine .inr ⟨errors, measured, Outcome.bind_eq_error_iff.2 (.inl ?_)⟩
      rw [checkErrors_eq_error_iff (numbers_of_sharedErrors measured)
        (pairwise_of_measureAll (pairwise_sharedEntries a b) measured)]
      refine ⟨(name, error), (mem_of_sharedErrors measured).2 ⟨left, right, shared, has⟩, above,
        rfl, ?_⟩
      rintro ⟨other, error'⟩ member smaller
      obtain ⟨left', right', shared', has'⟩ := (mem_of_sharedErrors measured).1 member
      exact first other smaller left' right' error' shared' has'

end Compared

/-! ### Reports -/

namespace Report

/-- **How a weight moved**: it has as many values before as after, and these are the differences. -/
inductive Moves (before after : Tensor) : List M → Prop where
  /-- The values after less those before. -/
  | intro {old new : List M} (start : tensorValues before = .ok old)
      (final : tensorValues after = .ok new) (same : old.length = new.length) :
      Moves before after (difference new old)

/-- **Two updates of a weight have an error**: both move as many values, and the quotient of the
moves is a number. -/
inductive HasUpdateError (w₀ w₁ v₀ v₁ : Tensor) : M → Prop where
  /-- The error is the quotient. -/
  | intro {xs ys : List M} (left : Moves w₀ w₁ xs) (right : Moves v₀ v₁ ys)
      (same : xs.length = ys.length) (number : Metric.isNaN (quotient xs ys) = false) :
      HasUpdateError w₀ w₁ v₀ v₁ (quotient xs ys)

/-- **Four stores share a weight** of some name. -/
structure Shares (a₀ a₁ b₀ b₁ : WeightStore) (name : String) (w₀ w₁ v₀ v₁ : Tensor) : Prop where
  /-- The weight at the start of the one run. -/
  start : a₀.find? name = some w₀
  /-- The weight at the end of the one run. -/
  final : a₁.find? name = some w₁
  /-- The weight at the start of the other run. -/
  otherStart : b₀.find? name = some v₀
  /-- The weight at the end of the other run. -/
  otherFinal : b₁.find? name = some v₁

/-- **The move of a weight.** -/
lemma update_eq_ok_iff {name : String} {before after : Tensor} {moved : List M} :
    update name before after = .ok moved ↔ Moves before after moved := by
  unfold update
  constructor
  · intro h
    obtain ⟨old, start, h⟩ := Outcome.bind_eq_ok_iff.1 h
    obtain ⟨new, final, h⟩ := Outcome.bind_eq_ok_iff.1 h
    split at h
    · cases h
    rename_i same
    cases h
    exact .intro start final (not_not.1 same)
  · intro h
    cases h with
    | intro start final same =>
      rw [start, final, Outcome.ok_bind, Outcome.ok_bind, if_neg (not_not.2 same)]
      rfl

/-- **The error of two updates.** -/
lemma updateError_eq_ok_iff {name : String} {w₀ w₁ v₀ v₁ : Tensor} {error : M} :
    updateError name w₀ w₁ v₀ v₁ = .ok error ↔ HasUpdateError w₀ w₁ v₀ v₁ error := by
  unfold updateError
  constructor
  · intro h
    obtain ⟨xs, left, h⟩ := Outcome.bind_eq_ok_iff.1 h
    obtain ⟨ys, right, h⟩ := Outcome.bind_eq_ok_iff.1 h
    obtain ⟨same, number, rfl⟩ := relativeError_eq_ok_iff.1 (Outcome.mapError_eq_ok_iff.1 h)
    exact .intro (update_eq_ok_iff.1 left) (update_eq_ok_iff.1 right) same number
  · intro h
    cases h with
    | intro left right same number =>
      rw [update_eq_ok_iff.2 left, update_eq_ok_iff.2 right, Outcome.ok_bind, Outcome.ok_bind,
        Outcome.mapError_eq_ok_iff, relativeError_eq_ok_iff]
      exact ⟨same, number, rfl⟩

/-- The shared weights are the weights that four stores share. -/
lemma mem_sharedWeights {a₀ a₁ b₀ b₁ : WeightStore} {name : String} {w₀ w₁ v₀ v₁ : Tensor} :
    (name, w₀, w₁, v₀, v₁) ∈ sharedWeights a₀ a₁ b₀ b₁ ↔
      Shares a₀ a₁ b₀ b₁ name w₀ w₁ v₀ v₁ := by
  simp only [sharedWeights, List.mem_filterMap, Option.bind_eq_bind, Option.bind_eq_some_iff,
    Option.pure_def, Option.some.injEq, Prod.mk.injEq]
  constructor
  · rintro ⟨⟨key, x⟩, listed, _, hx₁, _, hy₀, _, hy₁, rfl, rfl, rfl, rfl, rfl⟩
    exact ⟨NameMap.find?_eq_some_iff.2 listed, hx₁, hy₀, hy₁⟩
  · rintro ⟨hx₀, hx₁, hy₀, hy₁⟩
    exact ⟨(name, w₀), NameMap.find?_eq_some_iff.1 hx₀, w₁, hx₁, v₀, hy₀, v₁, hy₁, rfl, rfl, rfl,
      rfl, rfl⟩

/-- The shared weights are in name order. -/
lemma pairwise_sharedWeights (a₀ a₁ b₀ b₁ : WeightStore) :
    (sharedWeights a₀ a₁ b₀ b₁).Pairwise (fun x y => x.1 < y.1) := by
  refine a₀.sorted.filterMap _ fun e e' before x hx y hy => ?_
  simp only [Option.bind_eq_bind, Option.bind_eq_some_iff, Option.pure_def, Option.some.injEq]
    at hx hy
  obtain ⟨_, -, _, -, _, -, rfl⟩ := hx
  obtain ⟨_, -, _, -, _, -, rfl⟩ := hy
  exact before

section Reported

variable {a₀ a₁ b₀ b₁ : WeightStore} {r : Report M}

/-- A report lists what is measured of the shared weights. -/
lemma ofWeights_eq_ok_iff : ofWeights a₀ a₁ b₀ b₁ = .ok r ↔
    ((sharedWeights a₀ a₁ b₀ b₁).mapM fun e =>
      return (e.1, ← updateError e.1 e.2.1 e.2.2.1 e.2.2.2.1 e.2.2.2.2)) = .ok r.errors := by
  unfold ofWeights
  rw [Outcome.bind_eq_ok_iff]
  constructor
  · rintro ⟨errors, measured, h⟩
    cases h
    exact measured
  · intro measured
    exact ⟨r.errors, measured, rfl⟩

/-- A report is in name order. -/
lemma pairwise_of_ofWeights (reported : ofWeights a₀ a₁ b₀ b₁ = .ok r) :
    r.errors.Pairwise (fun x y => x.1 < y.1) :=
  pairwise_of_measureAll (pairwise_sharedWeights a₀ a₁ b₀ b₁) (ofWeights_eq_ok_iff.1 reported)

/-- **A report** lists the errors of the updates to all shared weights. -/
lemma mem_of_ofWeights (reported : ofWeights a₀ a₁ b₀ b₁ = .ok r) {name : String} {error : M} :
    (name, error) ∈ r.errors ↔ ∃ w₀ w₁ v₀ v₁, Shares a₀ a₁ b₀ b₁ name w₀ w₁ v₀ v₁ ∧
      HasUpdateError w₀ w₁ v₀ v₁ error := by
  rw [mem_of_measureAll (ofWeights_eq_ok_iff.1 reported)]
  simp only [Prod.exists, mem_sharedWeights, updateError_eq_ok_iff]

/-- The errors in a report are numbers. -/
lemma numbers_of_ofWeights (reported : ofWeights a₀ a₁ b₀ b₁ = .ok r) :
    ∀ e ∈ r.errors, Metric.isNaN e.2 = false := by
  rintro ⟨name, error⟩ member
  obtain ⟨_, _, _, _, -, has⟩ := (mem_of_ofWeights reported).1 member
  cases has with
  | intro _ _ _ number => exact number

/-- **There is a report** if the updates to all shared weights have an error. -/
lemma exists_ofWeights_iff : (∃ r : Report M, ofWeights a₀ a₁ b₀ b₁ = .ok r) ↔
    ∀ name w₀ w₁ v₀ v₁, Shares a₀ a₁ b₀ b₁ name w₀ w₁ v₀ v₁ →
      ∃ error : M, HasUpdateError w₀ w₁ v₀ v₁ error := by
  have reports : (∃ r : Report M, ofWeights a₀ a₁ b₀ b₁ = .ok r) ↔
      ∃ errors : List (String × M), ((sharedWeights a₀ a₁ b₀ b₁).mapM fun e =>
        return (e.1, ← updateError e.1 e.2.1 e.2.2.1 e.2.2.2.1 e.2.2.2.2)) = .ok errors :=
    ⟨fun ⟨r, reported⟩ => ⟨r.errors, ofWeights_eq_ok_iff.1 reported⟩,
      fun ⟨errors, measured⟩ => ⟨⟨errors⟩, ofWeights_eq_ok_iff.2 measured⟩⟩
  rw [reports, exists_measureAll_iff]
  simp only [Prod.forall, mem_sharedWeights, updateError_eq_ok_iff]

end Reported

end Report

/-! ### Double precision -/

/-- Numbers that are not above a tolerance are at most the tolerance, or it is no number. -/
lemma exceeds_eq_false_iff {error tolerance : Float} (number : Metric.isNaN error = false) :
    Metric.exceeds error tolerance = false ↔ error ≤ tolerance ∨ tolerance.isNaN = true := by
  have above : Metric.exceeds error tolerance = false ↔ ¬ tolerance < error :=
    decide_eq_false_iff_not
  rw [above]
  cases limit : tolerance.isNaN with
  | true => simp [(Double.not_lt_of_isNaN limit).1]
  | false => simp [Double.le_iff_not_lt number limit]

/-- **A passed comparison means that every error is within the tolerance**, unless the tolerance is
no number; then a comparison passes whatever the errors are.

* A comparison passes exactly if all shared tensors have an error that is at most the tolerance, or
  an error at all, if the tolerance is no number. It then lists these errors in name order.
* A comparison fails on the first shared tensor that has no error, even if an error before that is
  above the tolerance; else on the first with an error above the tolerance.
* A report that is there lists the errors of the updates to all shared weights in name order. It is
  within a tolerance exactly if each error is at most the tolerance, or the tolerance is no number;
  else it fails on the first with an error above the tolerance.

**Proof sketch.** Errors are numbers, as others are refused. A number is at most another number
exactly if it is not above that, and nothing is above what is no number. The first of some shared
tensors is preceded by just those of smaller names, as maps are in name order. -/
theorem passes_iff_within (a b : NameMap Tensor) (a₀ a₁ b₀ b₁ : WeightStore) (tolerance : Float) :
    ((∃ errors, compare a b tolerance = .ok errors) ↔
      ∀ name left right, Shares a b name left right →
        ∃ error, HasError left right error ∧ (error ≤ tolerance ∨ tolerance.isNaN = true)) ∧
    (∀ errors, compare a b tolerance = .ok errors →
      errors.Pairwise (fun x y => x.1 < y.1) ∧
      ∀ name error, (name, error) ∈ errors ↔
        ∃ left right, Shares a b name left right ∧ HasError left right error) ∧
    (∀ fault, compare a b tolerance = .error fault ↔ ∃ name, FailsOn a b tolerance name fault) ∧
    ∀ r, Report.ofWeights a₀ a₁ b₀ b₁ = .ok r →
      r.errors.Pairwise (fun x y => x.1 < y.1) ∧
      (∀ name error, (name, error) ∈ r.errors ↔ ∃ w₀ w₁ v₀ v₁,
        Report.Shares a₀ a₁ b₀ b₁ name w₀ w₁ v₀ v₁ ∧
          Report.HasUpdateError w₀ w₁ v₀ v₁ error) ∧
      (r.checkWithin tolerance = .ok () ↔
        ∀ e ∈ r.errors, e.2 ≤ tolerance ∨ tolerance.isNaN = true) ∧
      ∀ fault, r.checkWithin tolerance = .error fault ↔
        ∃ e ∈ r.errors, tolerance < e.2 ∧ fault = .exceeded e.1 e.2 tolerance ∧
          ∀ e' ∈ r.errors, e'.1 < e.1 → ¬ tolerance < e'.2 := by
  refine ⟨?_, fun errors passed => ?_, fun fault => compare_eq_error_iff, fun r reported => ?_⟩
  · rw [exists_compare_iff]
    refine forall_congr' fun name => forall₃_congr fun left right _ => exists_congr fun error => ?_
    exact and_congr_right fun has => exceeds_eq_false_iff has.number
  · have measured := (compare_eq_ok_iff.1 passed).1
    exact ⟨pairwise_of_measureAll (pairwise_sharedEntries a b) measured,
      fun name error => mem_of_sharedErrors measured⟩
  · have numbers := Report.numbers_of_ofWeights reported
    have sorted := Report.pairwise_of_ofWeights reported
    refine ⟨sorted, fun name error => Report.mem_of_ofWeights reported, ?_, fun fault => ?_⟩
    · unfold Report.checkWithin
      rw [checkErrors_eq_ok_iff numbers]
      exact forall₂_congr fun e member => exceeds_eq_false_iff (numbers e member)
    · unfold Report.checkWithin
      rw [checkErrors_eq_error_iff numbers sorted]
      simp only [Metric.exceeds, decide_eq_true_eq, decide_eq_false_iff_not, gt_iff_lt]

/-- One half. -/
def half : Float := Float.ofBits 0x3fe0000000000000

/-- A hundred million, the error of zero and one. -/
def hundredMillion : Float := Float.ofBits 0x4197d78400000000

/-- A run with one tensor, of the given values. -/
def runOf (values : List Single) : NameMap Tensor :=
  .ofList [("w", .ofSingles ⟨[values.length]⟩ values)]

/-- A run with three tensors. -/
def runSample : NameMap Tensor :=
  .ofList [("u", .ofSingles ⟨[1]⟩ [.zero]), ("v", .ofSingles ⟨[1]⟩ [.one]),
    ("x", .ofSingles ⟨[1]⟩ [.one])]

/-- A run that shares two tensors with `runSample`, the second with another number of elements. -/
def otherSample : NameMap Tensor :=
  .ofList [("u", .ofSingles ⟨[1]⟩ [.one]), ("v", .ofSingles ⟨[2]⟩ [.one, .zero]),
    ("y", .ofSingles ⟨[1]⟩ [.one])]

/-- **Runs compared with a tolerance of a half**: one run with itself; zero with one, whose error is
far above; two runs that cannot be compared by their second shared tensor, while the error of the
first is already above the tolerance; and two runs from zero, whose weight moved to one. -/
theorem passes_iff_within_sample :
    (∀ name left right, Shares (runOf [.one]) (runOf [.one]) name left right → ∃ error,
      HasError left right error ∧ (error ≤ half ∨ half.isNaN)) ∧
    (∃ name, FailsOn (runOf [.zero]) (runOf [.one]) half name
      (.exceeded "w" hundredMillion half)) ∧
    (∃ name, FailsOn runSample otherSample half name (.lengths (some "v") 1 2)) ∧
    ∃ r, Report.ofWeights (runOf [.zero]) (runOf [.one]) (runOf [.zero]) (runOf [.one]) = .ok r ∧
      ∀ e ∈ r.errors, e.2 ≤ half ∨ half.isNaN := by
  obtain ⟨r, reported, checked⟩ := Outcome.exists_of_any_toOption
    (show (Report.ofWeights (runOf [.zero]) (runOf [.one]) (runOf [.zero])
      (runOf [.one])).toOption.any (fun r => decide (r.checkWithin half = .ok ())) = true by
        decide +kernel)
  obtain ⟨passes, -, -, within⟩ := passes_iff_within (runOf [.one]) (runOf [.one])
    (runOf [.zero]) (runOf [.one]) (runOf [.zero]) (runOf [.one]) half
  obtain ⟨-, -, exceeded, -⟩ := passes_iff_within (runOf [.zero]) (runOf [.one])
    .empty .empty .empty .empty half
  obtain ⟨-, -, unequal, -⟩ := passes_iff_within runSample otherSample
    .empty .empty .empty .empty half
  refine ⟨passes.1 ⟨[("w", Float.ofBits 0)], ?_⟩, (exceeded _).1 ?_, (unequal _).1 ?_, r, reported,
    (within r reported).2.2.1.1 (of_decide_eq_true checked)⟩
  all_goals decide +kernel

/-- **A tolerance that is no number** is passed by zero and one, which have an error of a hundred
million; neither this nor any other number is at most the tolerance. -/
theorem exists_passed_beyond : ∃ tolerance : Float,
    compare (runOf [.zero]) (runOf [.one]) tolerance = .ok [("w", hundredMillion)] ∧
    ∃ left right, Shares (runOf [.zero]) (runOf [.one]) "w" left right ∧
      HasError left right hundredMillion ∧
      ∀ error, HasError left right error → ¬ error ≤ tolerance := by
  have measured : tensorError "w" (.ofSingles ⟨[1]⟩ [.zero]) (.ofSingles ⟨[1]⟩ [.one]) =
      .ok hundredMillion := by decide +kernel
  refine ⟨Float.ofBits 0x7ff8000000000000, by decide +kernel, _, _,
    ⟨by decide +kernel, by decide +kernel⟩, tensorError_eq_ok_iff.1 measured, fun error _ => ?_⟩
  exact (Double.not_lt_of_isNaN (by decide +kernel)).2

end Microbatch.Accuracy

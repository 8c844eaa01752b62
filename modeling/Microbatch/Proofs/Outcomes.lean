import Mathlib.Data.List.Forall2
import Mathlib.Tactic.Lemma

set_option relaxedAutoImplicit false
set_option autoImplicit false

/-!
# Outcomes of checks

Checks are chains that end with the first fault. A chain that succeeds went through every step,
and the fault of a chain that fails is the fault of one of its steps.

## Main results

* `Microbatch.Outcome.bind_eq_ok_iff`, `Microbatch.Outcome.bind_eq_error_iff` — two steps.
* `Microbatch.Outcome.mapM_eq_ok_iff`, `Microbatch.Outcome.exists_of_mapM_eq_error` — one step
  for each element of a list.
* `Microbatch.Outcome.exists_of_foldlM_eq_error`, `Microbatch.Outcome.exists_of_foldrM_eq_error`
  — steps that hand a state on.
-/

namespace Microbatch.Outcome

variable {ε α β γ : Type}

/-- Two steps succeed when both do. -/
lemma bind_eq_ok_iff {x : Except ε α} {f : α → Except ε β} {b : β} :
    x >>= f = .ok b ↔ ∃ a, x = .ok a ∧ f a = .ok b := by
  cases x with
  | error e => simp [bind, Except.bind]
  | ok a => simp [bind, Except.bind]

/-- Two steps fail when one of them does. -/
lemma bind_eq_error_iff {x : Except ε α} {f : α → Except ε β} {e : ε} :
    x >>= f = .error e ↔ x = .error e ∨ ∃ a, x = .ok a ∧ f a = .error e := by
  cases x with
  | error e' => simp [bind, Except.bind]
  | ok a => simp [bind, Except.bind]

@[simp] lemma ok_bind (a : α) (f : α → Except ε β) : ((.ok a : Except ε α) >>= f) = f a := rfl

@[simp] lemma pure_eq_ok (a : α) : (pure a : Except ε α) = .ok a := rfl

/-- A renamed fault does not change success. -/
lemma mapError_eq_ok_iff {ε' : Type} {x : Except ε α} {f : ε → ε'} {a : α} :
    x.mapError f = .ok a ↔ x = .ok a := by
  cases x <;> simp [Except.mapError]

/-- A fault that was renamed comes from a fault. -/
lemma mapError_eq_error_iff {ε' : Type} {x : Except ε α} {f : ε → ε'} {e : ε'} :
    x.mapError f = .error e ↔ ∃ e', x = .error e' ∧ f e' = e := by
  cases x <;> simp [Except.mapError]

/-- A result that is rewritten does not change success. -/
lemma map_eq_ok_iff {x : Except ε α} {f : α → β} {b : β} :
    x.map f = .ok b ↔ ∃ a, x = .ok a ∧ f a = b := by
  cases x <;> simp [Except.map]

/-- A rewritten result does not change the fault. -/
lemma map_eq_error_iff {x : Except ε α} {f : α → β} {e : ε} :
    x.map f = .error e ↔ x = .error e := by
  cases x <;> simp [Except.map]

/-- A result that is there is the result. -/
lemma toOption_eq_some_iff {x : Except ε α} {a : α} : x.toOption = some a ↔ x = .ok a := by
  cases x <;> simp [Except.toOption]

/-- A result that passes a test is there. -/
lemma exists_of_any_toOption {x : Except ε α} {test : α → Bool}
    (h : x.toOption.any test = true) : ∃ a, x = .ok a ∧ test a = true := by
  cases x with
  | error e => cases h
  | ok a => exact ⟨a, rfl, h⟩

/-- Without a result there is a fault. -/
lemma exists_of_isNone_toOption {x : Except ε α} (h : x.toOption.isNone = true) :
    ∃ e, x = .error e := by
  cases x with
  | error e => exact ⟨e, rfl⟩
  | ok a => cases h

/-- **One step for each element** succeeds when every one does. -/
lemma mapM_eq_ok_iff {f : α → Except ε β} {xs : List α} {ys : List β} :
    xs.mapM f = .ok ys ↔ List.Forall₂ (fun x y => f x = .ok y) xs ys := by
  induction xs generalizing ys with
  | nil =>
    rw [List.mapM_nil, List.forall₂_nil_left_iff, pure_eq_ok, Except.ok.injEq]
    exact eq_comm
  | cons x xs ih =>
    rw [List.mapM_cons, bind_eq_ok_iff, List.forall₂_cons_left_iff]
    constructor
    · rintro ⟨y, hy, h⟩
      obtain ⟨rest, hr, h⟩ := bind_eq_ok_iff.1 h
      cases h
      exact ⟨y, rest, hy, ih.1 hr, rfl⟩
    · rintro ⟨y, rest, hy, hr, rfl⟩
      exact ⟨y, hy, bind_eq_ok_iff.2 ⟨rest, ih.2 hr, rfl⟩⟩

/-- Steps that do the same to every element of a list do the same to the list. -/
lemma mapM_congr {f g : α → Except ε β} {xs : List α} (h : ∀ x ∈ xs, f x = g x) :
    xs.mapM f = xs.mapM g := by
  induction xs with
  | nil => rfl
  | cons x xs ih =>
    obtain ⟨first, others⟩ := List.forall_mem_cons.1 h
    rw [List.mapM_cons, List.mapM_cons, first, ih others]

/-- A fault that every step renames is renamed by all of them. -/
lemma mapM_mapError {ε' : Type} {f : α → Except ε β} {g : ε → ε'} (xs : List α) :
    (xs.mapM fun x => (f x).mapError g) = (xs.mapM f).mapError g := by
  induction xs with
  | nil => rfl
  | cons x xs ih =>
    rw [List.mapM_cons, List.mapM_cons, ih]
    cases f x with
    | error e => rfl
    | ok y => cases xs.mapM f <;> rfl

/-- Elements that are each related to something are, as a list, related to a list. -/
lemma exists_forall₂ {R : α → β → Prop} {xs : List α} (h : ∀ x ∈ xs, ∃ y, R x y) :
    ∃ ys, List.Forall₂ R xs ys := by
  induction xs with
  | nil => exact ⟨[], .nil⟩
  | cons x xs ih =>
    obtain ⟨⟨y, first⟩, others⟩ := List.forall_mem_cons.1 h
    obtain ⟨ys, rest⟩ := ih others
    exact ⟨y :: ys, .cons first rest⟩

/-- One step for each element has results if every step has one. -/
lemma exists_mapM_eq_ok {f : α → Except ε β} {xs : List α} (h : ∀ x ∈ xs, ∃ y, f x = .ok y) :
    ∃ ys, xs.mapM f = .ok ys := by
  obtain ⟨ys, results⟩ := exists_forall₂ h
  exact ⟨ys, mapM_eq_ok_iff.2 results⟩

/-- Optional values are all there exactly when they are the values of a list. -/
lemma mapM_id_eq_some_iff {xs : List (Option α)} {ys : List α} :
    xs.mapM id = some ys ↔ xs = ys.map some := by
  induction xs generalizing ys with
  | nil => cases ys <;> simp
  | cons x rest ih =>
    rw [List.mapM_cons]
    cases x with
    | none => cases ys <;> simp
    | some a => cases ys <;> simp [Option.bind_eq_some_iff, ih, and_comm]

/-- Checks of all elements succeed when every one does. -/
lemma forM_eq_ok_iff {f : α → Except ε PUnit} {xs : List α} :
    xs.forM f = .ok () ↔ ∀ x ∈ xs, f x = .ok () := by
  induction xs with
  | nil => simp [pure_eq_ok]
  | cons x xs ih =>
    show (f x >>= fun _ => xs.forM f) = .ok () ↔ _
    rw [bind_eq_ok_iff, List.forall_mem_cons, ← ih]
    exact ⟨fun ⟨_, first, rest⟩ => ⟨first, rest⟩, fun ⟨first, rest⟩ => ⟨_, first, rest⟩⟩

/-- The result of one step comes from the step. -/
lemma exists_of_forall₂_right {R : α → β → Prop} {xs : List α} {ys : List β}
    (h : List.Forall₂ R xs ys) {y : β} (hy : y ∈ ys) : ∃ x ∈ xs, R x y := by
  induction h with
  | nil => cases hy
  | cons first _ ih =>
    rcases List.mem_cons.1 hy with rfl | hy
    · exact ⟨_, List.mem_cons_self .., first⟩
    · obtain ⟨x, hx, related⟩ := ih hy
      exact ⟨x, List.mem_cons_of_mem _ hx, related⟩

/-- Two lists that are related to one list are related to each other. -/
lemma forall₂_of_common {R : α → β → Prop} {S : α → γ → Prop} {T : β → γ → Prop} {xs : List α}
    {ys : List β} {zs : List γ} (h : List.Forall₂ R xs ys) (h' : List.Forall₂ S xs zs)
    (both : ∀ x y z, R x y → S x z → T y z) : List.Forall₂ T ys zs := by
  induction h generalizing zs with
  | nil =>
    cases h'
    exact .nil
  | cons first _ ih =>
    cases h' with
    | cons first' rest' => exact .cons (both _ _ _ first first') (ih rest')

/-- A list that is related to another stays related when a selection keeps all of its elements. -/
lemma forall₂_filterMap {R : α → β → Prop} {S : α → γ → Prop} {f : β → Option γ} {xs : List α}
    {ys : List β} (h : List.Forall₂ R xs ys) (kept : ∀ x y, R x y → ∃ z, f y = some z ∧ S x z) :
    List.Forall₂ S xs (ys.filterMap f) := by
  induction h with
  | nil => exact .nil
  | cons first _ ih =>
    obtain ⟨z, hz, related⟩ := kept _ _ first
    rw [List.filterMap_cons, hz]
    exact .cons related ih

/-- The images of a list, one by one, are the list of images. -/
lemma forall₂_eq_iff_map {f : α → β} {xs : List α} {ys : List β} :
    List.Forall₂ (fun x y => f x = y) xs ys ↔ xs.map f = ys := by
  rw [← List.forall₂_map_left_iff (R := fun y z : β => y = z) (f := f)]
  exact Iff.of_eq (congrFun (congrFun List.forall₂_eq_eq_eq _) _)

/-- The fault of steps for the elements of a list is that of the first element that has one. -/
lemma exists_split_of_mapM_eq_error {f : α → Except ε β} {xs : List α} {e : ε}
    (h : xs.mapM f = .error e) : ∃ front x back, xs = front ++ x :: back ∧
      (∀ y ∈ front, ∃ result, f y = .ok result) ∧ f x = .error e := by
  induction xs with
  | nil => cases h
  | cons x xs ih =>
    rw [List.mapM_cons, bind_eq_error_iff] at h
    rcases h with here | ⟨result, first, h⟩
    · exact ⟨[], x, xs, rfl, List.forall_mem_nil _, here⟩
    rcases bind_eq_error_iff.1 h with later | ⟨_, -, impossible⟩
    · obtain ⟨front, y, back, rfl, succeeded, failed⟩ := ih later
      exact ⟨x :: front, y, back, rfl, List.forall_mem_cons.2 ⟨⟨result, first⟩, succeeded⟩, failed⟩
    · cases impossible

/-- **Steps for the elements of a list fail** with the fault of the first element that has one. -/
lemma mapM_eq_error_iff {f : α → Except ε β} {xs : List α} {e : ε} :
    xs.mapM f = .error e ↔ ∃ front x back, xs = front ++ x :: back ∧
      (∀ y ∈ front, ∃ result, f y = .ok result) ∧ f x = .error e := by
  refine ⟨exists_split_of_mapM_eq_error, ?_⟩
  rintro ⟨front, x, back, rfl, succeeded, failed⟩
  obtain ⟨results, before⟩ := exists_mapM_eq_ok succeeded
  rw [List.mapM_append, before, List.mapM_cons, failed]
  rfl

/-- **Checks of the elements of a list fail** with the fault of the first element that has one. -/
lemma forM_eq_error_iff {f : α → Except ε PUnit} {xs : List α} {e : ε} :
    xs.forM f = .error e ↔ ∃ front x back, xs = front ++ x :: back ∧
      (∀ y ∈ front, f y = .ok ()) ∧ f x = .error e := by
  induction xs with
  | nil => simp [pure_eq_ok]
  | cons x xs ih =>
    show (f x >>= fun _ => xs.forM f) = .error e ↔ _
    rw [bind_eq_error_iff, ih]
    constructor
    · rintro (here | ⟨_, first, front, y, back, rfl, passed, failed⟩)
      · exact ⟨[], x, xs, rfl, List.forall_mem_nil _, here⟩
      · exact ⟨x :: front, y, back, rfl, List.forall_mem_cons.2 ⟨first, passed⟩, failed⟩
    · rintro ⟨front, y, back, split, passed, failed⟩
      cases front with
      | nil =>
        cases split
        exact .inl failed
      | cons z front =>
        cases split
        obtain ⟨first, others⟩ := List.forall_mem_cons.1 passed
        exact .inr ⟨_, first, front, y, back, rfl, others, failed⟩

/-- The fault of steps for the elements of a list is the fault of one element. -/
lemma exists_of_mapM_eq_error {f : α → Except ε β} {xs : List α} {e : ε}
    (h : xs.mapM f = .error e) : ∃ x ∈ xs, f x = .error e := by
  obtain ⟨front, x, back, rfl, -, failed⟩ := exists_split_of_mapM_eq_error h
  exact ⟨x, List.mem_append_right _ (List.mem_cons_self ..), failed⟩

/-- The fault of steps that hand a state on is the fault of one of them. -/
lemma exists_of_foldlM_eq_error {f : β → α → Except ε β} {xs : List α} {b : β} {e : ε}
    (h : xs.foldlM f b = .error e) : ∃ x ∈ xs, ∃ b', f b' x = .error e := by
  induction xs generalizing b with
  | nil => cases h
  | cons x xs ih =>
    rw [List.foldlM_cons, bind_eq_error_iff] at h
    rcases h with h | ⟨b', -, h⟩
    · exact ⟨x, List.mem_cons_self .., b, h⟩
    · obtain ⟨x', hx, hf⟩ := ih h
      exact ⟨x', List.mem_cons_of_mem _ hx, hf⟩

/-- The same for steps from the last element to the first. -/
lemma exists_of_foldrM_eq_error {f : α → β → Except ε β} {xs : List α} {b : β} {e : ε}
    (h : xs.foldrM f b = .error e) : ∃ x ∈ xs, ∃ b', f x b' = .error e := by
  induction xs with
  | nil => cases h
  | cons x xs ih =>
    rw [List.foldrM_cons, bind_eq_error_iff] at h
    rcases h with h | ⟨b', -, h⟩
    · obtain ⟨x', hx, hf⟩ := ih h
      exact ⟨x', List.mem_cons_of_mem _ hx, hf⟩
    · exact ⟨x, List.mem_cons_self .., b', h⟩

end Microbatch.Outcome

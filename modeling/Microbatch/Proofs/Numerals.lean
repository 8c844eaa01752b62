import Mathlib.Tactic.Lemma
import Microbatch.Numeral
import Microbatch.Proofs.Outcomes

set_option relaxedAutoImplicit false
set_option autoImplicit false

/-!
# What a numeral says

A numeral is a run of decimal digits, with a plus sign in front of it or not. Its value is that of
the digits, however many of them are leading zeros. A reader that stops at the first digit that
makes the value too large reads the same numerals as one that looks at the value at the end, since a
value only grows when a digit is appended.

## Main definitions

* `Microbatch.Numeral.IsDigits` — a run of digits with its value.
* `Microbatch.Numeral.Denotes` — a numeral with its value.

## Main results

* `Microbatch.Numeral.read_eq_ok_iff` — what is read below a limit.
* `Microbatch.Numeral.denotes_toDigits` — the digits of a number denote it.
-/

namespace Microbatch.Numeral

/-! ### Numerals and their values -/

/-- **A run of digits and its value**, in base ten. -/
structure IsDigits (digits : List Char) (value : Nat) : Prop where
  /-- There is a digit. -/
  nonempty : digits ≠ []
  /-- There are only digits. -/
  isDigit : ∀ c ∈ digits, c.isDigit
  /-- They are the digits of the value. -/
  value_eq : Nat.ofDigitChars 10 digits 0 = value

/-- **A numeral and its value**: digits, with a plus sign in front of them or not. -/
inductive Denotes : List Char → Nat → Prop
  /-- Without a sign. -/
  | plain {digits : List Char} {value : Nat} (run : IsDigits digits value) : Denotes digits value
  /-- With a plus sign. -/
  | signed {digits : List Char} {value : Nat} (run : IsDigits digits value) :
      Denotes ('+' :: digits) value

/-- **The digits of a number** denote it. -/
lemma isDigits_toDigits (n : Nat) : IsDigits (Nat.toDigits 10 n) n where
  nonempty := Nat.toDigits_ne_nil
  isDigit _ member := Nat.isDigit_of_mem_toDigits (by decide) (by decide) member
  value_eq := Nat.ofDigitChars_toDigits (by decide) (by decide)

/-- The written form of a number denotes it. -/
lemma denotes_toDigits (n : Nat) : Denotes (Nat.toDigits 10 n) n := .plain (isDigits_toDigits n)

/-- **Leading zeros** change nothing. -/
lemma IsDigits.zeros {digits : List Char} {value : Nat} (run : IsDigits digits value)
    (count : Nat) : IsDigits (List.replicate count '0' ++ digits) value where
  nonempty := List.append_ne_nil_of_right_ne_nil _ run.nonempty
  isDigit c member := by
    rcases List.mem_append.1 member with zero | digit
    · obtain rfl := List.eq_of_mem_replicate zero
      decide
    · exact run.isDigit c digit
  value_eq := by
    rw [Nat.ofDigitChars_append, Nat.ofDigitChars_replicate_zero, Nat.mul_zero, run.value_eq]

/-! ### Reading digits -/

variable {limit value n : Nat} {c : Char} {cs : List Char}

lemma digit?_eq_some_iff {d : Nat} :
    digit? c = some d ↔ c.isDigit ∧ c.toNat - '0'.toNat = d := by
  have class_iff : ('0' ≤ c ∧ c ≤ '9') ↔ c.isDigit := by
    rw [Char.isDigit, Bool.and_eq_true, decide_eq_true_iff, decide_eq_true_iff]
    rfl
  unfold digit?
  split
  · rename_i digit
    simp [class_iff.1 digit]
  · rename_i other
    simp [mt class_iff.2 other]

/-- One digit is appended, if the value stays below the limit. -/
lemma push_eq_ok_iff :
    push limit value c = .ok n ↔
      c.isDigit ∧ 10 * value + (c.toNat - '0'.toNat) = n ∧ n < limit := by
  unfold push
  cases read : digit? c with
  | none =>
    refine iff_of_false (by simp) fun ⟨digit, _⟩ => ?_
    rw [digit?_eq_some_iff.2 ⟨digit, rfl⟩] at read
    cases read
  | some d =>
    obtain ⟨digit, rfl⟩ := digit?_eq_some_iff.1 read
    rw [Nat.mul_comm value 10]
    dsimp only
    split
    · rename_i below
      rw [Except.ok.injEq]
      exact ⟨fun same => ⟨digit, same, same ▸ below⟩, fun h => h.2.1⟩
    · rename_i above
      refine iff_of_false (by simp) ?_
      rintro ⟨-, rfl, below⟩
      exact above below

/-- Appending digits does not make a value smaller. -/
lemma le_ofDigitChars (cs : List Char) (value : Nat) : value ≤ Nat.ofDigitChars 10 cs value := by
  induction cs generalizing value with
  | nil => exact Nat.le_refl value
  | cons c rest ih =>
    rw [Nat.ofDigitChars_cons]
    exact Nat.le_trans (by omega) (ih _)

/-- **Digits are appended one by one** exactly if the value that they make in the end is below the
limit.

**Proof sketch.** Induction on the digits. The values in between are not above the last one. -/
lemma foldlM_push_eq_ok_iff (below : value < limit) : cs.foldlM (push limit) value = .ok n ↔
    (∀ c ∈ cs, c.isDigit) ∧ Nat.ofDigitChars 10 cs value = n ∧ n < limit := by
  induction cs generalizing value with
  | nil =>
    rw [List.foldlM_nil, Outcome.pure_eq_ok, Except.ok.injEq, Nat.ofDigitChars_nil]
    exact ⟨fun same => ⟨List.forall_mem_nil _, same, same ▸ below⟩, fun h => h.2.1⟩
  | cons c rest ih =>
    rw [List.foldlM_cons, Outcome.bind_eq_ok_iff, List.forall_mem_cons, Nat.ofDigitChars_cons]
    constructor
    · rintro ⟨next, pushed, read⟩
      obtain ⟨digit, rfl, fits⟩ := push_eq_ok_iff.1 pushed
      obtain ⟨digits, same, fits⟩ := (ih fits).1 read
      exact ⟨⟨digit, digits⟩, same, fits⟩
    · rintro ⟨⟨digit, digits⟩, same, fits⟩
      have next_fits : 10 * value + (c.toNat - '0'.toNat) < limit :=
        Nat.lt_of_le_of_lt (le_ofDigitChars rest _) (same ▸ fits)
      exact ⟨_, push_eq_ok_iff.2 ⟨digit, rfl, next_fits⟩, (ih next_fits).2 ⟨digits, same, fits⟩⟩

/-- A run of digits is read if its value is below the limit. -/
lemma readDigits_eq_ok_iff (pos : 0 < limit) :
    readDigits limit cs = .ok n ↔ IsDigits cs n ∧ n < limit := by
  unfold readDigits
  split
  · rename_i empty
    refine iff_of_false (by simp) fun ⟨run, _⟩ => run.nonempty (List.isEmpty_iff.1 empty)
  · rename_i nonempty
    rw [foldlM_push_eq_ok_iff pos]
    constructor
    · rintro ⟨digits, same, fits⟩
      exact ⟨⟨fun empty => nonempty (List.isEmpty_iff.2 empty), digits, same⟩, fits⟩
    · rintro ⟨run, fits⟩
      exact ⟨run.isDigit, run.value_eq, fits⟩

/-- **A text is read** exactly if it is a numeral with a value below the limit, and then as that
value. -/
lemma read_eq_ok_iff (pos : 0 < limit) : read limit cs = .ok n ↔ Denotes cs n ∧ n < limit := by
  unfold read
  split
  · refine iff_of_false (by simp) ?_
    rintro ⟨denotes, -⟩
    cases denotes with
    | plain run => exact run.nonempty rfl
  · rename_i digits
    rw [readDigits_eq_ok_iff pos]
    constructor
    · rintro ⟨run, fits⟩
      exact ⟨.signed run, fits⟩
    · rintro ⟨denotes, fits⟩
      cases denotes with
      | plain run => exact absurd (run.isDigit '+' (List.mem_cons_self ..)) (by decide)
      | signed run => exact ⟨run, fits⟩
  · rename_i unsigned
    rw [readDigits_eq_ok_iff pos]
    constructor
    · rintro ⟨run, fits⟩
      exact ⟨.plain run, fits⟩
    · rintro ⟨denotes, fits⟩
      cases denotes with
      | plain run => exact ⟨run, fits⟩
      | signed run => exact absurd rfl (unsigned _)

end Microbatch.Numeral

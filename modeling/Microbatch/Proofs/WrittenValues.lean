import Mathlib.Data.List.TakeWhile
import Microbatch.CommandLine.Values
import Microbatch.Proofs.Targets

set_option relaxedAutoImplicit false
set_option autoImplicit false

/-!
# How anchors and input shapes are written

An anchor is a name, an equals sign and a policy, the shape of an input a name, an equals sign and
dimensions with commas between them. Names may hold any characters, and so the equals sign that ends
the name of an anchor is the last one: no policy has one. Dimensions have none either, but the name
of a shape ends with the first equals sign, so that it cannot hold one. Between commas there may be
nothing, which counts as no dimension; blanks around a dimension do not count, but blanks alone are
no dimension.

## Main definitions

* `Microbatch.CommandLine.WrittenAnchor`, `Microbatch.CommandLine.WrittenShape` — the texts that
  stand for an anchor and for the shape of an input.
* `Microbatch.CommandLine.Padded` — a number in decimal with blanks around it.

## Main results

* `Microbatch.CommandLine.readAnchor_eq_ok_iff`, `Microbatch.CommandLine.readShape_eq_ok_iff` — a
  text is read as what it stands for.
* `Microbatch.CommandLine.values_read_back` — what is written for an anchor or a shape is read back.
-/

namespace Microbatch

/-! ### Blanks -/

section Blanks

variable {front middle back cs : List Char}

/-- Every text is its trimmed form with blanks around it. -/
lemma exists_blanks (cs : List Char) : ∃ front back, cs = front ++ trim cs ++ back ∧
    ∀ c ∈ front ++ back, isBlank c := by
  have cut_front := List.takeWhile_append_dropWhile (p := isBlank) (l := cs)
  have cut_back :=
    List.takeWhile_append_dropWhile (p := isBlank) (l := (cs.dropWhile isBlank).reverse)
  refine ⟨cs.takeWhile isBlank, ((cs.dropWhile isBlank).reverse.takeWhile isBlank).reverse, ?_, ?_⟩
  · rw [trim, List.append_assoc, ← List.reverse_append, cut_back, List.reverse_reverse, cut_front]
  · intro c member
    rcases List.mem_append.1 member with member | member
    · exact List.mem_takeWhile_imp member
    · exact List.mem_takeWhile_imp (List.mem_reverse.1 member)

/-- Blanks in front of a text without blanks are passed over, and nothing else is. -/
lemma dropWhile_blanks (blank : ∀ c ∈ front, isBlank c) (ink : ∀ c ∈ middle, ¬ isBlank c)
    (some_ink : middle ≠ []) : (front ++ (middle ++ back)).dropWhile isBlank = middle ++ back := by
  rw [List.dropWhile_append_of_pos blank]
  cases middle with
  | nil => exact absurd rfl some_ink
  | cons c rest => exact List.dropWhile_cons_of_neg (ink c (List.mem_cons_self ..))

/-- **Blanks around a text without blanks** are trimmed off. -/
lemma trim_append (blank : ∀ c ∈ front ++ back, isBlank c) (ink : ∀ c ∈ middle, ¬ isBlank c)
    (some_ink : middle ≠ []) : trim (front ++ middle ++ back) = middle := by
  obtain ⟨blank_front, blank_back⟩ := List.forall_mem_append.1 blank
  have reversed : (middle ++ back).reverse = back.reverse ++ (middle.reverse ++ []) := by simp
  rw [trim, List.append_assoc, dropWhile_blanks blank_front ink some_ink, reversed,
    dropWhile_blanks (fun c member => blank_back c (List.mem_reverse.1 member))
      (fun c member => ink c (List.mem_reverse.1 member)) (mt List.reverse_eq_nil_iff.1 some_ink),
    List.append_nil, List.reverse_reverse]

/-- A digit is no blank. -/
lemma not_isBlank_of_isDigit {c : Char} (digit : c.isDigit) : ¬ isBlank c := by
  have bounds : 48 ≤ c.toNat ∧ c.toNat ≤ 57 := by
    simpa [Char.isDigit, UInt32.le_iff_toNat_le] using digit
  simp only [isBlank, blankRanges, List.any_cons, List.any_nil, Bool.or_eq_true, Bool.and_eq_true,
    decide_eq_true_eq, Bool.false_eq_true, or_false]
  omega

end Blanks

/-! ### Numerals -/

namespace Numeral

variable {numeral : List Char} {value : Nat}

/-- A numeral has a character. -/
lemma Denotes.ne_nil (denotes : Denotes numeral value) : numeral ≠ [] := by
  cases denotes with
  | plain run => exact run.nonempty
  | signed run => exact List.cons_ne_nil _ _

/-- The characters of a numeral are digits and the plus sign. -/
lemma Denotes.isDigit_or_plus (denotes : Denotes numeral value) {c : Char} (member : c ∈ numeral) :
    c.isDigit ∨ c = '+' := by
  cases denotes with
  | plain run => exact .inl (run.isDigit c member)
  | signed run =>
    rcases List.mem_cons.1 member with rfl | digit
    · exact .inr rfl
    · exact .inl (run.isDigit c digit)

/-- A numeral has no blanks. -/
lemma Denotes.not_isBlank (denotes : Denotes numeral value) :
    ∀ c ∈ numeral, ¬ isBlank c := by
  intro c member
  rcases denotes.isDigit_or_plus member with digit | rfl
  · exact not_isBlank_of_isDigit digit
  · decide

end Numeral

/-! ### Policies -/

namespace Policy

variable {p : Policy} {text : String}

/-- The letters of a policy, as small ones. -/
def letters (p : Policy) : List Char := p.name.toList.map Char.toLower

lemma isLower_letters (p : Policy) : ∀ c ∈ p.letters, c.isLower := by
  cases p <;> exact List.all_eq_true.1 (by decide +kernel)

/-- The written form of a policy has the capitals of its letters. -/
lemma map_toUpper_letters (p : Policy) : p.letters.map Char.toUpper = p.name.toList := by
  cases p <;> decide +kernel

/-- Texts of the same capitals have the same small letters. -/
lemma map_toUpper_eq_iff {small spelled : List Char} (lower : ∀ c ∈ small, c.isLower) :
    spelled.map Char.toUpper = small.map Char.toUpper ↔ InAnyCase small spelled :=
  map_eq_map_iff fun s member _ => toUpper_eq_iff (lower s member)

/-- **A policy is read in any letter case.** -/
lemma ofText?_eq_some_iff : ofText? text = some p ↔ InAnyCase p.letters text.toList := by
  rw [← map_toUpper_eq_iff p.isLower_letters, map_toUpper_letters]
  constructor
  · intro read
    unfold ofText? at read
    split at read
    · cases read
      assumption
    · cases read
      assumption
    · cases read
      assumption
    · cases read
  · intro capitals
    have name_capitals : p.name.toList.map Char.toUpper = p.name.toList := by
      cases p <;> decide +kernel
    rw [← ofText?_name p, ofText?, ofText?, capitals, name_capitals]

/-- No policy has an equals sign. -/
lemma not_mem_of_inAnyCase {spelled : List Char} (h : InAnyCase p.letters spelled) :
    '=' ∉ spelled := by
  intro member
  have capital := List.mem_map_of_mem (f := Char.toUpper) member
  rw [(map_toUpper_eq_iff p.isLower_letters).2 h, map_toUpper_letters] at capital
  cases p <;> exact absurd capital (by decide +kernel)

end Policy

namespace CommandLine

open Numeral (Denotes)

/-! ### Marks -/

section Marks

variable {mark : Char} {cs before after : List Char}

/-- A text without a mark is not cut. -/
lemma splitFirst?_eq_none (unmarked : mark ∉ cs) : splitFirst? mark cs = none := by
  induction cs with
  | nil => rfl
  | cons c rest ih =>
    rw [List.mem_cons, not_or] at unmarked
    rw [splitFirst?, if_neg (Ne.symm unmarked.1), ih unmarked.2]
    rfl

/-- What stands in front of the cut has no mark. -/
lemma splitFirst?_append (first : mark ∉ before) :
    splitFirst? mark (before ++ mark :: after) = some (before, after) := by
  induction before with
  | nil => simp [splitFirst?]
  | cons c before ih =>
    rw [List.mem_cons, not_or] at first
    rw [List.cons_append, splitFirst?, if_neg (Ne.symm first.1), ih first.2]
    rfl

/-- **A text is cut at the first mark** in it. -/
lemma splitFirst?_eq_some_iff :
    splitFirst? mark cs = some (before, after) ↔ cs = before ++ mark :: after ∧ mark ∉ before := by
  refine ⟨fun cut => ?_, fun ⟨whole, first⟩ => whole ▸ splitFirst?_append first⟩
  by_cases marked : mark ∈ cs
  · obtain ⟨front, back, rfl, first⟩ := List.eq_append_cons_of_mem marked
    rw [splitFirst?_append first] at cut
    cases cut
    exact ⟨rfl, first⟩
  · rw [splitFirst?_eq_none marked] at cut
    cases cut

/-- A text without a mark is not cut. -/
lemma splitLast?_eq_none (unmarked : mark ∉ cs) : splitLast? mark cs = none := by
  induction cs with
  | nil => rfl
  | cons c rest ih =>
    rw [List.mem_cons, not_or] at unmarked
    rw [splitLast?, ih unmarked.2]
    exact if_neg (Ne.symm unmarked.1)

/-- What stands behind the cut has no mark. -/
lemma splitLast?_append (last : mark ∉ after) :
    splitLast? mark (before ++ mark :: after) = some (before, after) := by
  induction before with
  | nil =>
    rw [List.nil_append, splitLast?, splitLast?_eq_none last]
    exact if_pos rfl
  | cons c before ih => rw [List.cons_append, splitLast?, ih]

/-- **A text is cut at the last mark** in it. -/
lemma splitLast?_eq_some_iff :
    splitLast? mark cs = some (before, after) ↔ cs = before ++ mark :: after ∧ mark ∉ after := by
  refine ⟨fun cut => ?_, fun ⟨whole, last⟩ => whole ▸ splitLast?_append last⟩
  by_cases marked : mark ∈ cs
  · obtain ⟨back, front, reversed, last⟩ :=
      List.eq_append_cons_of_mem (List.mem_reverse.2 marked)
    obtain rfl : cs = front.reverse ++ mark :: back.reverse := by
      rw [← List.reverse_reverse cs, reversed]
      simp
    rw [splitLast?_append (mt List.mem_reverse.1 last)] at cut
    cases cut
    exact ⟨rfl, mt List.mem_reverse.1 last⟩
  · rw [splitLast?_eq_none marked] at cut
    cases cut

/-- The pieces of a text are its parts between the marks. -/
lemma pieces_eq_splitOn : pieces mark cs = cs.splitOn mark := by
  induction cs with
  | nil => rfl
  | cons c rest ih =>
    rw [pieces, ih, List.splitOn_cons_eq_if_modifyHead]
    simp only [beq_iff_eq]
    split
    · rfl
    · cases parts : rest.splitOn mark with
      | nil => exact absurd parts (List.splitOn_ne_nil mark rest)
      | cons piece more => rfl

end Marks

/-! ### Anchors -/

/-- **The texts that stand for an anchor**: its name, an equals sign and its policy in any letter
case. -/
inductive WrittenAnchor : String → Anchor → Prop
  | mk {name : String} {policy : Policy} {spelled : List Char}
      (policy_spelled : InAnyCase policy.letters spelled) :
      WrittenAnchor (name ++ "=" ++ .ofList spelled) ⟨name, policy⟩

variable {text : String} {a : Anchor} {shape : String × List Nat}

/-- **A text is read as the anchor that it stands for.** -/
lemma readAnchor_eq_ok_iff : readAnchor text = .ok a ↔ WrittenAnchor text a := by
  unfold readAnchor
  constructor
  · intro read
    split at read
    · cases read
    · rename_i name policy cut
      obtain ⟨whole, -⟩ := splitLast?_eq_some_iff.1 cut
      rw [Outcome.mapError_eq_ok_iff, DataFlow.readAnchor] at read
      split at read
      · rename_i p known
        cases read
        have spelled := Policy.ofText?_eq_some_iff.1 known
        rw [String.toList_ofList] at spelled
        have parts : text = String.ofList name ++ "=" ++ String.ofList policy :=
          String.toList_inj.1 (by simp [whole])
        exact parts ▸ .mk spelled
      · cases read
  · rintro ⟨policy_spelled⟩
    rename_i name policy spelled
    have chars : (name ++ "=" ++ String.ofList spelled).toList = name.toList ++ '=' :: spelled := by
      simp
    have known : Policy.ofText? (String.ofList spelled) = some policy :=
      Policy.ofText?_eq_some_iff.2 (by rwa [String.toList_ofList])
    rw [chars, splitLast?_append (Policy.not_mem_of_inAnyCase policy_spelled)]
    simp only [Outcome.mapError_eq_ok_iff, DataFlow.readAnchor, known, String.ofList_toList]

/-- The written form of an anchor stands for it. -/
lemma written_renderAnchor (a : Anchor) : WrittenAnchor (renderAnchor a) a := by
  have capitals : InAnyCase a.policy.letters a.policy.name.toList := by
    rw [← Policy.ofText?_eq_some_iff, Policy.ofText?_name]
  have written : WrittenAnchor (a.name ++ "=" ++ .ofList a.policy.name.toList) ⟨a.name, a.policy⟩ :=
    .mk capitals
  simpa [renderAnchor] using written

/-! ### Input shapes -/

/-- **The texts that stand for a dimension**: a numeral with a value that is a size, with blanks
around it. -/
inductive WrittenDimension : List Char → Nat → Prop
  | mk {front numeral back : List Char} {n : Nat} (blank : ∀ c ∈ front ++ back, isBlank c)
      (denotes : Denotes numeral n) (fits : n < Size.limit) :
      WrittenDimension (front ++ numeral ++ back) n

/-- **The texts that stand for the shape of an input**: its name, an equals sign that is the first
one, and texts with commas between them, each one empty or a dimension. -/
inductive WrittenShape : String → String × List Nat → Prop
  | mk {name : String} {parts : List (List Char)} {dims : List Nat} (name_ends : '=' ∉ name.toList)
      (each : List.Forall₂ WrittenDimension (parts.filter fun part => !part.isEmpty) dims) :
      WrittenShape (name ++ "=" ++ .ofList ([','].intercalate parts)) (name, dims)

/-- A text is read as the dimension that it stands for. -/
lemma readDimension_eq_ok_iff {part : List Char} {n : Nat} :
    readDimension part = .ok n ↔ WrittenDimension part n := by
  have some_size : 0 < Size.limit := by decide
  rw [readDimension, Outcome.mapError_eq_ok_iff, Numeral.read_eq_ok_iff some_size]
  constructor
  · rintro ⟨denotes, fits⟩
    obtain ⟨front, back, whole, blank⟩ := exists_blanks part
    rw [whole]
    exact .mk blank denotes fits
  · rintro ⟨blank, denotes, fits⟩
    rw [trim_append blank denotes.not_isBlank denotes.ne_nil]
    exact ⟨denotes, fits⟩

/-- Blanks and the characters of numerals are no commas. -/
lemma WrittenDimension.not_mem {part : List Char} {n : Nat} (written : WrittenDimension part n) :
    ',' ∉ part := by
  intro member
  cases written with
  | mk blank denotes fits =>
    rcases List.mem_append.1 member with member | member
    · rcases List.mem_append.1 member with member | member
      · exact absurd (blank _ (List.mem_append_left _ member)) (by decide)
      · exact absurd (denotes.isDigit_or_plus member) (by decide)
    · exact absurd (blank _ (List.mem_append_right _ member)) (by decide)

/-- Parts without commas are found again between the commas of the text that they make up. Without
any part the text has one piece, which is empty. -/
lemma filter_pieces_intercalate {parts : List (List Char)} (free : ∀ part ∈ parts, ',' ∉ part) :
    (pieces ',' ([','].intercalate parts)).filter (fun part => !part.isEmpty) =
      parts.filter fun part => !part.isEmpty := by
  by_cases empty : parts = []
  · rw [empty]
    rfl
  · rw [pieces_eq_splitOn, List.splitOn_intercalate _ free empty]

/-- **A text is read as the shape that it stands for.** -/
lemma readShape_eq_ok_iff : readShape text = .ok shape ↔ WrittenShape text shape := by
  unfold readShape
  constructor
  · intro read
    split at read
    · cases read
    · rename_i name dims cut
      obtain ⟨whole, name_ends⟩ := splitFirst?_eq_some_iff.1 cut
      obtain ⟨sizes, each, same⟩ := Outcome.bind_eq_ok_iff.1 read
      cases same
      rw [Outcome.mapM_eq_ok_iff] at each
      simp only [readDimension_eq_ok_iff] at each
      have parts : text = String.ofList name ++ "=" ++
          String.ofList ([','].intercalate (pieces ',' dims)) := by
        rw [pieces_eq_splitOn, List.intercalate_splitOn]
        exact String.toList_inj.1 (by simp [whole])
      exact parts ▸ .mk (by rwa [String.toList_ofList]) each
  · rintro ⟨name_ends, each⟩
    rename_i name parts dims
    have chars : (name ++ "=" ++ String.ofList ([','].intercalate parts)).toList =
        name.toList ++ '=' :: [','].intercalate parts := by
      simp
    have free : ∀ part ∈ parts, ',' ∉ part := by
      intro part member
      by_cases empty : part = []
      · simp [empty]
      · have kept : part ∈ parts.filter fun part => !part.isEmpty :=
          List.mem_filter.2 ⟨member, by simp [empty]⟩
        obtain ⟨n, -, written⟩ := Outcome.exists_of_forall₂_right each.flip kept
        exact written.not_mem
    rw [chars, splitFirst?_append name_ends]
    simp only [filter_pieces_intercalate free]
    have sizes : (parts.filter fun part => !part.isEmpty).mapM readDimension = .ok dims := by
      rw [Outcome.mapM_eq_ok_iff]
      simpa only [readDimension_eq_ok_iff] using each
    rw [sizes, String.ofList_toList]
    rfl

/-- **A number in decimal**, with blanks around it. -/
inductive Padded : String → Nat → Prop
  | mk {front back : List Char} (blank : ∀ c ∈ front ++ back, isBlank c) (n : Nat) :
      Padded (.ofList front ++ toString n ++ .ofList back) n

/-- A number in decimal is a dimension, if it is a size. -/
lemma Padded.written {part : String} {n : Nat} (padded : Padded part n) (fits : n < Size.limit) :
    WrittenDimension part.toList n := by
  cases padded with
  | mk blank n => simpa using WrittenDimension.mk blank (Numeral.denotes_toDigits n) fits

/-- A dimension is not empty. -/
lemma WrittenDimension.isEmpty_eq {part : List Char} {n : Nat}
    (written : WrittenDimension part n) : part.isEmpty = false := by
  cases written with
  | mk blank denotes fits => simp [denotes.ne_nil]

/-- Numbers in decimal are dimensions, if they are sizes. -/
lemma forall₂_writtenDimension {dims : List Nat} {written : List String}
    (fits : ∀ d ∈ dims, d < Size.limit) (each : List.Forall₂ Padded written dims) :
    List.Forall₂ WrittenDimension (written.map String.toList) dims := by
  induction each with
  | nil => exact .nil
  | cons padded _ ih =>
    obtain ⟨first, others⟩ := List.forall_mem_cons.1 fits
    exact .cons (padded.written first) (ih others)

/-- **Numbers in decimal with commas between them**, behind a name and an equals sign, stand for a
shape. -/
lemma written_of_padded {name : String} {dims : List Nat} {written : List String}
    (name_ends : '=' ∉ name.toList) (fits : ∀ d ∈ dims, d < Size.limit)
    (each : List.Forall₂ Padded written dims) :
    WrittenShape (name ++ "=" ++ ",".intercalate written) (name, dims) := by
  have dimensions := forall₂_writtenDimension fits each
  have kept : (written.map String.toList).filter (fun part => !part.isEmpty) =
      written.map String.toList := by
    refine List.filter_eq_self.2 fun part member => ?_
    obtain ⟨n, -, dimension⟩ := Outcome.exists_of_forall₂_right dimensions.flip member
    rw [dimension.isEmpty_eq]
    rfl
  have text : ",".intercalate written =
      String.ofList ([','].intercalate (written.map String.toList)) :=
    String.toList_inj.1 (by simp [String.toList_intercalate])
  rw [text]
  exact .mk name_ends (kept.symm ▸ dimensions)

/-- What stands for a shape has a name without an equals sign, and sizes for dimensions. -/
lemma WrittenShape.dims_lt (written : WrittenShape text shape) :
    '=' ∉ shape.1.toList ∧ ∀ d ∈ shape.2, d < Size.limit := by
  cases written with
  | mk name_ends each =>
    refine ⟨name_ends, fun d member => ?_⟩
    obtain ⟨part, -, written⟩ := Outcome.exists_of_forall₂_right each member
    cases written with
    | mk blank denotes fits => exact fits

/-- **The written form of a shape stands for it**, if its name has no equals sign and its dimensions
are sizes. -/
lemma written_renderShape (name_ends : '=' ∉ shape.1.toList)
    (fits : ∀ d ∈ shape.2, d < Size.limit) : WrittenShape (renderShape shape) shape := by
  have plain : ∀ d ∈ shape.2, Padded (toString d) d := by
    intro d _
    have unpadded : Padded (.ofList [] ++ toString d ++ .ofList []) d := .mk (by simp) d
    simpa using unpadded
  exact written_of_padded name_ends fits
    (List.forall₂_map_left_iff.2 (List.forall₂_same.2 plain))

/-- **What is written is read back.** A name, any equals signs in it included, with a policy in any
letter case is read as that anchor. A name without an equals sign with any number of sizes in
decimal, blanks around each of them or not, is read as that shape. A text is read exactly as the
anchor or the shape that it stands for; and what was read is read again from its written form.

**Proof sketch.** A text is cut at one of its marks, and the part on the other side of the cut has
none: no policy has an equals sign, and a name that ends at the first one has none either. Between
the commas of a shape are the parts that it was put together from, since no dimension has one. -/
theorem values_read_back :
    (∀ (name : String) (policy : Policy) (spelled : List Char),
      InAnyCase policy.letters spelled →
      readAnchor (name ++ "=" ++ .ofList spelled) = .ok ⟨name, policy⟩) ∧
    (∀ (name : String) (dims : List Nat) (written : List String), '=' ∉ name.toList →
      (∀ d ∈ dims, d < Size.limit) → List.Forall₂ Padded written dims →
      readShape (name ++ "=" ++ ",".intercalate written) = .ok (name, dims)) ∧
    (∀ text a, readAnchor text = .ok a ↔ WrittenAnchor text a) ∧
    (∀ text shape, readShape text = .ok shape ↔ WrittenShape text shape) ∧
    (∀ text a, readAnchor text = .ok a → readAnchor (renderAnchor a) = .ok a) ∧
    ∀ text shape, readShape text = .ok shape → readShape (renderShape shape) = .ok shape := by
  refine ⟨fun name policy spelled in_case => ?_, fun name dims written name_ends fits each => ?_,
    fun text a => readAnchor_eq_ok_iff, fun text shape => readShape_eq_ok_iff,
    fun text a read => ?_, fun text shape read => ?_⟩
  · exact readAnchor_eq_ok_iff.2 (.mk in_case)
  · exact readShape_eq_ok_iff.2 (written_of_padded name_ends fits each)
  · exact readAnchor_eq_ok_iff.2 (written_renderAnchor a)
  · obtain ⟨name_ends, fits⟩ := (readShape_eq_ok_iff.1 read).dims_lt
    exact readShape_eq_ok_iff.2 (written_renderShape name_ends fits)

/-- **An equals sign in a name, blanks and the largest size**: all are read back; and a sign, zeros
and empty parts are gone when what was read is written again. -/
theorem values_read_back_sample :
    readAnchor "a=b=fInAl" = .ok ⟨"a=b", .last⟩ ∧
    readShape "x= 8,18446744073709551615 " = .ok ("x", [8, 18446744073709551615]) ∧
    readShape "scalar=" = .ok ("scalar", []) ∧
    readShape "x=,+08,,4," = .ok ("x", [8, 4]) ∧ renderShape ("x", [8, 4]) = "x=8,4" ∧
    readShape "x=8,4" = .ok ("x", [8, 4]) := by
  obtain ⟨anchors, shapes, -, -, -, again⟩ := values_read_back
  have known : Policy.ofText? "fInAl" = some .last := by decide +kernel
  have letters := Policy.ofText?_eq_some_iff.1 known
  have small : Padded " 8" 8 := by
    have text : " 8" = String.ofList [' '] ++ toString 8 ++ String.ofList [] := by decide +kernel
    rw [text]
    exact .mk (List.all_eq_true.1 (by decide)) 8
  have large : Padded "18446744073709551615 " 18446744073709551615 := by
    have text : "18446744073709551615 " =
        String.ofList [] ++ toString 18446744073709551615 ++ String.ofList [' '] := by
      decide +kernel
    rw [text]
    exact .mk (List.all_eq_true.1 (by decide)) 18446744073709551615
  have signed : readShape "x=,+08,,4," = .ok ("x", [8, 4]) := by decide +kernel
  exact ⟨anchors "a=b" .last _ letters,
    shapes "x" _ _ (by decide) (by decide) (.cons small (.cons large .nil)),
    shapes "scalar" [] [] (by decide) (by decide) .nil, signed, by decide +kernel,
    again _ _ signed⟩

end CommandLine

end Microbatch

import Mathlib.Algebra.Group.Nat.Defs
import Microbatch.CommandLine.Run
import Microbatch.Proofs.Numerals

set_option relaxedAutoImplicit false
set_option autoImplicit false

/-!
# How targets are written

A target has one written form that is printed for it, and others that are read as well: the host in
any letter case, and the number of a simulator or of an accelerator as any numeral with its value. A
simulator has at least one partition, so that the one target that is not read back is a simulator
without partitions.

## Main definitions

* `Microbatch.InAnyCase` — a text up to the case of its letters.
* `Microbatch.Target.Written` — the texts that stand for a target.

## Main results

* `Microbatch.Target.ofText?_eq_some_iff` — a text is read as the target that it stands for.
* `Microbatch.Target.ofText?_render` — what is printed is read back.
* `Microbatch.Target.written_forms` — both, with the fault of every other text.
-/

namespace Microbatch

/-! ### Letter case -/

/-- **A text in any letter case**: each letter is the small one or its capital. -/
def InAnyCase (small text : List Char) : Prop :=
  List.Forall₂ (fun c s => c = s ∨ c = s.toUpper) text small

/-- Small letters by their numbers. -/
lemma isLower_iff {c : Char} : c.isLower ↔ 97 ≤ c.toNat ∧ c.toNat ≤ 122 := by
  unfold Char.isLower
  rw [Bool.and_eq_true, decide_eq_true_iff, decide_eq_true_iff]
  exact and_congr UInt32.le_iff_toNat_le UInt32.le_iff_toNat_le

/-- Of a small letter, the capital is 32 places before it. -/
lemma toNat_toUpper (c : Char) : c.toUpper.toNat =
    if 97 ≤ c.toNat ∧ c.toNat ≤ 122 then c.toNat - 32 else c.toNat := by
  unfold Char.toUpper
  split
  · rename_i small
    have letter : 97 ≤ c.toNat ∧ c.toNat ≤ 122 :=
      ⟨UInt32.le_iff_toNat_le.1 small.1, UInt32.le_iff_toNat_le.1 small.2⟩
    rw [if_pos letter]
    show (c.val + ('A'.val - 'a'.val)).toNat = _
    rw [UInt32.toNat_add]
    show (c.toNat + 4294967264) % 4294967296 = _
    omega
  · rename_i other
    rw [if_neg fun letter =>
      other ⟨UInt32.le_iff_toNat_le.2 letter.1, UInt32.le_iff_toNat_le.2 letter.2⟩]

/-- Of a capital, the small letter is 32 places behind it. -/
lemma toNat_toLower (c : Char) : c.toLower.toNat =
    if 65 ≤ c.toNat ∧ c.toNat ≤ 90 then c.toNat + 32 else c.toNat := by
  unfold Char.toLower
  split
  · rename_i capital
    have letter : 65 ≤ c.toNat ∧ c.toNat ≤ 90 :=
      ⟨UInt32.le_iff_toNat_le.1 capital.1, UInt32.le_iff_toNat_le.1 capital.2⟩
    rw [if_pos letter]
    show (c.val + ('a'.val - 'A'.val)).toNat = _
    rw [UInt32.toNat_add]
    show (c.toNat + 32) % 4294967296 = _
    omega
  · rename_i other
    rw [if_neg fun letter =>
      other ⟨UInt32.le_iff_toNat_le.2 letter.1, UInt32.le_iff_toNat_le.2 letter.2⟩]

/-- A small letter is that of itself and of its capital. -/
lemma toLower_eq_iff {c small : Char} (lower : small.isLower) :
    c.toLower = small ↔ c = small ∨ c = small.toUpper := by
  have letter := isLower_iff.1 lower
  rw [← Char.toNat_inj, ← Char.toNat_inj, ← Char.toNat_inj, toNat_toLower, toNat_toUpper,
    if_pos letter]
  split <;> omega

/-- A capital is that of its small letter and of itself. -/
lemma toUpper_eq_iff {c small : Char} (lower : small.isLower) :
    c.toUpper = small.toUpper ↔ c = small ∨ c = small.toUpper := by
  have letter := isLower_iff.1 lower
  rw [← Char.toNat_inj, ← Char.toNat_inj, ← Char.toNat_inj, toNat_toUpper, toNat_toUpper,
    if_pos letter]
  split <;> omega
/-- **Images of a text tell which small letters it has** in any case, if those of its characters
do. -/
lemma map_eq_map_iff {f g : Char → Char} {small text : List Char}
    (each : ∀ s ∈ small, ∀ c, f c = g s ↔ c = s ∨ c = s.toUpper) :
    text.map f = small.map g ↔ InAnyCase small text := by
  rw [← Outcome.forall₂_eq_iff_map, List.forall₂_map_right_iff, InAnyCase]
  induction small generalizing text with
  | nil => simp only [List.forall₂_nil_right_iff]
  | cons s small ih =>
    obtain ⟨first, others⟩ := List.forall_mem_cons.1 each
    simp only [List.forall₂_cons_right_iff, first, ih others]

/-- A text with small letters in place of capitals is some small letters exactly if it is them in
any letter case. -/
lemma map_toLower_eq_iff {small text : List Char} (lower : ∀ c ∈ small, c.isLower) :
    text.map Char.toLower = small ↔ InAnyCase small text := by
  have images : text.map Char.toLower = small.map id ↔ InAnyCase small text :=
    map_eq_map_iff fun s member _ => toLower_eq_iff (lower s member)
  rwa [List.map_id] at images

namespace Target

open Numeral (Denotes)
open CommandLine (RunArguments)

/-! ### Written forms -/

/-- **The texts that stand for a target.** Only the host may be written in any letter case. -/
inductive Written : String → Target → Prop
  /-- The host. -/
  | cpu {text : List Char} (spelled : InAnyCase ['c', 'p', 'u'] text) :
      Written (.ofList text) .cpu
  /-- A simulator with at least one partition. -/
  | simulated {numeral : List Char} {value : Nat} (denotes : Denotes numeral value)
      (least : 1 ≤ value) (most : value ≤ 2 ^ 32 - 1) :
      Written ("sim:" ++ .ofList numeral) (.simulated (.ofNat value))
  /-- An accelerator. -/
  | accelerator {numeral : List Char} {value : Nat} (denotes : Denotes numeral value)
      (most : value ≤ 2 ^ 32 - 1) :
      Written ("hw:" ++ .ofList numeral) (.accelerator (.ofNat value))

variable {text : String} {t : Target} {numeral : List Char}

/-- Of the numbers of 32 bits only zero is zero. -/
lemma ofNat_eq_zero_iff {value : Nat} (most : value ≤ 2 ^ 32 - 1) :
    UInt32.ofNat value = 0 ↔ value = 0 := by
  rw [← UInt32.toNat_inj, UInt32.toNat_ofNat', Nat.mod_eq_of_lt (by omega)]
  rfl

/-- A number of 32 bits is read from a numeral with its value. -/
lemma number?_eq_some_iff {n : UInt32} : number? numeral = some n ↔
    ∃ value, Denotes numeral value ∧ value ≤ 2 ^ 32 - 1 ∧ .ofNat value = n := by
  have below_iff : ∀ value, value < UInt32.size ↔ value ≤ 2 ^ 32 - 1 := by
    intro value
    rw [UInt32.size]
    omega
  have some_number : 0 < UInt32.size := by decide
  rw [number?, Option.map_eq_some_iff]
  simp only [Outcome.toOption_eq_some_iff, Numeral.read_eq_ok_iff some_number, below_iff, and_assoc]

/-- The name of the host has small letters. -/
lemma isLower_host : ∀ c ∈ ['c', 'p', 'u'], c.isLower :=
  List.all_eq_true.1 rfl

/-- The host is read in any letter case. -/
lemma ofText?_of_inAnyCase (spelled : InAnyCase ['c', 'p', 'u'] text.toList) :
    ofText? text = some .cpu :=
  if_pos ((map_toLower_eq_iff isLower_host).2 spelled)

/-- A simulator is read from its number of partitions. -/
lemma ofText?_sim (numeral : List Char) : ofText? ("sim:" ++ .ofList numeral) =
    (number? numeral).bind fun n => if n = 0 then none else some (.simulated n) := by
  have chars : ("sim:" ++ String.ofList numeral).toList = 's' :: 'i' :: 'm' :: ':' :: numeral := by
    simp
  rw [ofText?, chars, if_neg (by simp)]
  rfl

/-- An accelerator is read from its number. -/
lemma ofText?_hw (numeral : List Char) :
    ofText? ("hw:" ++ .ofList numeral) = (number? numeral).map .accelerator := by
  have chars : ("hw:" ++ String.ofList numeral).toList = 'h' :: 'w' :: ':' :: numeral := by
    simp
  rw [ofText?, chars, if_neg (by simp)]
  rfl

/-- A text that is read is of one of the three forms. -/
lemma form_of_ofText? (read : ofText? text = some t) :
    (InAnyCase ['c', 'p', 'u'] text.toList ∧ t = .cpu) ∨
      ∃ numeral, text = "sim:" ++ .ofList numeral ∨ text = "hw:" ++ .ofList numeral := by
  unfold ofText? at read
  split at read
  · rename_i host
    exact .inl ⟨(map_toLower_eq_iff isLower_host).1 host, (Option.some.inj read).symm⟩
  right
  split at read
  · rename_i numeral chars
    exact ⟨numeral, .inl (String.toList_inj.1 (by rw [chars]; simp))⟩
  · rename_i numeral chars
    exact ⟨numeral, .inr (String.toList_inj.1 (by rw [chars]; simp))⟩
  · cases read

/-- **A text is read as the target that it stands for.** -/
lemma ofText?_eq_some_iff : ofText? text = some t ↔ Written text t := by
  constructor
  · intro read
    obtain ⟨spelled, rfl⟩ | ⟨numeral, rfl | rfl⟩ := form_of_ofText? read
    · simpa using Written.cpu spelled
    · rw [ofText?_sim, Option.bind_eq_some_iff] at read
      obtain ⟨n, number, read⟩ := read
      obtain ⟨value, denotes, most, rfl⟩ := number?_eq_some_iff.1 number
      split at read
      · cases read
      · rename_i nonzero
        cases read
        have least := Nat.one_le_iff_ne_zero.2 (mt (ofNat_eq_zero_iff most).2 nonzero)
        exact .simulated denotes least most
    · rw [ofText?_hw, Option.map_eq_some_iff] at read
      obtain ⟨n, number, rfl⟩ := read
      obtain ⟨value, denotes, most, rfl⟩ := number?_eq_some_iff.1 number
      exact .accelerator denotes most
  · intro written
    cases written with
    | cpu spelled => exact ofText?_of_inAnyCase (by simpa using spelled)
    | simulated denotes least most =>
      have nonzero := mt (ofNat_eq_zero_iff most).1 (Nat.one_le_iff_ne_zero.1 least)
      rw [ofText?_sim, number?_eq_some_iff.2 ⟨_, denotes, most, rfl⟩, Option.bind_some,
        if_neg nonzero]
    | accelerator denotes most =>
      rw [ofText?_hw, number?_eq_some_iff.2 ⟨_, denotes, most, rfl⟩, Option.map_some]

/-- The printed form of a target stands for it, unless it is a simulator without partitions. -/
lemma written_render (partitioned : t ≠ .simulated 0) : Written t.render t := by
  have digits : ∀ n : UInt32, toString n.toNat = String.ofList (Nat.toDigits 10 n.toNat) := by
    intro n
    exact String.toList_inj.1 (by simp)
  cases t with
  | cpu => exact .cpu (show InAnyCase ['c', 'p', 'u'] ['c', 'p', 'u'] by simp [InAnyCase])
  | simulated n =>
    have least : 1 ≤ n.toNat := by
      refine Nat.one_le_iff_ne_zero.2 fun zero => partitioned ?_
      rw [UInt32.toNat_inj.1 (show n.toNat = (0 : UInt32).toNat from zero)]
    have most : n.toNat ≤ 2 ^ 32 - 1 := Nat.le_sub_one_of_lt n.toNat_lt
    have written := Written.simulated (Numeral.denotes_toDigits n.toNat) least most
    rwa [← digits, UInt32.ofNat_toNat] at written
  | accelerator n =>
    have most : n.toNat ≤ 2 ^ 32 - 1 := Nat.le_sub_one_of_lt n.toNat_lt
    have written := Written.accelerator (Numeral.denotes_toDigits n.toNat) most
    rwa [← digits, UInt32.ofNat_toNat] at written

/-- **What is printed is read back.** -/
lemma ofText?_render (partitioned : t ≠ .simulated 0) : ofText? t.render = some t :=
  ofText?_eq_some_iff.2 (written_render partitioned)

/-- No text stands for a simulator without partitions. -/
lemma Written.ne_simulated_zero (written : Written text t) : t ≠ .simulated 0 := by
  cases written with
  | cpu spelled => exact nofun
  | simulated denotes least most =>
    intro same
    exact Nat.one_le_iff_ne_zero.1 least ((ofNat_eq_zero_iff most).1 (simulated.inj same))
  | accelerator denotes most => exact nofun

/-- The target of a run is what its text stands for. -/
lemma target_eq_ok_iff {a : RunArguments} : a.target = .ok t ↔ Written a.device t := by
  rw [← ofText?_eq_some_iff, RunArguments.target]
  cases ofText? a.device <;> simp

/-- **How targets are written.** Every target but a simulator without partitions is read back from
its printed form. A text is read exactly as the target that it stands for: the host in any letter
case, or `sim:` or `hw:` and a numeral, of which only the value matters, with leading zeros and a
plus sign or not. A run has that target, and is refused as a wrong configuration if its text stands
for none. What was read is read again from its printed form.

**Proof sketch.** A text is of one of three forms or not read at all; a number is read exactly if it
is a numeral with a value of 32 bits. The printed form has the digits of the number, which denote
it. -/
theorem written_forms :
    (∀ t : Target, t ≠ .simulated 0 → ofText? t.render = some t) ∧
    (∀ text t, ofText? text = some t ↔ Written text t) ∧
    (∀ digits value, Numeral.IsDigits digits value → ∀ zeros,
      Denotes (List.replicate zeros '0' ++ digits) value ∧
      Denotes ('+' :: (List.replicate zeros '0' ++ digits)) value) ∧
    (∀ a : RunArguments, (∀ t, a.target = .ok t ↔ Written a.device t) ∧
      ((∀ t, ¬ Written a.device t) →
        a.target = .error (.configuration (.unsupportedTarget a.device)))) ∧
    ∀ text t, ofText? text = some t → ofText? t.render = some t := by
  refine ⟨fun t => ofText?_render, fun text t => ofText?_eq_some_iff, fun digits value run zeros =>
    ⟨.plain (run.zeros zeros), .signed (run.zeros zeros)⟩,
    fun a => ⟨fun t => target_eq_ok_iff, fun no_target => ?_⟩, fun text t read => ?_⟩
  · rw [RunArguments.target]
    cases read : ofText? a.device with
    | none => rfl
    | some t => exact absurd (ofText?_eq_some_iff.1 read) (no_target t)
  · exact ofText?_render (ofText?_eq_some_iff.1 read).ne_simulated_zero

/-- **Signs, zeros and letter case**: the largest number of partitions behind a plus sign and zeros
is read, and read again as it is printed; one partition more is refused. -/
theorem written_forms_sample :
    ofText? "sim:+004294967295" = some (.simulated 4294967295) ∧
    ofText? (simulated 4294967295).render = some (.simulated 4294967295) ∧
    ({ device := "cPU" } : RunArguments).target = .ok .cpu ∧
    ({ device := "sim:4294967296" } : RunArguments).target =
      .error (.configuration (.unsupportedTarget "sim:4294967296")) := by
  obtain ⟨-, read_iff, -, run, again⟩ := written_forms
  have largest : ofText? "sim:+004294967295" = some (.simulated 4294967295) := by decide +kernel
  have too_large : ofText? "sim:4294967296" = none := by decide +kernel
  refine ⟨largest, again _ _ largest, ((run _).1 _).2 ((read_iff _ _).1 (by decide +kernel)),
    (run { device := "sim:4294967296" }).2 fun t written => ?_⟩
  rw [← read_iff, too_large] at written
  cases written

end Target

end Microbatch

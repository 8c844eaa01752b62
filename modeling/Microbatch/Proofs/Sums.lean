import Microbatch.Anchor.Buffer
import Microbatch.Proofs.Lanes

set_option relaxedAutoImplicit false
set_option autoImplicit false

/-!
# Sums of payloads

A payload of numbers that can be added up is read as a list of words, and a buffer of such
numbers is written back word by word. Adding several payloads into a buffer of zeros leaves, at
every place, the sum over the lane of that place. Sums of integers are sums modulo a power of
two, so that their order does not matter; sums of single-precision numbers are taken in order.

## Main definitions

* `Microbatch.Summand.Word`, `Microbatch.Summand.read`, `Microbatch.Summand.write` — payloads as
  words.
* `Microbatch.Summand.total` — the payload of the sums over all lanes.

## Main results

* `Microbatch.Summand.foldl_addInto` — payloads added into zeros leave the total.
* `Microbatch.Summand.read_total` — the words of a total.
* `Microbatch.Summand.total_perm` — the order in which integers are added does not matter.
-/

namespace Microbatch

/-! ### Words of a payload -/

namespace Bytes

lemma words32_replicate (n : Nat) :
    words32 (List.replicate (n * 4) 0) = List.replicate n 0 := by
  induction n with
  | zero => rfl
  | succ n ih =>
    have word : toWord32 0 0 0 0 = 0 := by decide
    rw [Nat.succ_mul]
    simp only [List.replicate_succ, words32_cons, ih, word]

lemma pairWords_replicate (n : Nat) :
    pairWords (List.replicate (n * 2) 0) = List.replicate n 0 := by
  induction n with
  | zero => rfl
  | succ n ih =>
    have word : joinWords 0 0 = 0 := by decide
    rw [Nat.succ_mul]
    simp only [List.replicate_succ, pairWords_cons, ih, word]

lemma words64_replicate (n : Nat) :
    words64 (List.replicate (n * 8) 0) = List.replicate n 0 := by
  rw [words64, show n * 8 = n * 2 * 4 by omega, words32_replicate, pairWords_replicate]

lemma length_pairWords : (ws : List UInt32) → (pairWords ws).length = ws.length / 2
  | low :: high :: rest => by
    rw [pairWords_cons, List.length_cons, length_pairWords rest, List.length_cons, List.length_cons]
    omega
  | [] => by simp [pairWords, pairWordsOnto]
  | [_] => by simp [pairWords, pairWordsOnto]

lemma length_ofWords64 (ws : List UInt64) : (ofWords64 ws).length = 8 * ws.length := by
  induction ws with
  | nil => rfl
  | cons w ws ih =>
    have unfolded : ofWords64 (w :: ws) = consWord64 w (ofWords64 ws) := rfl
    rw [unfolded, consWord64, length_consWord32, length_consWord32, ih, List.length_cons]
    omega

/-- Words joined two by two are written as their halves. -/
lemma ofWords64_pairWords : (ws : List UInt32) → (whole : ws.length % 2 = 0) →
    ofWords64 (pairWords ws) = ofWords32 ws
  | low :: high :: rest, whole => by
    have tail : ofWords64 (pairWords rest) = ofWords32 rest :=
      ofWords64_pairWords rest (by simp only [List.length_cons] at whole; omega)
    have halves : UInt32.ofNat (joinWords low high).toNat = low ∧
        UInt32.ofNat ((joinWords low high).toNat / 0x100000000) = high := by
      have := low.toNat_lt
      have := high.toNat_lt
      simp only [joinWords, ← UInt32.toNat_inj, UInt32.toNat_ofNat', UInt64.toNat_ofNat']
      omega
    have unfolded : ofWords64 (joinWords low high :: pairWords rest) =
      consWord64 (joinWords low high) (ofWords64 (pairWords rest)) := rfl
    rw [pairWords_cons, unfolded, consWord64, halves.1, halves.2, tail]
    rfl
  | [], _ => rfl

/-- Whole words read from bytes are written back. -/
lemma ofWords64_words64 {bs : Bytes} (whole : bs.length % 8 = 0) : ofWords64 (words64 bs) = bs := by
  have pairs : (words32 bs).length % 2 = 0 := by
    rw [length_words32]
    omega
  rw [words64, ofWords64_pairWords _ pairs, ofWords32_words32 _ (by omega)]

lemma ofWords32_append (ws vs : List UInt32) :
    ofWords32 (ws ++ vs) = ofWords32 ws ++ ofWords32 vs := by
  induction ws with
  | nil => rfl
  | cons w ws ih =>
    rw [List.cons_append, ofWords32_cons, ih]
    rfl

lemma ofWords64_append (ws vs : List UInt64) :
    ofWords64 (ws ++ vs) = ofWords64 ws ++ ofWords64 vs := by
  induction ws with
  | nil => rfl
  | cons w ws ih =>
    have unfolded : ofWords64 (w :: (ws ++ vs)) = consWord64 w (ofWords64 (ws ++ vs)) := rfl
    rw [List.cons_append, unfolded, ih]
    rfl

end Bytes

namespace Summand

/-- The words that numbers of a kind are stored in. -/
def Word : Summand → Type
  | single => Single
  | int32 => UInt32
  | int64 => UInt64

/-- The bytes of one word. -/
def width : Summand → Nat
  | single => 4
  | int32 => 4
  | int64 => 8

/-- The words of a payload. -/
def read : (s : Summand) → Bytes → List s.Word
  | single => Single.listOfBytes
  | int32 => Bytes.words32
  | int64 => Bytes.words64

/-- The payload of some words. -/
def write : (s : Summand) → List s.Word → Bytes
  | single => Single.bytesOfList
  | int32 => Bytes.ofWords32
  | int64 => Bytes.ofWords64

/-- **Addition of words**: rounded, or modulo the size of a word. -/
def add : (s : Summand) → s.Word → s.Word → s.Word
  | single => Single.add
  | int32 => fun a b : UInt32 => a + b
  | int64 => fun a b : UInt64 => a + b

/-- The word zero. -/
def zero : (s : Summand) → s.Word
  | single => Single.zero
  | int32 => (0 : UInt32)
  | int64 => (0 : UInt64)

variable (s : Summand)

/-- Words that are written are read back. -/
@[simp] lemma read_write (ws : List s.Word) : s.read (s.write ws) = ws := by
  cases s with
  | single => exact Single.listOfBytes_bytesOfList ws
  | int32 => exact Bytes.words32_ofWords32 ws
  | int64 => exact Bytes.words64_ofWords64 ws

lemma length_write (ws : List s.Word) : (s.write ws).length = ws.length * s.width := by
  cases s with
  | single => exact (Single.length_bytesOfList ws).trans (Nat.mul_comm _ _)
  | int32 => exact (Bytes.length_ofWords32 ws).trans (Nat.mul_comm _ _)
  | int64 => exact (Bytes.length_ofWords64 ws).trans (Nat.mul_comm _ _)

/-- A payload has one word for every stretch of a word's size. -/
lemma length_read {n : Nat} {bytes : Bytes} (h : bytes.length = n * s.width) :
    (s.read bytes).length = n := by
  cases s with
  | single =>
    show ((Bytes.words32 bytes).map Single.mk).length = n
    rw [List.length_map, Bytes.length_words32, h]
    exact Nat.mul_div_cancel n (by decide)
  | int32 =>
    show (Bytes.words32 bytes).length = n
    rw [Bytes.length_words32, h]
    exact Nat.mul_div_cancel n (by decide)
  | int64 =>
    show (Bytes.pairWords (Bytes.words32 bytes)).length = n
    rw [Bytes.length_pairWords, Bytes.length_words32, h, Nat.div_div_eq_div_mul]
    exact Nat.mul_div_cancel n (by decide)

/-- Whole words that are read are written back. -/
lemma write_read {n : Nat} {bytes : Bytes} (h : bytes.length = n * s.width) :
    s.write (s.read bytes) = bytes := by
  have whole : bytes.length % s.width = 0 := by rw [h, Nat.mul_mod_left]
  cases s with
  | single => exact Single.bytesOfList_listOfBytes bytes whole
  | int32 => exact Bytes.ofWords32_words32 bytes whole
  | int64 => exact Bytes.ofWords64_words64 whole

lemma write_append (ws vs : List s.Word) : s.write (ws ++ vs) = s.write ws ++ s.write vs := by
  cases s with
  | single =>
    exact (congrArg Bytes.ofWords32 List.map_append).trans (Bytes.ofWords32_append _ _)
  | int32 => exact Bytes.ofWords32_append ws vs
  | int64 => exact Bytes.ofWords64_append ws vs

/-- Zero bytes are zero words. -/
lemma read_replicate (n : Nat) :
    s.read (List.replicate (n * s.width) 0) = List.replicate n s.zero := by
  cases s with
  | single =>
    show (Bytes.words32 (List.replicate (n * 4) 0)).map Single.mk = _
    rw [Bytes.words32_replicate, List.map_replicate]
    rfl
  | int32 => exact Bytes.words32_replicate n
  | int64 => exact Bytes.words64_replicate n

/-- Adding a payload into a buffer goes word by word. -/
lemma addInto_eq (buffer value : Bytes) :
    s.addInto buffer value = s.write (foldOnto s.add (s.read buffer) (s.read value)) := by
  cases s <;> rfl

/-- The element type of numbers that can be added up has the size of a word. -/
lemma byteSize_of_ofElementType? {t : ElementType} {s : Summand}
    (h : Summand.ofElementType? t = some s) : t.byteSize = s.width := by
  cases t <;> cases h <;> rfl

/-! ### Totals -/

/-- **The payload of the sums over all lanes** of some payloads. -/
def total (size : Nat) (values : List Bytes) : Bytes :=
  s.write (laneSums s.add s.zero size (values.map s.read))

/-- **The words of a total** are the sums over the lanes. -/
lemma read_total (size : Nat) (values : List Bytes) :
    s.read (s.total size values) = laneSums s.add s.zero size (values.map s.read) :=
  s.read_write _

@[simp] lemma length_total (size : Nat) (values : List Bytes) :
    (s.total size values).length = size * s.width := by
  rw [total, length_write, length_laneSums]

/-- What the words of a buffer become while payloads are added. -/
lemma read_foldl_addInto (buffer : Bytes) (values : List Bytes) :
    s.read (values.foldl (fun data value => s.addInto data value) buffer) =
      (values.map s.read).foldl (foldOnto s.add) (s.read buffer) := by
  induction values generalizing buffer with
  | nil => rfl
  | cons value rest ih =>
    rw [List.foldl_cons, ih, addInto_eq, read_write, List.map_cons, List.foldl_cons]

/-- **Payloads added into zeros** leave the total.

**Proof sketch.** After the first payload the buffer is written from words, so it is what its
own words write; its words are the folds of all payloads into zeros, which are the sums over the
lanes. -/
lemma foldl_addInto {size : Nat} {values : List Bytes} (some_value : values ≠ []) :
    values.foldl (fun data value => s.addInto data value)
      (List.replicate (size * s.width) 0) = s.total size values := by
  have written : ∀ (buffer : Bytes) (values : List Bytes), values ≠ [] → ∃ ws,
      values.foldl (fun data value => s.addInto data value) buffer = s.write ws := by
    intro buffer values some_value
    induction values generalizing buffer with
    | nil => exact absurd rfl some_value
    | cons value rest ih =>
      rw [List.foldl_cons]
      by_cases last : rest = []
      · exact ⟨_, by rw [last, List.foldl_nil, addInto_eq]⟩
      · exact ih _ last
  obtain ⟨ws, hw⟩ := written (List.replicate (size * s.width) 0) values some_value
  have words := s.read_foldl_addInto (List.replicate (size * s.width) 0) values
  rw [hw, read_write, read_replicate, foldl_foldOnto_replicate] at words
  rw [hw, words, total]

/-! ### Integers -/

/-- Sums of integers do not depend on the order. -/
lemma rightCommutative_add {s : Summand} (h : s ≠ .single) : RightCommutative s.add := by
  constructor
  cases s with
  | single => exact absurd rfl h
  | int32 =>
    intro (a : UInt32) (b : UInt32) (c : UInt32)
    show a + b + c = a + c + b
    rw [UInt32.add_assoc, UInt32.add_comm b c, ← UInt32.add_assoc]
  | int64 =>
    intro (a : UInt64) (b : UInt64) (c : UInt64)
    show a + b + c = a + c + b
    rw [UInt64.add_assoc, UInt64.add_comm b c, ← UInt64.add_assoc]

/-- **The order in which integers are added does not matter.** -/
lemma total_perm {s : Summand} (h : s ≠ .single) (size : Nat) {values others : List Bytes}
    (same : values.Perm others) : s.total size values = s.total size others := by
  have : RightCommutative s.add := rightCommutative_add h
  rw [total, total, laneSums_perm s.zero size (same.map s.read)]

/-- A sum of 32-bit integers is the sum modulo `2 ^ 32`. -/
lemma toNat_foldl_add32 (start : UInt32) (ws : List UInt32) :
    (ws.foldl (fun a b => a + b) start).toNat =
      (start.toNat + (ws.map UInt32.toNat).sum) % 2 ^ 32 := by
  induction ws generalizing start with
  | nil => exact (Nat.mod_eq_of_lt start.toNat_lt).symm
  | cons w ws ih =>
    rw [List.foldl_cons, ih, UInt32.toNat_add, Nat.mod_add_mod, List.map_cons, List.sum_cons,
      Nat.add_assoc]

/-- A sum of 64-bit integers is the sum modulo `2 ^ 64`. -/
lemma toNat_foldl_add64 (start : UInt64) (ws : List UInt64) :
    (ws.foldl (fun a b => a + b) start).toNat =
      (start.toNat + (ws.map UInt64.toNat).sum) % 2 ^ 64 := by
  induction ws generalizing start with
  | nil => exact (Nat.mod_eq_of_lt start.toNat_lt).symm
  | cons w ws ih =>
    rw [List.foldl_cons, ih, UInt64.toNat_add, Nat.mod_add_mod, List.map_cons, List.sum_cons,
      Nat.add_assoc]

end Summand

end Microbatch

import Mathlib.Tactic.Ring
import Microbatch.Exchange.Wire
import Microbatch.Size

set_option relaxedAutoImplicit false
set_option autoImplicit false

/-!
# Fields that are written are read back

Reading is the inverse of writing on fields that have a number a key can hold, that are no groups
and whose contents have a 64-bit length. Groups are written by no message, so nothing is said of
them.

## Main definitions

* `Microbatch.Exchange.Wire.Field.Plain` — fields that messages are made of.
* `Microbatch.Exchange.Wire.Ascending` — fields in increasing field number.

## Main results

* `Microbatch.Exchange.Wire.fields_render` — the fields of a message are read back.
* `Microbatch.Exchange.Wire.varints_flatMap` — packed numbers are read back.
* `Microbatch.Exchange.Wire.length_writeVarint_eq_ten` — a number with the top bit set takes ten
  bytes.
-/

namespace Microbatch.Exchange.Wire

/-! ### Numbers in base 128 -/

lemma writeVarint_ne_nil (n : Nat) : writeVarint n ≠ [] := by
  unfold writeVarint
  split <;> simp

/-- From `128 ^ k` on, a number has more than `k` digits. -/
lemma lt_length_writeVarint {k n : Nat} (large : 128 ^ k ≤ n) : k < (writeVarint n).length := by
  induction k generalizing n with
  | zero => exact List.length_pos_iff.2 (writeVarint_ne_nil n)
  | succ k ih =>
    have positive : 0 < 128 ^ k := Nat.pow_pos (by decide)
    rw [Nat.pow_succ] at large
    unfold writeVarint
    rw [if_neg (by omega), List.length_cons]
    exact Nat.succ_lt_succ (ih (by omega))

/-- Below `128 ^ k`, a number has at most `k` digits. -/
lemma length_writeVarint_le {k n : Nat} (positive : 0 < k) (small : n < 128 ^ k) :
    (writeVarint n).length ≤ k := by
  induction k generalizing n with
  | zero => omega
  | succ k ih =>
    unfold writeVarint
    split
    · simp
    · rw [Nat.pow_succ] at small
      have more : 0 < k := by
        rcases Nat.eq_zero_or_pos k with rfl | more
        · omega
        · exact more
      exact Nat.succ_le_succ (ih more (by omega))

/-- **A 64-bit number with the top bit set takes ten bytes.** -/
theorem length_writeVarint_eq_ten {n : UInt64} (top : 2 ^ 63 ≤ n.toNat) :
    (writeVarint n.toNat).length = 10 := by
  have small := n.toNat_lt
  have := lt_length_writeVarint (k := 9) (n := n.toNat) (by omega)
  have := length_writeVarint_le (k := 10) (n := n.toNat) (by decide) (by omega)
  omega

/-- Packed numbers are read back. -/
theorem varints_flatMap (ns : List UInt64) :
    varints (ns.flatMap fun n => writeVarint n.toNat) = some ns := by
  induction ns with
  | nil =>
    unfold varints
    rfl
  | cons n ns ih =>
    have read := readVarint_writeVarint (ns.flatMap fun n => writeVarint n.toNat) n.toNat_lt
    unfold varints
    rw [List.flatMap_cons, if_neg (by simp [writeVarint_ne_nil])]
    split
    · rename_i stuck
      rw [read] at stuck
      cases stuck
    · rename_i number rest readFirst
      rw [read] at readFirst
      cases readFirst
      simp [ih]

/-! ### Fields -/

/-- **A field that messages are made of**: no group, and its number leaves room for the wire type in
a 32-bit key. -/
structure Field.Plain (f : Field) : Prop where
  /-- Field numbers start at one. -/
  one_le : 1 ≤ f.number
  /-- The key is a 32-bit number. -/
  number_lt : f.number < 2 ^ 29
  /-- There is a value. -/
  not_group : f.value ≠ .group

/-- **Fields in increasing field number**; several fields of one number may follow each other. -/
def Ascending (fs : List Field) : Prop := fs.Pairwise fun f g => f.number ≤ g.number

lemma readKey_writeKey {number wireType : Nat} (rest : Bytes) (positive : 1 ≤ number)
    (small : number < 2 ^ 29) (known : wireType < 8) :
    readKey (writeKey number wireType ++ rest) = some (number, wireType, rest) := by
  have key : 8 * number + wireType < UInt64.size := by
    simp only [UInt64.size]
    omega
  rw [readKey, writeKey, readVarint_writeVarint rest key]
  have inRange : 8 * number + wireType < UInt32.size ∧ 8 ≤ 8 * number + wireType := by
    simp only [UInt32.size]
    omega
  have divided : (8 * number + wireType) / 8 = number := by omega
  have remainder : (8 * number + wireType) % 8 = wireType := by omega
  simp [inRange, divided, remainder]

/-- A value that is written under a key is read back. -/
lemma readField_writeKey {depth number wireType : Nat} {content rest : Bytes} {v : Value}
    (positive : 1 ≤ number) (small : number < 2 ^ 29) (known : wireType < 8) (plain : wireType ≠ 3)
    (read : readValue wireType (content ++ rest) = some (v, rest)) :
    readField depth (writeKey number wireType ++ content ++ rest) = some (⟨number, v⟩, rest) := by
  rw [List.append_assoc, readField, readKey_writeKey _ positive small known]
  simp [plain, read]

lemma readValue_varint (n : UInt64) (rest : Bytes) :
    readValue 0 (writeVarint n.toNat ++ rest) = some (.varint n, rest) := by
  simp [readValue, readVarint_writeVarint rest n.toNat_lt]

lemma readValue_fixed64 (w : UInt64) (rest : Bytes) :
    readValue 1 (Bytes.ofWord64 w ++ rest) = some (.fixed64 w, rest) := by
  have read : Bytes.words64 (Bytes.ofWord64 w) = [w] := Bytes.words64_ofWords64 [w]
  have length : (Bytes.ofWord64 w).length = 8 := rfl
  simp [readValue, length, read]

lemma readValue_bytes {content : Bytes} (rest : Bytes) (fits : content.length < Size.limit) :
    readValue 2 (writeVarint content.length ++ content ++ rest) = some (.bytes content, rest) := by
  have read := readVarint_writeVarint (content ++ rest) (n := content.length) fits
  simp [readValue, read]

lemma readValue_fixed32 (w : UInt32) (rest : Bytes) :
    readValue 5 (Bytes.ofWord32 w ++ rest) = some (.fixed32 w, rest) := by
  have word := Bytes.toWord32_ofWord32 w
  simp only [Bytes.ofWord32, Bytes.consWord32, readValue, List.cons_append, List.nil_append, word]

/-- The content of a field is shorter than the field. -/
lemma length_content_le {number : Nat} {content : Bytes} :
    content.length ≤ (Field.render ⟨number, .bytes content⟩).length := by
  simp only [Field.render, List.length_append]
  omega

/-- **A plain field is read back**, and what follows it is left. -/
theorem readField_render {f : Field} (depth : Nat) (rest : Bytes) (plain : f.Plain)
    (fits : f.render.length < Size.limit) :
    readField depth (f.render ++ rest) = some (f, rest) := by
  obtain ⟨number, value⟩ := f
  have positive : 1 ≤ number := plain.one_le
  have small : number < 2 ^ 29 := plain.number_lt
  cases value with
  | varint n =>
    exact readField_writeKey positive small (by decide) (by decide) (readValue_varint n rest)
  | fixed64 w =>
    exact readField_writeKey positive small (by decide) (by decide) (readValue_fixed64 w rest)
  | bytes content =>
    have fits : content.length < Size.limit := Nat.lt_of_le_of_lt length_content_le fits
    exact readField_writeKey positive small (by decide) (by decide) (readValue_bytes rest fits)
  | group => exact absurd rfl plain.not_group
  | fixed32 w =>
    exact readField_writeKey positive small (by decide) (by decide) (readValue_fixed32 w rest)

lemma render_ne_nil (f : Field) : f.render ≠ [] := by
  have := writeVarint_ne_nil
  unfold Field.render
  split <;> simp [writeKey, this]

@[simp] lemma render_nil : render [] = [] := rfl

@[simp] lemma render_cons (f : Field) (fs : List Field) :
    render (f :: fs) = f.render ++ render fs := rfl

@[simp] lemma render_append (fs gs : List Field) : render (fs ++ gs) = render fs ++ render gs :=
  List.flatMap_append

/-- **The fields of a message are read back.** -/
theorem fields_render {fs : List Field} (depth : Nat) (plain : ∀ f ∈ fs, f.Plain)
    (fits : (render fs).length < Size.limit) : fields depth (render fs) = some fs := by
  induction fs with
  | nil =>
    unfold fields
    rfl
  | cons f fs ih =>
    rw [render_cons, List.length_append] at fits
    have read := readField_render depth (render fs) (plain f List.mem_cons_self) (by omega)
    have others := ih (fun g hg => plain g (List.mem_cons_of_mem f hg)) (by omega)
    unfold fields
    rw [render_cons, if_neg (by simp [render_ne_nil])]
    split
    · rename_i stuck
      rw [read] at stuck
      cases stuck
    · rename_i first rest readFirst
      rw [read] at readFirst
      cases readFirst
      simp [others]

end Microbatch.Exchange.Wire

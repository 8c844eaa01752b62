import Microbatch.Bytes

set_option relaxedAutoImplicit false
set_option autoImplicit false

/-!
# The wire format of messages

A message is a sequence of fields. A field is a key, which holds its number and its wire type, and a
value of that type: a number in base 128, four or eight bytes, or a length followed by that many
bytes. A group is a sequence of fields between a start and an end key; groups are only skipped.

## Main definitions

* `Microbatch.Exchange.Wire.writeVarint`, `Microbatch.Exchange.Wire.readVarint` — numbers in base
  128, low digit first.
* `Microbatch.Exchange.Wire.Field` — a field with its value.
* `Microbatch.Exchange.Wire.render` — fields as bytes.
* `Microbatch.Exchange.Wire.fields` — the fields that make up a list of bytes.

## Main results

* `Microbatch.Exchange.Wire.readVarint_writeVarint` — a written number is read back.
* `Microbatch.Exchange.Wire.readField_shortens` — reading a field uses up bytes.
-/

namespace Microbatch.Exchange.Wire

/-! ### Numbers in base 128 -/

/-- A number in base 128, low digit first; every digit but the last carries the top bit. -/
def writeVarint (n : Nat) : Bytes :=
  if n < 128 then [UInt8.ofNat n] else UInt8.ofNat (n % 128 + 128) :: writeVarint (n / 128)

/-- Reads a number of at most the given number of digits. Where ten digits are allowed, the last one
is the single highest bit of a 64-bit number, so a tenth digit above one is refused. -/
def readDigits : Nat → Bytes → Option (Nat × Bytes)
  | 0, _ => none
  | _ + 1, [] => none
  | left + 1, b :: rest =>
    if b.toNat < 128 then
      if left = 0 ∧ 2 ≤ b.toNat then none else some (b.toNat, rest)
    else
      match readDigits left rest with
      | none => none
      | some (high, rest) => some (b.toNat - 128 + 128 * high, rest)

/-- **Reads a 64-bit number** from the front of a list of bytes. Leading zeros are allowed as long
as there are at most ten digits. -/
def readVarint (bs : Bytes) : Option (Nat × Bytes) := readDigits 10 bs

theorem readDigits_shortens {left : Nat} {bs rest : Bytes} {n : Nat}
    (h : readDigits left bs = some (n, rest)) : rest.length < bs.length := by
  induction left generalizing bs n with
  | zero => cases bs <;> simp [readDigits] at h
  | succ left ih =>
    cases bs with
    | nil => simp [readDigits] at h
    | cons b bs =>
      unfold readDigits at h
      split at h
      · split at h
        · cases h
        · cases h
          simp
      · split at h
        · cases h
        · rename_i high rest' hr
          cases h
          have := ih hr
          simp only [List.length_cons]
          omega

theorem readVarint_shortens {bs rest : Bytes} {n : Nat} (h : readVarint bs = some (n, rest)) :
    rest.length < bs.length :=
  readDigits_shortens h

/-- The first number that does not fit when this many digits may follow the first one. -/
def capacity : Nat → Nat
  | 0 => 2
  | left + 1 => 128 * capacity left

theorem readDigits_writeVarint {left n : Nat} (rest : Bytes) (fits : n < capacity left) :
    readDigits (left + 1) (writeVarint n ++ rest) = some (n, rest) := by
  induction left generalizing n with
  | zero =>
    have fits : n < 2 := fits
    have small : n < 128 := by omega
    have : (UInt8.ofNat n).toNat = n := by
      simp only [UInt8.toNat_ofNat']
      omega
    rw [writeVarint, if_pos small]
    simp only [List.singleton_append, readDigits, this, if_pos small]
    rw [if_neg (by omega)]
  | succ left ih =>
    unfold writeVarint
    split
    · rename_i small
      have : (UInt8.ofNat n).toNat = n := by
        simp only [UInt8.toNat_ofNat']
        omega
      simp [readDigits, this, small]
    · have digit : (UInt8.ofNat (n % 128 + 128)).toNat = n % 128 + 128 := by
        simp only [UInt8.toNat_ofNat']
        omega
      have high : n / 128 < capacity left := by
        unfold capacity at fits
        omega
      rw [List.cons_append, readDigits, digit, if_neg (by omega), ih high]
      simp only [Option.some.injEq, Prod.mk.injEq, and_true]
      omega

/-- **A written number is read back**, and what follows it is left. -/
theorem readVarint_writeVarint {n : Nat} (rest : Bytes) (fits : n < UInt64.size) :
    readVarint (writeVarint n ++ rest) = some (n, rest) :=
  readDigits_writeVarint rest fits

/-! ### Fields -/

/-- **The value of a field**, by wire type. The contents of a group are not kept. -/
inductive Value where
  /-- A 64-bit number in base 128. -/
  | varint (n : UInt64)
  /-- Eight bytes. -/
  | fixed64 (w : UInt64)
  /-- A length and that many bytes. -/
  | bytes (content : Bytes)
  /-- Fields between a start and an end key. -/
  | group
  /-- Four bytes. -/
  | fixed32 (w : UInt32)
  deriving DecidableEq

/-- **A field**: a number and a value. -/
structure Field where
  /-- The field number. -/
  number : Nat
  /-- The value. -/
  value : Value
  deriving DecidableEq

/-- A key: field number and wire type. -/
def writeKey (number wireType : Nat) : Bytes := writeVarint (8 * number + wireType)

/-- A field as bytes. -/
def Field.render (f : Field) : Bytes :=
  match f.value with
  | .varint n => writeKey f.number 0 ++ writeVarint n.toNat
  | .fixed64 w => writeKey f.number 1 ++ Bytes.ofWord64 w
  | .bytes content => writeKey f.number 2 ++ (writeVarint content.length ++ content)
  | .group => writeKey f.number 3 ++ writeKey f.number 4
  | .fixed32 w => writeKey f.number 5 ++ Bytes.ofWord32 w

/-- **Fields as bytes**, one after the other. -/
def render (fs : List Field) : Bytes := fs.flatMap Field.render

/-! ### Reading fields -/

/-- Reads a key: a 32-bit number with a field number of at least one. -/
def readKey (bs : Bytes) : Option (Nat × Nat × Bytes) :=
  match readVarint bs with
  | none => none
  | some (key, rest) =>
    if key < UInt32.size ∧ 8 ≤ key then some (key / 8, key % 8, rest) else none

/-- Reads the value of a wire type other than groups. -/
def readValue (wireType : Nat) (bs : Bytes) : Option (Value × Bytes) :=
  match wireType with
  | 0 =>
    match readVarint bs with
    | none => none
    | some (n, rest) => some (.varint (UInt64.ofNat n), rest)
  | 1 =>
    match Bytes.words64 (bs.take 8) with
    | [w] => some (.fixed64 w, bs.drop 8)
    | _ => none
  | 2 =>
    match readVarint bs with
    | none => none
    | some (length, rest) =>
      if length ≤ rest.length then some (.bytes (rest.take length), rest.drop length) else none
  | 5 =>
    match bs with
    | a :: b :: c :: d :: rest => some (.fixed32 (Bytes.toWord32 a b c d), rest)
    | _ => none
  | _ => none

theorem readKey_shortens {bs rest : Bytes} {number wireType : Nat}
    (h : readKey bs = some (number, wireType, rest)) : rest.length < bs.length := by
  unfold readKey at h
  split at h
  · cases h
  · rename_i key rest' hv
    split at h
    · cases h
      exact readVarint_shortens hv
    · cases h

theorem readValue_length_le {wireType : Nat} {bs rest : Bytes} {v : Value}
    (h : readValue wireType bs = some (v, rest)) : rest.length ≤ bs.length := by
  unfold readValue at h
  split at h
  · split at h
    · cases h
    · rename_i hv
      cases h
      exact Nat.le_of_lt (readVarint_shortens hv)
  · split at h
    · cases h
      simp
    · cases h
  · split at h
    · cases h
    · rename_i length rest' hv
      split at h
      · cases h
        have := readVarint_shortens hv
        simp only [List.length_drop]
        omega
      · cases h
  · split at h
    · cases h
      simp only [List.length_cons]
      omega
    · cases h
  · cases h

/-- How deep messages and groups may nest in all. -/
def nestingLimit : Nat := 100

/-- Skips fields until the open groups are closed, the innermost first. Inside a message of the
given depth, a field may stand in a group only if depth and open groups together stay below the
limit. -/
def skipGroups (depth : Nat) (pending : List Nat) (bs : Bytes) : Option Bytes :=
  match pending with
  | [] => some bs
  | innermost :: outer =>
    match _hk : readKey bs with
    | none => none
    | some (number, wireType, rest) =>
      if wireType = 4 then
        if number = innermost then skipGroups depth outer rest else none
      else if nestingLimit ≤ depth + pending.length then none
      else if wireType = 3 then skipGroups depth (number :: pending) rest
      else
        match _hv : readValue wireType rest with
        | none => none
        | some (_, rest) => skipGroups depth pending rest
  termination_by bs.length
  decreasing_by
    · exact readKey_shortens _hk
    · exact readKey_shortens _hk
    · exact Nat.lt_of_le_of_lt (readValue_length_le _hv) (readKey_shortens _hk)

theorem skipGroups_length_le {depth : Nat} {pending : List Nat} {bs rest : Bytes}
    (h : skipGroups depth pending bs = some rest) : rest.length ≤ bs.length := by
  fun_induction skipGroups depth pending bs with
  | case1 =>
    cases h
    exact Nat.le_refl _
  | case2 => cases h
  | case3 =>
    rename_i hk ih
    have := readKey_shortens hk
    have := ih h
    omega
  | case4 => cases h
  | case5 =>
    rename_i deep
    rw [if_pos deep] at h
    cases h
  | case6 =>
    rename_i shallow hk _ ih
    rw [if_neg shallow, if_pos rfl] at h
    have := readKey_shortens hk
    have := ih h
    omega
  | case7 =>
    rename_i hk _ plain hv shallow
    rw [if_neg shallow, if_neg plain] at h
    split at h
    · cases h
    · simp_all
  | case8 =>
    rename_i hk _ plain _ _ hv shallow ih
    rw [if_neg shallow, if_neg plain] at h
    have := readKey_shortens hk
    have := readValue_length_le hv
    split at h
    · cases h
    · rename_i hv'
      rw [hv] at hv'
      cases hv'
      have := ih h
      omega

/-- Reads one field of a message of the given depth. -/
def readField (depth : Nat) (bs : Bytes) : Option (Field × Bytes) :=
  match readKey bs with
  | none => none
  | some (number, wireType, rest) =>
    if wireType = 3 then
      match skipGroups depth [number] rest with
      | none => none
      | some rest => some (⟨number, .group⟩, rest)
    else
      match readValue wireType rest with
      | none => none
      | some (value, rest) => some (⟨number, value⟩, rest)

theorem readField_shortens {depth : Nat} {bs rest : Bytes} {f : Field}
    (h : readField depth bs = some (f, rest)) : rest.length < bs.length := by
  unfold readField at h
  split at h
  · cases h
  · rename_i hk
    split at h
    · split at h
      · cases h
      · rename_i hs
        cases h
        exact Nat.lt_of_le_of_lt (skipGroups_length_le hs) (readKey_shortens hk)
    · split at h
      · cases h
      · rename_i hv
        cases h
        exact Nat.lt_of_le_of_lt (readValue_length_le hv) (readKey_shortens hk)

/-- **The fields of a message** of the given depth; nothing may be left over. -/
def fields (depth : Nat) (bs : Bytes) : Option (List Field) :=
  if bs.isEmpty then some []
  else
    match _h : readField depth bs with
    | none => none
    | some (f, rest) => (fields depth rest).map (f :: ·)
  termination_by bs.length
  decreasing_by exact readField_shortens _h

/-- The numbers in base 128 that make up a list of bytes. -/
def varints (bs : Bytes) : Option (List UInt64) :=
  if bs.isEmpty then some []
  else
    match _h : readVarint bs with
    | none => none
    | some (n, rest) => (varints rest).map (UInt64.ofNat n :: ·)
  termination_by bs.length
  decreasing_by exact readVarint_shortens _h

end Microbatch.Exchange.Wire

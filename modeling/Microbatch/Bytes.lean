set_option relaxedAutoImplicit false
set_option autoImplicit false

/-!
# Bytes and little-endian words

Payloads and files are lists of bytes. A word of four or eight bytes is written with its low byte
first.

## Main definitions

* `Microbatch.Bytes` — lists of bytes.
* `Microbatch.Bytes.ofWord32`, `Microbatch.Bytes.ofWord64` — a word as bytes.
* `Microbatch.Bytes.words32`, `Microbatch.Bytes.words64` — the words of a list of bytes; bytes left
  over at the end are dropped.

## Main results

* `Microbatch.Bytes.words32_ofWords32`, `Microbatch.Bytes.ofWords32_words32` — writing words and
  reading them are inverse on whole words.
-/

namespace Microbatch

/-- A file or a payload. -/
abbrev Bytes := List UInt8

namespace Bytes

/-! ### Words of four bytes -/

/-- Puts a 32-bit word, low byte first, in front of other bytes. -/
def consWord32 (w : UInt32) (rest : Bytes) : Bytes :=
  UInt8.ofNat w.toNat :: UInt8.ofNat (w.toNat / 0x100) :: UInt8.ofNat (w.toNat / 0x10000) ::
    UInt8.ofNat (w.toNat / 0x1000000) :: rest

/-- A 32-bit word, low byte first. -/
def ofWord32 (w : UInt32) : Bytes := consWord32 w []

/-- The 32-bit word of four bytes, low byte first. -/
def toWord32 (a b c d : UInt8) : UInt32 :=
  UInt32.ofNat (a.toNat + 0x100 * b.toNat + 0x10000 * c.toNat + 0x1000000 * d.toNat)

/-- Reads the 32-bit words of a list of bytes behind those of before, which are in reverse order. -/
def words32Onto (before : List UInt32) : Bytes → List UInt32
  | a :: b :: c :: d :: rest => words32Onto (toWord32 a b c d :: before) rest
  | _ => before.reverse

/-- The 32-bit words of a list of bytes; up to three bytes at the end are dropped. -/
def words32 (bs : Bytes) : List UInt32 := words32Onto [] bs

/-- The bytes of a list of 32-bit words. -/
def ofWords32 (ws : List UInt32) : Bytes := ws.foldr consWord32 []

@[simp] theorem length_ofWord32 (w : UInt32) : (ofWord32 w).length = 4 := rfl

@[simp] theorem length_consWord32 (w : UInt32) (rest : Bytes) :
    (consWord32 w rest).length = rest.length + 4 := rfl

/-- The bytes of the first word come first. -/
theorem ofWords32_cons (w : UInt32) (ws : List UInt32) :
    ofWords32 (w :: ws) = consWord32 w (ofWords32 ws) := rfl

theorem words32Onto_eq (before : List UInt32) :
    (bs : Bytes) → words32Onto before bs = before.reverse ++ words32 bs
  | a :: b :: c :: d :: rest => by
    rw [words32, words32Onto, words32Onto, words32Onto_eq _ rest, words32Onto_eq [_] rest]
    simp
  | [] => by simp [words32, words32Onto]
  | [_] => by simp [words32, words32Onto]
  | [_, _] => by simp [words32, words32Onto]
  | [_, _, _] => by simp [words32, words32Onto]

/-- Four bytes give the first word. -/
theorem words32_cons (a b c d : UInt8) (rest : Bytes) :
    words32 (a :: b :: c :: d :: rest) = toWord32 a b c d :: words32 rest := by
  rw [words32, words32Onto, words32Onto_eq]
  rfl

theorem toWord32_ofWord32 (w : UInt32) :
    toWord32 (UInt8.ofNat w.toNat) (UInt8.ofNat (w.toNat / 0x100))
      (UInt8.ofNat (w.toNat / 0x10000)) (UInt8.ofNat (w.toNat / 0x1000000)) = w := by
  have := w.toNat_lt
  apply UInt32.toNat_inj.1
  simp only [toWord32, UInt32.toNat_ofNat', UInt8.toNat_ofNat']
  omega

theorem consWord32_toWord32 (a b c d : UInt8) (rest : Bytes) :
    consWord32 (toWord32 a b c d) rest = a :: b :: c :: d :: rest := by
  have := a.toNat_lt
  have := b.toNat_lt
  have := c.toNat_lt
  have := d.toNat_lt
  simp only [consWord32, toWord32, UInt32.toNat_ofNat', List.cons.injEq, and_true]
  refine ⟨?_, ?_, ?_, ?_⟩ <;> (apply UInt8.toNat_inj.1; simp only [UInt8.toNat_ofNat']; omega)

/-- Words written as bytes are read back. -/
theorem words32_ofWords32 (ws : List UInt32) : words32 (ofWords32 ws) = ws := by
  induction ws with
  | nil => rfl
  | cons w ws ih =>
    rw [ofWords32_cons, consWord32, words32_cons, toWord32_ofWord32, ih]

/-- Whole words read from bytes are written back. -/
theorem ofWords32_words32 : (bs : Bytes) → (whole : bs.length % 4 = 0) → ofWords32 (words32 bs) = bs
  | a :: b :: c :: d :: rest, whole => by
    have : ofWords32 (words32 rest) = rest :=
      ofWords32_words32 rest (by simp only [List.length_cons] at whole; omega)
    rw [words32_cons, ofWords32_cons, this, consWord32_toWord32]
  | [], _ => rfl

theorem length_ofWords32 (ws : List UInt32) : (ofWords32 ws).length = 4 * ws.length := by
  induction ws with
  | nil => rfl
  | cons w ws ih =>
    rw [ofWords32_cons, length_consWord32, ih, List.length_cons]
    omega

theorem length_words32 : (bs : Bytes) → (words32 bs).length = bs.length / 4
  | a :: b :: c :: d :: rest => by
    rw [words32_cons, List.length_cons, length_words32 rest]
    simp only [List.length_cons]
    omega
  | [] => rfl
  | [_] => by simp [words32, words32Onto]
  | [_, _] => by simp [words32, words32Onto]
  | [_, _, _] => by simp [words32, words32Onto]

/-! ### Words of eight bytes -/

/-- Puts a 64-bit word, low byte first, in front of other bytes. -/
def consWord64 (w : UInt64) (rest : Bytes) : Bytes :=
  consWord32 (UInt32.ofNat w.toNat) (consWord32 (UInt32.ofNat (w.toNat / 0x100000000)) rest)

/-- A 64-bit word, low byte first. -/
def ofWord64 (w : UInt64) : Bytes := consWord64 w []

/-- The 64-bit word with the given low and high halves. -/
def joinWords (low high : UInt32) : UInt64 := UInt64.ofNat (low.toNat + 0x100000000 * high.toNat)

/-- Joins 32-bit words two by two, behind those of before, which are in reverse order. -/
def pairWordsOnto (before : List UInt64) : List UInt32 → List UInt64
  | low :: high :: rest => pairWordsOnto (joinWords low high :: before) rest
  | _ => before.reverse

/-- Joins 32-bit words two by two, low half first; a single word at the end is dropped. -/
def pairWords (ws : List UInt32) : List UInt64 := pairWordsOnto [] ws

/-- The 64-bit words of a list of bytes; up to seven bytes at the end are dropped. -/
def words64 (bs : Bytes) : List UInt64 := pairWords (words32 bs)

/-- The bytes of a list of 64-bit words. -/
def ofWords64 (ws : List UInt64) : Bytes := ws.foldr consWord64 []

theorem joinWords_ofNat (w : UInt64) :
    joinWords (UInt32.ofNat w.toNat) (UInt32.ofNat (w.toNat / 0x100000000)) = w := by
  have := w.toNat_lt
  apply UInt64.toNat_inj.1
  simp only [joinWords, UInt64.toNat_ofNat', UInt32.toNat_ofNat']
  omega

theorem pairWordsOnto_eq (before : List UInt64) :
    (ws : List UInt32) → pairWordsOnto before ws = before.reverse ++ pairWords ws
  | low :: high :: rest => by
    rw [pairWords, pairWordsOnto, pairWordsOnto, pairWordsOnto_eq _ rest, pairWordsOnto_eq [_] rest]
    simp
  | [] => by simp [pairWords, pairWordsOnto]
  | [_] => by simp [pairWords, pairWordsOnto]

/-- Two words give the first pair. -/
theorem pairWords_cons (low high : UInt32) (rest : List UInt32) :
    pairWords (low :: high :: rest) = joinWords low high :: pairWords rest := by
  rw [pairWords, pairWordsOnto, pairWordsOnto_eq]
  rfl

/-- Words written as bytes are read back. -/
theorem words64_ofWords64 (ws : List UInt64) : words64 (ofWords64 ws) = ws := by
  induction ws with
  | nil => rfl
  | cons w ws ih =>
    have tail : pairWords (words32 (ofWords64 ws)) = ws := ih
    rw [show ofWords64 (w :: ws) = consWord64 w (ofWords64 ws) from rfl, consWord64, consWord32,
      consWord32, words64, words32_cons, words32_cons, toWord32_ofWord32, toWord32_ofWord32,
      pairWords_cons, joinWords_ofNat, tail]

end Bytes

end Microbatch

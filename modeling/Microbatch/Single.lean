import Microbatch.Bytes

set_option relaxedAutoImplicit false
set_option autoImplicit false

/-!
# Single-precision numbers

A single-precision number is its 32-bit pattern. Numbers are rounded to nearest, ties to even. When
an operand is not a number, the first such operand is the result, marked quiet; an invalid operation
on numbers gives the negative quiet pattern.

## Main definitions

* `Microbatch.Single` — a bit pattern.
* `Microbatch.Single.isNaN`, `Microbatch.Single.isFinite`, `Microbatch.Single.isPositive`,
  `Microbatch.Single.isNegative`, `Microbatch.Single.abs` — read off the pattern.
* `Microbatch.Single.add` and its siblings — arithmetic.
* `Microbatch.Single.listOfBytes`, `Microbatch.Single.bytesOfList` — payloads of numbers.
-/

namespace Microbatch

/-- **A single-precision number**, given by its sign, exponent and fraction bits. -/
structure Single where
  /-- The bit pattern. -/
  bits : UInt32
  deriving DecidableEq, Inhabited

namespace Single

/-! ### Constants and classes -/

/-- Positive zero. -/
def zero : Single := ⟨0⟩

/-- Negative zero, the neutral element of addition. -/
def negZero : Single := ⟨0x80000000⟩

/-- The number one. -/
def one : Single := ⟨0x3f800000⟩

/-- The result of an invalid operation. -/
def invalid : Single := ⟨0xffc00000⟩

/-- The absolute value: the sign bit is cleared. -/
@[inline] def abs (x : Single) : Single := ⟨x.bits &&& 0x7fffffff⟩

/-- Whether the pattern stands for no number. -/
@[inline] def isNaN (x : Single) : Bool := x.abs.bits > 0x7f800000

/-- Whether the pattern is a number other than the infinities. -/
@[inline] def isFinite (x : Single) : Bool := x.abs.bits < 0x7f800000

/-- Whether the number is above zero. -/
def isPositive (x : Single) : Bool := 0 < x.bits && x.bits ≤ 0x7f800000

/-- Whether the number is below zero. -/
def isNegative (x : Single) : Bool := 0x80000000 < x.bits && x.bits ≤ 0xff800000

/-- The quiet form of a pattern that stands for no number. -/
@[inline] def quiet (x : Single) : Single := ⟨x.bits ||| 0x00400000⟩

/-! ### Arithmetic -/

/-- The machine number of a pattern. -/
@[inline] def toFloat32 (x : Single) : Float32 := Float32.ofBits x.bits

/-- The pattern of a machine number; whatever is no number becomes the invalid pattern. -/
@[inline] def ofFloat32 (r : Float32) : Single := if r.isNaN then invalid else ⟨r.toBits⟩

/-- Applies an operation to two numbers. An operand that is no number is handed on, the first before
the second. -/
@[inline] def combine (op : Float32 → Float32 → Float32) (x y : Single) : Single :=
  if x.isNaN then x.quiet
  else if y.isNaN then y.quiet
  else ofFloat32 (op x.toFloat32 y.toFloat32)

/-- The rounded sum. -/
def add (x y : Single) : Single := combine (· + ·) x y

/-- The rounded difference. -/
def sub (x y : Single) : Single := combine (· - ·) x y

/-- The rounded product. -/
def mul (x y : Single) : Single := combine (· * ·) x y

/-- The rounded quotient. -/
def div (x y : Single) : Single := combine (· / ·) x y

/-- The nearest number to a count. -/
def ofNat (n : Nat) : Single := ⟨(Float32.ofNat n).toBits⟩

/-! ### Payloads -/

/-- The numbers of a payload; bytes left over at the end are dropped. -/
def listOfBytes (bs : Bytes) : List Single := (Bytes.words32 bs).map Single.mk

/-- The payload of a list of numbers. -/
def bytesOfList (xs : List Single) : Bytes := Bytes.ofWords32 (xs.map Single.bits)

@[simp] theorem listOfBytes_bytesOfList (xs : List Single) :
    listOfBytes (bytesOfList xs) = xs := by
  simp [listOfBytes, bytesOfList, Bytes.words32_ofWords32, Function.comp_def]

theorem bytesOfList_listOfBytes (bs : Bytes) (whole : bs.length % 4 = 0) :
    bytesOfList (listOfBytes bs) = bs := by
  simp [listOfBytes, bytesOfList, Function.comp_def, Bytes.ofWords32_words32 bs whole]

@[simp] theorem length_bytesOfList (xs : List Single) :
    (bytesOfList xs).length = 4 * xs.length := by
  simp [bytesOfList, Bytes.length_ofWords32]

end Single

end Microbatch

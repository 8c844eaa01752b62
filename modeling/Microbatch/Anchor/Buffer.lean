import Microbatch.Anchor.Layout
import Microbatch.Fault.Basic
import Microbatch.Folding

set_option relaxedAutoImplicit false
set_option autoImplicit false

/-!
# Anchor buffers

A buffer takes the values of one anchor over the micro-batches of a step. When a step begins, stacks
are empty and sums are zero; a last value stays until the next one comes.

## Main definitions

* `Microbatch.Filling` — how values enter a buffer.
* `Microbatch.Buffer` — a layout with its bytes, `Microbatch.Buffer.data`.
* `Microbatch.Buffer.beginStep`, `Microbatch.Buffer.fill` — a new step, and one micro-batch of it.
-/

namespace Microbatch

/-- The numbers that can be added up. -/
inductive Summand where
  /-- Single-precision numbers, rounded at every addition. -/
  | single
  /-- 32-bit integers, modulo 2 ^ 32. -/
  | int32
  /-- 64-bit integers, modulo 2 ^ 64. -/
  | int64
  deriving DecidableEq, Inhabited

/-- The numbers of an element type, if they can be added up. -/
def Summand.ofElementType? : ElementType → Option Summand
  | .float32 => some .single
  | .int32 => some .int32
  | .int64 => some .int64
  | .float16 => none
  | .uint8 => none

/-- **Adds the numbers of a value into a buffer**, starting over at the buffer's end. -/
def Summand.addInto (buffer value : Bytes) : Summand → Bytes
  | single => Single.bytesOfList
      (foldOnto Single.add (Single.listOfBytes buffer) (Single.listOfBytes value))
  | int32 => Bytes.ofWords32 (foldOnto (· + ·) (Bytes.words32 buffer) (Bytes.words32 value))
  | int64 => Bytes.ofWords64 (foldOnto (· + ·) (Bytes.words64 buffer) (Bytes.words64 value))

/-- **How values enter a buffer.** -/
inductive Filling where
  /-- One after the other. -/
  | stack
  /-- Added up. -/
  | sum (summand : Summand)
  /-- Each in place of the one before. -/
  | replace
  deriving DecidableEq, Inhabited

/-- How the values of an anchor enter its buffer; sums need numbers that can be added up. -/
def Layout.filling (layout : Layout) : Except ConfigurationFault Filling :=
  match layout.policy with
  | .all => .ok .stack
  | .last => .ok .replace
  | .sum =>
    match Summand.ofElementType? layout.buffer.elementType with
    | some summand => .ok (.sum summand)
    | none => .error (.unsummable layout.name layout.buffer.elementType)

/-- **A buffer**: a layout, how it is filled, and what it holds. -/
structure Buffer where
  /-- What the buffer is for. -/
  layout : Layout
  /-- How values enter it. -/
  filling : Filling
  /-- What it holds, in parts, the last one first. -/
  parts : List Bytes
  deriving DecidableEq, Inhabited

namespace Buffer

/-- The buffer of all zero bytes for a layout. -/
def ofLayout (layout : Layout) : Except ConfigurationFault Buffer := do
  let filling ← layout.filling
  return ⟨layout, filling, [List.replicate layout.buffer.byteCount 0]⟩

/-- **The bytes of a buffer**: its parts, the first one first. -/
def data (b : Buffer) : Bytes := b.parts.reverse.flatten

/-- The anchor's name. -/
def name (b : Buffer) : String := b.layout.name

/-- A copy of the contents, as a tensor. -/
def toTensor (b : Buffer) : Tensor := ⟨b.layout.buffer, b.data⟩

/-- The contents as numbers. -/
def toSingles (b : Buffer) : Except TensorFault (List Single) :=
  if b.layout.buffer.elementType = .float32 then Tensor.singlesOfBytes b.data
  else .error (.anchorNotFloat b.name b.layout.buffer)

/-- Makes the buffer ready for a step: stacks start empty and sums at zero. -/
def beginStep (b : Buffer) : Buffer :=
  match b.filling with
  | .stack => { b with parts := [] }
  | .sum _ => { b with parts := [List.replicate b.data.length 0] }
  | .replace => b

/-- Whether a value holds a number that is infinite or no number. -/
def hasNonFinite (value : Tensor) : Bool :=
  value.info.elementType = .float32 && (Single.listOfBytes value.payload).any fun x => !x.isFinite

/-- The parts of a buffer after the value of a micro-batch has entered it. -/
def partsWith (b : Buffer) (value : Bytes) : List Bytes :=
  match b.filling with
  | .stack => value :: b.parts
  | .sum summand => [summand.addInto b.data value]
  | .replace => [value]

/-- **Takes the value of one micro-batch**, which must be as the layout describes it. If numbers are
checked, they must be finite. -/
def fill (checkNumerics : Bool) (b : Buffer) (value : Tensor) : Except Fault Buffer :=
  if checkNumerics && hasNonFinite value then .error (.nonFinite b.name)
  else
    match b.layout.microBatch.validate b.name value with
    | .error cause => .error (.mismatch cause)
    | .ok () => .ok { b with parts := b.partsWith value.payload }

/-- Takes one value for each buffer, in order. -/
def fillAll (checkNumerics : Bool) (buffers : List Buffer) (values : List Tensor) :
    Except Fault (List Buffer) :=
  (buffers.zip values).mapM fun p => fill checkNumerics p.1 p.2

end Buffer

end Microbatch

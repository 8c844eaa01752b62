set_option relaxedAutoImplicit false
set_option autoImplicit false

/-!
# Element types

## Main definitions

* `Microbatch.ElementType` — the five types a tensor element may have.
* `Microbatch.ElementType.byteSize`, `Microbatch.ElementType.code`, `Microbatch.ElementType.name` —
  size, code in a model file and canonical name.
* `Microbatch.ElementType.ofCode?`, `Microbatch.ElementType.ofText?` — the type with a given code or
  name, names in any letter case.
-/

namespace Microbatch

/-- **The type of a tensor's elements.** -/
inductive ElementType where
  /-- Single-precision numbers. -/
  | float32
  /-- Half-precision numbers. -/
  | float16
  /-- Signed 64-bit integers. -/
  | int64
  /-- Signed 32-bit integers. -/
  | int32
  /-- Unsigned bytes. -/
  | uint8
  deriving DecidableEq, Inhabited

namespace ElementType

/-- The bytes that one element takes. -/
def byteSize : ElementType → Nat
  | float32 => 4
  | float16 => 2
  | int64 => 8
  | int32 => 4
  | uint8 => 1

/-- The code that stands for the type in a model file. -/
def code : ElementType → Int32
  | float32 => 1
  | uint8 => 2
  | int32 => 6
  | int64 => 7
  | float16 => 10

/-- The type with a code, if there is one. -/
def ofCode? (code : Int32) : Option ElementType :=
  if code = 1 then some float32
  else if code = 2 then some uint8
  else if code = 6 then some int32
  else if code = 7 then some int64
  else if code = 10 then some float16
  else none

/-- The canonical name. -/
def name : ElementType → String
  | float32 => "FLOAT"
  | float16 => "FLOAT16"
  | int64 => "INT64"
  | int32 => "INT32"
  | uint8 => "UINT8"

instance : ToString ElementType := ⟨name⟩

/-- The type with a name or an alias of it, in any letter case. -/
def ofText? (text : String) : Option ElementType :=
  match text.toList.map Char.toUpper with
  | ['F', 'L', 'O', 'A', 'T'] => some float32
  | ['F', 'L', 'O', 'A', 'T', '3', '2'] => some float32
  | ['F', '3', '2'] => some float32
  | ['F', 'L', 'O', 'A', 'T', '1', '6'] => some float16
  | ['F', '1', '6'] => some float16
  | ['I', 'N', 'T', '6', '4'] => some int64
  | ['I', '6', '4'] => some int64
  | ['I', 'N', 'T', '3', '2'] => some int32
  | ['I', '3', '2'] => some int32
  | ['U', 'I', 'N', 'T', '8'] => some uint8
  | ['U', '8'] => some uint8
  | _ => none

@[simp] theorem ofText?_name (t : ElementType) : ofText? t.name = some t := by
  cases t <;> decide +kernel

@[simp] theorem ofCode?_code (t : ElementType) : ofCode? t.code = some t := by
  cases t <;> decide

/-- Codes and types correspond. -/
theorem ofCode?_eq_some_iff {code : Int32} {t : ElementType} :
    ofCode? code = some t ↔ code = t.code := by
  constructor
  · intro h
    unfold ofCode? at h
    repeat' split at h
    all_goals first | (cases h; assumption) | cases h
  · rintro rfl
    exact ofCode?_code t

theorem byteSize_pos (t : ElementType) : 0 < t.byteSize := by
  cases t <;> decide

end ElementType

end Microbatch

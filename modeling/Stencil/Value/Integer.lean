import Stencil.Value.Basic

/-!
# Integers of programs

A program has integers of several sizes. Each becomes a number of 64 bits and keeps its value: the
signed ones become signed numbers, also where they are not negative, and the unsigned ones unsigned
numbers.
-/

namespace Stencil

/-- An integer in the type that a program has it in. -/
inductive ProgramInteger where
  | int8 (n : Int8)
  | int16 (n : Int16)
  | int32 (n : Int32)
  | int64 (n : Int64)
  /-- A signed integer as wide as an address. -/
  | isize (n : ISize)
  | uint8 (n : UInt8)
  | uint16 (n : UInt16)
  | uint32 (n : UInt32)
  | uint64 (n : UInt64)
  /-- An unsigned integer as wide as an address. -/
  | usize (n : USize)

namespace ProgramInteger

/-- The integer itself, whatever its type. -/
def value : ProgramInteger → Int
  | int8 n => n.toInt
  | int16 n => n.toInt
  | int32 n => n.toInt
  | int64 n => n.toInt
  | isize n => n.toInt
  | uint8 n => n.toNat
  | uint16 n => n.toNat
  | uint32 n => n.toNat
  | uint64 n => n.toNat
  | usize n => n.toNat

/-- The number that the integer becomes. -/
def number : ProgramInteger → Number
  | int8 n => .signed n.toInt64
  | int16 n => .signed n.toInt64
  | int32 n => .signed n.toInt64
  | int64 n => .signed n
  | isize n => .signed n.toInt64
  | uint8 n => .unsigned n.toUInt64
  | uint16 n => .unsigned n.toUInt64
  | uint32 n => .unsigned n.toUInt64
  | uint64 n => .unsigned n
  | usize n => .unsigned n.toUInt64

/-- **Becoming a number keeps the integer.** -/
@[simp] theorem integer?_number (i : ProgramInteger) : i.number.integer? = some i.value := by
  cases i with
  | int8 n => exact congrArg some n.toInt_toInt64
  | int16 n => exact congrArg some n.toInt_toInt64
  | int32 n => exact congrArg some n.toInt_toInt64
  | int64 n => rfl
  | isize n => exact congrArg some n.toInt_toInt64
  | uint8 n => exact congrArg (fun k : Nat => some (k : Int)) n.toNat_toUInt64
  | uint16 n => exact congrArg (fun k : Nat => some (k : Int)) n.toNat_toUInt64
  | uint32 n => exact congrArg (fun k : Nat => some (k : Int)) n.toNat_toUInt64
  | uint64 n => rfl
  | usize n => exact congrArg (fun k : Nat => some (k : Int)) n.toNat_toUInt64

end ProgramInteger

end Stencil

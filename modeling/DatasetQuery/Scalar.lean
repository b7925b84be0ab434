import DatasetQuery.Binary
import DatasetQuery.Calendar.Instant
import DatasetQuery.Decimal.Layout
/-!
Constants of ten kinds, with their text and their equality. Equality keeps the kinds apart and
compares floating point as numbers, so a constant that is no number differs from itself.
-/
namespace DatasetQuery

inductive Scalar where
  | string (value : String)
  | boolean (value : Bool)
  | i32 (value : Int32)
  | i64 (value : Int64)
  | u32 (value : UInt32)
  | u64 (value : UInt64)
  | f32 (value : Binary32)
  | f64 (value : Binary64)
  /-- Microseconds since the start of 1970, in UTC. -/
  | timestamp (micros : Int64)
  | null

namespace Scalar

/-- The name of the kind in messages. -/
def kind : Scalar → String
  | string _ => "string"
  | boolean _ => "boolean"
  | i32 _ => "i32"
  | i64 _ => "i64"
  | u32 _ => "u32"
  | u64 _ => "u64"
  | f32 _ => "f32"
  | f64 _ => "f64"
  | timestamp _ => "timestamp"
  | null => "null"

def text : Scalar → String
  | string value => value
  | boolean value => if value then "true" else "false"
  | i32 value => toString value.toInt
  | i64 value => toString value.toInt
  | u32 value => toString value.toNat
  | u64 value => toString value.toNat
  | f32 value => Decimal.Layout.plain.render value.value
  | f64 value => Decimal.Layout.plain.render value.value
  | timestamp micros => toString micros.toInt
  | null => "null"

def beq : Scalar → Scalar → Bool
  | string a, string b => a == b
  | boolean a, boolean b => a == b
  | i32 a, i32 b => a == b
  | i64 a, i64 b => a == b
  | u32 a, u32 b => a == b
  | u64 a, u64 b => a == b
  | f32 a, f32 b => a.sameNumber b
  | f64 a, f64 b => a.sameNumber b
  | timestamp a, timestamp b => a == b
  | null, null => true
  | _, _ => false

instance : BEq Scalar := ⟨beq⟩

/-- Absence becomes the constant `null`. -/
def ofOption : Option Scalar → Scalar
  | some value => value
  | none => null

/-- An instant is kept to the microsecond, rounded down. -/
def ofInstant (i : Instant) : Scalar := timestamp (Int64.ofInt i.unixMicrosecond)

/-- A narrower constant as the wider kind that holds all its values. -/
def i64OfI32 (value : Int32) : Scalar := i64 (Int64.ofInt value.toInt)

def u64OfU32 (value : UInt32) : Scalar := u64 value.toUInt64

def f64OfF32 (value : Binary32) : Scalar := f64 value.widen

end Scalar

end DatasetQuery

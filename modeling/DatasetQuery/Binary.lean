/-!
Binary floating point by its bits: what a pattern stands for, when two patterns are equal as
numbers, and the widening of single to double precision.
-/
namespace DatasetQuery

/-- The powers of two, the weights of binary places. -/
def twoTo (n : Nat) : Nat := Nat.pow 2 n

theorem twoTo_succ (n : Nat) : twoTo (n + 1) = twoTo n * 2 := rfl

/-- The two field widths of a binary interchange format; a sign bit stands before them. -/
structure BinaryFormat where
  exponentBits : Nat
  fractionBits : Nat

namespace BinaryFormat

def single : BinaryFormat := ⟨8, 23⟩

def double : BinaryFormat := ⟨11, 52⟩

def bias (f : BinaryFormat) : Nat := twoTo (f.exponentBits - 1) - 1

/-- The exponent field of infinities and of values that are no numbers. -/
def topExponent (f : BinaryFormat) : Nat := twoTo f.exponentBits - 1

end BinaryFormat

/-- What a pattern stands for. A finite value is `significand * 2 ^ exponent`; `isolated` says
that the value below it is only half as far away as the value above it. -/
inductive BinaryValue where
  | notANumber
  | infinite (negative : Bool)
  | finite (negative : Bool) (significand : Nat) (exponent : Int) (isolated : Bool)

namespace BinaryFormat

def signOf (f : BinaryFormat) (bits : Nat) : Bool :=
  bits / twoTo (f.exponentBits + f.fractionBits) % 2 = 1

def exponentOf (f : BinaryFormat) (bits : Nat) : Nat :=
  bits / twoTo f.fractionBits % twoTo f.exponentBits

def fractionOf (f : BinaryFormat) (bits : Nat) : Nat := bits % twoTo f.fractionBits

def valueOf (f : BinaryFormat) (bits : Nat) : BinaryValue :=
  let negative := f.signOf bits
  let e := f.exponentOf bits
  let m := f.fractionOf bits
  if e = f.topExponent then
    if m = 0 then .infinite negative else .notANumber
  else if e = 0 then
    .finite negative m (1 - (f.bias + f.fractionBits : Nat)) false
  else
    .finite negative (twoTo f.fractionBits + m) (e - (f.bias + f.fractionBits : Nat))
      (m = 0 ∧ 1 < e)

def isNaN (f : BinaryFormat) (bits : Nat) : Bool :=
  f.exponentOf bits = f.topExponent ∧ f.fractionOf bits ≠ 0

/-- Either sign of zero: nothing but the sign bit may be set. -/
def isZero (f : BinaryFormat) (bits : Nat) : Bool :=
  bits % twoTo (f.exponentBits + f.fractionBits) = 0

/-- Equality of numbers: a value that is no number equals nothing, and the two zeros are
equal. -/
def sameNumber (f : BinaryFormat) (a b : Nat) : Bool :=
  !f.isNaN a && !f.isNaN b && (a = b || (f.isZero a && f.isZero b))

end BinaryFormat

/-- A single precision number, kept as its bits. -/
structure Binary32 where
  bits : UInt32
  deriving DecidableEq

/-- A double precision number, kept as its bits. -/
structure Binary64 where
  bits : UInt64
  deriving DecidableEq

namespace Binary32

def value (x : Binary32) : BinaryValue := BinaryFormat.single.valueOf x.bits.toNat

def isNaN (x : Binary32) : Bool := BinaryFormat.single.isNaN x.bits.toNat

def sameNumber (x y : Binary32) : Bool :=
  BinaryFormat.single.sameNumber x.bits.toNat y.bits.toNat

/-- The same number in double precision. A value that is no number keeps its payload and turns
quiet. -/
def widen (x : Binary32) : Binary64 :=
  let n := x.bits.toNat
  let sign := n / twoTo 31 * twoTo 63
  let e := BinaryFormat.single.exponentOf n
  let m := BinaryFormat.single.fractionOf n
  let rest :=
    if e = 255 then
      if m = 0 then 2047 * twoTo 52 else 2047 * twoTo 52 + (m * twoTo 29 ||| twoTo 51)
    else if e = 0 then
      if m = 0 then 0
      else (Nat.log2 m + 874) * twoTo 52 + (m * twoTo (52 - Nat.log2 m) - twoTo 52)
    else (e + 896) * twoTo 52 + m * twoTo 29
  ⟨UInt64.ofNat (sign + rest)⟩

end Binary32

namespace Binary64

def value (x : Binary64) : BinaryValue := BinaryFormat.double.valueOf x.bits.toNat

def isNaN (x : Binary64) : Bool := BinaryFormat.double.isNaN x.bits.toNat

def sameNumber (x y : Binary64) : Bool :=
  BinaryFormat.double.sameNumber x.bits.toNat y.bits.toNat

end Binary64

end DatasetQuery

import DatasetQuery.Json.Value
/-!
JSON numbers. The digits are collected in a significand of 64 bits; digits that no longer fit are
dropped, and only their place counts. A number with a fraction, an exponent or too many digits
is the significand, multiplied or divided by a power of ten, each step rounded once.
-/
namespace DatasetQuery.Json

/-- Digits read so far: their value, and the power of ten they stand at. -/
structure Decimal where
  significand : Nat
  exponent : Int

def digit? (c : Char) : Option Nat :=
  if '0' ≤ c ∧ c ≤ '9' then some (c.toNat - '0'.toNat) else none

/-- One more than the greatest significand. -/
def significandBound : Nat := 0x10000000000000000

def fits (significand d : Nat) : Bool := significand * 10 + d < significandBound

/-- The size of the least negative integer. -/
def negativeBound : Nat := 0x8000000000000000

/-- The digits before the point. From the first that does not fit, only their number counts. -/
def wholeDigits (n : Decimal) : List Char → Decimal × List Char
  | [] => (n, [])
  | c :: rest =>
    match digit? c with
    | none => (n, c :: rest)
    | some d =>
      if n.exponent = 0 ∧ fits n.significand d then
        wholeDigits { n with significand := n.significand * 10 + d } rest
      else wholeDigits { n with exponent := n.exponent + 1 } rest

/-- The digits after the point. From the first that does not fit, all are dropped. -/
def placeDigits (n : Decimal) : List Char → Decimal × List Char
  | [] => (n, [])
  | c :: rest =>
    match digit? c with
    | none => (n, c :: rest)
    | some d =>
      if fits n.significand d then
        placeDigits ⟨n.significand * 10 + d, n.exponent - 1⟩ rest
      else (n, rest.dropWhile fun c => (digit? c).isSome)

/-- The value of the digits of an exponent, and what follows them. -/
def exponentDigits (n : Nat) : List Char → Nat × List Char
  | [] => (n, [])
  | c :: rest =>
    match digit? c with
    | none => (n, c :: rest)
    | some d => exponentDigits (n * 10 + d) rest

/-- Scales by a power of ten in steps of at most `10 ^ 308`; no value if the result is too
large. -/
def scale (x : Float) (exponent : Int) : Option Float :=
  if 0 ≤ exponent then
    if 308 < exponent then if x == 0 then some x else none
    else
      let y := x * Float.ofScientific 1 false exponent.toNat
      if y.isInf then none else some y
  else if -308 ≤ exponent then some (x / Float.ofScientific 1 false exponent.natAbs)
  else if x == 0 then some x
  else scale (x / 1e308) (exponent + 308)
termination_by exponent.natAbs
decreasing_by omega

/-- The number that is nearest after every step. -/
def Decimal.float? (n : Decimal) (negative : Bool) : Option Value :=
  (scale (UInt64.ofNat n.significand).toFloat n.exponent).map fun x =>
    .float ⟨(if negative then -x else x).toBits⟩

/-- A number without fraction and exponent. Negative zero is no integer. -/
def Decimal.whole? (n : Decimal) (negative : Bool) : Option Value :=
  if n.exponent ≠ 0 then n.float? negative
  else if !negative then some (.integer n.significand)
  else if n.significand = 0 ∨ negativeBound < n.significand then n.float? negative
  else some (.integer (-n.significand))

/-- The optional fraction: a point and at least one digit. -/
def fraction? (n : Decimal) : List Char → Option (Decimal × Bool × List Char)
  | '.' :: c :: rest =>
    if (digit? c).isSome then
      let (n, rest) := placeDigits n (c :: rest)
      some (n, true, rest)
    else none
  | '.' :: [] => none
  | rest => some (n, false, rest)

/-- The optional exponent: a letter, a sign perhaps, and at least one digit. -/
def exponent? : List Char → Option (Option Int × List Char)
  | c :: rest =>
    if c = 'e' ∨ c = 'E' then
      let (negative, digits) := match rest with
        | '+' :: digits => (false, digits)
        | '-' :: digits => (true, digits)
        | digits => (false, digits)
      match digits with
      | d :: _ =>
        if (digit? d).isSome then
          let (n, rest) := exponentDigits 0 digits
          some (some (if negative then -(n : Int) else n), rest)
        else none
      | [] => none
    else some (none, c :: rest)
  | [] => some (none, [])

/-- The digits of the whole part: a zero stands alone. -/
def whole? : List Char → Option (Decimal × List Char)
  | '0' :: rest =>
    match rest with
    | c :: _ => if (digit? c).isSome then none else some (⟨0, 0⟩, rest)
    | [] => some (⟨0, 0⟩, [])
  | c :: rest => if (digit? c).isSome then some (wholeDigits ⟨0, 0⟩ (c :: rest)) else none
  | [] => none

/-- A number without its sign. -/
def unsigned? (negative : Bool) (cs : List Char) : Option (Value × List Char) := do
  let (n, rest) ← whole? cs
  let (n, isFraction, rest) ← fraction? n rest
  let (e, rest) ← exponent? rest
  let value ← match e with
    | some e => Decimal.float? ⟨n.significand, n.exponent + e⟩ negative
    | none => if isFraction then n.float? negative else n.whole? negative
  return (value, rest)

def number? : List Char → Option (Value × List Char)
  | '-' :: rest => unsigned? true rest
  | rest => unsigned? false rest

end DatasetQuery.Json

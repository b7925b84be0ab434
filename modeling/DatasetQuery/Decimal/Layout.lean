import DatasetQuery.Decimal.Digits
import DatasetQuery.Decimal.Shortest
/-!
How decimals are laid out as text. A layout says which magnitudes are written positionally and
how many places they have at least; all others are written with an exponent.
-/
namespace DatasetQuery.Decimal

structure Layout where
  /-- The least number of places behind the point in positional text. -/
  places : Nat
  /-- Which exponents of the leading digit are written positionally. -/
  positional : Int → Bool

namespace Layout

/-- Always positional, and no point behind a whole number. -/
def plain : Layout := ⟨0, fun _ => true⟩

/-- A point in every positional number; an exponent below one ten-thousandth and from ten to
the sixteenth upwards. -/
def described : Layout := ⟨1, fun p => -4 ≤ p ∧ p < 16⟩

/-- Behind the digits stands a point when any places follow. -/
def withPoint (whole places : List Char) : List Char :=
  if places.isEmpty then whole else whole ++ '.' :: places

def positionalText (l : Layout) (s : Scientific) : List Char :=
  let places := (-s.exponent).toNat
  let ds := padded (places + 1) (s.coefficient * tenTo s.exponent.toNat)
  let whole := ds.take (ds.length - places)
  let behind := ds.drop (ds.length - places)
  withPoint whole (behind ++ List.replicate (l.places - behind.length) '0')

def exponentText (s : Scientific) : List Char :=
  match digits s.coefficient with
  | [] => []
  | d :: behind => withPoint [d] behind ++ 'e' :: (toString s.magnitude).toList

def unsigned (l : Layout) (s : Scientific) : List Char :=
  if l.positional s.magnitude then l.positionalText s else exponentText s

/-- The shortest text that reads back as the value in its own precision. -/
def render (l : Layout) : BinaryValue → String
  | .notANumber => "NaN"
  | .infinite negative => if negative then "-inf" else "inf"
  | .finite negative significand exponent isolated =>
    let text := l.unsigned (shortest significand exponent isolated)
    String.ofList (if negative then '-' :: text else text)

end Layout

end DatasetQuery.Decimal

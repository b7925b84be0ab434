/-!
Decimal digits of natural numbers: filled to a width, and as the fraction behind a point.
-/
namespace DatasetQuery.Decimal

/-- The powers of ten, the weights of decimal places. -/
def tenTo (places : Nat) : Nat := Nat.pow 10 places

def digits (n : Nat) : List Char := Nat.toDigits 10 n

/-- The digits of `n`, filled with zeros on the left up to `width`; a longer number is not
cut. -/
def padded (width n : Nat) : List Char :=
  List.replicate (width - (digits n).length) '0' ++ digits n

/-- The value `part / 10 ^ places` behind its point, without trailing zeros; nothing if it is
zero. -/
def fraction (places part : Nat) : List Char :=
  if part = 0 then []
  else '.' :: ((padded places part).reverse.dropWhile (· == '0')).reverse

theorem length_padded (width n : Nat) : width ≤ (padded width n).length := by
  simp only [padded, List.length_append, List.length_replicate]
  omega

end DatasetQuery.Decimal

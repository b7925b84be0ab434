/-!
Numbers below `2 ^ 64` as bytes of seven bits each, lowest first, where every byte but the last
has its high bit set. At most ten bytes are read, and the tenth has one bit to give.
-/
namespace DatasetQuery.Wire

abbrev Bytes := List UInt8

namespace Varint

def encode (n : Nat) : Bytes :=
  if n < 128 then [UInt8.ofNat n] else UInt8.ofNat (n % 128 + 128) :: encode (n / 128)
termination_by n

/-- Reads a number of at most `count` bytes and gives the bytes after it. -/
def decodeUpTo : (count : Nat) → Bytes → Option (Nat × Bytes)
  | 0, _ => none
  | _ + 1, [] => none
  | count + 1, b :: rest =>
    if b.toNat < 128 then
      if count = 0 ∧ 1 < b.toNat then none else some (b.toNat, rest)
    else
      match decodeUpTo count rest with
      | some (high, rest) => some (b.toNat - 128 + 128 * high, rest)
      | none => none

def decode (bytes : Bytes) : Option (Nat × Bytes) := decodeUpTo 10 bytes

theorem decodeUpTo_shortens {count : Nat} {bytes rest : Bytes} {n : Nat}
    (h : decodeUpTo count bytes = some (n, rest)) : rest.length < bytes.length := by
  induction count generalizing bytes n with
  | zero => simp [decodeUpTo] at h
  | succ count ih =>
    cases bytes with
    | nil => simp [decodeUpTo] at h
    | cons b tail =>
      simp only [decodeUpTo] at h
      split at h
      · split at h
        · cases h
        · cases h
          simp
      · split at h
        · rename_i inner
          cases h
          exact Nat.lt_succ_of_lt (ih inner)
        · cases h

/-- A number takes at least one byte. -/
theorem decode_shortens {bytes rest : Bytes} {n : Nat} (h : decode bytes = some (n, rest)) :
    rest.length < bytes.length :=
  decodeUpTo_shortens h

end Varint

end DatasetQuery.Wire

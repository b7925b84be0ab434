import DatasetQuery.Wire.Varint
/-!
The byte form of a message as a list of numbered fields. Groups are only skipped: they may nest
as deep as there are levels left, and each must be closed by its own number.
-/
namespace DatasetQuery.Wire

/-- What a field carries, by its wire type. -/
inductive Payload where
  | varint (n : Nat)
  | fixed64 (n : Nat)
  | bytes (content : Bytes)
  | group
  | fixed32 (n : Nat)

structure Field where
  number : Nat
  payload : Payload

/-- The `count` lowest bytes of a number, lowest first. -/
def littleEndian : (count : Nat) → Nat → Bytes
  | 0, _ => []
  | count + 1, n => UInt8.ofNat (n % 256) :: littleEndian count (n / 256)

def ofLittleEndian : Bytes → Nat
  | [] => 0
  | b :: rest => b.toNat + 256 * ofLittleEndian rest

/-- The first `count` bytes and those after them, if there are as many. -/
def splitBytes (count : Nat) (bytes : Bytes) : Option (Bytes × Bytes) :=
  if count ≤ bytes.length then some (bytes.take count, bytes.drop count) else none

namespace Payload

def wireType : Payload → Nat
  | varint _ => 0
  | fixed64 _ => 1
  | bytes _ => 2
  | group => 3
  | fixed32 _ => 5

/-- The bytes behind the key of a field. Groups are never written. -/
def encode : Payload → Bytes
  | varint n => Varint.encode n
  | fixed64 n => littleEndian 8 n
  | bytes content => Varint.encode content.length ++ content
  | group => []
  | fixed32 n => littleEndian 4 n

end Payload

/-- Keys fit in 32 bits. -/
def keyBound : Nat := 0x100000000

/-- A key: the number of a field, not zero, and a wire type. -/
def readKey (bytes : Bytes) : Option ((Nat × Nat) × Bytes) :=
  match Varint.decode bytes with
  | some (key, rest) =>
    if key < keyBound ∧ key / 8 ≠ 0 then some ((key / 8, key % 8), rest) else none
  | none => none

/-- A payload other than a group. -/
def readPayload (wireType : Nat) (bytes : Bytes) : Option (Payload × Bytes) :=
  match wireType with
  | 0 => (Varint.decode bytes).map fun r => (.varint r.1, r.2)
  | 1 => (splitBytes 8 bytes).map fun r => (.fixed64 (ofLittleEndian r.1), r.2)
  | 2 =>
    match Varint.decode bytes with
    | some (count, rest) => (splitBytes count rest).map fun r => (.bytes r.1, r.2)
    | none => none
  | 5 => (splitBytes 4 bytes).map fun r => (.fixed32 (ofLittleEndian r.1), r.2)
  | _ => none

theorem readKey_shortens {bytes rest : Bytes} {key : Nat × Nat}
    (h : readKey bytes = some (key, rest)) : rest.length < bytes.length := by
  unfold readKey at h
  split at h
  · rename_i read
    split at h
    · cases h
      exact Varint.decode_shortens read
    · cases h
  · cases h

theorem splitBytes_shortens {count : Nat} {bytes : Bytes} {r : Bytes × Bytes}
    (h : splitBytes count bytes = some r) : r.2.length ≤ bytes.length := by
  unfold splitBytes at h
  split at h
  · cases h
    simp
  · cases h

theorem readPayload_shortens {wireType : Nat} {bytes rest : Bytes} {p : Payload}
    (h : readPayload wireType bytes = some (p, rest)) : rest.length ≤ bytes.length := by
  unfold readPayload at h
  split at h
  · obtain ⟨r, read, eq⟩ := Option.map_eq_some_iff.1 h
    cases eq
    exact Nat.le_of_lt (Varint.decode_shortens read)
  · obtain ⟨r, read, eq⟩ := Option.map_eq_some_iff.1 h
    cases eq
    exact splitBytes_shortens read
  · split at h
    · rename_i read
      obtain ⟨r, split_, eq⟩ := Option.map_eq_some_iff.1 h
      cases eq
      exact Nat.le_trans (splitBytes_shortens split_) (Nat.le_of_lt (Varint.decode_shortens read))
    · cases h
  · obtain ⟨r, read, eq⟩ := Option.map_eq_some_iff.1 h
    cases eq
    exact splitBytes_shortens read
  · cases h

/-- The bytes after the end of the groups that are open, innermost first. A field inside needs
a level for each group around it. -/
def skipGroups (levels : Nat) : (opened : List Nat) → Bytes → Option Bytes
  | [], bytes => some bytes
  | innermost :: outer, bytes =>
    match _key : readKey bytes with
    | none => none
    | some ((number, 4), rest) =>
      if number = innermost then skipGroups levels outer rest else none
    | some ((number, 3), rest) =>
      if outer.length + 1 < levels then skipGroups levels (number :: innermost :: outer) rest
      else none
    | some ((_, wireType), rest) =>
      if outer.length + 1 < levels then
        match _payload : readPayload wireType rest with
        | none => none
        | some (_, rest') => skipGroups levels (innermost :: outer) rest'
      else none
termination_by _ bytes => bytes.length
decreasing_by
  · exact readKey_shortens _key
  · exact readKey_shortens _key
  · exact Nat.lt_of_le_of_lt (readPayload_shortens _payload) (readKey_shortens _key)

theorem skipGroups_shortens {levels : Nat} {opened : List Nat} {bytes rest : Bytes}
    (h : skipGroups levels opened bytes = some rest) : rest.length ≤ bytes.length := by
  fun_induction skipGroups levels opened bytes with
  | case1 => cases h; exact Nat.le_refl _
  | case3 _ _ _ _ key ih => exact Nat.le_trans (ih h) (Nat.le_of_lt (readKey_shortens key))
  | case5 _ _ _ _ _ key _ ih => exact Nat.le_trans (ih h) (Nat.le_of_lt (readKey_shortens key))
  | case8 _ _ _ _ _ _ _ _ key _ _ _ payload ih =>
    exact Nat.le_trans (ih h)
      (Nat.le_trans (readPayload_shortens payload) (Nat.le_of_lt (readKey_shortens key)))
  | case2 | case4 | case6 | case7 | case9 => cases h

namespace Field

def encode (f : Field) : Bytes :=
  Varint.encode (f.number * 8 + f.payload.wireType) ++ f.payload.encode

def encodeAll (fields : List Field) : Bytes := fields.flatMap encode

/-- The first field. A group needs a level of its own. -/
def read (levels : Nat) (bytes : Bytes) : Option (Field × Bytes) :=
  match readKey bytes with
  | none => none
  | some ((number, wireType), rest) =>
    if wireType = 3 then
      if 0 < levels then (skipGroups levels [number] rest).map fun rest => (⟨number, .group⟩, rest)
      else none
    else (readPayload wireType rest).map fun r => (⟨number, r.1⟩, r.2)

theorem read_shortens {levels : Nat} {bytes rest : Bytes} {f : Field}
    (h : read levels bytes = some (f, rest)) : rest.length < bytes.length := by
  unfold read at h
  split at h
  · cases h
  · rename_i hkey
    split at h
    · split at h
      · obtain ⟨r, skipped, eq⟩ := Option.map_eq_some_iff.1 h
        cases eq
        exact Nat.lt_of_le_of_lt (skipGroups_shortens skipped) (readKey_shortens hkey)
      · cases h
    · obtain ⟨r, payload, eq⟩ := Option.map_eq_some_iff.1 h
      cases eq
      exact Nat.lt_of_le_of_lt (readPayload_shortens payload) (readKey_shortens hkey)

/-- All fields of a message that has `levels` levels left below it. -/
def readAll (levels : Nat) (bytes : Bytes) : Option (List Field) :=
  if bytes.isEmpty then some []
  else
    match _read : read levels bytes with
    | none => none
    | some (f, rest) => (readAll levels rest).map (f :: ·)
termination_by bytes.length
decreasing_by exact read_shortens _read

end Field

end DatasetQuery.Wire

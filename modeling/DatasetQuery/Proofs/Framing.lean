import DatasetQuery.Wire.Decode
/-!
Fields read back from their bytes. A field that is written is found again whatever follows it, so
the bytes of a message give the list of its fields; the one thing that can be lost is a length
that a word of 64 bits does not hold.
-/
namespace DatasetQuery.Wire

/-- Numbers below it fit in a word of 64 bits. -/
def wordBound : Nat := 0x10000000000000000

namespace Varint

/-- Numbers below it fit in as many bytes, of which the tenth has one bit. -/
def bound : (count : Nat) → Nat
  | 0 => 0
  | 1 => 2
  | count + 2 => bound (count + 1) * 128

theorem bound_ge (count : Nat) : 2 ≤ bound (count + 1) := by
  induction count with
  | zero => decide
  | succ count ih => simp only [bound]; omega

theorem bound_succ {count : Nat} (more : count ≠ 0) : bound (count + 1) = bound count * 128 := by
  cases count with
  | zero => exact absurd rfl more
  | succ count => rfl

theorem toNat_byte {n : Nat} (h : n < 256) : (UInt8.ofNat n).toNat = n := by
  simp [Nat.mod_eq_of_lt h]

theorem decodeUpTo_final {n : Nat} (small : n < 128) (count : Nat) (rest : Bytes) :
    decodeUpTo (count + 1) (UInt8.ofNat n :: rest) =
      if n < bound (count + 1) then some (n, rest) else none := by
  rw [decodeUpTo, toNat_byte (by omega : n < 256), if_pos small]
  by_cases last : count = 0
  · subst last
    by_cases bit : 1 < n
    · rw [if_pos ⟨rfl, bit⟩, if_neg (by simp only [bound]; omega)]
    · rw [if_neg (by simp [bit]), if_pos (by simp only [bound]; omega)]
  · have enough : 2 ≤ bound count := by
      have := bound_ge (count - 1)
      rwa [Nat.sub_add_cancel (Nat.pos_of_ne_zero last)] at this
    rw [if_neg (by simp [last]), if_pos (by rw [bound_succ last]; omega)]

theorem decodeUpTo_continued {n : Nat} (small : n < 128) (count : Nat) (rest : Bytes) :
    decodeUpTo (count + 1) (UInt8.ofNat (n + 128) :: rest) =
      (decodeUpTo count rest).map fun r => (n + 128 * r.1, r.2) := by
  rw [decodeUpTo, toNat_byte (by omega : n + 128 < 256), if_neg (by omega)]
  cases decodeUpTo count rest with
  | none => rfl
  | some r => simp only [Nat.add_sub_cancel, Option.map_some]

/-- A number that does not fit in the bytes allowed is refused. -/
theorem decodeUpTo_encode (count n : Nat) (rest : Bytes) :
    decodeUpTo count (encode n ++ rest) = if n < bound count then some (n, rest) else none := by
  -- on the bytes that are allowed: every digit that is written takes one of them
  induction count generalizing n with
  | zero => rfl
  | succ count ih =>
    rw [encode]
    by_cases small : n < 128
    · rw [if_pos small]
      exact decodeUpTo_final small count rest
    · have digits : n % 128 + 128 * (n / 128) = n := Nat.mod_add_div n 128
      rw [if_neg small, List.cons_append, decodeUpTo_continued (Nat.mod_lt n (by decide)), ih]
      by_cases last : count = 0
      · subst last
        have high : ¬n / 128 < bound 0 := Nat.not_lt_zero _
        have whole : ¬n < bound 1 := by simp only [bound]; omega
        rw [if_neg high, if_neg whole]
        rfl
      · rw [bound_succ last]
        by_cases fits : n / 128 < bound count
        · rw [if_pos fits, if_pos (by omega), Option.map_some, digits]
        · rw [if_neg fits, if_neg (by omega), Option.map_none]

theorem decode_encode (n : Nat) (rest : Bytes) :
    decode (encode n ++ rest) = if n < wordBound then some (n, rest) else none :=
  decodeUpTo_encode 10 n rest

end Varint

theorem length_littleEndian (count n : Nat) : (littleEndian count n).length = count := by
  induction count generalizing n with
  | zero => rfl
  | succ count ih => simp [littleEndian, ih]

theorem ofLittleEndian_littleEndian {count n : Nat} (fits : n < twoTo (8 * count)) :
    ofLittleEndian (littleEndian count n) = n := by
  induction count generalizing n with
  | zero =>
    have : n < 1 := fits
    simp [littleEndian, ofLittleEndian]
    omega
  | succ count ih =>
    have step : twoTo (8 * (count + 1)) = twoTo (8 * count) * 256 := by
      simp only [Nat.mul_add, twoTo_succ, Nat.mul_assoc]
    have byte := Varint.toNat_byte (Nat.mod_lt n (by decide : 0 < 256))
    simp only [littleEndian, ofLittleEndian, byte, ih (by omega : n / 256 < twoTo (8 * count))]
    omega

theorem splitBytes_append {count : Nat} {front : Bytes} (rest : Bytes)
    (width : front.length = count) : splitBytes count (front ++ rest) = some (front, rest) := by
  subst width
  simp [splitBytes]

namespace Payload

/-- What the writer puts behind a key: numbers of the width of their wire type. -/
def Written : Payload → Prop
  | varint n => n < wordBound
  | fixed64 n => n < wordBound
  | bytes _ => True
  | group => False
  | fixed32 n => n < keyBound

/-- Contents have a length in front of them, which must fit in a word. -/
def Framed : Payload → Prop
  | bytes content => content.length < wordBound
  | varint _ | fixed64 _ | group | fixed32 _ => True

instance (p : Payload) : Decidable p.Framed :=
  match p with
  | bytes content => inferInstanceAs (Decidable (content.length < wordBound))
  | varint _ | fixed64 _ | group | fixed32 _ => inferInstanceAs (Decidable True)

theorem readPayload_encode {p : Payload} (written : p.Written) (framed : p.Framed)
    (rest : Bytes) : readPayload p.wireType (p.encode ++ rest) = some (p, rest) := by
  cases p with
  | varint n =>
    have read := Varint.decode_encode n rest
    rw [if_pos (show n < wordBound from written)] at read
    simp only [readPayload, wireType, encode, read, Option.map_some]
  | fixed64 n =>
    have split := splitBytes_append rest (length_littleEndian 8 n)
    have value : ofLittleEndian (littleEndian 8 n) = n := ofLittleEndian_littleEndian written
    simp only [readPayload, wireType, encode, split, value, Option.map_some]
  | bytes content =>
    have read := Varint.decode_encode content.length (content ++ rest)
    rw [if_pos (show content.length < wordBound from framed)] at read
    simp only [readPayload, wireType, encode, List.append_assoc, read, splitBytes_append rest rfl,
      Option.map_some]
  | group => cases written
  | fixed32 n =>
    have split := splitBytes_append rest (length_littleEndian 4 n)
    have value : ofLittleEndian (littleEndian 4 n) = n := ofLittleEndian_littleEndian written
    simp only [readPayload, wireType, encode, split, value, Option.map_some]

theorem readPayload_unframed {p : Payload} (unframed : ¬p.Framed) (rest : Bytes) :
    readPayload p.wireType (p.encode ++ rest) = none := by
  cases p with
  | bytes content =>
    have read := Varint.decode_encode content.length (content ++ rest)
    rw [if_neg (show ¬content.length < wordBound from unframed)] at read
    simp only [readPayload, wireType, encode, List.append_assoc, read]
  | _ => exact absurd trivial unframed

theorem wireType_lt (p : Payload) : p.wireType < 8 := by
  cases p <;> simp [wireType]

end Payload

/-- Numbers that fit in a key. -/
def Numbered (number : Nat) : Prop := 0 < number ∧ number < 0x20000000

instance (number : Nat) : Decidable (Numbered number) := inferInstanceAs (Decidable (_ ∧ _))

theorem readKey_encode {number wireType : Nat} (numbered : Numbered number)
    (known : wireType < 8) (rest : Bytes) :
    readKey (Varint.encode (number * 8 + wireType) ++ rest) = some ((number, wireType), rest) := by
  obtain ⟨named, small⟩ := numbered
  have read := Varint.decode_encode (number * 8 + wireType) rest
  rw [if_pos (by simp only [wordBound]; omega)] at read
  have number_ : (number * 8 + wireType) / 8 = number := by omega
  have type_ : (number * 8 + wireType) % 8 = wireType := by omega
  simp only [readKey, read, number_, type_]
  rw [if_pos ⟨by simp only [keyBound]; omega, by omega⟩]

namespace Field

/-- A field as the writer makes it: its number fits in a key, and it is no group. -/
structure WellFormed (f : Field) : Prop where
  numbered : Numbered f.number
  payload : f.payload.Written

theorem WellFormed.ne_group {f : Field} (written : f.WellFormed) : f.payload.wireType ≠ 3 := by
  obtain ⟨number, payload⟩ := f
  cases payload with
  | group => cases written.payload
  | _ => simp [Payload.wireType]

theorem read_encode {f : Field} (written : f.WellFormed) (levels : Nat) (rest : Bytes) :
    read levels (f.encode ++ rest) =
      (readPayload f.payload.wireType (f.payload.encode ++ rest)).map
        fun r => (⟨f.number, r.1⟩, r.2) := by
  have key := readKey_encode written.numbered f.payload.wireType_lt
    (f.payload.encode ++ rest)
  rw [read, encode, List.append_assoc, key]
  simp only [written.ne_group, if_false]

theorem encode_ne_nil (f : Field) : f.encode ≠ [] := by
  have : Varint.encode (f.number * 8 + f.payload.wireType) ≠ [] := by
    rw [Varint.encode]
    split <;> exact List.cons_ne_nil _ _
  simp [encode, this]

theorem readAll_eq {bytes : Bytes} (nonempty : bytes ≠ []) (levels : Nat) :
    readAll levels bytes =
      (read levels bytes).bind fun r => (readAll levels r.2).map (r.1 :: ·) := by
  rw [readAll, if_neg (by simpa using nonempty)]
  split <;> simp_all

theorem encodeAll_cons (f : Field) (fields : List Field) :
    encodeAll (f :: fields) = f.encode ++ encodeAll fields := rfl

end Field

/-- Fields as the writer makes them. -/
def Written (fields : List Field) : Prop := ∀ f ∈ fields, f.WellFormed

/-- Fields none of which is too long. -/
def Framed (fields : List Field) : Prop := ∀ f ∈ fields, f.payload.Framed

instance (fields : List Field) : Decidable (Framed fields) :=
  inferInstanceAs (Decidable (∀ f ∈ fields, f.payload.Framed))

theorem Framed.left {xs ys : List Field} (framed : Framed (xs ++ ys)) : Framed xs :=
  fun f member => framed f (List.mem_append_left ys member)

namespace Field

/-- The fields of a message come back as they were written. -/
theorem readAll_encodeAll {fields : List Field} (written : Written fields)
    (framed : Framed fields) (levels : Nat) :
    readAll levels (encodeAll fields) = some fields := by
  induction fields with
  | nil => rw [readAll]; rfl
  | cons f fields ih =>
    rw [Written, List.forall_mem_cons] at written
    rw [Framed, List.forall_mem_cons] at framed
    rw [encodeAll_cons, readAll_eq (by simp [encode_ne_nil]), read_encode written.1,
      Payload.readPayload_encode written.1.payload framed.1]
    simp only [Option.map_some, Option.bind_some, ih written.2 framed.2]

/-- One field that is too long spoils a message. -/
theorem readAll_unframed {fields : List Field} (written : Written fields)
    (unframed : ¬Framed fields) (levels : Nat) :
    readAll levels (encodeAll fields) = none := by
  induction fields with
  | nil => exact absurd (fun f member => nomatch member) unframed
  | cons f fields ih =>
    rw [Written, List.forall_mem_cons] at written
    rw [Framed, List.forall_mem_cons] at unframed
    rw [encodeAll_cons, readAll_eq (by simp [encode_ne_nil]), read_encode written.1]
    by_cases framed : f.payload.Framed
    · -- the fields before the one that is too long are still read
      have later : ¬Framed fields := fun rest => unframed ⟨framed, rest⟩
      simp only [Payload.readPayload_encode written.1.payload framed, Option.map_some,
        Option.bind_some, ih written.2 later, Option.map_none]
    · simp only [Payload.readPayload_unframed framed, Option.map_none, Option.bind_none]

theorem length_le_encodeAll {f : Field} {fields : List Field} (member : f ∈ fields) :
    f.encode.length ≤ (encodeAll fields).length := by
  induction fields with
  | nil => cases member
  | cons g fields ih =>
    rw [encodeAll_cons, List.length_append]
    rcases List.mem_cons.1 member with rfl | later
    · exact Nat.le_add_right _ _
    · exact Nat.le_trans (ih later) (Nat.le_add_left _ _)

/-- A message whose length fits in a word. -/
def Short (fields : List Field) : Prop := (encodeAll fields).length < wordBound

/-- Contents are shorter than the message around them. -/
theorem Short.framed {fields : List Field} (short : Short fields) : Framed fields := by
  intro f member
  obtain ⟨number, payload⟩ := f
  cases payload with
  | bytes content =>
    have whole := Nat.lt_of_le_of_lt (length_le_encodeAll member) short
    simp only [encode, Payload.encode, List.length_append] at whole
    exact Nat.lt_of_le_of_lt (by omega) whole
  | _ => trivial

theorem Short.nested {fields inner : List Field} {number : Nat} (short : Short fields)
    (member : ofMessage number inner ∈ fields) : Short inner :=
  short.framed _ member

theorem Short.only {inner : List Field} {number : Nat} (short : Short [ofMessage number inner]) :
    Short inner :=
  short.nested (List.mem_singleton_self _)

end Field

section Merging

variable {α : Type} {step : Field → α → Option α} {fields : List Field}

/-- Merging the bytes of a message is merging its fields, one after the other. -/
theorem mergeFields_encodeAll (written : Written fields)
    (framed : Framed fields) (levels : Nat) (start : α) :
    mergeFields levels step start (Field.encodeAll fields) =
      fields.foldlM (fun message field => step field message) start := by
  rw [mergeFields, Field.readAll_encodeAll written framed]

theorem mergeFields_unframed (written : Written fields)
    (unframed : ¬Framed fields) (levels : Nat) (start : α) :
    mergeFields levels step start (Field.encodeAll fields) = none := by
  rw [mergeFields, Field.readAll_unframed written unframed]

/-- The fields lead from one message to another. -/
def Merges (step : Field → α → Option α) (fields : List Field) (start result : α) : Prop :=
  fields.foldlM (fun message field => step field message) start = some result

theorem Merges.read {start result : α} (merges : Merges step fields start result)
    (written : Written fields) (framed : Framed fields) (levels : Nat) :
    mergeFields levels step start (Field.encodeAll fields) = some result :=
  (mergeFields_encodeAll written framed levels start).trans merges

theorem Merges.nil (start : α) : Merges step [] start start := rfl

theorem Merges.single {f : Field} {start result : α} (h : step f start = some result) :
    Merges step [f] start result := by
  simp only [Merges, List.foldlM_cons, h]
  rfl

theorem Merges.append {xs ys : List Field} {start middle result : α}
    (first : Merges step xs start middle) (second : Merges step ys middle result) :
    Merges step (xs ++ ys) start result := by
  rw [Merges, List.foldlM_append, first]
  exact second

/-- A plain code that is left out is the one that is there. -/
theorem Merges.plainCode {number : Nat} {code : Int32} {start result : α}
    (absent : code = 0 → start = result)
    (present : step (.ofInt32 number code) start = some result) :
    Merges step (plainCode number code) start result := by
  unfold Wire.plainCode
  split
  · rename_i zero
    exact congrArg some (absent zero)
  · exact .single present

theorem Merges.plainText {number : Nat} {s : String} {start result : α}
    (absent : s = "" → start = result)
    (present : step (.ofText number s) start = some result) :
    Merges step (plainText number s) start result := by
  unfold Wire.plainText
  split
  · rename_i empty
    exact congrArg some (absent empty)
  · exact .single present

theorem Merges.optionalPart {β : Type} {field : β → Field} {part : Option β} {start result : α}
    (absent : part = none → start = result)
    (present : ∀ x, part = some x → step (field x) start = some result) :
    Merges step (optionalPart field part) start result := by
  cases part with
  | none => exact congrArg some (absent rfl)
  | some x => exact .single (present x rfl)

/-- Repeated parts are collected behind those that are there. -/
theorem Merges.collected {β : Type} {field : β → Field} (put : List β → α) {xs : List β}
    (each : ∀ x ∈ xs, ∀ before, step (field x) (put before) = some (put (before ++ [x])))
    (before : List β) : Merges step (xs.map field) (put before) (put (before ++ xs)) := by
  induction xs generalizing before with
  | nil => rw [List.append_nil]; exact .nil _
  | cons x xs ih =>
    rw [List.forall_mem_cons] at each
    have later := ih each.2 (before ++ [x])
    rw [List.append_assoc] at later
    have first : Merges step [field x] (put before) (put (before ++ [x])) := .single (each.1 before)
    exact first.append later

/-- Some field cannot be merged into any message. -/
def Blocked (step : Field → α → Option α) (fields : List Field) : Prop :=
  ∃ f ∈ fields, ∀ message, step f message = none

theorem Blocked.single {f : Field} (refused : ∀ message, step f message = none) :
    Blocked step [f] :=
  ⟨f, List.mem_singleton_self f, refused⟩

theorem Blocked.left {xs ys : List Field} (blocked : Blocked step xs) : Blocked step (xs ++ ys) := by
  obtain ⟨f, member, refused⟩ := blocked
  exact ⟨f, List.mem_append_left ys member, refused⟩

theorem Blocked.foldlM_eq_none (blocked : Blocked step fields) (start : α) :
    fields.foldlM (fun message field => step field message) start = none := by
  obtain ⟨f, member, refused⟩ := blocked
  induction fields generalizing start with
  | nil => cases member
  | cons g fields ih =>
    rw [List.foldlM_cons]
    rcases List.mem_cons.1 member with rfl | later
    · rw [refused]
      rfl
    · cases step g start with
      | none => rfl
      | some message => exact ih message later

theorem Blocked.read (blocked : Blocked step fields) (written : Written fields)
    (framed : Framed fields) (levels : Nat) (start : α) :
    mergeFields levels step start (Field.encodeAll fields) = none :=
  (mergeFields_encodeAll written framed levels start).trans (blocked.foldlM_eq_none start)

end Merging

theorem toList_loop (b : ByteArray) (i : Nat) (r : List UInt8) :
    ByteArray.toList.loop b i r = r.reverse ++ b.data.toList.drop i := by
  fun_induction ByteArray.toList.loop b i r with
  | case1 i r more ih =>
    have inside : i < b.data.toList.length := by simpa using more
    rw [ih, List.drop_eq_getElem_cons inside]
    simp [ByteArray.get!, getElem!_pos, more]
  | case2 i r done =>
    have past : b.data.toList.length ≤ i := by simpa using done
    rw [List.drop_eq_nil_of_le past, List.append_nil]

theorem text?_textBytes (s : String) : text? (textBytes s) = some s := by
  have bytes : s.toUTF8.toList = s.toUTF8.data.toList := toList_loop s.toUTF8 0 []
  have whole : (⟨s.toUTF8.toList.toArray⟩ : ByteArray) = s.toUTF8 := by
    rw [bytes, Array.toArray_toList]
  have valid : s.toUTF8.IsValidUTF8 := s.isValidUTF8
  rw [text?, textBytes, whole, String.fromUTF8?, dif_pos valid]
  rfl

theorem signed_eq_emod (n : Int) : (signed n : Int) = n % 0x10000000000000000 :=
  Int.toNat_of_nonneg (Int.emod_nonneg n (by decide))

theorem signed_lt (n : Int) : signed n < wordBound := by
  have below := Int.emod_lt_of_pos n (by decide : (0 : Int) < 0x10000000000000000)
  rw [← signed_eq_emod] at below
  simp only [wordBound]
  omega

theorem int32Of_signed (n : Int32) : int32Of (signed n.toInt) = n := by
  apply Int32.toInt_inj.1
  rw [int32Of, Int32.toInt_ofInt, Int.ofNat_eq_natCast, signed_eq_emod]
  have low := n.le_toInt
  have high := n.toInt_lt
  simp only [Int.bmod_def, Int32.size]
  split <;> omega

theorem int64Of_signed (n : Int64) : int64Of (signed n.toInt) = n := by
  apply Int64.toInt_inj.1
  rw [int64Of, Int64.toInt_ofInt, Int.ofNat_eq_natCast, signed_eq_emod]
  have low := n.le_toInt
  have high := n.toInt_lt
  simp only [Int.bmod_def, Int64.size]
  split <;> omega

end DatasetQuery.Wire

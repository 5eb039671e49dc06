import Witan.Bincode.Integers

namespace bincode

/-- An owned sequence. Its length fits a machine word, so the length that
    precedes it on the wire is never cut off. -/
abbrev Vec (α : Type) := {items : List α // items.length < 2 ^ 64}

/-- An owned byte string. -/
abbrev ByteVec := Vec UInt8

/-- An owned string, with the same bound on its UTF-8 bytes. -/
abbrev Str := {text : String // text.utf8ByteSize < 2 ^ 64}

/-- Collect a list. No list in memory reaches the bound; the cut only makes the
    conversion total. -/
def Vec.ofList {α : Type} (items : List α) : Vec α :=
  ⟨items.take (2 ^ 64 - 1), by
    rw [List.length_take]
    omega⟩

theorem Vec.ofList_val {α : Type} {items : List α} (h : items.length < 2 ^ 64) :
    (Vec.ofList items).val = items :=
  List.take_of_length_le (by omega)

/-- The UTF-8 bytes of a string. -/
def Str.bytes (text : Str) : ByteVec :=
  ⟨text.val.toByteArray.data.toList, text.property⟩

/-- The string with the given UTF-8 bytes, if they are well-formed. -/
def Str.ofBytes? (bytes : ByteVec) : Option Str :=
  if h : (ByteArray.mk bytes.val.toArray).IsValidUTF8 then
    some ⟨String.ofByteArray ⟨bytes.val.toArray⟩ h, bytes.property⟩
  else none

instance : ToString Str := ⟨fun text => text.val⟩

-- What a map keyed by strings relies on.
instance : LawfulBEq Str := inferInstance

instance : EquivBEq Str := inferInstance

instance : LawfulHashable Str := inferInstance

theorem Str.ofBytes?_bytes (text : Str) : Str.ofBytes? text.bytes = some text :=
  dif_pos text.val.isValidUTF8

theorem Str.bytes_of_ofBytes? {bytes : ByteVec} {text : Str} (h : Str.ofBytes? bytes = some text) :
    bytes = text.bytes := by
  unfold Str.ofBytes? at h
  split at h
  · simp only [Option.some.injEq] at h
    subst h
    rfl
  · cases h

section Repetition

variable {α : Type} (codec : Codec α)

/-- Read a known number of values. -/
def decodeMany : Nat → Bytes → Option (List α × Bytes)
  | 0, bytes => some ([], bytes)
  | count + 1, bytes => do
    let (value, rest) ← codec.decode bytes
    let (values, rest) ← decodeMany count rest
    some (value :: values, rest)

theorem decodeMany_flatMap (values : List α) (rest : Bytes) :
    decodeMany codec values.length (values.flatMap codec.encode ++ rest) = some (values, rest) := by
  induction values with
  | nil => rfl
  | cons value values ih =>
    simp [decodeMany, codec.decode_encode, ih]

theorem eq_of_decodeMany {count : Nat} {bytes rest : Bytes} {values : List α}
    (h : decodeMany codec count bytes = some (values, rest)) :
    values.length = count ∧ bytes = values.flatMap codec.encode ++ rest := by
  induction count generalizing bytes values with
  | zero =>
    simp only [decodeMany, Option.some.injEq, Prod.mk.injEq] at h
    obtain ⟨rfl, rfl⟩ := h
    exact ⟨rfl, rfl⟩
  | succ count ih =>
    simp only [decodeMany, Option.bind_eq_bind, Option.bind_eq_some_iff, Prod.exists,
      Option.some.injEq, Prod.mk.injEq] at h
    obtain ⟨value, middle, hvalue, tail, _, htail, rfl, rfl⟩ := h
    obtain ⟨hlength, hbytes⟩ := ih htail
    refine ⟨by simp [hlength], ?_⟩
    rw [codec.eq_of_decode hvalue, hbytes]
    simp

/-- A 64-bit count followed by the values: the shape of every sequence, whose
    count is written by `word`. -/
def counted (word : Codec UInt64) : Codec (Vec α) where
  encode items := word.encode (UInt64.ofNat items.val.length) ++ items.val.flatMap codec.encode
  decode bytes := do
    let (count, rest) ← word.decode bytes
    let (values, rest) ← decodeMany codec count.toNat rest
    if h : values.length < 2 ^ 64 then some (⟨values, h⟩, rest) else none
  decode_encode items rest := by
    have hcount : (UInt64.ofNat items.val.length).toNat = items.val.length :=
      UInt64.toNat_ofNat_of_lt items.property
    simp only [List.append_assoc, word.decode_encode, hcount, decodeMany_flatMap codec, Option.bind_eq_bind,
      Option.bind_some, dif_pos items.property]
  eq_of_decode {bytes items rest} h := by
    simp only [Option.bind_eq_bind, Option.bind_eq_some_iff, Prod.exists] at h
    obtain ⟨count, middle, hcount, values, _, hvalues, h⟩ := h
    obtain ⟨hlength, hmiddle⟩ := eq_of_decodeMany codec hvalues
    split at h
    · simp only [Option.some.injEq, Prod.mk.injEq] at h
      obtain ⟨rfl, rfl⟩ := h
      have hword : UInt64.ofNat values.length = count := by rw [hlength, UInt64.ofNat_toNat]
      rw [word.eq_of_decode hcount, hmiddle, List.append_assoc, hword]
    · cases h

/-- A vector: a little-endian count and the elements. -/
def vec : Codec (Vec α) := counted codec u64

/-- An optional value: one byte that says whether it follows. -/
def option : Codec (Option α) where
  encode
    | none => [0]
    | some value => 1 :: codec.encode value
  decode
    | 0 :: rest => some (none, rest)
    | 1 :: rest => (codec.decode rest).map (fun (value, rest) => (some value, rest))
    | _ => none
  decode_encode value rest := by
    cases value with
    | none => rfl
    | some value => simp [codec.decode_encode]
  eq_of_decode {bytes value rest} h := by
    split at h
    · simp only [Option.some.injEq, Prod.mk.injEq] at h
      obtain ⟨rfl, rfl⟩ := h
      rfl
    · simp only [Option.map_eq_some_iff, Prod.exists, Prod.mk.injEq] at h
      obtain ⟨inner, _, hinner, rfl, rfl⟩ := h
      rw [codec.eq_of_decode hinner]
      rfl
    · cases h

end Repetition

/-- A byte vector: a little-endian length and the bytes. -/
def bytes : Codec ByteVec := vec u8

/-- A string: a little-endian byte length and the UTF-8 bytes. -/
def string : Codec Str := bytes.refine Str.ofBytes? Str.bytes Str.ofBytes?_bytes Str.bytes_of_ofBytes?

theorem flatMap_u8_encode (items : Bytes) : items.flatMap u8.encode = items := by
  induction items with
  | nil => rfl
  | cons b items ih => rw [List.flatMap_cons, ih, u8_encode, List.singleton_append]

@[simp] theorem counted_u8_encode (word : Codec UInt64) (value : ByteVec) :
    (counted u8 word).encode value = word.encode (UInt64.ofNat value.val.length) ++ value.val := by
  simp [counted, flatMap_u8_encode]

@[simp] theorem bytes_encode (value : ByteVec) :
    bytes.encode value = u64.encode (UInt64.ofNat value.val.length) ++ value.val :=
  counted_u8_encode u64 value

@[simp] theorem string_encode (text : Str) : string.encode text = bytes.encode text.bytes := rfl

@[simp] theorem vec_encode {α : Type} (codec : Codec α) (items : Vec α) :
    (vec codec).encode items =
      u64.encode (UInt64.ofNat items.val.length) ++ items.val.flatMap codec.encode := rfl

end bincode

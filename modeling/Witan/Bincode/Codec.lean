import Mathlib.Algebra.Group.Nat.Defs

namespace bincode

/-- A byte slice or buffer. -/
abbrev Bytes := List UInt8

/-- Buffers that start with two tags differ, if neither tag continues the other. -/
theorem append_ne_append {tag tag' rest rest' : Bytes} (h : ¬ tag <+: tag') (h' : ¬ tag' <+: tag) :
    tag ++ rest ≠ tag' ++ rest' := by
  intro heq
  have hboth : tag <+: tag' ++ rest' := ⟨rest, heq⟩
  rcases List.prefix_or_prefix_of_prefix hboth (List.prefix_append tag' rest') with hfirst | hsecond
  · exact h hfirst
  · exact h' hsecond

/-- A self-delimiting binary format. The decoder reads one value off the front
    of a buffer and returns what follows it; the two laws say that it reads
    back every encoding, whatever follows, and accepts nothing else. -/
structure Codec (α : Type) where
  encode : α → Bytes
  decode : Bytes → Option (α × Bytes)
  decode_encode : ∀ value rest, decode (encode value ++ rest) = some (value, rest)
  eq_of_decode : ∀ {bytes value rest}, decode bytes = some (value, rest) → bytes = encode value ++ rest

namespace Codec

variable {α β : Type}

/-- Decoding a buffer that holds exactly one encoded value. -/
theorem decode_encode_nil (codec : Codec α) (value : α) :
    codec.decode (codec.encode value) = some (value, []) := by
  simpa using codec.decode_encode value []

/-- An encoding can be cut off the front of a buffer in one way only. -/
theorem encode_append_inj (codec : Codec α) {first second : α} {tail tail' : Bytes}
    (h : codec.encode first ++ tail = codec.encode second ++ tail') :
    first = second ∧ tail = tail' := by
  have hfirst := codec.decode_encode first tail
  rw [h, codec.decode_encode] at hfirst
  simp only [Option.some.injEq, Prod.mk.injEq] at hfirst
  exact ⟨hfirst.1.symm, hfirst.2.symm⟩

theorem encode_injective (codec : Codec α) {first second : α}
    (h : codec.encode first = codec.encode second) : first = second := by
  have happend : codec.encode first ++ [] = codec.encode second ++ [] := by rw [h]
  exact (codec.encode_append_inj happend).1

/-- One value after another. -/
def pair (first : Codec α) (second : Codec β) : Codec (α × β) where
  encode value := first.encode value.1 ++ second.encode value.2
  decode bytes := do
    let (a, rest) ← first.decode bytes
    let (b, rest) ← second.decode rest
    some ((a, b), rest)
  decode_encode value rest := by
    simp [first.decode_encode, second.decode_encode]
  eq_of_decode {bytes value rest} h := by
    simp only [Option.bind_eq_bind, Option.bind_eq_some_iff, Prod.exists, Option.some.injEq,
      Prod.mk.injEq] at h
    obtain ⟨a, middle, hfirst, b, _, hsecond, rfl, rfl⟩ := h
    rw [first.eq_of_decode hfirst, second.eq_of_decode hsecond, List.append_assoc]

/-- A format for the values that `read` makes out of another format's values,
    where `write` is the only preimage of each. -/
def refine (codec : Codec α) (read : α → Option β) (write : β → α)
    (read_write : ∀ value, read (write value) = some value)
    (write_of_read : ∀ {raw value}, read raw = some value → raw = write value) : Codec β where
  encode value := codec.encode (write value)
  decode bytes := do
    let (raw, rest) ← codec.decode bytes
    let value ← read raw
    some (value, rest)
  decode_encode value rest := by
    simp [codec.decode_encode, read_write]
  eq_of_decode {bytes value rest} h := by
    simp only [Option.bind_eq_bind, Option.bind_eq_some_iff, Prod.exists, Option.some.injEq,
      Prod.mk.injEq] at h
    obtain ⟨raw, _, hraw, value, hread, rfl, rfl⟩ := h
    rw [codec.eq_of_decode hraw, write_of_read hread]

/-- A format for a record, given by the tuple of its fields. -/
def record (codec : Codec α) (make : α → β) (fields : β → α)
    (make_fields : ∀ value, make (fields value) = value)
    (fields_make : ∀ raw, fields (make raw) = raw) : Codec β :=
  codec.refine (fun raw => some (make raw)) fields (by simp [make_fields]) (by
    rintro raw value h
    simp only [Option.some.injEq] at h
    rw [← h, fields_make])

@[simp] theorem pair_encode (first : Codec α) (second : Codec β) (value : α × β) :
    (first.pair second).encode value = first.encode value.1 ++ second.encode value.2 := rfl

@[simp] theorem record_encode (codec : Codec α) (make : α → β) (fields : β → α)
    (make_fields : ∀ value, make (fields value) = value)
    (fields_make : ∀ raw, fields (make raw) = raw) (value : β) :
    (codec.record make fields make_fields fields_make).encode value = codec.encode (fields value) := rfl

@[simp] theorem refine_encode (codec : Codec α) (read : α → Option β) (write : β → α)
    (read_write : ∀ value, read (write value) = some value)
    (write_of_read : ∀ {raw value}, read raw = some value → raw = write value) (value : β) :
    (codec.refine read write read_write write_of_read).encode value = codec.encode (write value) := rfl

/-- Exactly one value, nothing after it: what a decoder that refuses trailing
    bytes accepts. -/
def decodeExact (codec : Codec α) (bytes : Bytes) : Option α :=
  match codec.decode bytes with
  | some (value, []) => some value
  | _ => none

theorem decodeExact_eq_some_iff (codec : Codec α) {bytes : Bytes} {value : α} :
    codec.decodeExact bytes = some value ↔ bytes = codec.encode value := by
  unfold decodeExact
  constructor
  · intro h
    split at h
    · next found hdecode =>
      simp only [Option.some.injEq] at h
      subst h
      simpa using codec.eq_of_decode hdecode
    · cases h
  · rintro rfl
    rw [codec.decode_encode_nil]

/-- A value and whatever follows it: what a decoder that ignores trailing bytes
    accepts. -/
def decodePrefix (codec : Codec α) (bytes : Bytes) : Option α :=
  (codec.decode bytes).map Prod.fst

theorem decodePrefix_eq_some_iff (codec : Codec α) {bytes : Bytes} {value : α} :
    codec.decodePrefix bytes = some value ↔ ∃ trailing, bytes = codec.encode value ++ trailing := by
  simp only [decodePrefix, Option.map_eq_some_iff, Prod.exists]
  constructor
  · rintro ⟨_, rest, hdecode, rfl⟩
    exact ⟨rest, codec.eq_of_decode hdecode⟩
  · rintro ⟨trailing, rfl⟩
    exact ⟨value, trailing, codec.decode_encode value trailing, rfl⟩

@[simp] theorem decodePrefix_encode (codec : Codec α) (value : α) (trailing : Bytes) :
    codec.decodePrefix (codec.encode value ++ trailing) = some value :=
  codec.decodePrefix_eq_some_iff.mpr ⟨trailing, rfl⟩

@[simp] theorem decodePrefix_encode_nil (codec : Codec α) (value : α) :
    codec.decodePrefix (codec.encode value) = some value :=
  codec.decodePrefix_eq_some_iff.mpr ⟨[], (List.append_nil _).symm⟩

/-- A buffer that a record is read off starts with the record's first field. -/
theorem append_of_decodePrefix_record {γ : Type} {first : Codec α} {second : Codec β} {make : α × β → γ}
    {fields : γ → α × β} {make_fields : ∀ value, make (fields value) = value}
    {fields_make : ∀ raw, fields (make raw) = raw} {bytes : Bytes} {value : γ}
    (h : ((first.pair second).record make fields make_fields fields_make).decodePrefix bytes = some value) :
    ∃ rest, bytes = first.encode (fields value).1 ++ rest := by
  obtain ⟨trailing, rfl⟩ := (decodePrefix_eq_some_iff _).mp h
  rw [record_encode, pair_encode, List.append_assoc]
  exact ⟨_, rfl⟩

end Codec

end bincode

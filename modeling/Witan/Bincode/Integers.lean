import Witan.Bincode.Codec

namespace bincode

/-- The `width` low bytes of a number, least significant first. -/
def leBytes : Nat → Nat → Bytes
  | 0, _ => []
  | width + 1, n => UInt8.ofNat n :: leBytes width (n / 256)

/-- The number a byte string denotes, least significant byte first. -/
def leValue : Bytes → Nat
  | [] => 0
  | b :: bytes => b.toNat + 256 * leValue bytes

@[simp] theorem leBytes_length (width n : Nat) : (leBytes width n).length = width := by
  induction width generalizing n with
  | zero => rfl
  | succ width ih => simp [leBytes, ih]

theorem leValue_lt (bytes : Bytes) : leValue bytes < 256 ^ bytes.length := by
  induction bytes with
  | nil => simp [leValue]
  | cons b bytes ih =>
    have hbyte : b.toNat < 256 := b.toNat_lt
    simp only [leValue, List.length_cons, Nat.pow_succ]
    omega

theorem leValue_leBytes (width n : Nat) (hn : n < 256 ^ width) : leValue (leBytes width n) = n := by
  induction width generalizing n with
  | zero =>
    simp only [Nat.pow_zero] at hn
    simp only [leBytes, leValue]
    omega
  | succ width ih =>
    have hdiv : n / 256 < 256 ^ width := by
      rw [Nat.pow_succ] at hn
      omega
    have hlow : (UInt8.ofNat n).toNat = n % 256 := by simp
    simp only [leBytes, leValue, ih (n / 256) hdiv, hlow]
    omega

theorem leBytes_leValue (bytes : Bytes) : leBytes bytes.length (leValue bytes) = bytes := by
  induction bytes with
  | nil => rfl
  | cons b bytes ih =>
    have hbyte : b.toNat < 256 := b.toNat_lt
    have hhigh : (b.toNat + 256 * leValue bytes) / 256 = leValue bytes := by omega
    have hlow : UInt8.ofNat (b.toNat + 256 * leValue bytes) = b := by
      apply UInt8.toNat_inj.mp
      simp
    simp only [List.length_cons, leBytes, leValue, hhigh, hlow, ih]

/-- A byte string of a fixed length. -/
abbrev ByteArr (n : Nat) := {bytes : Bytes // bytes.length = n}

/-- A fixed-size array: its bytes and no length. -/
def array (n : Nat) : Codec (ByteArr n) where
  encode value := value.val
  decode bytes :=
    if h : (bytes.take n).length = n then some (⟨bytes.take n, h⟩, bytes.drop n) else none
  decode_encode value rest := by
    obtain ⟨bytes, rfl⟩ := value
    simp
  eq_of_decode {bytes value rest} h := by
    split at h
    · simp only [Option.some.injEq, Prod.mk.injEq] at h
      obtain ⟨rfl, rfl⟩ := h
      exact (List.take_append_drop n bytes).symm
    · cases h

@[simp] theorem array_encode {n : Nat} (value : ByteArr n) : (array n).encode value = value.val := rfl

/-- One byte. -/
def u8 : Codec UInt8 where
  encode value := [value]
  decode
    | [] => none
    | b :: bytes => some (b, bytes)
  decode_encode value rest := rfl
  eq_of_decode {bytes value rest} h := by
    cases bytes with
    | nil => cases h
    | cons b bytes =>
      simp only [Option.some.injEq, Prod.mk.injEq] at h
      simp [h.1, h.2]

@[simp] theorem u8_encode (value : UInt8) : u8.encode value = [value] := rfl

/-- The bytes of a fixed-size array, last byte first. -/
def reversed (n : Nat) : Codec (ByteArr n) :=
  (array n).record (fun bytes => ⟨bytes.val.reverse, by simp [bytes.property]⟩)
    (fun bytes => ⟨bytes.val.reverse, by simp [bytes.property]⟩) (by simp) (by simp)

/-- A machine integer of `width` bytes, least significant byte first in the
    order that `layout` writes them. -/
def integer {ι : Type} (width : Nat) (layout : Codec (ByteArr width)) (ofNat : Nat → ι) (toNat : ι → Nat)
    (toNat_lt : ∀ value, toNat value < 256 ^ width) (ofNat_toNat : ∀ value, ofNat (toNat value) = value)
    (toNat_ofNat : ∀ n, n < 256 ^ width → toNat (ofNat n) = n) : Codec ι :=
  layout.record (fun bytes => ofNat (leValue bytes.val))
    (fun value => ⟨leBytes width (toNat value), leBytes_length _ _⟩)
    (by
      intro value
      rw [leValue_leBytes width _ (toNat_lt value), ofNat_toNat])
    (by
      rintro ⟨bytes, rfl⟩
      apply Subtype.ext
      change leBytes bytes.length (toNat (ofNat (leValue bytes))) = bytes
      rw [toNat_ofNat _ (leValue_lt bytes), leBytes_leValue])

/-- A 64-bit integer, least significant byte first. -/
def u64 : Codec UInt64 :=
  integer 8 (array 8) UInt64.ofNat UInt64.toNat (fun value => value.toNat_lt)
    (fun _ => UInt64.ofNat_toNat) (fun _ => UInt64.toNat_ofNat_of_lt)

/-- A 64-bit integer, most significant byte first. -/
def u64be : Codec UInt64 :=
  integer 8 (reversed 8) UInt64.ofNat UInt64.toNat (fun value => value.toNat_lt)
    (fun _ => UInt64.ofNat_toNat) (fun _ => UInt64.toNat_ofNat_of_lt)

/-- A 32-bit integer, least significant byte first: the index of an enum variant. -/
def u32 : Codec UInt32 :=
  integer 4 (array 4) UInt32.ofNat UInt32.toNat (fun value => value.toNat_lt)
    (fun _ => UInt32.ofNat_toNat) (fun _ => UInt32.toNat_ofNat_of_lt)

@[simp] theorem u64_encode_length (value : UInt64) : (u64.encode value).length = 8 := rfl

end bincode

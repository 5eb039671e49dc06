import Witan.Bincode.Sequences

open bincode

namespace hex

/-- The lower-case digit of a number below 16. -/
def digit (n : Nat) : Char := if n < 10 then Char.ofNat (48 + n) else Char.ofNat (87 + n)

/-- The value of a digit, in either case. -/
def digitValue (c : Char) : Option Nat :=
  if 48 ≤ c.toNat ∧ c.toNat ≤ 57 then some (c.toNat - 48)
  else if 97 ≤ c.toNat ∧ c.toNat ≤ 102 then some (c.toNat - 87)
  else if 65 ≤ c.toNat ∧ c.toNat ≤ 70 then some (c.toNat - 55)
  else none

def encodeChars (bytes : Bytes) : List Char :=
  bytes.flatMap fun b => [digit (b.toNat / 16), digit (b.toNat % 16)]

def decodeChars : List Char → Option Bytes
  | [] => some []
  | high :: low :: rest => do
    let h ← digitValue high
    let l ← digitValue low
    let bytes ← decodeChars rest
    some (UInt8.ofNat (16 * h + l) :: bytes)
  | [_] => none

/-- Two lower-case digits a byte. -/
def encodeString (bytes : Bytes) : String := String.ofList (encodeChars bytes)

/-- Read pairs of digits back; an odd length or another character fails. -/
def decode (text : String) : Option Bytes := decodeChars text.toList

theorem digitValue_digit : ∀ n, n < 16 → digitValue (digit n) = some n := by decide

theorem digit_utf8Size : ∀ n, n < 16 → (digit n).utf8Size = 1 := by decide

theorem decodeChars_encodeChars (bytes : Bytes) : decodeChars (encodeChars bytes) = some bytes := by
  induction bytes with
  | nil => rfl
  | cons b bytes ih =>
    have hb : b.toNat < 256 := b.toNat_lt
    have hhigh := digitValue_digit (b.toNat / 16) (by omega)
    have hlow := digitValue_digit (b.toNat % 16) (by omega)
    have hbyte : UInt8.ofNat (16 * (b.toNat / 16) + b.toNat % 16) = b := by
      rw [Nat.div_add_mod, UInt8.ofNat_toNat]
    simp only [encodeChars, List.flatMap_cons, List.cons_append, List.nil_append, decodeChars,
      hhigh, hlow, Option.bind_eq_bind, Option.bind_some, hbyte] at ih ⊢
    rw [ih]
    rfl

theorem decode_encodeString (bytes : Bytes) : decode (encodeString bytes) = some bytes := by
  simp [decode, encodeString, decodeChars_encodeChars]

private theorem utf8ByteSize_two_digits (high low : Char) (rest : List Char)
    (hhigh : high.utf8Size = 1) (hlow : low.utf8Size = 1) :
    (String.ofList (high :: low :: rest)).utf8ByteSize = 2 + (String.ofList rest).utf8ByteSize := by
  have hsplit : String.ofList (high :: low :: rest) =
      String.singleton high ++ (String.singleton low ++ String.ofList rest) := by
    rw [String.singleton_eq_ofList, String.singleton_eq_ofList, ← String.ofList_append,
      ← String.ofList_append]
    rfl
  rw [hsplit, String.utf8ByteSize_append, String.utf8ByteSize_append,
    String.utf8ByteSize_singleton, String.utf8ByteSize_singleton, hhigh, hlow]
  omega

theorem utf8ByteSize_encodeString (bytes : Bytes) :
    (encodeString bytes).utf8ByteSize = 2 * bytes.length := by
  induction bytes with
  | nil => rfl
  | cons b bytes ih =>
    have hb : b.toNat < 256 := b.toNat_lt
    have hsize := utf8ByteSize_two_digits (digit (b.toNat / 16)) (digit (b.toNat % 16))
      (encodeChars bytes) (digit_utf8Size _ (by omega)) (digit_utf8Size _ (by omega))
    simp only [encodeString] at ih
    change (String.ofList (digit (b.toNat / 16) :: digit (b.toNat % 16) :: encodeChars bytes)).utf8ByteSize = _
    rw [hsize, ih, List.length_cons]
    omega

/-- The digits of a 32-byte digest, as an owned string. -/
def encode32 (digest : ByteArr 32) : Str :=
  ⟨encodeString digest.val, by
    rw [utf8ByteSize_encodeString, digest.property]
    decide⟩

theorem encode32_injective {first second : ByteArr 32} (h : encode32 first = encode32 second) :
    first = second := by
  have htext : encodeString first.val = encodeString second.val := congrArg Subtype.val h
  have hdecode := decode_encodeString first.val
  rw [htext, decode_encodeString] at hdecode
  exact Subtype.ext (Option.some.inj hdecode).symm

/-- A 32-byte digest has 64 digits. -/
theorem encode32_bytes_length (digest : ByteArr 32) : (encode32 digest).bytes.val.length = 64 := by
  have hsize := utf8ByteSize_encodeString digest.val
  rw [digest.property] at hsize
  exact hsize

end hex

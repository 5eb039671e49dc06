import Mathlib.Tactic.IntervalCases
import Witan.Text.Hex

/-! JSON string literals: how a serializer writes them and a parser reads them. -/

namespace json

/-- The letter that follows the backslash in a two-character escape. -/
def shortEscape (c : Char) : Option Char :=
  if c = '"' then some '"'
  else if c = '\\' then some '\\'
  else if c.toNat = 8 then some 'b'
  else if c.toNat = 9 then some 't'
  else if c.toNat = 10 then some 'n'
  else if c.toNat = 12 then some 'f'
  else if c.toNat = 13 then some 'r'
  else none

/-- Quotes, backslashes and control characters are escaped. -/
def escapeChar (c : Char) : List Char :=
  match shortEscape c with
  | some letter => ['\\', letter]
  | none =>
    if c.toNat < 32 then ['\\', 'u', '0', '0', hex.digit (c.toNat / 16), hex.digit (c.toNat % 16)]
    else [c]

/-- A string as a JSON literal. -/
def quote (text : String) : String := String.ofList ('"' :: text.toList.flatMap escapeChar ++ ['"'])

/-- The character of a two-character escape. -/
def unescape (letter : Char) : Option Char :=
  if letter = '"' then some '"'
  else if letter = '\\' then some '\\'
  else if letter = '/' then some '/'
  else if letter = 'b' then some (Char.ofNat 8)
  else if letter = 't' then some (Char.ofNat 9)
  else if letter = 'n' then some (Char.ofNat 10)
  else if letter = 'f' then some (Char.ofNat 12)
  else if letter = 'r' then some (Char.ofNat 13)
  else none

def hexValue (digits : List Char) : Option Nat :=
  digits.foldlM (fun value digit => (hex.digitValue digit).map (16 * value + ·)) 0

/-- One more character in front of what is read. -/
def consRead (c : Char) (read : Option (List Char × List Char)) : Option (List Char × List Char) :=
  read.map fun (text, rest) => (c :: text, rest)

/-- Read a literal whose opening quote is gone, up to its closing quote. -/
def readChars : List Char → Option (List Char × List Char)
  | [] => none
  | c :: rest =>
    if c = '"' then some ([], rest)
    else if c = '\\' then
      match rest with
      | 'u' :: d₁ :: d₂ :: d₃ :: d₄ :: rest =>
        (hexValue [d₁, d₂, d₃, d₄]).bind fun value => consRead (Char.ofNat value) (readChars rest)
      | letter :: rest => (unescape letter).bind fun c => consRead c (readChars rest)
      | [] => none
    else consRead c (readChars rest)

theorem readChars_control : ∀ n, n < 32 → ∀ rest,
    readChars (escapeChar (Char.ofNat n) ++ rest) = consRead (Char.ofNat n) (readChars rest) := by
  intro n hn rest
  interval_cases n <;> rfl

theorem readChars_plain {c : Char} (hquote : c ≠ '"') (hbackslash : c ≠ '\\') (rest : List Char) :
    readChars (c :: rest) = consRead c (readChars rest) := by
  rw [readChars.eq_def]
  dsimp only
  rw [if_neg hquote, if_neg hbackslash]

theorem escapeChar_plain {c : Char} (hquote : c ≠ '"') (hbackslash : c ≠ '\\') (hprintable : 32 ≤ c.toNat) :
    escapeChar c = [c] := by
  have hshort : shortEscape c = none := by
    unfold shortEscape
    rw [if_neg hquote, if_neg hbackslash, if_neg (by omega), if_neg (by omega), if_neg (by omega), if_neg (by omega),
      if_neg (by omega)]
  unfold escapeChar
  rw [hshort]
  exact if_neg (by omega)

/-- An escaped character reads back. -/
theorem readChars_escapeChar (c : Char) (rest : List Char) :
    readChars (escapeChar c ++ rest) = consRead c (readChars rest) := by
  by_cases hquote : c = '"'
  · subst hquote
    rfl
  by_cases hbackslash : c = '\\'
  · subst hbackslash
    rfl
  by_cases hcontrol : c.toNat < 32
  · have hread := readChars_control c.toNat hcontrol rest
    rwa [Char.ofNat_toNat] at hread
  · rw [escapeChar_plain hquote hbackslash (by omega)]
    exact readChars_plain hquote hbackslash rest

theorem readChars_escaped (text rest : List Char) :
    readChars (text.flatMap escapeChar ++ '"' :: rest) = some (text, rest) := by
  induction text with
  | nil =>
    rw [List.flatMap_nil, List.nil_append, readChars.eq_def]
    rfl
  | cons c text ih =>
    rw [List.flatMap_cons, List.append_assoc, readChars_escapeChar, ih]
    rfl

/-- Read a literal off the front of a text. -/
def readString : List Char → Option (String × List Char)
  | '"' :: chars => (readChars chars).map fun (text, rest) => (String.ofList text, rest)
  | _ => none

/-- A literal reads back, whatever follows it. -/
theorem readString_quote (text : String) (rest : List Char) :
    readString ((quote text).toList ++ rest) = some (text, rest) := by
  unfold quote
  rw [String.toList_ofList]
  change (readChars ((text.toList.flatMap escapeChar ++ ['"']) ++ rest)).map _ = _
  rw [List.append_assoc]
  change (readChars (text.toList.flatMap escapeChar ++ '"' :: rest)).map _ = _
  rw [readChars_escaped, Option.map_some]
  dsimp only
  rw [String.ofList_toList]

end json

import Witan.Text.JsonString
import Witan.WasiExports

open bincode
open witan.error

namespace witan

/-- The serializer writes strings as JSON literals. -/
def Crates.JsonLiterals (crates : Crates) : Prop :=
  ∀ text (h : (json.quote text).utf8ByteSize < 2 ^ 64), crates.json_to_string (.string text) = .ok ⟨json.quote text, h⟩

namespace wasi_exports

variable {crates : Crates}

/-- Read an error back from its report. -/
def readError (report : List Char) : Option GossipError := do
  let rest ← report.dropPrefix? "\x7b\"error\":".toList
  let (name, rest) ← json.readString rest
  let rest ← rest.dropPrefix? ",\"detail\":".toList
  let (text, rest) ← json.readString rest
  guard (rest = "\x7d".toList)
  let variant ← Variant.all.find? (·.name = name)
  let detail ← text.toList.dropPrefix? variant.heading.toList
  return variant.carrying (String.ofList detail)

theorem dropPrefix?_append (front rest : List Char) : (front ++ rest).dropPrefix? front = some rest :=
  List.dropPrefix?_eq_some_iff.mpr ⟨front, rfl, beq_self_eq_true front⟩

/-- Names of variants need no escapes. -/
theorem quote_name (v : Variant) : (json.quote v.name).toList = "\"".toList ++ v.name.toList ++ "\"".toList := by
  have hall : ∀ v ∈ Variant.all, (json.quote v.name).toList = "\"".toList ++ v.name.toList ++ "\"".toList := by
    decide +kernel
  exact hall v v.mem_all

theorem find?_name (v : Variant) : Variant.all.find? (·.name = v.name) = some v := by
  have hall : ∀ v ∈ Variant.all, Variant.all.find? (·.name = v.name) = some v := by decide +kernel
  exact hall v v.mem_all

theorem error_to_json_toList {e : GossipError} (hcrates : crates.JsonLiterals)
    (hfits : (json.quote e.to_string).utf8ByteSize < 2 ^ 64) :
    (error_to_json crates e).toList =
      "\x7b\"error\":".toList ++ ((json.quote e.variant.name).toList ++
        (",\"detail\":".toList ++ ((json.quote e.to_string).toList ++ "\x7d".toList))) := by
  have hopen : "\x7b\"error\":\"".toList = "\x7b\"error\":".toList ++ "\"".toList := by decide
  have hclose : "\",\"detail\":".toList = "\"".toList ++ ",\"detail\":".toList := by decide
  unfold error_to_json
  rw [hcrates e.to_string hfits, quote_name]
  simp only [String.toList_append, hopen, hclose, List.append_assoc]

/-- An error survives its report: the JSON text that a host finds in the out-slot
    gives back the variant and the text that the error carries. -/
theorem readError_error_to_json {e : GossipError} (hcrates : crates.JsonLiterals)
    (hfits : (json.quote e.to_string).utf8ByteSize < 2 ^ 64) :
    readError (error_to_json crates e).toList = some e := by
  rw [error_to_json_toList hcrates hfits]
  unfold readError
  simp only [dropPrefix?_append, json.readString_quote, find?_name, Option.bind_eq_bind, Option.bind_some]
  change (e.to_string.toList.dropPrefix? e.variant.heading.toList).bind _ = some e
  rw [e.to_string_eq, String.toList_append, dropPrefix?_append, Option.bind_some, String.ofList_toList,
    e.variant_carrying]
  rfl

end wasi_exports

end witan

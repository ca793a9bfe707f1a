import Hooklog.Field.Json
import Hooklog.Proofs.Json.Objects
import Hooklog.Proofs.Tables

/-!
# Fields that survive JSON

A value is written without a mark of its kind, so what it becomes again is decided by its text
alone.  Texts stand between quotes, truth values and null are words of their own, and every
integer of 64 bits, those at both ends included, is written without point and exponent: no value
that is not a float can be taken for one of another kind.

* `FieldValue.document` is what the text of a value says, and `FieldValue.readsAs` reads it.
* `FieldValue.ofDocument?_document` gives back the value, in its kind.
* `Fields.ofMembers?_documents` puts the members of an object together again, by induction on
  their list.
* `Fields.readJson?_compact_toJson` is the round trip of all fields that hold no floats.
-/

namespace Hooklog

open Json

namespace FieldValue

/-- What the text of a value says.  Of a float it is what its text should say. -/
def document : FieldValue → Document
  | .text s => .string (some s)
  | .int n => .number (if n.toInt < 0 then .negative n.toInt else .natural n.toInt.toNat)
  | .float x => .number (.float (some x))
  | .bool b => .bool b
  | .null => .null

theorem signed64_holds_toInt (n : Int64) : Decimal.signed64.holds n.toInt = true := by
  have hlow := n.le_toInt
  have hhigh := n.toInt_lt
  rw [signed64_holds_iff]
  omega

/-- Whatever stands behind it, the text of a value is read as its document. -/
theorem readsAs {v : FieldValue} (h : ∀ x, v ≠ .float x) : ReadsAs v.toJson v.document := by
  cases v with
  | text s => exact readsAs_string s
  | int n => exact readsAs_int (signed64_holds_toInt n)
  | float x => exact absurd rfl (h x)
  | bool b => exact readsAs_bool b
  | null => exact readsAs_null

/-- No document of a value stands for another value, nor for one of another kind. -/
theorem ofDocument?_document (v : FieldValue) : ofDocument? v.document = some v := by
  cases v with
  | int n =>
      have hrange := signed64_holds_toInt n
      by_cases hn : n.toInt < 0
      · simp [document, ofDocument?, hn]
      · have habs : (n.toInt.toNat : Int) = n.toInt := by omega
        rw [document, if_neg hn, ofDocument?, habs, if_pos hrange, Int64.ofInt_toInt]
  | text s => rfl
  | float x => rfl
  | bool b => rfl
  | null => rfl

end FieldValue

namespace Fields

/-- The documents of some fields are put together in the order of the text. -/
theorem ofMembers?_documents (f : Fields) (l : List (String × FieldValue)) :
    ofMembers? f (l.map fun p => (some p.1, p.2.document)) = some (f.insertMany l) := by
  induction l generalizing f with
  | nil => rfl
  | cons p rest ih =>
      rw [List.map_cons, ofMembers?, FieldValue.ofDocument?_document]
      exact ih (f.insert p.1 p.2)

/-- Fields without floats are read back from their JSON text, each value in its kind, and the
text has their names in ascending order, each once. -/
theorem readJson?_compact_toJson (f : Fields) (h : ∀ v ∈ f.values, ∀ x, v ≠ .float x) :
    readJson? f.toJson.compact = some f ∧
      ∃ members, read? f.toJson.compact = some (.object members) ∧
        members.map (·.1) = f.keys.map some ∧ f.keys.Pairwise (· < ·) := by
  have hvalues : ∀ p ∈ f.toList, ReadsAs p.2.toJson p.2.document := fun p hp =>
    FieldValue.readsAs (h p.2 (List.mem_map_of_mem hp))
  have hread := read?_object hvalues
  change read? f.toJson.compact = _ at hread
  have hkeys : (f.toList.map fun p => (some p.1, p.2.document)).map (·.1) = f.keys.map some := by
    simp [SortedMap.keys]
  refine ⟨?_, _, hread, hkeys, List.pairwise_map.mpr f.sorted⟩
  rw [readJson?, hread]
  show ofMembers? SortedMap.empty _ = some f
  rw [ofMembers?_documents]
  exact congrArg some f.ofList_toList

/-- Texts that look like other values, integers at both ends of 64 bits, and names that need
escapes. -/
def lookalikes : Fields where
  toList := [("", .text "null"), ("\u0001", .null), ("\"", .text "true"), ("\\\n", .bool true),
    ("a", .text "9223372036854775807"), ("b", .int Int64.maxValue), ("c", .int Int64.minValue),
    ("d", .text "1e400"), ("é", .bool false), ("😀", .int 0)]
  sorted := by decide

theorem readJson?_lookalikes :
    (∀ v ∈ lookalikes.values, ∀ x, v ≠ .float x) ∧
      readJson? lookalikes.toJson.compact = some lookalikes := by
  have hkinds : ∀ v ∈ lookalikes.values, ∀ x, v ≠ .float x := by
    rintro v hv x rfl
    simp [SortedMap.values, lookalikes] at hv
  exact ⟨hkinds, (readJson?_compact_toJson lookalikes hkinds).1⟩

end Fields

end Hooklog

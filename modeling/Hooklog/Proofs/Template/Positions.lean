import Hooklog.Template.Compiled

/-!
# Positions of fields

The position of a field is the number of bytes of literal text before it.  So positions grow
along a template, stay within the skeleton and fall between its characters.
-/

namespace Hooklog.Template

open Text

theorem byteLength_nil : byteLength [] = 0 := rfl

theorem byteLength_append (s t : List Char) :
    byteLength (s ++ t) = byteLength s + byteLength t := by
  induction s with
  | nil => simp only [List.nil_append, byteLength, Nat.zero_add]
  | cons c s ih => rw [List.cons_append, byteLength, byteLength, ih, Nat.add_assoc]

theorem skeletonOf_append (items more : List Item) :
    skeletonOf (items ++ more) = skeletonOf items ++ skeletonOf more := by
  induction items with
  | nil => rfl
  | cons item rest ih =>
      cases item with
      | text s => simp only [List.cons_append, skeletonOf, ih, List.append_assoc]
      | field _ => exact ih
      | keyStyle _ => exact ih
      | valueStyle _ => exact ih

/-- Fields behind other items stand behind the literal text of these. -/
theorem fieldsFrom_append (offset : Nat) (items more : List Item) :
    fieldsFrom offset (items ++ more) =
      fieldsFrom offset items ++ fieldsFrom (offset + byteLength (skeletonOf items)) more := by
  induction items generalizing offset with
  | nil => simp [fieldsFrom, skeletonOf, byteLength_nil]
  | cons item rest ih =>
      cases item with
      | text s =>
          rw [List.cons_append, fieldsFrom, fieldsFrom, ih, skeletonOf, byteLength_append,
            Nat.add_assoc]
      | field spec => rw [List.cons_append, fieldsFrom, fieldsFrom, ih, List.cons_append]; rfl
      | keyStyle _ => exact ih offset
      | valueStyle _ => exact ih offset

/-- Fields do not stand before their offset. -/
theorem le_position_of_mem_fieldsFrom {offset : Nat} {items : List Item} {spec : FieldSpec}
    (h : spec ∈ fieldsFrom offset items) : offset ≤ spec.position := by
  induction items generalizing offset with
  | nil => simp [fieldsFrom] at h
  | cons item rest ih =>
      cases item with
      | text s => exact Nat.le_trans (Nat.le_add_right _ _) (ih h)
      | field spec' =>
          rw [fieldsFrom, List.mem_cons] at h
          rcases h with rfl | h
          · exact Nat.le_refl _
          · exact ih h
      | keyStyle _ => exact ih h
      | valueStyle _ => exact ih h

/-- Positions grow along a template. -/
theorem pairwise_fieldsFrom (offset : Nat) (items : List Item) :
    (fieldsFrom offset items).Pairwise fun a b => a.position ≤ b.position := by
  induction items generalizing offset with
  | nil => exact List.Pairwise.nil
  | cons item rest ih =>
      cases item with
      | text s => exact ih _
      | field spec =>
          rw [fieldsFrom, List.pairwise_cons]
          exact ⟨fun _ h => le_position_of_mem_fieldsFrom h, ih offset⟩
      | keyStyle _ => exact ih offset
      | valueStyle _ => exact ih offset

/-- A field stands between two parts of the literal text. -/
theorem position_of_mem_fieldsFrom {offset : Nat} {items : List Item} {spec : FieldSpec}
    (h : spec ∈ fieldsFrom offset items) :
    ∃ before after, skeletonOf items = before ++ after ∧
      spec.position = offset + byteLength before := by
  induction items generalizing offset with
  | nil => simp [fieldsFrom] at h
  | cons item rest ih =>
      cases item with
      | text s =>
          obtain ⟨before, after, hskeleton, hposition⟩ := ih h
          refine ⟨s ++ before, after, ?_, ?_⟩
          · rw [skeletonOf, hskeleton, List.append_assoc]
          · rw [hposition, byteLength_append, Nat.add_assoc]
      | field spec' =>
          rw [fieldsFrom, List.mem_cons] at h
          rcases h with rfl | h
          · exact ⟨[], skeletonOf rest, rfl, rfl⟩
          · exact ih h
      | keyStyle _ => exact ih h
      | valueStyle _ => exact ih h

/-- What compiling an accepted format gives. -/
theorem compile_eq_ok_iff {format : String} {color : Bool} {c : Compiled} :
    compile format color = .ok c ↔ faults format = [] ∧ c = .ofItems (items format color) := by
  unfold compile
  by_cases h : faults format = []
  · rw [if_pos h]
    exact ⟨fun hc => ⟨h, (Except.ok.inj hc).symm⟩, fun hc => by rw [hc.2]⟩
  · rw [if_neg h]
    exact ⟨fun hc => by simp at hc, fun hc => absurd hc.1 h⟩

end Hooklog.Template

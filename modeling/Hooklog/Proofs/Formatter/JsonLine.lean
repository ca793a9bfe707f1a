import Hooklog.Formatter.JsonLine
import Hooklog.Proofs.Tables
import Mathlib.Data.List.Nodup

/-!
# Members of JSON lines

The object of an entry holds the attributes of the entry and its fields.  A field that bears the
name of an attribute is renamed, and its new name may be that of another field.  Then one of the
two is lost: the one that bears the name already.

* `fieldKey_eq_iff` says which two names get the same key.
* `perm_keys_members` lists the keys of the object.
* `fieldsKept_iff` says when no field is lost, and what is kept in any case.
-/

namespace Hooklog.JsonLineFormatter

/-! ## Names and keys -/

/-- Name that a field gets in place of a reserved one. -/
def renamed (name : String) : String := "fields." ++ name

theorem fieldKey_of_mem {name : String} (h : name ∈ reservedKeys) :
    fieldKey name = renamed name := by
  rw [fieldKey, if_pos (List.contains_iff_mem.mpr h), renamed]

theorem fieldKey_of_notMem {name : String} (h : name ∉ reservedKeys) : fieldKey name = name := by
  rw [fieldKey, if_neg fun hmem => h (List.contains_iff_mem.mp hmem)]

/-- The new name is not reserved, and stands before the old one. -/
theorem renamed_notMem : ∀ name ∈ reservedKeys, renamed name ∉ reservedKeys := by decide

theorem renamed_lt : ∀ name ∈ reservedKeys, renamed name < name := by decide +kernel

theorem renamed_injective {a b : String} (h : renamed a = renamed b) : a = b :=
  String.append_right_inj _ |>.mp h

theorem fieldKey_notMem (name : String) : fieldKey name ∉ reservedKeys := by
  by_cases h : name ∈ reservedKeys
  · rw [fieldKey_of_mem h]
    exact renamed_notMem name h
  · rwa [fieldKey_of_notMem h]

/-- A name is taken by another one if that one is reserved and gets this name. -/
def Takes (other name : String) : Prop := other ∈ reservedKeys ∧ name = renamed other

instance (other name : String) : Decidable (Takes other name) :=
  inferInstanceAs (Decidable (_ ∧ _))

theorem fieldKey_eq_of_takes {other name : String} (h : Takes other name) :
    fieldKey name = fieldKey other := by
  obtain ⟨hreserved, rfl⟩ := h
  rw [fieldKey_of_mem hreserved, fieldKey_of_notMem (renamed_notMem other hreserved)]

/-- Two names have the same key only if one of them takes the other. -/
theorem fieldKey_eq_iff (a b : String) :
    fieldKey a = fieldKey b ↔ a = b ∨ Takes a b ∨ Takes b a := by
  constructor
  · intro h
    by_cases ha : a ∈ reservedKeys <;> by_cases hb : b ∈ reservedKeys
    · rw [fieldKey_of_mem ha, fieldKey_of_mem hb] at h
      exact Or.inl (renamed_injective h)
    · rw [fieldKey_of_mem ha, fieldKey_of_notMem hb] at h
      exact Or.inr (Or.inl ⟨ha, h.symm⟩)
    · rw [fieldKey_of_notMem ha, fieldKey_of_mem hb] at h
      exact Or.inr (Or.inr ⟨hb, h⟩)
    · rw [fieldKey_of_notMem ha, fieldKey_of_notMem hb] at h
      exact Or.inl h
  · rintro (rfl | h | h)
    · rfl
    · exact (fieldKey_eq_of_takes h).symm
    · exact fieldKey_eq_of_takes h

/-! ## Fields that are lost -/

/-- Whether some field takes a name. -/
def isTaken (fields : Fields) (name : String) : Bool :=
  fields.keys.any fun other => Takes other name

/-- Names of the fields that are lost: a field of a reserved name takes their key. -/
def lost (fields : Fields) : List String := fields.keys.filter (isTaken fields)

/-- Names of the other fields. -/
def kept (fields : Fields) : List String := fields.keys.filter fun name => !isTaken fields name

variable {fields : Fields} {name other : String}

theorem isTaken_iff : isTaken fields name = true ↔ ∃ other ∈ fields.keys, Takes other name := by
  simp only [isTaken, List.any_eq_true, decide_eq_true_eq]

theorem mem_kept_iff :
    name ∈ kept fields ↔ name ∈ fields.keys ∧ ∀ other ∈ fields.keys, ¬ Takes other name := by
  rw [kept, List.mem_filter, Bool.not_eq_true', ← Bool.not_eq_true, isTaken_iff]
  simp only [not_exists, not_and]

theorem mem_kept_of_notMem_lost (hname : name ∈ fields.keys) (h : name ∉ lost fields) :
    name ∈ kept fields := by
  rw [lost, List.mem_filter, not_and, isTaken_iff] at h
  exact mem_kept_iff.mpr ⟨hname, fun other hother htakes => h hname ⟨other, hother, htakes⟩⟩

/-- A field that takes the name of another one is kept. -/
theorem mem_kept_of_takes (hother : other ∈ fields.keys) (h : Takes other name) :
    other ∈ kept fields := by
  refine mem_kept_iff.mpr ⟨hother, ?_⟩
  rintro third - ⟨hthird, rfl⟩
  exact renamed_notMem third hthird h.1

/-- Nothing is lost if no field of a reserved name stands beside one of its new name. -/
theorem lost_eq_nil_iff : lost fields = [] ↔
    ∀ name ∈ reservedKeys, name ∈ fields.keys → renamed name ∉ fields.keys := by
  rw [lost, List.filter_eq_nil_iff]
  constructor
  · intro h name hreserved hname hrenamed
    exact h _ hrenamed (isTaken_iff.mpr ⟨name, hname, hreserved, rfl⟩)
  · intro h name hname htaken
    obtain ⟨other, hother, hreserved, rfl⟩ := isTaken_iff.mp htaken
    exact h other hreserved hother hname

theorem kept_of_lost_eq_nil (h : lost fields = []) : kept fields = fields.keys :=
  List.filter_eq_self.mpr fun name hname => by
    rw [Bool.not_eq_true', ← Bool.not_eq_true]
    exact List.filter_eq_nil_iff.mp h name hname

theorem length_kept (fields : Fields) :
    (kept fields).length + (lost fields).length = fields.size := by
  have hsplit := fields.keys.length_eq_length_filter_add (isTaken fields)
  rw [kept, lost, Nat.add_comm, ← hsplit]
  exact List.length_map _

theorem nodup_kept (fields : Fields) : ((kept fields).map fieldKey).Nodup := by
  refine List.Nodup.map_on ?_ (fields.nodup_keys.filter _)
  intro a ha b hb h
  have ha := mem_kept_iff.mp ha
  have hb := mem_kept_iff.mp hb
  rcases (fieldKey_eq_iff a b).mp h with h | h | h
  · exact h
  · exact absurd h (hb.2 a ha.1)
  · exact absurd h (ha.2 b hb.1)

/-- The fields that are kept have all the keys that fields have. -/
theorem mem_keys_fieldMembers_iff {key : String} :
    key ∈ (fieldMembers fields).keys ↔ key ∈ (kept fields).map fieldKey := by
  rw [fieldMembers, SortedMap.ofList, SortedMap.mem_keys_insertMany, List.map_map]
  constructor
  · rintro (h | h)
    · exact absurd h List.not_mem_nil
    · obtain ⟨p, hp, rfl⟩ := List.mem_map.mp h
      have hname : p.1 ∈ fields.keys := List.mem_map_of_mem hp
      by_cases hlost : p.1 ∈ lost fields
      · obtain ⟨other, hother, htakes⟩ := isTaken_iff.mp (List.mem_filter.mp hlost).2
        exact List.mem_map.mpr ⟨other, mem_kept_of_takes hother htakes,
          (fieldKey_eq_of_takes htakes).symm⟩
      · exact List.mem_map_of_mem (mem_kept_of_notMem_lost hname hlost)
  · intro h
    obtain ⟨name, hname, rfl⟩ := List.mem_map.mp h
    obtain ⟨p, hp, rfl⟩ := List.mem_map.mp (mem_kept_iff.mp hname).1
    exact Or.inr (List.mem_map.mpr ⟨p, hp, rfl⟩)

/-- Fields are stored in ascending order of their names, so a field of a reserved name comes
after the one whose name it takes. -/
theorem get?_fieldMembers {v : FieldValue} (hmem : (name, v) ∈ fields.toList)
    (hkept : name ∈ kept fields) :
    (fieldMembers fields).get? (fieldKey name) = some v.toJson := by
  obtain ⟨before, after, hsplit⟩ := List.append_of_mem hmem
  have hlater : ∀ q ∈ after, name < q.1 := by
    have hsorted := fields.sorted
    rw [hsplit] at hsorted
    exact (List.pairwise_cons.mp (List.pairwise_append.mp hsorted).2.1).1
  rw [fieldMembers, SortedMap.ofList, hsplit, List.map_append, List.map_cons]
  refine SortedMap.get?_insertMany_last (p := (fieldKey name, v.toJson)) ?_
  rw [List.map_map]
  intro hkey
  obtain ⟨q, hq, hkey⟩ := List.mem_map.mp hkey
  have hless := hlater q hq
  have hkeys : q.1 ∈ fields.keys :=
    List.mem_map_of_mem (hsplit ▸ List.mem_append_right _ (List.mem_cons_of_mem _ hq))
  -- Another field of this key takes the name, or its name is taken, and then it stands before.
  rcases (fieldKey_eq_iff q.1 name).mp hkey with h | h | h
  · exact Std.lt_irrefl (h ▸ hless)
  · exact (mem_kept_iff.mp hkept).2 q.1 hkeys h
  · have hbefore : q.1 < name := h.2 ▸ renamed_lt name h.1
    exact Std.lt_irrefl (Std.lt_trans hless hbefore)

/-! ## The object of an entry -/

variable (f : JsonLineFormatter) (e : Entry)

/-- The attributes come in the order of the reserved names. -/
theorem keys_attributes_sublist : ((f.attributes e).map (·.1)).Sublist reservedKeys := by
  unfold attributes
  cases e.moduleName.isEmpty <;> cases e.caller
  · exact (by decide : ["level", "module", "msg", "time"].Sublist reservedKeys)
  · exact List.Sublist.refl reservedKeys
  · exact (by decide : ["level", "msg", "time"].Sublist reservedKeys)
  · exact (by decide : ["level", "msg", "time", "func", "file"].Sublist reservedKeys)

/-- Number of attributes that an entry has. -/
def attributeCount (e : Entry) : Nat :=
  3 + (if e.moduleName.isEmpty then 0 else 1) + (if e.caller.isSome then 2 else 0)

theorem length_attributes : (f.attributes e).length = attributeCount e := by
  unfold attributes attributeCount
  cases e.moduleName.isEmpty <;> cases e.caller <;> rfl

theorem get?_members_of_mem_attributes {p : String × Json} (h : p ∈ f.attributes e) :
    (f.members e).get? p.1 = some p.2 := by
  obtain ⟨before, after, hsplit⟩ := List.append_of_mem h
  have hnodup : ((f.attributes e).map (·.1)).Nodup :=
    (keys_attributes_sublist f e).nodup (by decide)
  rw [members, hsplit]
  refine SortedMap.get?_insertMany_last ?_
  rw [hsplit, List.map_append, List.map_cons] at hnodup
  exact (List.nodup_cons.mp (List.nodup_append.mp hnodup).2.1).1

theorem get?_members_fieldKey (name : String) :
    (f.members e).get? (fieldKey name) = (fieldMembers e.fields).get? (fieldKey name) :=
  SortedMap.get?_insertMany_of_notMem fun h =>
    fieldKey_notMem name ((keys_attributes_sublist f e).subset h)

/-- The keys of an object: one for each field that is kept and one for each attribute. -/
theorem perm_keys_members :
    (f.members e).keys.Perm
      ((kept e.fields).map fieldKey ++ (f.attributes e).map (·.1)) := by
  have hattributes : ((f.attributes e).map (·.1)).Nodup :=
    (keys_attributes_sublist f e).nodup (by decide)
  have happend : ((kept e.fields).map fieldKey ++ (f.attributes e).map (·.1)).Nodup := by
    refine List.nodup_append.mpr ⟨nodup_kept e.fields, hattributes, ?_⟩
    rintro a ha _ hb rfl
    obtain ⟨name, -, rfl⟩ := List.mem_map.mp ha
    exact fieldKey_notMem name ((keys_attributes_sublist f e).subset hb)
  refine (List.perm_ext_iff_of_nodup (SortedMap.nodup_keys _) happend).mpr fun key => ?_
  rw [members, SortedMap.mem_keys_insertMany, List.mem_append, mem_keys_fieldMembers_iff]

/-- The attributes of an entry stand in its object with their own values. -/
structure AttributesKept (f : JsonLineFormatter) (e : Entry) : Prop where
  level : (f.members e).get? "level" = some (.string e.level.text)
  msg : (f.members e).get? "msg" = some (.string e.message)
  time : (f.members e).get? "time" = some (.string (f.timeLayout.text e.time .universal))
  moduleName : e.moduleName ≠ "" →
    (f.members e).get? "module" = some (.string e.moduleName)
  caller : ∀ c, e.caller = some c →
    (f.members e).get? "func" = some (.string c.function) ∧
      (f.members e).get? "file" = some (.string c.place)

/-- Every field of an entry stands in its object with its own value under its key, which no
other field has, and there is a key for every field and every attribute. -/
structure FieldsKept (f : JsonLineFormatter) (e : Entry) : Prop where
  values : ∀ p ∈ e.fields.toList, (f.members e).get? (fieldKey p.1) = some p.2.toJson
  apart : (e.fields.keys.map fieldKey).Nodup
  size : (f.members e).size = e.fields.size + attributeCount e

theorem attributesKept : AttributesKept f e where
  level := get?_members_of_mem_attributes f e (p := ("level", _)) (by simp [attributes])
  msg := get?_members_of_mem_attributes f e (p := ("msg", _)) (by simp [attributes])
  time := get?_members_of_mem_attributes f e (p := ("time", _)) (by simp [attributes])
  moduleName := by
    intro h
    exact get?_members_of_mem_attributes f e (p := ("module", _)) (by simp [attributes, h])
  caller := by
    intro c hc
    exact ⟨get?_members_of_mem_attributes f e (p := ("func", _)) (by simp [attributes, hc]),
      get?_members_of_mem_attributes f e (p := ("file", _)) (by simp [attributes, hc])⟩

theorem get?_members_of_kept {p : String × FieldValue} (hp : p ∈ e.fields.toList)
    (h : p.1 ∈ kept e.fields) : (f.members e).get? (fieldKey p.1) = some p.2.toJson := by
  rw [get?_members_fieldKey, get?_fieldMembers hp h]

theorem size_members :
    (f.members e).size + (lost e.fields).length = e.fields.size + attributeCount e := by
  have hsize : (f.members e).size = (kept e.fields).length + attributeCount e := by
    have hlength := (perm_keys_members f e).length_eq
    rwa [List.length_append, List.length_map, List.length_map, length_attributes,
      SortedMap.keys, List.length_map] at hlength
  rw [hsize, ← length_kept e.fields]
  omega

/-- Attributes are always kept, and so is every field but those whose name is taken; the object
lacks one key for each of these.  So it holds everything exactly if no name is taken: no field
has a reserved name beside a field of the name that it gets instead. -/
theorem fieldsKept_iff :
    AttributesKept f e ∧
      (∀ p ∈ e.fields.toList, p.1 ∉ lost e.fields →
        (f.members e).get? (fieldKey p.1) = some p.2.toJson) ∧
      (f.members e).size + (lost e.fields).length = e.fields.size + attributeCount e ∧
      (FieldsKept f e ↔
        ∀ name ∈ reservedKeys, name ∈ e.fields.keys → "fields." ++ name ∉ e.fields.keys) := by
  have hvalues : ∀ p ∈ e.fields.toList, p.1 ∉ lost e.fields →
      (f.members e).get? (fieldKey p.1) = some p.2.toJson := fun p hp h =>
    get?_members_of_kept f e hp (mem_kept_of_notMem_lost (List.mem_map_of_mem hp) h)
  have hsize := size_members f e
  refine ⟨attributesKept f e, hvalues, hsize, ?_⟩
  refine Iff.trans ?_ lost_eq_nil_iff
  constructor
  · intro h
    rw [h.size] at hsize
    exact List.length_eq_zero_iff.mp (by omega)
  · intro hlost
    rw [hlost] at hsize
    refine ⟨fun p hp => hvalues p hp (by simp [hlost]), ?_, hsize⟩
    rw [← kept_of_lost_eq_nil hlost]
    exact nodup_kept e.fields

/-- Entry with a field of a reserved name and one of the name that it gets instead. -/
def clashing : Entry where
  level := .info
  message := "x"
  time := ⟨0, 0⟩
  moduleName := ""
  fields := .ofList [("level", .text "a"), ("fields.level", .text "b")]
  caller := none

/-- Of these two fields the object holds one, so that one key is missing. -/
theorem field_lost_to_reserved :
    ¬ FieldsKept (new false) clashing ∧
      ((new false).members clashing).size + 1 = clashing.fields.size + attributeCount clashing ∧
      ((new false).members clashing).get? "fields.level" = some (.string "a") := by
  have hlost : lost clashing.fields = ["fields.level"] := by decide +kernel
  have hsize := size_members (new false) clashing
  rw [hlost, List.length_singleton] at hsize
  refine ⟨fun h => ?_, hsize, ?_⟩
  · have hkept := h.size
    omega
  · have hmem : ("level", FieldValue.text "a") ∈ clashing.fields.toList := by decide +kernel
    exact get?_members_of_kept (new false) clashing hmem (by decide +kernel)

end Hooklog.JsonLineFormatter

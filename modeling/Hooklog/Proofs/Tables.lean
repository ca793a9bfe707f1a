import Hooklog.SortedMap

/-!
# Tables

What is found in a table is one of its entries, whether the table is a list of pairs or a
sorted map.
-/

namespace Hooklog

section Lists

variable {κ ν : Type} [BEq κ] [LawfulBEq κ] {table : List (κ × ν)} {k : κ} {x : ν}

theorem mem_of_lookup (h : table.lookup k = some x) : (k, x) ∈ table := by
  obtain ⟨l₁, l₂, htable, -⟩ := List.lookup_eq_some_iff.mp h
  rw [htable]
  exact List.mem_append_right l₁ List.mem_cons_self

/-- A table has no value for a key exactly when the key is not in it. -/
theorem lookup_eq_none_iff_notMem : table.lookup k = none ↔ k ∉ table.map (·.1) := by
  rw [List.lookup_eq_none_iff]
  constructor
  · intro h hmem
    obtain ⟨p, hp, hkey⟩ := List.mem_map.mp hmem
    have hne := h p hp
    rw [hkey, bne_self_eq_false] at hne
    exact Bool.false_ne_true hne
  · intro h p hp
    rw [bne_iff_ne]
    intro heq
    exact h (heq ▸ List.mem_map_of_mem hp)

end Lists

theorem SortedMap.mem_of_get? {κ ν : Type} [LT κ] [DecidableEq κ] {m : SortedMap κ ν} {k : κ}
    {x : ν} (h : m.get? k = some x) : (k, x) ∈ m.toList := by
  unfold SortedMap.get? at h
  generalize m.toList = l at h
  induction l with
  | nil => simp [SortedMap.findIn] at h
  | cons p rest ih =>
      unfold SortedMap.findIn at h
      split at h
      · rename_i hk
        obtain rfl := Option.some.inj h
        rw [← hk]
        exact List.mem_cons_self
      · exact List.mem_cons_of_mem p (ih h)

namespace SortedMap

section Contents

variable {κ ν : Type} [LE κ] [LT κ] [DecidableEq κ] [Std.LawfulOrderLT κ]

/-- A key stands in a sorted map once, so what stands there is found. -/
theorem get?_eq_some_iff {m : SortedMap κ ν} {k : κ} {x : ν} :
    m.get? k = some x ↔ (k, x) ∈ m.toList := by
  refine ⟨mem_of_get?, ?_⟩
  obtain ⟨l, hsorted⟩ := m
  intro h
  change findIn k l = some x
  induction l with
  | nil => exact absurd h List.not_mem_nil
  | cons p rest ih =>
      obtain ⟨hp, hrest⟩ := List.pairwise_cons.mp hsorted
      rw [findIn]
      rcases List.mem_cons.mp h with rfl | h
      · exact if_pos rfl
      · have hless : p.1 < k := hp (k, x) h
        have hne : p.1 ≠ k := fun heq => Std.lt_irrefl (heq ▸ hless)
        rw [if_neg hne]
        exact ih hrest h

theorem mem_keys_iff {m : SortedMap κ ν} {k : κ} : k ∈ m.keys ↔ ∃ x, m.get? k = some x := by
  rw [keys, List.mem_map]
  constructor
  · rintro ⟨⟨k, x⟩, hmem, rfl⟩
    exact ⟨x, get?_eq_some_iff.mpr hmem⟩
  · rintro ⟨x, hx⟩
    exact ⟨(k, x), get?_eq_some_iff.mp hx, rfl⟩

theorem get?_eq_none_iff {m : SortedMap κ ν} {k : κ} : m.get? k = none ↔ k ∉ m.keys := by
  rw [mem_keys_iff, Option.eq_none_iff_forall_ne_some, not_exists]

omit [DecidableEq κ] in
theorem nodup_keys (m : SortedMap κ ν) : m.keys.Nodup := by
  have hsorted : m.keys.Pairwise (· < ·) := List.pairwise_map.mpr m.sorted
  refine hsorted.imp ?_
  rintro a b h rfl
  exact Std.lt_irrefl h

/-- A key that is taken out is not found, and nothing else changes. -/
theorem get?_erase (m : SortedMap κ ν) (k k' : κ) :
    (m.erase k).get? k' = if k = k' then none else m.get? k' := by
  split
  · rename_i hk
    rw [get?_eq_none_iff, keys, erase, ← hk]
    intro hmem
    obtain ⟨p, hp, hkey⟩ := List.mem_map.mp hmem
    exact absurd hkey (of_decide_eq_true (List.mem_filter.mp hp).2)
  · rename_i hk
    refine Option.ext fun x => ?_
    rw [get?_eq_some_iff, get?_eq_some_iff, erase, List.mem_filter, decide_eq_true_eq]
    exact and_iff_left fun heq => hk heq.symm

/-- Taking out a key that is not there leaves the table as it is. -/
theorem erase_eq_self {m : SortedMap κ ν} {k : κ} (h : m.get? k = none) : m.erase k = m := by
  obtain ⟨l, hsorted⟩ := m
  rw [erase]
  congr
  refine List.filter_eq_self.mpr fun p hp => decide_eq_true ?_
  rintro rfl
  exact get?_eq_none_iff.mp h (List.mem_map_of_mem hp)

end Contents

variable {κ ν : Type} [LE κ] [LT κ] [DecidableEq κ] [DecidableLT κ]
variable [Std.IsLinearOrder κ] [Std.LawfulOrderLT κ]

omit [DecidableEq κ] in
theorem mem_insertMany {m : SortedMap κ ν} {l : List (κ × ν)} {q : κ × ν}
    (h : q ∈ (m.insertMany l).toList) : q ∈ m.toList ∨ q ∈ l := by
  induction l generalizing m with
  | nil => exact Or.inl h
  | cons p rest ih =>
      rcases ih h with h | h
      · rcases mem_insertIn h with rfl | h
        · exact Or.inr List.mem_cons_self
        · exact Or.inl h
      · exact Or.inr (List.mem_cons_of_mem p h)

theorem findIn_insertIn (k k' : κ) (v : ν) (l : List (κ × ν)) :
    findIn k' (insertIn k v l) = if k = k' then some v else findIn k' l := by
  induction l with
  | nil => rfl
  | cons p rest ih =>
      rw [insertIn]
      split
      · rfl
      · split
        · rename_i hless
          rw [findIn, findIn, ih]
          by_cases hp : p.1 = k'
          · have hk : k ≠ k' := by
              rintro rfl
              rw [hp] at hless
              exact Std.lt_irrefl hless
            rw [if_pos hp, if_neg hk, if_pos hp]
          · rw [if_neg hp, if_neg hp]
        · rename_i hgreater hless
          have hk : k = p.1 := Std.le_antisymm (Std.not_lt.mp hless) (Std.not_lt.mp hgreater)
          rw [findIn, findIn, hk]
          by_cases hp : p.1 = k'
          · rw [if_pos hp, if_pos hp]
          · rw [if_neg hp, if_neg hp, if_neg hp]

/-- What is stored under a key is found there, and nothing else changes. -/
theorem get?_insert (m : SortedMap κ ν) (k k' : κ) (v : ν) :
    (m.insert k v).get? k' = if k = k' then some v else m.get? k' :=
  findIn_insertIn k k' v m.toList

theorem get?_insert_self (m : SortedMap κ ν) (k : κ) (v : ν) :
    (m.insert k v).get? k = some v := by
  rw [get?_insert, if_pos rfl]

theorem get?_insert_of_ne (m : SortedMap κ ν) {k k' : κ} (h : k ≠ k') (v : ν) :
    (m.insert k v).get? k' = m.get? k' := by
  rw [get?_insert, if_neg h]

/-- Only the value of a key that is present is changed. -/
theorem get?_modify (m : SortedMap κ ν) (k k' : κ) (f : ν → ν) :
    (m.modify k f).get? k' = if k = k' then (m.get? k').map f else m.get? k' := by
  unfold modify
  split
  · rename_i v hv
    rw [get?_insert]
    split
    · rename_i hkey
      rw [← hkey, hv]
      rfl
    · rfl
  · rename_i hnone
    split
    · rename_i hkey
      rw [← hkey, hnone]
      rfl
    · rfl

/-! ## Many insertions -/

theorem mem_keys_insertMany {m : SortedMap κ ν} {l : List (κ × ν)} {k : κ} :
    k ∈ (m.insertMany l).keys ↔ k ∈ m.keys ∨ k ∈ l.map (·.1) := by
  induction l generalizing m with
  | nil => simp [insertMany]
  | cons p rest ih =>
      have hinsert : k ∈ (m.insert p.1 p.2).keys ↔ k = p.1 ∨ k ∈ m.keys := by
        rw [mem_keys_iff, mem_keys_iff, get?_insert]
        by_cases hk : p.1 = k
        · simp [hk]
        · simp [hk, Ne.symm hk]
      rw [List.map_cons, List.mem_cons, ← or_assoc, or_comm (a := k ∈ m.keys), ← hinsert]
      exact ih

theorem get?_insertMany_of_notMem {m : SortedMap κ ν} {l : List (κ × ν)} {k : κ}
    (h : k ∉ l.map (·.1)) : (m.insertMany l).get? k = m.get? k := by
  induction l generalizing m with
  | nil => rfl
  | cons p rest ih =>
      rw [List.map_cons, List.mem_cons, not_or] at h
      exact (ih h.2).trans (m.get?_insert_of_ne (Ne.symm h.1) p.2)

/-- The last pair of a key stays. -/
theorem get?_insertMany_last {m : SortedMap κ ν} {before after : List (κ × ν)} {p : κ × ν}
    (h : p.1 ∉ after.map (·.1)) :
    (m.insertMany (before ++ p :: after)).get? p.1 = some p.2 := by
  rw [insertMany, List.foldl_append]
  exact (get?_insertMany_of_notMem h).trans (get?_insert_self _ p.1 p.2)

/-! ## Tables that stay as they are -/

theorem insertIn_eq_self {k : κ} {v : ν} {l : List (κ × ν)}
    (hsorted : l.Pairwise (fun a b => a.1 < b.1)) (h : findIn k l = some v) :
    insertIn k v l = l := by
  induction l with
  | nil => exact absurd h (by simp [findIn])
  | cons p rest ih =>
      obtain ⟨hp, hrest⟩ := List.pairwise_cons.mp hsorted
      rw [findIn] at h
      rw [insertIn]
      split at h
      · rename_i hk
        rw [← Option.some.inj h, ← hk, if_neg Std.lt_irrefl, if_neg Std.lt_irrefl]
      · have hless : p.1 < k := hp (k, v) (mem_of_get? (m := ⟨rest, hrest⟩) h)
        rw [if_neg (fun h' => Std.lt_irrefl (Std.lt_trans h' hless)), if_pos hless, ih hrest h]

/-- A change that leaves the value of a key as it is leaves the table as it is. -/
theorem modify_eq_self {m : SortedMap κ ν} {k : κ} {f : ν → ν}
    (h : ∀ v, m.get? k = some v → f v = v) : m.modify k f = m := by
  unfold modify
  split
  · rename_i v hv
    obtain ⟨l, hsorted⟩ := m
    rw [h v hv, insert]
    congr
    exact insertIn_eq_self hsorted hv
  · rfl

omit [DecidableEq κ] in
theorem insertIn_of_greater {k : κ} {v : ν} {l : List (κ × ν)} (h : ∀ p ∈ l, p.1 < k) :
    insertIn k v l = l ++ [(k, v)] := by
  induction l with
  | nil => rfl
  | cons p rest ih =>
      obtain ⟨hp, hrest⟩ := List.forall_mem_cons.mp h
      rw [insertIn, if_neg (fun h' => Std.lt_irrefl (Std.lt_trans h' hp)), if_pos hp, ih hrest,
        List.cons_append]

omit [DecidableEq κ] in
theorem toList_insertMany {m : SortedMap κ ν} {l : List (κ × ν)}
    (h : (m.toList ++ l).Pairwise (fun a b => a.1 < b.1)) :
    (m.insertMany l).toList = m.toList ++ l := by
  induction l generalizing m with
  | nil => exact (List.append_nil _).symm
  | cons p rest ih =>
      have hp : (m.insert p.1 p.2).toList = m.toList ++ [p] :=
        insertIn_of_greater fun q hq =>
          (List.pairwise_append.mp h).2.2 q hq p List.mem_cons_self
      have hrest : (m.insert p.1 p.2).toList ++ rest = m.toList ++ p :: rest := by
        rw [hp, List.append_assoc, List.singleton_append]
      rw [← hrest] at h ⊢
      exact ih h

omit [DecidableEq κ] in
/-- A list in ascending order is listed as it is. -/
theorem toList_ofList {l : List (κ × ν)} (h : l.Pairwise (fun a b => a.1 < b.1)) :
    (ofList l).toList = l := toList_insertMany h

omit [DecidableEq κ] in
/-- A map is the map of its own list. -/
theorem ofList_toList (m : SortedMap κ ν) : ofList m.toList = m := by
  have hlist := toList_ofList m.sorted
  rcases hmap : ofList m.toList with ⟨l, hsorted⟩
  rw [hmap] at hlist
  cases m
  cases hlist
  rfl

end SortedMap

end Hooklog

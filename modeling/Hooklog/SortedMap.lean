/-!
# Sorted maps

Association lists kept in strictly ascending key order.  The order is part of
the type, so two maps with the same content are equal, and listing a map shows
its keys sorted, each once.
-/

namespace Hooklog

/-- Pairs in strictly ascending key order. -/
structure SortedMap (κ ν : Type) [LT κ] where
  toList : List (κ × ν)
  sorted : toList.Pairwise (fun a b => a.1 < b.1)

namespace SortedMap

section Operations

variable {κ ν : Type} [LT κ] [DecidableEq κ] [DecidableLT κ]

/-- Equality of contents, the order proofs being irrelevant. -/
instance [DecidableEq ν] : DecidableEq (SortedMap κ ν) := fun a b =>
  if h : a.toList = b.toList then
    isTrue (by cases a; cases b; simp_all)
  else
    isFalse (fun e => h (by rw [e]))

/-- The map without entries. -/
def empty : SortedMap κ ν := ⟨[], List.Pairwise.nil⟩

instance : EmptyCollection (SortedMap κ ν) := ⟨empty⟩

instance : Inhabited (SortedMap κ ν) := ⟨empty⟩

/-- Value listed under a key. -/
def findIn (k : κ) : List (κ × ν) → Option ν
  | [] => none
  | p :: rest => if p.1 = k then some p.2 else findIn k rest

/-- Value stored under a key. -/
def get? (m : SortedMap κ ν) (k : κ) : Option ν := findIn k m.toList

/-- Put a pair at its place, replacing the pair of the same key. -/
def insertIn (k : κ) (v : ν) : List (κ × ν) → List (κ × ν)
  | [] => [(k, v)]
  | p :: rest =>
      if k < p.1 then (k, v) :: p :: rest
      else if p.1 < k then p :: insertIn k v rest
      else (k, v) :: rest

omit [DecidableEq κ] in
theorem mem_insertIn {k : κ} {v : ν} {l : List (κ × ν)} {q : κ × ν}
    (h : q ∈ insertIn k v l) : q = (k, v) ∨ q ∈ l := by
  induction l with
  | nil => simpa [insertIn] using h
  | cons p rest ih =>
      unfold insertIn at h
      split at h
      · simpa using h
      · split at h
        · rcases List.mem_cons.mp h with rfl | h
          · simp
          · rcases ih h with h | h <;> simp [h]
        · rcases List.mem_cons.mp h with h | h <;> simp [h]

/-- The keys in ascending order. -/
def keys (m : SortedMap κ ν) : List κ := m.toList.map (·.1)

/-- The values in the order of their keys. -/
def values (m : SortedMap κ ν) : List ν := m.toList.map (·.2)

/-- Number of pairs. -/
def size (m : SortedMap κ ν) : Nat := m.toList.length

/-- Whether there is no pair. -/
def isEmpty (m : SortedMap κ ν) : Bool := m.toList.isEmpty

/-- Remove a key. -/
def erase (m : SortedMap κ ν) (k : κ) : SortedMap κ ν :=
  ⟨m.toList.filter (fun p => p.1 ≠ k), m.sorted.filter _⟩

/-- Replace every value, keeping the keys. -/
def mapValues {μ : Type} (f : ν → μ) (m : SortedMap κ ν) : SortedMap κ μ :=
  ⟨m.toList.map (fun p => (p.1, f p.2)), by
    rw [List.pairwise_map]
    exact m.sorted⟩

end Operations

section Insertion

variable {κ ν : Type} [LE κ] [LT κ] [DecidableEq κ] [DecidableLT κ]
variable [Std.IsLinearOrder κ] [Std.LawfulOrderLT κ]

omit [DecidableEq κ] in
theorem sorted_insertIn (k : κ) (v : ν) (l : List (κ × ν))
    (h : l.Pairwise (fun a b => a.1 < b.1)) :
    (insertIn k v l).Pairwise (fun a b => a.1 < b.1) := by
  induction l with
  | nil => simp [insertIn]
  | cons p rest ih =>
      have hrest := List.pairwise_cons.mp h
      unfold insertIn
      split
      · rename_i hk
        refine List.pairwise_cons.mpr ⟨fun q hq => ?_, h⟩
        rcases List.mem_cons.mp hq with rfl | hq
        · exact hk
        · exact Std.lt_trans hk (hrest.1 q hq)
      · rename_i hk
        split
        · rename_i hp
          refine List.pairwise_cons.mpr ⟨fun q hq => ?_, ih hrest.2⟩
          rcases mem_insertIn hq with rfl | hq
          · exact hp
          · exact hrest.1 q hq
        · rename_i hp
          have hkey : k = p.1 := by
            rcases Std.lt_trichotomy k p.1 with h' | h' | h'
            · exact absurd h' hk
            · exact h'
            · exact absurd h' hp
          refine List.pairwise_cons.mpr ⟨fun q hq => ?_, hrest.2⟩
          simpa [hkey] using hrest.1 q hq

/-- Store a value under a key, replacing the value stored there before. -/
def insert (m : SortedMap κ ν) (k : κ) (v : ν) : SortedMap κ ν :=
  ⟨insertIn k v m.toList, sorted_insertIn k v m.toList m.sorted⟩

/-- Store pairs from left to right, so that the last one of a key stays. -/
def insertMany (m : SortedMap κ ν) (l : List (κ × ν)) : SortedMap κ ν :=
  l.foldl (fun m p => m.insert p.1 p.2) m

/-- The map of a list of pairs, the last one of a key staying. -/
def ofList (l : List (κ × ν)) : SortedMap κ ν := empty.insertMany l

/-- Store every pair of the second map into the first. -/
def merge (m other : SortedMap κ ν) : SortedMap κ ν := m.insertMany other.toList

/-- Change the value of a key that is present. -/
def modify (m : SortedMap κ ν) (k : κ) (f : ν → ν) : SortedMap κ ν :=
  match m.get? k with
  | some v => m.insert k (f v)
  | none => m

end Insertion

end SortedMap

end Hooklog

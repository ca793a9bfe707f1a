import Hooklog.Proofs.Formatter.Splice

/-!
# Slices

Texts are cut at byte offsets: the skeleton of a template at the positions of its fields, and a
value behind the last character that its limit allows.  A cut is possible only within a text and
between its characters.  This module says that all of these cuts are possible.

* `cut?` and `slice?` cut a text at byte offsets and fail where that is not possible.
* `truncated?` cuts a text to a number of characters by way of a byte offset; `truncated?_eq` says
  that it never fails.
* `splice?` splices texts into a skeleton by slices of it, and `render?` is the renderer that does
  so; `render?_ofItems` says that it never fails at a slice, and gives the line.
-/

namespace Hooklog.Line

open Text Template

/-- A text cut at a byte offset; there is no cut behind the text or within a character. -/
def cut? : Nat → List Char → Option (List Char × List Char)
  | 0, s => some ([], s)
  | _, [] => none
  | n, c :: rest =>
      if c.utf8Size ≤ n then (cut? (n - c.utf8Size) rest).map fun p => (c :: p.1, p.2) else none

/-- Part of a text between two byte offsets. -/
def slice? (s : List Char) (start stop : Nat) : Option (List Char) :=
  if start ≤ stop then
    (cut? start s).bind fun p => (cut? (stop - start) p.2).map Prod.fst
  else none

/-- Byte offset of a character, given its number. -/
def offsetOf? : Nat → List Char → Option Nat
  | _, [] => none
  | 0, _ :: _ => some 0
  | n + 1, c :: rest => (offsetOf? n rest).map (c.utf8Size + ·)

/-- Text cut in front of the first character that is one too many. -/
def truncated? (limit : Nat) (s : List Char) : Option (List Char) :=
  match offsetOf? limit s with
  | some n => (cut? n s).map Prod.fst
  | none => some s

/-- Texts spliced into a skeleton, of which some bytes have been written, by slices of it. -/
def splice? (skeleton : List Char) (written : Nat) : List (Nat × String) → Option (List Char)
  | [] => (cut? written skeleton).map Prod.snd
  | (position, s) :: more =>
      match slice? skeleton written position, splice? skeleton position more with
      | some literal, some rest => some (literal ++ s.toList ++ rest)
      | _, _ => none

/-- Line of an entry by a renderer that slices the skeleton. -/
def render? (v : View) (e : Entry) (c : Compiled) : Option (Except Fault String) :=
  match texts v e c with
  | .error fault => some (.error fault)
  | .ok ts =>
      (splice? c.skeleton 0 ((c.fields.map (·.position)).zip ts)).map fun s =>
        .ok (String.ofList (s ++ ['\n']))

/-! ## Cuts -/

/-- A text is cut between any two of its parts. -/
theorem cut?_append (s rest : List Char) : cut? (byteLength s) (s ++ rest) = some (s, rest) := by
  induction s with
  | nil => rw [byteLength_nil, List.nil_append, cut?]
  | cons c s ih =>
      have hsize := c.utf8Size_pos
      have hlength : byteLength (c :: s) = c.utf8Size + byteLength s := rfl
      rw [hlength, List.cons_append, cut?, if_pos (Nat.le_add_right _ _), Nat.add_sub_cancel_left,
        ih]
      · rfl
      · omega

theorem slice?_append (before s rest : List Char) :
    slice? (before ++ (s ++ rest)) (byteLength before) (byteLength (before ++ s)) = some s := by
  rw [slice?, byteLength_append, if_pos (Nat.le_add_right _ _), cut?_append, Option.bind_some,
    Nat.add_sub_cancel_left, cut?_append]
  rfl

/-! ## Limits -/

theorem offsetOf?_eq (n : Nat) (s : List Char) :
    offsetOf? n s = if n < s.length then some (byteLength (s.take n)) else none := by
  induction s generalizing n with
  | nil => simp [offsetOf?]
  | cons c rest ih =>
      cases n with
      | zero => simp [offsetOf?, byteLength_nil]
      | succ n =>
          rw [offsetOf?, ih, List.take_succ_cons, List.length_cons]
          by_cases h : n < rest.length
          · rw [if_pos h, if_pos (Nat.succ_lt_succ h)]
            rfl
          · rw [if_neg h, if_neg (by omega)]
            rfl

/-- Every text can be cut to every limit. -/
theorem truncated?_eq (n : Nat) (s : List Char) : truncated? n s = some (s.take n) := by
  rw [truncated?, offsetOf?_eq]
  by_cases h : n < s.length
  · have hcut := cut?_append (s.take n) (s.drop n)
    rw [List.take_append_drop] at hcut
    rw [if_pos h]
    dsimp only
    rw [hcut]
    rfl
  · rw [if_neg h, List.take_of_length_le (Nat.le_of_not_lt h)]

/-! ## Skeletons -/

theorem eq_nil_of_byteLength {s : List Char} (h : byteLength s = 0) : s = [] := by
  cases s with
  | nil => rfl
  | cons c s =>
      have hsize := c.utf8Size_pos
      have hlength : byteLength (c :: s) = c.utf8Size + byteLength s := rfl
      omega

/-- Of two beginnings of a text the one with fewer bytes is a beginning of the other. -/
theorem exists_middle {before rest first last : List Char} (h : before ++ rest = first ++ last)
    (hle : byteLength before ≤ byteLength first) :
    ∃ middle, first = before ++ middle ∧ rest = middle ++ last := by
  rcases List.append_eq_append_iff.mp h with ⟨middle, hfirst, hrest⟩ | ⟨middle, hbefore, hlast⟩
  · exact ⟨middle, hfirst, hrest⟩
  · rw [hbefore, byteLength_append] at hle
    obtain rfl := eq_nil_of_byteLength (s := middle) (by omega)
    rw [List.append_nil] at hbefore
    exact ⟨[], by rw [hbefore, List.append_nil], hlast.symm⟩

theorem splice?_nil (before rest : List Char) :
    splice? (before ++ rest) (byteLength before) [] = some rest := by
  rw [splice?, cut?_append]
  rfl

/-- Where the positions grow and stand between characters, no slice fails. -/
theorem splice?_eq {skeleton before rest : List Char} (hskeleton : skeleton = before ++ rest)
    {positions : List Nat} (hgrow : positions.Pairwise (· ≤ ·))
    (hplaces : ∀ n ∈ positions, byteLength before ≤ n ∧
      ∃ first last, skeleton = first ++ last ∧ n = byteLength first) (ts : List String) :
    splice? skeleton (byteLength before) (positions.zip ts) =
      some (splice (byteLength before) rest (positions.zip ts)) := by
  -- along the positions; what has been written is the skeleton up to the last of them
  induction positions generalizing before rest ts with
  | nil => exact hskeleton ▸ splice?_nil before rest
  | cons position more ih =>
      cases ts with
      | nil => exact hskeleton ▸ splice?_nil before rest
      | cons s ts =>
          obtain ⟨hle, first, last, hparts, rfl⟩ := hplaces _ List.mem_cons_self
          obtain ⟨middle, rfl, rfl⟩ := exists_middle (hskeleton.symm.trans hparts) hle
          rw [List.pairwise_cons] at hgrow
          have hslice : slice? skeleton (byteLength before) (byteLength (before ++ middle)) =
              some middle := by
            rw [hskeleton]
            exact slice?_append before middle last
          have hsplit : splitAtByte (byteLength (before ++ middle) - byteLength before)
              (middle ++ last) = (middle, last) := by
            have hcut := splitAtByte_append middle last 0
            rw [splitAtByte_zero, Nat.add_zero, List.append_nil] at hcut
            rw [byteLength_append, Nat.add_sub_cancel_left, hcut]
          have hmore := ih hparts hgrow.2
            (fun n hn => ⟨hgrow.1 n hn, (hplaces n (List.mem_cons_of_mem _ hn)).2⟩) ts
          rw [List.zip_cons_cons, splice?, hslice, hmore, splice, hsplit]

/-- The skeleton of a template can be sliced at the positions of its fields. -/
theorem splice?_ofItems (items : List Item) (ts : List String) :
    splice? (Compiled.ofItems items).skeleton 0
        (((Compiled.ofItems items).fields.map (·.position)).zip ts) =
      some (splice 0 (Compiled.ofItems items).skeleton
        (((Compiled.ofItems items).fields.map (·.position)).zip ts)) := by
  have hgrow : ((fieldsFrom 0 items).map (·.position)).Pairwise (· ≤ ·) :=
    List.pairwise_map.mpr (pairwise_fieldsFrom 0 items)
  have hplaces : ∀ n ∈ (fieldsFrom 0 items).map (·.position), byteLength [] ≤ n ∧
      ∃ first last, skeletonOf items = first ++ last ∧ n = byteLength first := by
    intro n hn
    obtain ⟨spec, hspec, rfl⟩ := List.mem_map.mp hn
    obtain ⟨before, after, hskeleton, hbefore⟩ := position_of_mem_fieldsFrom hspec
    exact ⟨Nat.zero_le _, before, after, hskeleton, by rw [hbefore, Nat.zero_add]⟩
  exact splice?_eq (List.nil_append (skeletonOf items)).symm hgrow hplaces ts

/-- A renderer that slices the skeleton of a template never fails at a slice, and gives the same
line. -/
theorem render?_ofItems (v : View) (e : Entry) (items : List Item) :
    render? v e (.ofItems items) = some (render v e (.ofItems items)) := by
  rw [render?, render]
  cases texts v e (.ofItems items) with
  | error fault => rfl
  | ok ts =>
      dsimp only
      rw [splice?_ofItems]
      rfl

end Hooklog.Line

import Hooklog.Duration.Format
import Hooklog.Proofs.Decimal.Whole
import Hooklog.Proofs.Duration.Rounding
import Hooklog.Proofs.Text.Words
import Mathlib.Data.List.Chain

/-!
# Reading exact durations

In the precise style and without rounding, a duration is written as counts of ever shorter
units.  A unit is passed over while the duration is below its least one, which for months and
weeks is longer than the unit itself, but the nanoseconds at the end take whatever is left.  So
the counts and units that are written add up to the duration, and reading them gives it back.

* `Duration.parts` are the counts and units of a duration, and `Duration.partsText` is their text
  in short or long names.
* `Duration.read?` reads such a text.
* `DurationFormat.read?_format` is the main statement.
-/

namespace Hooklog.Duration

open Decimal

/-- A count of a unit. -/
abbrev Part := Nat × TimeUnit

/-- Nanoseconds of some parts. -/
def total : List Part → Int
  | [] => 0
  | p :: rest => p.1 * p.2.length + total rest

/-- Counts and units of a duration. -/
def partsIn : List TimeUnit → Int → List Part
  | [], _ => []
  | u :: rest, n =>
      if n < u.least then partsIn rest n
      else ((n / u.length).toNat, u) :: partsIn rest (n % u.length)

/-- Counts and units of a duration, of all units. -/
def parts (n : Int) : List Part := partsIn units n

/-! ## Units -/

/-- A unit that is not written for durations shorter than itself. -/
structure TimeUnit.Fits (u : TimeUnit) : Prop where
  pos : 0 < u.length
  le : u.length ≤ u.least

instance (u : TimeUnit) : Decidable u.Fits :=
  decidable_of_iff (0 < u.length ∧ u.length ≤ u.least)
    ⟨fun h => ⟨h.1, h.2⟩, fun h => ⟨h.pos, h.le⟩⟩

/-- A unit below the least duration of which there are less than a thousand of the next unit. -/
def TimeUnit.Precedes (longer shorter : TimeUnit) : Prop := longer.least ≤ 1000 * shorter.length

instance (longer shorter : TimeUnit) : Decidable (longer.Precedes shorter) :=
  inferInstanceAs (Decidable (longer.least ≤ 1000 * shorter.length))

/-- Units in a row of which the last one is written for every duration. -/
structure Scale (us : List TimeUnit) : Prop where
  fits : ∀ u ∈ us, u.Fits
  chain : us.IsChain TimeUnit.Precedes
  last : ∀ u, us.getLast? = some u → u.least = 1

theorem scale_units : Scale units where
  fits := by decide
  chain := by decide
  last u hu := by
    obtain rfl := Option.some.inj hu
    rfl

theorem scale_nil : Scale [] where
  fits _ hu := absurd hu List.not_mem_nil
  chain := .nil
  last u hu := absurd hu.symm (Option.some_ne_none u)

theorem Scale.tail {u v : TimeUnit} {us : List TimeUnit} (h : Scale (u :: v :: us)) :
    Scale (v :: us) where
  fits w hw := h.fits w (List.mem_cons_of_mem u hw)
  chain := h.chain.tail
  last w hw := h.last w (by rw [List.getLast?_cons_cons]; exact hw)

section Scales

variable {us : List TimeUnit} {n : Int}

/-- What the counts and units add up to. -/
theorem total_partsIn (h : Scale us) (hne : us ≠ []) (hn : 0 ≤ n) : total (partsIn us n) = n := by
  induction us generalizing n with
  | nil => exact absurd rfl hne
  | cons u rest ih =>
      have hfits := h.fits u List.mem_cons_self
      have hpos := hfits.pos
      have hle := hfits.le
      have hquotient : 0 ≤ n / u.length := Int.ediv_nonneg hn (Int.le_of_lt hpos)
      have hremainder : 0 ≤ n % u.length := Int.emod_nonneg n (Int.ne_of_gt hpos)
      have hsum := Int.mul_ediv_add_emod n u.length
      have hcount :
          (((n / u.length).toNat : Nat) : Int) * u.length = u.length * (n / u.length) := by
        rw [Int.toNat_of_nonneg hquotient, Int.mul_comm]
      cases rest with
      | nil =>
          have hleast := h.last u rfl
          have hlength : u.length = 1 := by omega
          unfold partsIn
          split
          · show (0 : Int) = n
            omega
          · show (((n / u.length).toNat : Nat) : Int) * u.length + 0 = n
            rw [hcount]
            rw [hlength] at hsum ⊢
            rw [Int.emod_one] at hsum
            exact hsum
      | cons v rest =>
          unfold partsIn
          split
          · exact ih h.tail (List.cons_ne_nil v rest) hn
          · rw [total, ih h.tail (List.cons_ne_nil v rest) hremainder]
            exact hcount ▸ hsum

/-- Every count is at least one and less than a thousand, if the first one is. -/
theorem count_of_mem_partsIn (h : Scale us) (hn : 0 ≤ n)
    (hmax : ∀ u, us.head? = some u → n < 1000 * u.length) {p : Part} (hp : p ∈ partsIn us n) :
    1 ≤ p.1 ∧ p.1 < 1000 := by
  induction us generalizing n with
  | nil => exact absurd hp List.not_mem_nil
  | cons u rest ih =>
      have hfits := h.fits u List.mem_cons_self
      have hpos := hfits.pos
      have hle := hfits.le
      have htail : Scale rest := by
        cases rest with
        | nil => exact scale_nil
        | cons v rest => exact h.tail
      have hbelow : ∀ m, m < u.least → ∀ v, rest.head? = some v → m < 1000 * v.length := by
        intro m hm v hv
        cases rest with
        | nil => exact absurd hv.symm (Option.some_ne_none v)
        | cons w rest =>
            obtain rfl := Option.some.inj hv
            have hprecedes : u.least ≤ 1000 * w.length := (List.isChain_cons_cons.mp h.chain).1
            omega
      unfold partsIn at hp
      split at hp
      · rename_i hless
        exact ih htail hn (hbelow n hless) hp
      · rename_i hmore
        have hremainder := emod_bounds hpos n
        rcases List.mem_cons.mp hp with rfl | hp
        · have hlow : 1 ≤ n / u.length := (Int.le_ediv_iff_mul_le hpos).mpr (by omega)
          have hhigh : n / u.length < 1000 := (Int.ediv_lt_iff_lt_mul hpos).mpr (hmax u rfl)
          dsimp only
          omega
        · exact ih htail hremainder.1 (hbelow _ (by omega)) hp

/-- The units keep their order. -/
theorem units_partsIn_sublist (us : List TimeUnit) (n : Int) :
    ((partsIn us n).map (·.2)).Sublist us := by
  induction us generalizing n with
  | nil => exact .slnil
  | cons u rest ih =>
      unfold partsIn
      split
      · exact (ih n).cons u
      · exact (ih _).cons_cons u

end Scales

/-! ## Writing -/

/-- A part with the short or the long name of its unit. -/
def partText (long : Bool) (p : Part) : String :=
  if long then naturalText p.1 ++ " " ++ p.2.long ++ (if 2 ≤ p.1 then "s" else "")
  else naturalText p.1 ++ p.2.short

/-- Text of no time. -/
def zeroText (long : Bool) : String := if long then "0 second" else "0s"

/-- Parts one after the other, the long ones with spaces between them. -/
def partsText (long : Bool) (ps : List Part) : String :=
  if ps = [] then zeroText long
  else Text.joinWith (if long then " " else "") (ps.map (partText long))

theorem amounts_eq_map_partsIn {us : List TimeUnit} (hus : ∀ u ∈ us, u.Fits) {n : Int}
    (hn : 0 ≤ n) :
    amounts .precise n us = (partsIn us n).map fun p => (Binary64.ofInt p.1, p.2) := by
  induction us generalizing n with
  | nil => rfl
  | cons u rest ih =>
      obtain ⟨hu, hrest⟩ := List.forall_mem_cons.mp hus
      have hpos := hu.pos
      have hle := hu.le
      have hquotient : 0 ≤ n / u.length := Int.ediv_nonneg hn (Int.le_of_lt hpos)
      have hremainder : n - n / u.length * u.length = n % u.length := by
        rw [Int.emod_def, Int.mul_comm]
      have huses : DurationStyle.uses .precise u = true := rfl
      have hwhole : DurationStyle.wholeAbove .precise = 0 := rfl
      unfold amounts partsIn
      rw [huses, hwhole, Bool.not_true, Bool.false_or]
      by_cases hless : n < u.least
      · rw [if_pos (decide_eq_true hless), if_pos hless]
        exact ih hrest hn
      · rw [if_neg (by simp [hless]), if_neg hless, if_pos (by omega), hremainder,
          ih hrest (Int.emod_nonneg n (Int.ne_of_gt hpos)), List.map_cons]
        dsimp only
        rw [Int.toNat_of_nonneg hquotient]

theorem count_of_mem_parts {n : Int} (hn : 0 ≤ n) (hmax : n ≤ largest) {p : Part}
    (hp : p ∈ parts n) : 1 ≤ p.1 ∧ p.1 < 1000 := by
  refine count_of_mem_partsIn scale_units hn (fun u hu => ?_) hp
  obtain rfl := Option.some.inj hu
  have hyears : largest < 1000 * year := by decide
  exact Int.lt_of_le_of_lt hmax hyears

theorem shortText_ofInt {p : Part} (h : Holdable p.1) :
    shortText (Binary64.ofInt p.1, p.2) = partText false p := by
  rw [shortText, plainText_ofInt h]
  rfl

theorem longText_ofInt {p : Part} (h : Holdable p.1) :
    longText (Binary64.ofInt p.1, p.2) = partText true p := by
  rw [longText, plainText_ofInt h, atLeast_ofInt h]
  simp only [decide_eq_true_eq]
  rfl

/-- A duration that is not negative is written by its parts. -/
theorem unsignedText_eq_partsText {n : Int} (hn : 0 ≤ n) (hmax : n ≤ largest) (long : Bool) :
    unsignedText .precise long n = partsText long (parts n) := by
  have hholdable : ∀ p ∈ partsIn units n, Holdable p.1 := by
    intro p hp
    have hcount := count_of_mem_parts hn hmax hp
    exact ⟨hcount.1, Nat.lt_trans hcount.2 (by decide)⟩
  have hshort : (amounts .precise n units).map shortText = (parts n).map (partText false) := by
    rw [amounts_eq_map_partsIn scale_units.fits hn, List.map_map]
    exact List.map_congr_left fun p hp => shortText_ofInt (hholdable p hp)
  have hlong : (amounts .precise n units).map longText = (parts n).map (partText true) := by
    rw [amounts_eq_map_partsIn scale_units.fits hn, List.map_map]
    exact List.map_congr_left fun p hp => longText_ofInt (hholdable p hp)
  have hempty : (amounts .precise n units).isEmpty = true ↔ parts n = [] := by
    rw [amounts_eq_map_partsIn scale_units.fits hn, List.isEmpty_iff, List.map_eq_nil_iff, parts]
  unfold unsignedText partsText
  dsimp only
  simp only [hempty]
  rw [hshort, hlong]
  cases long <;> rfl

/-! ## Reading -/

/-- Names of a unit. -/
def TimeUnit.names (u : TimeUnit) : List String := [u.short, u.long, u.long ++ "s"]

/-- Length of the unit of a name. -/
def lengthOf? (name : List Char) : Option Int :=
  (units.find? fun u => u.names.contains (String.ofList name)).map (·.length)

/-- A sum of parts with one more part, whose digits and name have been read. -/
def addPart? (sum : Int) (digits name : List Char) : Option Int :=
  match readNatural? digits, lengthOf? name with
  | some n, some l => some (sum + n * l)
  | _, _ => none

/-- Sum of the parts of a text, after some parts have been read and the digits and the name of
another one. -/
def readFrom? (sum : Int) (digits name : List Char) : List Char → Option Int
  | [] => addPart? sum digits name
  | c :: rest =>
      if Text.isAsciiDigit c then
        if name = [] then readFrom? sum (digits ++ [c]) [] rest
        else
          match addPart? sum digits name with
          | some sum => readFrom? sum [c] [] rest
          | none => none
      else if c = ' ' then readFrom? sum digits name rest
      else readFrom? sum digits (name ++ [c]) rest

/-- Duration of a text: counts of units by their short or long names, after an optional sign. -/
def read? (s : String) : Option Int :=
  match s.toList with
  | '-' :: rest => (readFrom? 0 [] [] rest).map fun n => -n
  | rest => readFrom? 0 [] [] rest

section Reading

variable {sum : Int} {digits name s : List Char}

theorem readFrom?_digits {ds : List Char} (hds : ∀ c ∈ ds, Text.isAsciiDigit c = true) :
    readFrom? sum digits [] (ds ++ s) = readFrom? sum (digits ++ ds) [] s := by
  induction ds generalizing digits with
  | nil => rw [List.nil_append, List.append_nil]
  | cons c ds ih =>
      obtain ⟨hc, hrest⟩ := List.forall_mem_cons.mp hds
      rw [List.cons_append, readFrom?, if_pos hc, if_pos rfl, ih hrest, List.append_assoc]
      rfl

/-- A character of the name of a unit. -/
def IsNameChar (c : Char) : Prop := Text.isAsciiDigit c = false ∧ c ≠ ' '

instance (c : Char) : Decidable (IsNameChar c) :=
  inferInstanceAs (Decidable (Text.isAsciiDigit c = false ∧ c ≠ ' '))

theorem readFrom?_name {w : List Char} (hw : ∀ c ∈ w, IsNameChar c) :
    readFrom? sum digits name (w ++ s) = readFrom? sum digits (name ++ w) s := by
  induction w generalizing name with
  | nil => rw [List.nil_append, List.append_nil]
  | cons c w ih =>
      obtain ⟨hc, hrest⟩ := List.forall_mem_cons.mp hw
      rw [List.cons_append, readFrom?, if_neg (by rw [hc.1]; decide), if_neg hc.2, ih hrest,
        List.append_assoc]
      rfl

theorem readFrom?_space : readFrom? sum digits name (' ' :: s) = readFrom? sum digits name s := by
  rw [readFrom?, if_neg (by decide), if_pos rfl]

/-- The next digit after a name ends its part. -/
theorem readFrom?_next {c : Char} (hc : Text.isAsciiDigit c = true) (hname : name ≠ [])
    {next : Int} (hpart : addPart? sum digits name = some next) :
    readFrom? sum digits name (c :: s) = readFrom? next [] [] (c :: s) := by
  rw [readFrom?, if_pos hc, if_neg hname, hpart, readFrom?, if_pos hc, if_pos rfl]
  rfl

end Reading

/-- Name of the unit of a part as it is written. -/
def nameIn (long : Bool) (p : Part) : String :=
  if long then p.2.long ++ (if 2 ≤ p.1 then "s" else "") else p.2.short

/-- What stands between digits and name, and between two parts. -/
def gap (long : Bool) : List Char := if long then [' '] else []

theorem toList_partText (long : Bool) (p : Part) :
    (partText long p).toList = digitsOf p.1 ++ (gap long ++ (nameIn long p).toList) := by
  cases long <;> simp [partText, nameIn, gap, naturalText]

theorem nameIn_mem_names (long : Bool) (p : Part) : nameIn long p ∈ p.2.names := by
  unfold nameIn TimeUnit.names
  cases long with
  | false => exact List.mem_cons_self
  | true =>
      rw [if_pos rfl]
      split
      · exact List.mem_cons_of_mem _ (List.mem_cons_of_mem _ List.mem_cons_self)
      · rw [String.append_empty]
        exact List.mem_cons_of_mem _ List.mem_cons_self

/-- Every name is made of its own characters, is not empty and stands for its unit only. -/
theorem names_units : ∀ u ∈ units, ∀ name ∈ u.names,
    (∀ c ∈ name.toList, IsNameChar c) ∧ name.toList ≠ [] ∧
      lengthOf? name.toList = some u.length := by
  have hchars : ∀ u ∈ units, ∀ name ∈ u.names,
      (name.toList.all fun c => decide (IsNameChar c)) = true := by decide +kernel
  have hlength : ∀ u ∈ units, ∀ name ∈ u.names,
      name.toList ≠ [] ∧ lengthOf? name.toList = some u.length := by decide +kernel
  intro u hu name hname
  refine ⟨fun c hc => ?_, hlength u hu name hname⟩
  exact of_decide_eq_true (List.all_eq_true.mp (hchars u hu name hname) c hc)

section Parts

variable (long : Bool) (sum : Int)

/-- The digits and the name of a part are read as they stand. -/
theorem readFrom?_partText {p : Part} (hp : p.2 ∈ units) (s : List Char) :
    readFrom? sum [] [] ((partText long p).toList ++ s) =
      readFrom? sum (digitsOf p.1) (nameIn long p).toList s := by
  have hname := (names_units p.2 hp _ (nameIn_mem_names long p)).1
  have hgap : ∀ t, readFrom? sum (digitsOf p.1) [] (gap long ++ t) =
      readFrom? sum (digitsOf p.1) [] t := by
    intro t
    cases long with
    | false => rfl
    | true => exact readFrom?_space
  rw [toList_partText, List.append_assoc, List.append_assoc,
    readFrom?_digits fun _ => isAsciiDigit_of_mem_digitsOf, List.nil_append, hgap,
    readFrom?_name hname, List.nil_append]

theorem addPart?_part {p : Part} (hp : p.2 ∈ units) :
    addPart? sum (digitsOf p.1) (nameIn long p).toList = some (sum + p.1 * p.2.length) := by
  rw [addPart?, readNatural?_digitsOf, (names_units p.2 hp _ (nameIn_mem_names long p)).2.2]

theorem exists_toList_joinWith_cons (sep s : String) (rest : List String) :
    ∃ t, (Text.joinWith sep (s :: rest)).toList = s.toList ++ t := by
  cases rest with
  | nil => exact ⟨[], (List.append_nil _).symm⟩
  | cons t rest => exact ⟨_, Text.toList_joinWith_cons_cons sep s t rest⟩

/-- Parts start with a digit. -/
theorem exists_digit_joinWith (sep : String) (p : Part) (rest : List Part) :
    ∃ c t, (Text.joinWith sep ((p :: rest).map (partText long))).toList = c :: t ∧
      Text.isAsciiDigit c = true := by
  obtain ⟨c, digits, hdigits⟩ := List.exists_cons_of_ne_nil (digitsOf_ne_nil p.1)
  have hc := isAsciiDigit_of_mem_digitsOf (n := p.1) (hdigits ▸ List.mem_cons_self)
  obtain ⟨t, ht⟩ := exists_toList_joinWith_cons sep (partText long p) (rest.map (partText long))
  rw [toList_partText, hdigits, List.cons_append, List.cons_append] at ht
  exact ⟨c, _, ht, hc⟩

/-- Reading parts adds them up. -/
theorem readFrom?_parts {ps : List Part} (hne : ps ≠ []) (hps : ∀ p ∈ ps, p.2 ∈ units) :
    readFrom? sum [] [] (Text.joinWith (if long then " " else "")
      (ps.map (partText long))).toList = some (sum + total ps) := by
  induction ps generalizing sum with
  | nil => exact absurd rfl hne
  | cons p rest ih =>
      obtain ⟨hp, hrest⟩ := List.forall_mem_cons.mp hps
      have hname := (names_units p.2 hp _ (nameIn_mem_names long p)).2.1
      have hpart := addPart?_part long sum hp
      cases rest with
      | nil =>
          have hread := readFrom?_partText long sum hp []
          rw [List.append_nil, readFrom?, hpart] at hread
          rw [List.map_singleton, Text.joinWith, hread, total, total, Int.add_zero]
      | cons q rest =>
          have hgap : ∀ t, readFrom? sum (digitsOf p.1) (nameIn long p).toList
              ((if long then " " else "").toList ++ t) =
              readFrom? sum (digitsOf p.1) (nameIn long p).toList t := by
            intro t
            cases long with
            | false => rfl
            | true => exact readFrom?_space
          obtain ⟨c, t, htext, hc⟩ :=
            exists_digit_joinWith long (if long then " " else "") q rest
          have hmore := ih (sum + p.1 * p.2.length) (List.cons_ne_nil q rest) hrest
          rw [List.map_cons, List.map_cons, Text.toList_joinWith_cons_cons,
            readFrom?_partText long sum hp, hgap]
          rw [List.map_cons] at htext hmore
          rw [htext] at hmore ⊢
          rw [readFrom?_next hc hname hpart, hmore, Int.add_assoc]
          rfl

theorem exists_digit_partsText (ps : List Part) :
    ∃ c t, (partsText long ps).toList = c :: t ∧ Text.isAsciiDigit c = true := by
  unfold partsText
  cases ps with
  | nil => cases long <;> exact ⟨'0', _, rfl, by decide⟩
  | cons p rest => exact exists_digit_joinWith long _ p rest

theorem units_parts (n : Int) : ∀ p ∈ parts n, p.2 ∈ units := fun _ hp =>
  (units_partsIn_sublist units n).subset (List.mem_map_of_mem hp)

theorem total_parts {n : Int} (hn : 0 ≤ n) : total (parts n) = n :=
  total_partsIn scale_units (List.cons_ne_nil _ _) hn

/-- The text of the parts of a duration is read as this duration. -/
theorem readFrom?_partsText {n : Int} (hn : 0 ≤ n) :
    readFrom? 0 [] [] (partsText long (parts n)).toList = some n := by
  have htotal := total_parts hn
  unfold partsText
  split
  · rename_i hnil
    rw [hnil] at htotal
    rw [← htotal]
    cases long <;> decide +kernel
  · rename_i hne
    rw [readFrom?_parts long 0 hne (units_parts n), htotal, Int.zero_add]

/-- A text that starts with a digit has no sign. -/
theorem read?_partsText {n : Int} (hn : 0 ≤ n) :
    read? (partsText long (parts n)) = some n := by
  obtain ⟨c, t, htext, hc⟩ := exists_digit_partsText long (parts n)
  have hread := readFrom?_partsText long hn
  unfold read?
  rw [htext] at hread ⊢
  split
  · rename_i heq
    obtain ⟨rfl, -⟩ := List.cons_eq_cons.mp heq
    exact absurd hc (by decide)
  · exact hread

theorem read?_minus_partsText {n : Int} (hn : 0 ≤ n) :
    read? ("-" ++ partsText long (parts n)) = some (-n) := by
  have htext : ("-" ++ partsText long (parts n)).toList =
      '-' :: (partsText long (parts n)).toList := String.toList_append
  rw [read?, htext]
  show (readFrom? 0 [] [] (partsText long (parts n)).toList).map (fun n => -n) = _
  rw [readFrom?_partsText long hn]
  rfl

end Parts

/-- Longer units come first. -/
theorem units_descending : units.Pairwise fun u v => v.length < u.length := by decide

theorem parts_descending (n : Int) :
    (parts n).Pairwise fun p q => q.2.length < p.2.length :=
  List.pairwise_map.mp (units_descending.sublist (units_partsIn_sublist units n))

end Hooklog.Duration

namespace Hooklog.DurationFormat

open Duration

/-- Every unit without rounding, in short or long names. -/
def unrounded (long : Bool) : DurationFormat := ⟨.precise, false, long⟩

section Unrounded

variable {d : Int} (hlow : -largest ≤ d) (hhigh : d ≤ largest) (long : Bool)

include hlow hhigh

theorem format_unrounded : (unrounded long).format d =
    (if d < 0 then "-" else "") ++ partsText long (parts d.natAbs) := by
  have hsaturate : saturate d = d := by
    rw [saturate_eq]
    omega
  have hmagnitude : ∀ n, 0 ≤ n → n ≤ largest →
      (unrounded long).magnitudeText n = partsText long (parts n) :=
    fun n hn hmax => unsignedText_eq_partsText hn hmax long
  unfold format
  dsimp only
  rw [hsaturate]
  by_cases hd : d < 0
  · have hopposite : opposite d = d.natAbs := by
      rw [opposite, clamp_eq_min (by omega)]
      omega
    rw [if_pos hd, if_pos hd, hopposite, hmagnitude _ (by omega) (by omega)]
  · have habs : (d.natAbs : Int) = d := by omega
    rw [if_neg hd, if_neg hd, habs, hmagnitude d (by omega) hhigh, String.empty_append]

theorem read?_unrounded : read? ((unrounded long).format d) = some d := by
  rw [format_unrounded hlow hhigh]
  by_cases hd : d < 0
  · rw [if_pos hd, read?_minus_partsText long (by omega)]
    exact congrArg some (by omega)
  · rw [if_neg hd, String.empty_append, read?_partsText long (by omega)]
    exact congrArg some (by omega)

end Unrounded

/-- An exact duration in the precise style is written as a sign, if it is negative, and counts of
ever shorter units that add up to its magnitude, none of them zero; no time is written as zero
seconds and nothing else is.  Reading the text gives the duration back, so that two different
durations never have the same text. -/
theorem read?_format {d : Int} (hlow : -largest ≤ d) (hhigh : d ≤ largest) (long : Bool) :
    (∃ ps : List Part, (∀ p ∈ ps, 1 ≤ p.1 ∧ p.2 ∈ units) ∧
        (ps.Pairwise fun p q => q.2.length < p.2.length) ∧ total ps = d.natAbs ∧
        (unrounded long).format d = (if d < 0 then "-" else "") ++ partsText long ps) ∧
      ((unrounded long).format d = zeroText long ↔ d = 0) ∧
      read? ((unrounded long).format d) = some d ∧
      ∀ e, -largest ≤ e → e ≤ largest →
        (unrounded long).format e = (unrounded long).format d → e = d := by
  have hinjective : ∀ e, -largest ≤ e → e ≤ largest →
      (unrounded long).format e = (unrounded long).format d → e = d := by
    intro e helow hehigh heq
    have hread := read?_unrounded helow hehigh long
    rw [heq, read?_unrounded hlow hhigh] at hread
    exact (Option.some.inj hread).symm
  have hzero : (unrounded long).format 0 = zeroText long := by
    rw [format_unrounded (by omega) (by omega), if_neg (by omega), String.empty_append]
    rfl
  refine ⟨⟨parts d.natAbs, fun p hp => ⟨?_, units_parts _ p hp⟩, parts_descending _,
    total_parts (by omega), format_unrounded hlow hhigh long⟩, ⟨fun htext => ?_, ?_⟩,
    read?_unrounded hlow hhigh long, hinjective⟩
  · exact (count_of_mem_parts (by omega) (by omega) hp).1
  · rw [← hzero] at htext
    exact (hinjective 0 (by omega) (by omega) htext.symm).symm
  · rintro rfl
    exact hzero

/-- Between a year and 45 days more, weeks stand where months would. -/
theorem read?_format_weeks :
    -largest ≤ -(400 * day + 1) ∧ -(400 * day + 1) ≤ largest ∧
      (unrounded true).format (-(400 * day + 1)) = "-1 year 5 weeks 1 nanosecond" ∧
      read? "-1 year 5 weeks 1 nanosecond" = some (-(400 * day + 1)) := by
  have htext : (unrounded true).format (-(400 * day + 1)) = "-1 year 5 weeks 1 nanosecond" := by
    decide +kernel
  have hread := (read?_format (d := -(400 * day + 1)) (by decide) (by decide) true).2.2.1
  rw [htext] at hread
  exact ⟨by decide, by decide, htext, hread⟩

end Hooklog.DurationFormat

import Hooklog.Time.Stamp
import Hooklog.Proofs.Sgr.Plain
import Hooklog.Proofs.Text.Characters
import Hooklog.Proofs.Time.Civil

/-!
# Plain times

A time is written in plain characters and those of its layout.  The layouts with
two characters for a number write the tens as the character after the digit zero that they
count; within the ranges of calendar and clock this is no control character.
-/

namespace Hooklog.Sgr

open Decimal

/-! ## Numbers -/

theorem plainText_filled (fill : Fill) (width : Nat) (n : Int) :
    PlainText (LayoutItem.filled fill width n) := by
  have hsign : PlainText (if n < 0 then ['-'] else []) := by split <;> decide
  cases fill with
  | nothing => exact plainText_append.mpr ⟨hsign, plainText_digitsOf _⟩
  | zeros => exact plainText_append.mpr ⟨hsign, plainText_padded _ _⟩
  | blanks =>
      exact plainText_append.mpr ⟨plainText_replicate (by decide),
        plainText_append.mpr ⟨hsign, plainText_digitsOf _⟩⟩

theorem plainText_yearText (fill : Fill) (y : Int) :
    PlainText (LayoutItem.yearText fill y) := by
  have hsign : IsPlain (if y < 0 then '-' else '+') := by split <;> decide
  unfold LayoutItem.yearText
  split
  · exact plainText_filled fill 4 y
  · cases fill with
    | nothing => exact plainText_cons.mpr ⟨hsign, plainText_digitsOf _⟩
    | zeros => exact plainText_cons.mpr ⟨hsign, plainText_padded _ _⟩
    | blanks =>
        exact plainText_append.mpr ⟨plainText_replicate (by decide),
          plainText_cons.mpr ⟨hsign, plainText_digitsOf _⟩⟩

theorem isPlain_afterZero {n : Nat} (h : n < 100) : IsPlain (Char.ofNat ('0'.toNat + n)) := by
  have hzero : '0'.toNat = 48 := rfl
  unfold IsPlain
  rcases Text.toNat_ofNat_cases ('0'.toNat + n) with hc | hc <;> rw [hc] <;> omega

/-- Two characters stand for any number below a thousand. -/
theorem plainText_twoText (fill : Fill) {n : Nat} (h : n < 1000) :
    PlainText (LayoutItem.twoText fill n) := by
  have hones : IsPlain (Char.ofNat ('0'.toNat + n % 10)) := isPlain_afterZero (by omega)
  have htens : IsPlain (Char.ofNat ('0'.toNat + n / 10)) := isPlain_afterZero (by omega)
  have hboth : PlainText [Char.ofNat ('0'.toNat + n / 10), Char.ofNat ('0'.toNat + n % 10)] :=
    plainText_cons.mpr ⟨htens, plainText_cons.mpr ⟨hones, plainText_nil⟩⟩
  cases fill with
  | zeros => exact hboth
  | nothing =>
      rw [LayoutItem.twoText]
      split
      · exact plainText_cons.mpr ⟨hones, plainText_nil⟩
      · exact hboth
  | blanks =>
      rw [LayoutItem.twoText]
      split
      · exact plainText_cons.mpr ⟨by decide, plainText_cons.mpr ⟨hones, plainText_nil⟩⟩
      · exact hboth

theorem plainText_numberText (n : TimeNumber) (fill : Fill) {t : Instant}
    (ht : t.nanos < 2 * nanosPerSecond) (east : Int) :
    PlainText (LayoutItem.numberText n fill t (t.civil east)) := by
  have hdate := t.civil_date east
  cases n with
  | year => exact plainText_yearText fill _
  | century => exact plainText_twoText fill (by omega)
  | yearOfCentury => exact plainText_twoText fill (by omega)
  | isoYear => exact plainText_yearText fill _
  | isoYearOfCentury => exact plainText_twoText fill (by omega)
  | quarter => exact plainText_digitsOf _
  | month => exact plainText_twoText fill (Nat.lt_trans hdate.1 (by decide))
  | day => exact plainText_twoText fill (Nat.lt_trans hdate.2 (by decide))
  | weekFromSunday => exact plainText_twoText fill (Date.weekOfYear_lt hdate.1 hdate.2 _)
  | weekFromMonday => exact plainText_twoText fill (Date.weekOfYear_lt hdate.1 hdate.2 _)
  | isoWeek => exact plainText_twoText fill (Date.isoWeek_lt _)
  | daysFromSunday => exact plainText_digitsOf _
  | weekday => exact plainText_digitsOf _
  | ordinal => exact plainText_filled fill 3 _
  | hour => exact plainText_twoText fill (Nat.lt_trans (t.civil_hour_lt east) (by decide))
  | hour12 => exact plainText_twoText fill (Nat.lt_trans (t.civil_hour12_lt east) (by decide))
  | minute => exact plainText_twoText fill (Nat.lt_trans (t.civil_minute_lt east) (by decide))
  | second =>
      exact plainText_twoText fill (Nat.lt_trans (t.civil_secondOfMinute_lt east ht) (by decide))
  | nanosecond => exact plainText_filled fill 9 _
  | timestamp => exact plainText_filled fill 9 _

/-! ## Parts -/

theorem plainText_nameAt {names : List String} (h : ∀ n ∈ names, Plain n) (i : Nat) :
    PlainText (LayoutItem.nameAt names i) := by
  unfold LayoutItem.nameAt
  rw [List.getD_eq_getElem?_getD]
  cases hget : names[i]? with
  | none => exact plainText_nil
  | some n => exact h n (List.mem_of_getElem? hget)

theorem plainText_monthName (i : Nat) :
    PlainText (LayoutItem.nameAt LayoutItem.monthNames i) :=
  plainText_nameAt (by decide) i

theorem plainText_weekdayName (i : Nat) :
    PlainText (LayoutItem.nameAt LayoutItem.weekdayNames i) :=
  plainText_nameAt (by decide) i

theorem isPlain_sign (offset : Int) : IsPlain (Zone.sign offset) := by
  unfold Zone.sign
  split <;> decide

theorem plainText_minutesText {separator : List Char} (h : PlainText separator) (offset : Int) :
    PlainText (Zone.minutesText separator offset) := by
  simp only [Zone.minutesText, List.cons_append, plainText_cons, plainText_append]
  exact ⟨isPlain_sign offset, ⟨plainText_padded _ _, h⟩, plainText_padded _ _⟩

theorem plainText_secondsText (offset : Int) : PlainText (Zone.secondsText offset) := by
  simp only [Zone.secondsText, List.cons_append, List.append_assoc, plainText_cons,
    plainText_append]
  exact ⟨isPlain_sign offset, plainText_padded _ _, by decide, plainText_padded _ _, by decide,
    plainText_padded _ _⟩

theorem plainText_zoneName (zone : Zone) : PlainText zone.name := by
  cases zone with
  | universal => decide
  | east s =>
      rw [Zone.name]
      split
      · simp only [List.cons_append, plainText_cons, plainText_append]
        exact ⟨isPlain_sign s, plainText_padded _ _, by decide, plainText_padded _ _⟩
      · exact plainText_secondsText s

theorem plainText_fractionText (nanos : Nat) : PlainText (Rfc3339.fractionText nanos) := by
  have hpoint : ∀ width n, PlainText ('.' :: padded width n) :=
    fun width n => plainText_cons.mpr ⟨by decide, plainText_padded width n⟩
  unfold Rfc3339.fractionText
  split
  · exact plainText_nil
  · split
    · exact hpoint _ _
    · split
      · exact hpoint _ _
      · exact hpoint _ _

theorem plainText_rfc3339 (precision : Rfc3339.Precision) (short : Bool) (t : Instant)
    (zone : Zone) : PlainText (Rfc3339.write precision short t zone) := by
  have hyear : ∀ y, PlainText (Rfc3339.yearText y) := by
    intro y
    unfold Rfc3339.yearText
    split
    · exact plainText_padded _ _
    · exact plainText_cons.mpr ⟨by split <;> decide, plainText_padded _ _⟩
  have hfraction : ∀ nanos, PlainText (precision.text nanos) := by
    intro nanos
    cases precision with
    | seconds => exact plainText_nil
    | millis => exact plainText_cons.mpr ⟨by decide, plainText_padded _ _⟩
    | automatic => exact plainText_fractionText nanos
  have hoffset : PlainText (Rfc3339.offsetText short zone.seconds) := by
    unfold Rfc3339.offsetText
    split
    · decide
    · exact plainText_minutesText (by decide) _
  simp only [Rfc3339.write, List.append_assoc, List.cons_append, plainText_append,
    plainText_cons]
  exact ⟨hyear _, by decide, plainText_padded _ _, by decide, plainText_padded _ _, by decide,
    plainText_padded _ _, by decide, plainText_padded _ _, by decide, plainText_padded _ _,
    hfraction _, hoffset⟩

theorem plainText_partText {p : TimePart} {t : Instant} {zone : Zone} {c : Civil}
    {s : List Char} (h : LayoutItem.partText p t zone c = some s) : PlainText s := by
  cases p <;> simp only [LayoutItem.partText, Option.some.injEq, reduceCtorEq] at h <;> subst h
  case shortMonth => exact (plainText_monthName _).take 3
  case longMonth => exact plainText_monthName _
  case shortWeekday => exact (plainText_weekdayName _).take 3
  case longWeekday => exact plainText_weekdayName _
  case lowerHalf => split <;> decide
  case upperHalf => split <;> decide
  case fraction => exact plainText_fractionText _
  case pointedFraction => exact plainText_cons.mpr ⟨by decide, plainText_padded _ _⟩
  case bareFraction => exact plainText_padded _ _
  case zoneName => exact plainText_zoneName zone
  case offset => exact plainText_minutesText plainText_nil _
  case offsetColon => exact plainText_minutesText (by decide) _
  case offsetSeconds => exact plainText_secondsText _
  case offsetHours => exact plainText_cons.mpr ⟨isPlain_sign _, plainText_padded _ _⟩
  case rfc3339 => exact plainText_rfc3339 _ _ t zone

/-! ## Layouts -/

/-- An item whose literal character, if it is one, is of a kind. -/
def ItemOf (P : Char → Prop) : LayoutItem → Prop
  | .literal c => P c
  | _ => True

/-- An item whose literal character, if it is one, is plain. -/
abbrev PlainItem : LayoutItem → Prop := ItemOf IsPlain

instance (i : LayoutItem) : Decidable (PlainItem i) :=
  match i with
  | .literal c => inferInstanceAs (Decidable (IsPlain c))
  | .number _ _ => isTrue trivial
  | .part _ => isTrue trivial

theorem plainItem_itemsOf? {c : Char} {items : List LayoutItem}
    (h : LayoutItem.itemsOf? c = some items) : ∀ i ∈ items, PlainItem i := by
  unfold LayoutItem.itemsOf? at h
  split at h <;> simp only [reduceCtorEq, Option.some.injEq] at h <;> subst h <;> decide

theorem plainItem_closed? {c : Char} {items : List LayoutItem}
    (h : LayoutItem.closed? c = some items) : ∀ i ∈ items, PlainItem i := by
  unfold LayoutItem.closed? at h
  split at h
  · obtain rfl := Option.some.inj h
    exact List.forall_mem_singleton.mpr trivial
  · exact plainItem_itemsOf? h

section Kinds

variable {P : Char → Prop} (hP : ∀ c, IsPlain c → P c)

include hP

theorem itemOf_of_plainItem {i : LayoutItem} (h : PlainItem i) : ItemOf P i := by
  cases i with
  | literal c => exact hP c h
  | number _ _ => trivial
  | part _ => trivial

/-- Reading a character gives items of its kind. -/
theorem itemOf_step? {r r' : LayoutItem.Reading} {c : Char} (hc : P c)
    {items : List LayoutItem} (h : r.step? c = some (items, r')) :
    ∀ i ∈ items, ItemOf P i := by
  have hpart : ∀ p : TimePart, ∀ i ∈ [LayoutItem.part p], ItemOf P i :=
    fun _ => List.forall_mem_singleton.mpr trivial
  -- only between two specifiers is the character itself an item
  cases r with
  | between =>
      obtain hpair := Option.some.inj h
      split at hpair
      · rw [← (Prod.mk.inj hpair).1]
        exact List.forall_mem_nil (ItemOf P)
      · rw [← (Prod.mk.inj hpair).1]
        exact List.forall_mem_singleton.mpr hc
  | opened =>
      simp only [LayoutItem.Reading.step?] at h
      split at h
      · rename_i closed hclosed
        rw [← (Prod.mk.inj (Option.some.inj h)).1]
        exact fun i hi => itemOf_of_plainItem hP (plainItem_closed? hclosed i hi)
      · obtain ⟨r₁, -, hpair⟩ := Option.map_eq_some_iff.mp h
        rw [← (Prod.mk.inj hpair).1]
        exact List.forall_mem_nil (ItemOf P)
  | filling fill =>
      obtain ⟨p, -, hpair⟩ := Option.map_eq_some_iff.mp h
      rw [← (Prod.mk.inj hpair).1]
      exact List.forall_mem_singleton.mpr trivial
  | alternative =>
      simp only [LayoutItem.Reading.step?] at h
      split at h
      · rw [← (Prod.mk.inj (Option.some.inj h)).1]
        exact hpart _
      · simp at h
  | colons n =>
      simp only [LayoutItem.Reading.step?] at h
      split at h
      · obtain ⟨p, -, hpair⟩ := Option.map_eq_some_iff.mp h
        rw [← (Prod.mk.inj hpair).1]
        exact hpart _
      · split at h
        · rw [← (Prod.mk.inj (Option.some.inj h)).1]
          exact List.forall_mem_nil (ItemOf P)
        · simp at h
  | point =>
      simp only [LayoutItem.Reading.step?] at h
      split at h
      · rw [← (Prod.mk.inj (Option.some.inj h)).1]
        exact hpart _
      · have hnil : items = [] := by
          split at h
          · exact (Prod.mk.inj (Option.some.inj h)).1.symm
          · split at h
            · exact (Prod.mk.inj (Option.some.inj h)).1.symm
            · split at h
              · exact (Prod.mk.inj (Option.some.inj h)).1.symm
              · simp at h
        rw [hnil]
        exact List.forall_mem_nil (ItemOf P)
  | pointDigits n =>
      simp only [LayoutItem.Reading.step?] at h
      split at h
      · rw [← (Prod.mk.inj (Option.some.inj h)).1]
        exact hpart _
      · simp at h
  | digits n =>
      simp only [LayoutItem.Reading.step?] at h
      split at h
      · rw [← (Prod.mk.inj (Option.some.inj h)).1]
        exact hpart _
      · simp at h

/-- The items of a layout are of the kind of its characters. -/
theorem itemOf_readFrom? {r : LayoutItem.Reading} {s : List Char} (hs : ∀ c ∈ s, P c)
    {items : List LayoutItem} (h : LayoutItem.readFrom? r s = some items) :
    ∀ i ∈ items, ItemOf P i := by
  induction s generalizing r items with
  | nil =>
      cases r <;> simp only [LayoutItem.readFrom?, reduceCtorEq, Option.some.injEq] at h
      subst h
      exact List.forall_mem_nil (ItemOf P)
  | cons c s ih =>
      obtain ⟨hc, hs⟩ := List.forall_mem_cons.mp hs
      rw [LayoutItem.readFrom?] at h
      split at h
      · rename_i first r' hstep
        obtain ⟨later, hlater, rfl⟩ := Option.map_eq_some_iff.mp h
        intro i hi
        rcases List.mem_append.mp hi with hi | hi
        · exact itemOf_step? hP hc hstep i hi
        · exact ih hs hlater i hi
      · simp at h

theorem kind_of_mem_textAll? {t : Instant} (ht : t.nanos < 2 * nanosPerSecond) {zone : Zone}
    {items : List LayoutItem} (hitems : ∀ i ∈ items, ItemOf P i) {s : List Char}
    (h : LayoutItem.textAll? t zone items = some s) : ∀ c ∈ s, P c := by
  induction items generalizing s with
  | nil =>
      obtain rfl := Option.some.inj h
      exact List.forall_mem_nil P
  | cons i rest ih =>
      rw [LayoutItem.textAll?] at h
      split at h
      · rename_i first later hfirst hlater
        obtain rfl := Option.some.inj h
        refine List.forall_mem_append.mpr
          ⟨?_, ih (fun j hj => hitems j (List.mem_cons_of_mem i hj)) hlater⟩
        have hitem := hitems i List.mem_cons_self
        cases i with
        | literal c =>
            obtain rfl := Option.some.inj hfirst
            exact List.forall_mem_singleton.mpr hitem
        | number n fill =>
            obtain rfl := Option.some.inj hfirst
            exact fun d hd => hP d (plainText_numberText n fill ht zone.seconds d hd)
        | part p => exact fun d hd => hP d (plainText_partText hfirst d hd)
      · simp at h

theorem madeOf_followed {layout : String} (hlayout : MadeOf P layout) {t : Instant}
    (ht : t.nanos < 2 * nanosPerSecond) (zone : Zone) :
    MadeOf P (TimeLayout.followed layout t zone) := by
  unfold TimeLayout.followed
  split
  · exact hlayout
  · rename_i items hitems
    split
    · rename_i s hs
      rw [MadeOf, String.toList_ofList]
      exact kind_of_mem_textAll? hP ht (itemOf_readFrom? hP hlayout hitems) hs
    · exact hlayout

end Kinds

/-- A layout that is made of characters of a kind if it is one of the application. -/
def LayoutOf (P : Char → Prop) : TimeLayout → Prop
  | .custom layout => MadeOf P layout
  | _ => True

/-- A time is written in the characters of its layout and plain ones. -/
theorem madeOf_timeText {P : Char → Prop} (hP : ∀ c, IsPlain c → P c) {layout : TimeLayout}
    (hlayout : LayoutOf P layout) {t : Instant} (ht : t.nanos < 2 * nanosPerSecond)
    (zone : Zone) : MadeOf P (layout.text t zone) := by
  have hrfc3339 : ∀ precision short,
      MadeOf P (String.ofList (Rfc3339.write precision short t zone)) := fun precision short =>
    madeOf_of_plain hP (plain_ofList.mpr (plainText_rfc3339 precision short t zone))
  cases layout with
  | classic => exact madeOf_followed hP (madeOf_of_plain hP (by decide)) ht zone
  | iso8601 => exact hrfc3339 _ _
  | rfc3339 => exact hrfc3339 _ _
  | unix => exact madeOf_of_plain hP (plain_integerText _)
  | custom layout => exact madeOf_followed hP hlayout ht zone

end Hooklog.Sgr

import Hooklog.Proofs.Json.Numbers
import Hooklog.Proofs.Json.Strings

/-!
# Objects in JSON text

An object is read member by member: behind a value stands a comma or the closing brace, and no
number runs into either.

* `ReadsAs` says that the text of a value is read as a document, whatever follows it.
* `takeMembers?_members` reads the members of an object, by induction on their list.
* `read?_object` reads the text of a whole object, its members in the order of the text.
-/

namespace Hooklog.Json

open Text Decimal

/-- Whether the text of a value is read as a document before any text that ends a number. -/
def ReadsAs (v : Json) (d : Document) : Prop :=
  ∀ fuel rest, EndsNumber rest →
    takeValue? (fuel + 1) (v.compact.toList ++ rest) = some (d, rest)

theorem skipGap_cons {c : Char} (h : isGap c = false) (s : List Char) :
    skipGap (c :: s) = c :: s :=
  List.dropWhile_cons_of_neg (by simp [h])

/-! ## Values without parts -/

theorem readsAs_null : ReadsAs .null .null := fun _ _ _ => rfl

theorem readsAs_bool (b : Bool) : ReadsAs (.bool b) (.bool b) := fun _ _ _ => by
  cases b <;> rfl

theorem readsAs_string (s : String) : ReadsAs (.string s) (.string (some s)) := by
  intro fuel rest _
  show takeValue? (fuel + 1) ((stringText s).toList ++ rest) = _
  have htext : (stringText s).toList ++ rest =
      '"' :: (s.toList.flatMap escapeChar ++ '"' :: rest) := by
    simp [toList_stringText]
  rw [htext, takeValue?, skipGap_cons (by decide)]
  simp only [takeText?_escaped, Option.map_some]

/-- What starts with a digit or a minus sign is read as a number. -/
theorem takeValue?_number {c : Char} (h : c = '-' ∨ isAsciiDigit c = true) (fuel : Nat)
    (s : List Char) :
    takeValue? (fuel + 1) (c :: s) =
      (takeNumber? (c :: s)).map fun p => (.number p.1.number, p.2) := by
  have hne : ∀ d, isAsciiDigit d = false → d ≠ '-' → c ≠ d := by
    rintro d hdigit hminus rfl
    rcases h with h | h
    · exact hminus h
    · rw [hdigit] at h
      exact Bool.false_ne_true h
  have hgap : isGap c = false := by
    simp [isGap, hne ' ' (by decide) (by decide), hne '\n' (by decide) (by decide),
      hne '\t' (by decide) (by decide), hne '\r' (by decide) (by decide)]
  have hhead : ∀ d t, skipGap (c :: s) = d :: t → c = d := by
    intro d t heq
    rw [skipGap_cons hgap] at heq
    exact (List.cons.inj heq).1
  rw [takeValue?]
  split
  case h_1 heq =>
    rw [skipGap_cons hgap] at heq
    simp at heq
  case h_8 => rw [skipGap_cons hgap]
  -- every other kind of value starts with a quote, a bracket or a letter
  all_goals
    rename_i heq
    exact absurd (hhead _ _ heq) (hne _ (by decide) (by decide))

/-- An integer of 64 bits is read as an integer of the same sign. -/
theorem readsAs_int {n : Int} (h : signed64.holds n = true) :
    ReadsAs (.int n) (.number (if n < 0 then .negative n else .natural n.toNat)) := by
  intro fuel rest hends
  have htake := takeNumber?_integerText n hends
  show takeValue? (fuel + 1) ((integerText n).toList ++ rest) = _
  have hstart : ∃ c s, (integerText n).toList ++ rest = c :: s ∧
      (c = '-' ∨ isAsciiDigit c = true) := by
    rw [toList_integerText]
    split
    · exact ⟨'-', _, rfl, Or.inl rfl⟩
    · obtain ⟨d, ds, hdigits, hd⟩ := exists_digitsOf_cons n.natAbs
      exact ⟨d, ds ++ rest, by rw [hdigits, List.cons_append], Or.inr hd⟩
  obtain ⟨c, s, htext, hc⟩ := hstart
  rw [htext] at htake ⊢
  rw [takeValue?_number hc, htake, Option.map_some, number_writtenInteger h]

/-! ## Members -/

/-- Text of one member of an object. -/
def memberText (p : String × Json) : String := stringText p.1 ++ ":" ++ p.2.compact

/-- Text of the members of an object, between its braces. -/
def membersText (members : List (String × Json)) : List Char :=
  (joinWith "," (members.map memberText)).toList

theorem compactMembers_eq (members : List (String × Json)) :
    compactMembers members = members.map memberText := by
  induction members with
  | nil => rfl
  | cons p rest ih => rw [compactMembers, ih, List.map_cons, memberText]

theorem toList_compact_object (members : List (String × Json)) :
    (Json.object members).compact.toList = '{' :: (membersText members ++ ['}']) := by
  simp [compact, compactMembers_eq, membersText]

/-- A member is a quoted name, a colon and a value. -/
theorem toList_memberText (p : String × Json) :
    (memberText p).toList =
      '"' :: (p.1.toList.flatMap escapeChar ++ '"' :: ':' :: p.2.compact.toList) := by
  simp [memberText, toList_stringText]

theorem membersText_singleton (p : String × Json) : membersText [p] = (memberText p).toList := rfl

theorem membersText_cons_cons (p q : String × Json) (members : List (String × Json)) :
    membersText (p :: q :: members) =
      (memberText p).toList ++ ',' :: membersText (q :: members) := by
  simp [membersText, toList_joinWith_cons_cons]

/-- The text of members starts with the quote of the first name. -/
theorem exists_membersText_cons (p : String × Json) (members : List (String × Json)) :
    ∃ s, membersText (p :: members) = '"' :: s := by
  rcases members with _ | ⟨q, members⟩
  · rw [membersText_singleton, toList_memberText]
    exact ⟨_, rfl⟩
  · rw [membersText_cons_cons, toList_memberText]
    exact ⟨_, rfl⟩

/-- Every member takes at least one character. -/
theorem length_le_membersText (members : List (String × Json)) :
    members.length ≤ (membersText members).length := by
  have hpart : ∀ p, 1 ≤ (memberText p).toList.length := fun p => by
    simp [toList_memberText]
  induction members with
  | nil => exact Nat.zero_le _
  | cons p rest ih =>
      have hp := hpart p
      rcases rest with _ | ⟨q, rest⟩
      · exact hp
      · rw [membersText_cons_cons]
        simp only [List.length_append, List.length_cons] at ih ⊢
        omega

section Member

variable {p : String × Json} {d : Document} (h : ReadsAs p.2 d) (fuel : Nat) (rest : List Char)

include h

/-- Behind a comma the other members are read. -/
theorem takeMembers?_comma :
    takeMembers? (fuel + 2) ((memberText p).toList ++ ',' :: rest) =
      (takeMembers? (fuel + 1) rest).map fun r => ((some p.1, d) :: r.1, r.2) := by
  have hvalue := h fuel (',' :: rest) (endsNumber_cons (by decide) rest)
  rw [takeMembers?, toList_memberText, List.cons_append, skipGap_cons (by decide),
    List.append_assoc, List.cons_append]
  simp only [takeText?_escaped, List.cons_append,
    skipGap_cons (show isGap ':' = false by decide), hvalue,
    skipGap_cons (show isGap ',' = false by decide)]

/-- A brace ends the object. -/
theorem takeMembers?_brace :
    takeMembers? (fuel + 2) ((memberText p).toList ++ '}' :: rest) =
      some ([(some p.1, d)], rest) := by
  have hvalue := h fuel ('}' :: rest) (endsNumber_cons (by decide) rest)
  rw [takeMembers?, toList_memberText, List.cons_append, skipGap_cons (by decide),
    List.append_assoc, List.cons_append]
  simp only [takeText?_escaped, List.cons_append,
    skipGap_cons (show isGap ':' = false by decide), hvalue,
    skipGap_cons (show isGap '}' = false by decide)]

end Member

section Objects

variable {α : Type} {written : α → Json} {meant : α → Document} {l : List (String × α)}
  (h : ∀ p ∈ l, ReadsAs (written p.2) (meant p.2))

include h

/-- The members of an object are read one after the other, up to its closing brace. -/
theorem takeMembers?_members (hne : l ≠ []) {fuel : Nat} (hfuel : l.length < fuel)
    (rest : List Char) :
    takeMembers? fuel (membersText (l.map fun p => (p.1, written p.2)) ++ '}' :: rest) =
      some (l.map fun p => (some p.1, meant p.2), rest) := by
  induction l generalizing fuel with
  | nil => exact absurd rfl hne
  | cons p l ih =>
      obtain ⟨hp, hl⟩ := List.forall_mem_cons.mp h
      rw [List.length_cons] at hfuel
      rcases l with _ | ⟨q, l⟩
      · obtain ⟨fuel, rfl⟩ : ∃ k, fuel = k + 2 := ⟨fuel - 2, by simp at hfuel; omega⟩
        exact takeMembers?_brace (p := (p.1, written p.2)) hp fuel rest
      · rw [List.length_cons] at hfuel
        obtain ⟨fuel, rfl⟩ : ∃ k, fuel = k + 2 := ⟨fuel - 2, by omega⟩
        have henough : (q :: l).length < fuel + 1 := by
          rw [List.length_cons]
          omega
        have hrest := ih hl (by simp) henough
        rw [List.map_cons] at hrest
        rw [List.map_cons, List.map_cons, membersText_cons_cons, List.append_assoc,
          List.cons_append, takeMembers?_comma (p := (p.1, written p.2)) hp, hrest]
        rfl

/-- An object is read whole, as long as the fuel covers its members. -/
theorem takeValue?_object {fuel : Nat} (hfuel : l.length < fuel) (rest : List Char) :
    takeValue? (fuel + 1)
        ('{' :: (membersText (l.map fun p => (p.1, written p.2)) ++ '}' :: rest)) =
      some (.object (l.map fun p => (some p.1, meant p.2)), rest) := by
  rw [takeValue?, skipGap_cons (by decide)]
  rcases l with _ | ⟨p, l⟩
  · rfl
  · have hmembers := takeMembers?_members h (by simp) hfuel rest
    obtain ⟨s, hs⟩ := exists_membersText_cons (p.1, written p.2)
      (l.map fun p => (p.1, written p.2))
    rw [List.map_cons, hs, List.cons_append] at hmembers ⊢
    show (takeMembers? fuel ('"' :: (s ++ '}' :: rest))).map _ = _
    rw [hmembers, Option.map_some]

/-- The text of an object is read as its members, in their order. -/
theorem read?_object :
    read? (Json.object (l.map fun p => (p.1, written p.2))).compact =
      some (.object (l.map fun p => (some p.1, meant p.2))) := by
  have hlength := length_le_membersText (l.map fun p => (p.1, written p.2))
  rw [List.length_map] at hlength
  rw [read?, toList_compact_object, takeValue?_object h ?_ []]
  · rfl
  · simp only [List.length_cons, List.length_append]
    omega

end Objects

end Hooklog.Json

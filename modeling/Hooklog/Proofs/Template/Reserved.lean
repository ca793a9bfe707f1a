import Hooklog.Proofs.Template.Positions
import Hooklog.Proofs.Template.Scanning

/-!
# Reserved names

What an identifier stands for in a template.  A name is meant to stand for a token if its lower
case is reserved, and for the field of that name otherwise.  The reader compares names with the
reserved ones under a folding that identifies more characters than lower case does, and then looks
the lower case up, so that the two have to agree on every identifier.

* `Token.ofName_of_reserved`, `Token.ofName_of_not_lookalike` and `Token.ofName_of_lookalike` say
  for which names they do.  The only character on which they disagree is the long s: it folds to
  `s` but is its own lower case.
* `compile_identifier_iff` is the main statement: a placeholder with a name and valid attributes
  compiles to what its name is meant to stand for, except where long s make up a reserved word;
  there it stands for nothing.
-/

namespace Hooklog.Template

open Text

/-! ## Folding and lower case -/

/-- The long s, a small letter whose capital is `S`. -/
def longS : Char := Char.ofNat 0x17F

/-- Text with a round s for every long one. -/
def rounded (w : List Char) : List Char := w.map fun c => if c = longS then 's' else c

theorem rounded_eq_self {w : List Char} (h : longS ∉ w) : rounded w = w := by
  have hsame : ∀ c ∈ w, (if c = longS then 's' else c) = c :=
    fun c hc => if_neg (ne_of_mem_of_not_mem hc h)
  rw [rounded, List.map_congr_left hsame, List.map_id']

namespace Token

theorem smallLetters_of_mem_names : ∀ p ∈ names, SmallLetters p.1.toList := by
  decide +kernel

/-- What folds to an ASCII letter is one, a Kelvin sign or a long s. -/
theorem letter_of_foldChar {c : Char} (hlow : 'a' ≤ foldChar c) (hhigh : foldChar c ≤ 'z') :
    (isAsciiLetter c = true ∨ c = kelvinSign) ∨ c = longS := by
  unfold foldChar at hlow hhigh
  split at hlow
  · rename_i hlong
    right
    rw [longS, ← hlong, Char.ofNat_toNat]
  · rename_i hlong
    rw [if_neg hlong] at hhigh
    split at hlow
    · rename_i hkelvin
      left; right
      rw [kelvinSign, ← hkelvin, Char.ofNat_toNat]
    · rename_i hkelvin
      rw [if_neg hkelvin] at hhigh
      exact Or.inl (Or.inl (isAsciiLetter_of_toLower hlow hhigh))

/-- Folding is lower case on ASCII letters and Kelvin signs. -/
theorem lowerAfter_eq_map_foldChar (before : List Char) {s : List Char}
    (h : ∀ c ∈ s, isAsciiLetter c = true ∨ c = kelvinSign) :
    lowerAfter before s = s.map foldChar := by
  induction s generalizing before with
  | nil => rfl
  | cons c s ih =>
      have hc : c ≠ capitalSigma ∧ lowerChar c = [foldChar c] := by
        rcases h c List.mem_cons_self with hletter | rfl
        · have hascii : c.toNat < 0x80 := by
            have := isAsciiLetter_iff.mp hletter
            omega
          refine ⟨?_, by rw [foldChar_of_ascii hascii]; exact lowerTable.image_of_ascii hascii⟩
          rintro rfl
          exact absurd hascii (by decide)
        · decide +kernel
      have hrest := ih (c :: before) fun d hd => h d (List.mem_cons_of_mem c hd)
      rw [lowerAfter, if_neg hc.1, hc.2, hrest]
      rfl

theorem map_foldChar_rounded (w : List Char) : (rounded w).map foldChar = w.map foldChar := by
  rw [rounded, List.map_map]
  refine List.map_congr_left fun c _ => ?_
  by_cases hc : c = longS
  · subst hc
    decide
  · simp [hc]

/-- Token whose reserved names hold the lower case of a text, if there is one. -/
def reserved? (w : List Char) : Option Token := names.lookup (String.ofList (lower w))

theorem smallLetters_of_lookup {s : List Char} {t : Token}
    (h : names.lookup (String.ofList s) = some t) : SmallLetters s := by
  have hletters := smallLetters_of_mem_names _ (mem_of_lookup h)
  rwa [String.toList_ofList] at hletters

/-- Folding finds the same reserved name as lower case does with round s in place of long ones. -/
theorem lookup_map_foldChar (w : List Char) :
    names.lookup (String.ofList (w.map foldChar)) = reserved? (rounded w) := by
  rw [reserved?]
  -- if one of them is found, both are the same text
  cases hfold : names.lookup (String.ofList (w.map foldChar)) with
  | some t =>
      have hletters := smallLetters_of_lookup hfold
      have hlower : lower (rounded w) = w.map foldChar := by
        rw [← map_foldChar_rounded]
        refine lowerAfter_eq_map_foldChar [] fun d hd => ?_
        obtain ⟨c, hc, rfl⟩ := List.mem_map.mp hd
        obtain ⟨hlow, hhigh⟩ := hletters _ (List.mem_map_of_mem hc)
        rcases letter_of_foldChar hlow hhigh with hletter | rfl
        · by_cases hlong : c = longS
          · exact Or.inl (by simp [hlong]; decide)
          · rwa [if_neg hlong]
        · exact Or.inl (by decide)
      rw [hlower, hfold]
  | none =>
      cases hlower : names.lookup (String.ofList (lower (rounded w))) with
      | none => rfl
      | some t =>
          have hletters := smallLetters_of_lookup hlower
          have hsame := lowerAfter_eq_map_foldChar [] fun _ => isAsciiLetter_of_mem_lower hletters
          rw [map_foldChar_rounded] at hsame
          rw [← lower] at hsame
          rw [hsame, hfold] at hlower
          exact hlower

/-- A long s stays in the lower case, so that no reserved name holds one. -/
theorem reserved?_of_longS {w : List Char} (h : longS ∈ w) : reserved? w = none := by
  cases hfound : reserved? w with
  | none => rfl
  | some t =>
      rcases isAsciiLetter_of_mem_lower (smallLetters_of_lookup hfound) h with hletter | hkelvin
      · exact absurd hletter (by decide)
      · exact absurd hkelvin (by decide)

/-! ## What a name stands for -/

/-- A name with long s among its letters that is reserved but for them. -/
def IsLookalike (w : List Char) : Prop := longS ∈ w ∧ (reserved? (rounded w)).isSome = true

instance (w : List Char) : Decidable (IsLookalike w) :=
  inferInstanceAs (Decidable (longS ∈ w ∧ (reserved? (rounded w)).isSome = true))

theorem ofName_of_reserved {w : List Char} {t : Token} (h : reserved? w = some t) :
    ofName w = t := by
  have hround : longS ∉ w := fun hlong => by simp [reserved?_of_longS hlong] at h
  rw [ofName, lookup_map_foldChar, rounded_eq_self hround, h]
  exact congrArg (·.getD .unset) h

theorem ofName_of_lookalike {w : List Char} (h : IsLookalike w) : ofName w = .unset := by
  obtain ⟨t, ht⟩ := Option.isSome_iff_exists.mp h.2
  rw [ofName, lookup_map_foldChar, ht]
  exact congrArg (·.getD .unset) (reserved?_of_longS h.1)

theorem ofName_of_not_lookalike {w : List Char} (hother : reserved? w = none)
    (h : ¬IsLookalike w) : ofName w = .field (String.ofList w) := by
  have hnone : reserved? (rounded w) = none := by
    by_cases hlong : longS ∈ w
    · exact Option.not_isSome_iff_eq_none.mp fun hsome => h ⟨hlong, hsome⟩
    · rw [rounded_eq_self hlong, hother]
  rw [ofName, lookup_map_foldChar, hnone]

theorem reserved_ne_unset {w : List Char} {t : Token} (h : reserved? w = some t) :
    t ≠ .unset := by
  have hnames : ∀ p ∈ names, p.2 ≠ .unset := by decide
  exact hnames _ (mem_of_lookup h)

end Token

/-! ## Placeholders with a name -/

/-- Word characters that do not start with a decimal digit. -/
structure IsIdentifier (w : List Char) : Prop where
  word : ∀ c ∈ w, isWord c = true
  start : ∃ c rest, w = c :: rest ∧ isDigit c = false

/-- Attributes that a placeholder may have: keywords and colors, in any letter case, between
characters that separate them. -/
structure IsAttributeList (a : Option (List Char)) : Prop where
  chars : ∀ c ∈ a.getD [], isAttributeChar c = true
  known : ∀ n ∈ words (a.getD []), IsKnown (String.ofList n)

/-- Names among attributes. -/
def namesOf (a : Option (List Char)) : List String := (words (a.getD [])).map String.ofList

/-- Text of a placeholder with a name and attributes. -/
def named (w : List Char) (a : Option (List Char)) : List Char :=
  '%' :: (w ++ (attributesSource a ++ ['%']))

theorem scan?_identifier {w : List Char} {a : Option (List Char)} (hw : IsIdentifier w)
    (ha : IsAttributeList a) (rest : List Char) :
    scan? (w ++ (attributesSource a ++ '%' :: rest)) = some (⟨none, none, some w, a⟩, rest) := by
  have hstop : ∀ c, (attributesSource a ++ '%' :: rest).head? = some c → isWord c = false :=
    fun _ => isWord_of_head_attributes
  have htake := takeWhile_append_stop hw.word hstop
  have hdrop := dropWhile_append_stop hw.word hstop
  obtain ⟨c, w, rfl, hdigit⟩ := hw.start
  have hc := hw.word c List.mem_cons_self
  have hsign : c ≠ '-' := by rintro rfl; exact absurd hc (by decide)
  have hpoint : c ≠ '.' := by rintro rfl; exact absurd hc (by decide)
  rw [List.cons_append] at htake hdrop ⊢
  rw [scan?, if_neg hsign, if_neg hpoint, if_neg (by rw [hdigit]; decide), if_pos hc, htake, hdrop,
    finish?_attributes ha.chars]

theorem segments_named {w : List Char} {a : Option (List Char)} (hw : IsIdentifier w)
    (ha : IsAttributeList a) :
    segments (named w a) = [.placeholder ⟨none, none, some w, a⟩] := by
  rw [named, segments_percent_of_some (scan?_identifier hw ha []), segments_nil]

/-- Field or style of a token with some attributes, without width and limit.  Of several changes
of case or brackets the last one counts. -/
def FieldSpec.ofNames (t : Token) (names : List String) (color : Bool) : FieldSpec where
  token := t
  transform := lastOf caseNames .none names
  bracket := lastOf bracketNames .none names
  addSpace := mentions ["space"] names
  ignoreEmpty := mentions ["ignore", "ignoreempty"] names
  printKey := mentions ["key"] names
  plainKey := mentions ["none"] names
  levelColor := mentions ["color"] names
  attributes := if color then names.filterMap Sgr.Attribute.named? else []
  width := none
  limit := none
  position := 0

/-- The template of nothing but a field, or nothing but a style if the field only sets one. -/
def Compiled.single (spec : FieldSpec) : Compiled where
  skeleton := []
  fields := if spec.token.isStyle then [] else [spec]
  keyStyle := if spec.token = .keyStyle then spec else defaultKeyStyle
  valueStyle := if spec.token = .valueStyle then spec else defaultValueStyle

/-- The template of nothing but literal text. -/
def Compiled.literal (s : List Char) : Compiled where
  skeleton := s
  fields := []
  keyStyle := defaultKeyStyle
  valueStyle := defaultValueStyle

/-- A field or a style on its own. -/
theorem ofItems_ofSpec {spec : FieldSpec} (hposition : spec.position = 0)
    (h : spec.token ≠ .unset) : Compiled.ofItems [Item.ofSpec spec] = .single spec := by
  obtain ⟨token, _, _, _, _, _, _, _, _, _, _, position⟩ := spec
  obtain rfl : position = 0 := hposition
  cases token with
  | unset => exact absurd rfl h
  | _ => rfl

section Named

variable {w : List Char} {a : Option (List Char)}

theorem names_named : Placeholder.names ⟨none, none, some w, a⟩ = namesOf a := by
  cases a <;> rfl

theorem spec_named (color : Bool) :
    Placeholder.spec color ⟨none, none, some w, a⟩ =
      FieldSpec.ofNames (Token.ofName w) (namesOf a) color := by
  have hcolors := (⟨none, none, some w, a⟩ : Placeholder).colors_eq
  rw [Placeholder.spec, applyKeywords_eq, names_named]
  rw [names_named, Placeholder.colors] at hcolors
  rw [hcolors]
  simp only [FieldSpec.plain, Bool.false_or]
  rfl

theorem faults_named (ha : IsAttributeList a) :
    Placeholder.faults ⟨none, none, some w, a⟩ = [] := by
  rw [Placeholder.faults_eq_nil_iff, unknownOf_eq_nil_iff, names_named]
  intro n hn
  obtain ⟨word, hword, rfl⟩ := List.mem_map.mp hn
  exact ha.known word hword

theorem compile_named (hw : IsIdentifier w) (ha : IsAttributeList a) (color : Bool) :
    compile (String.ofList (named w a)) color =
      .ok (.ofItems [Segment.item color (.placeholder ⟨none, none, some w, a⟩)]) := by
  rw [compile_eq_ok_iff, faults, items, String.toList_ofList, segments_named hw ha]
  exact ⟨by simp [Segment.faults, faults_named ha], rfl⟩

/-- A name that stands for something gives its field or its style. -/
theorem compile_named_of_ne_unset (hw : IsIdentifier w) (ha : IsAttributeList a) (color : Bool)
    (h : Token.ofName w ≠ .unset) :
    compile (String.ofList (named w a)) color =
      .ok (.single (.ofNames (Token.ofName w) (namesOf a) color)) := by
  rw [compile_named hw ha, Segment.item, spec_named, ofItems_ofSpec rfl h]

/-- A name that stands for nothing leaves its colors, which are switched on. -/
theorem compile_named_of_unset (hw : IsIdentifier w) (ha : IsAttributeList a) (color : Bool)
    (h : Token.ofName w = .unset) :
    compile (String.ofList (named w a)) color =
      .ok (.literal (Placeholder.switchText ⟨none, none, some w, a⟩ color)) := by
  have htoken : Placeholder.token ⟨none, none, some w, a⟩ = .unset := h
  rw [compile_named hw ha, item_of_unset htoken]
  simp [Compiled.literal, Compiled.ofItems, skeletonOf, fieldsFrom, styleAfter, Item.style?]

end Named

/-- A name in a placeholder stands for a token exactly if its lower case is reserved, and else for
the field of that name; either way the compiled template holds that one field, or the style of keys
or values, and nothing else.  The one exception are names that are not reserved because of long s
among their letters: their placeholders are dropped, but for the colors that they switch on. -/
theorem compile_identifier_iff {w : List Char} {a : Option (List Char)} (hw : IsIdentifier w)
    (ha : IsAttributeList a) (color : Bool) :
    (∀ t, Token.reserved? w = some t →
      compile (String.ofList (named w a)) color = .ok (.single (.ofNames t (namesOf a) color))) ∧
    (Token.reserved? w = none →
      (compile (String.ofList (named w a)) color =
          .ok (.single (.ofNames (.field (String.ofList w)) (namesOf a) color)) ↔
        ¬Token.IsLookalike w)) ∧
    (Token.IsLookalike w →
      compile (String.ofList (named w a)) color =
        .ok (.literal (Placeholder.switchText ⟨none, none, some w, a⟩ color))) := by
  have hdropped := fun h : Token.IsLookalike w =>
    compile_named_of_unset hw ha color (Token.ofName_of_lookalike h)
  refine ⟨fun t ht => ?_, fun hother => ⟨fun hfield h => ?_, fun h => ?_⟩, hdropped⟩
  · have htoken := Token.ofName_of_reserved ht
    rw [compile_named_of_ne_unset hw ha color (htoken ▸ Token.reserved_ne_unset ht), htoken]
  · -- the literal template has no fields
    rw [hdropped h] at hfield
    have hfields := congrArg Compiled.fields (Except.ok.inj hfield)
    exact absurd hfields.symm (List.cons_ne_nil _ _)
  · have htoken := Token.ofName_of_not_lookalike hother h
    rw [compile_named_of_ne_unset hw ha color (by simp [htoken]), htoken]

theorem isIdentifier_of {w : List Char} (h : w.all isWord = true)
    (hstart : ∃ c rest, w = c :: rest ∧ isDigit c = false) : IsIdentifier w :=
  ⟨List.all_eq_true.mp h, hstart⟩

/-- A Kelvin sign does not hide a reserved name, and a long s is a letter like others in the name
of a field. -/
theorem compile_identifier_iff_key :
    compile "%\u212Aey:upper%" true = .ok (.single (.ofNames .keyStyle ["upper"] true)) ∧
      compile "%ſtate:Red%" true = .ok (.single (.ofNames (.field "ſtate") ["Red"] true)) := by
  have hkey : IsIdentifier "\u212Aey".toList :=
    isIdentifier_of (by decide +kernel) ⟨kelvinSign, ['e', 'y'], by decide, by decide +kernel⟩
  have hstate : IsIdentifier "ſtate".toList :=
    isIdentifier_of (by decide +kernel) ⟨longS, ['t', 'a', 't', 'e'], by decide, by decide +kernel⟩
  have hupper : IsAttributeList (some "upper".toList) :=
    ⟨List.all_eq_true.mp (by decide +kernel), by decide +kernel⟩
  have hred : IsAttributeList (some "Red".toList) :=
    ⟨List.all_eq_true.mp (by decide +kernel), by decide +kernel⟩
  exact ⟨(compile_identifier_iff hkey hupper true).1 .keyStyle (by decide +kernel),
    ((compile_identifier_iff hstate hred true).2.1 (by decide +kernel)).mpr (by decide +kernel)⟩

/-- A message with long s is neither the reserved word nor a field. -/
theorem lookalike_message_dropped :
    IsIdentifier "meſſage".toList ∧ IsAttributeList (some "upper".toList) ∧
      Token.reserved? "meſſage".toList = none ∧
      compile "%meſſage:upper%" false = .ok (.literal []) ∧
      Compiled.literal [] ≠ .single (.ofNames (.field "meſſage") ["upper"] false) := by
  refine ⟨?_, ?_, by decide +kernel, compile_eq_ok_iff.mpr ⟨by decide +kernel, by decide +kernel⟩,
    by decide +kernel⟩
  · exact isIdentifier_of (by decide +kernel)
      ⟨'m', ['e', longS, longS, 'a', 'g', 'e'], by decide, by decide⟩
  · exact ⟨List.all_eq_true.mp (by decide +kernel), by decide +kernel⟩

end Hooklog.Template

import Hooklog.Template.Spec
import Hooklog.Proofs.Tables

/-!
# Keywords

What the keywords among some attributes do, field by field: of the changes of letter case and
of the brackets the last one counts, and a switch is on once it is mentioned.  The other
attributes have to be colors; those that are not are the faults of a placeholder.
-/

namespace Hooklog.Template

open Text

/-! ## Tables -/

/-- Attributes that change the letter case. -/
def caseNames : List (String × Transform) :=
  [("upper", .upper), ("lower", .lower), ("title", .title)]

/-- Attributes that put a value between brackets. -/
def bracketNames : List (String × Bracket) :=
  [("curly", .curly), ("curlybrackets", .curly), ("square", .square),
    ("squarebrackets", .square), ("round", .round), ("roundbrackets", .round),
    ("parens", .round), ("parenthesis", .round), ("angle", .angle), ("anglebrackets", .angle)]

/-- Last of some attributes that a table knows, in any letter case. -/
def lastOf {α : Type} (table : List (String × α)) (default : α) (attributes : List String) : α :=
  ((attributes.filterMap fun a => table.lookup (lowerString a)).getLast?).getD default

/-- Whether one of some words is among the attributes, in any letter case. -/
def mentions (words attributes : List String) : Bool :=
  attributes.any fun a => words.contains (lowerString a)

/-- Names of keywords and colors. -/
def knownNames : List String :=
  FieldSpec.keywords.map (·.1) ++ Sgr.attributeNames.map (·.1)

/-! ## Keywords -/

/-- Change made by a word in lower case, field by field. -/
def keywordStep (s : FieldSpec) (word : String) : FieldSpec :=
  { s with
    transform := (caseNames.lookup word).getD s.transform
    bracket := (bracketNames.lookup word).getD s.bracket
    addSpace := s.addSpace || ["space"].contains word
    ignoreEmpty := s.ignoreEmpty || ["ignore", "ignoreempty"].contains word
    printKey := s.printKey || ["key"].contains word
    plainKey := s.plainKey || ["none"].contains word
    levelColor := s.levelColor || ["color"].contains word }

/-- Every keyword changes what the tables say and nothing else. -/
theorem keyword_eq_step {p : String × (FieldSpec → FieldSpec)} (h : p ∈ FieldSpec.keywords)
    (s : FieldSpec) : p.2 s = keywordStep s p.1 := by
  simp only [FieldSpec.keywords, List.mem_cons, List.not_mem_nil, or_false] at h
  rcases h with rfl | rfl | rfl | rfl | rfl | rfl | rfl | rfl | rfl | rfl | rfl | rfl | rfl |
    rfl | rfl | rfl | rfl | rfl | rfl <;>
    simp [keywordStep, caseNames, bracketNames, List.lookup_cons]

/-- A word that is no keyword is in none of the tables. -/
theorem keywordStep_of_notMem {word : String} (h : word ∉ FieldSpec.keywords.map (·.1))
    (s : FieldSpec) : keywordStep s word = s := by
  have hcase : caseNames.lookup word = none := by
    have hsub : ∀ w ∈ caseNames.map (·.1), w ∈ FieldSpec.keywords.map (·.1) := by decide
    exact lookup_eq_none_iff_notMem.mpr fun hmem => h (hsub word hmem)
  have hbracket : bracketNames.lookup word = none := by
    have hsub : ∀ w ∈ bracketNames.map (·.1), w ∈ FieldSpec.keywords.map (·.1) := by decide
    exact lookup_eq_none_iff_notMem.mpr fun hmem => h (hsub word hmem)
  have hflag : ∀ words : List String, (∀ w ∈ words, w ∈ FieldSpec.keywords.map (·.1)) →
      words.contains word = false := by
    intro words hsub
    rw [List.contains_eq_mem, decide_eq_false_iff_not]
    exact fun hmem => h (hsub word hmem)
  simp only [keywordStep, hcase, hbracket, hflag ["space"] (by decide),
    hflag ["ignore", "ignoreempty"] (by decide), hflag ["key"] (by decide),
    hflag ["none"] (by decide), hflag ["color"] (by decide), Option.getD_none, Bool.or_false]

theorem keyword?_step (s : FieldSpec) (name : String) :
    (match FieldSpec.keyword? name with | some change => change s | none => s) =
      keywordStep s (lowerString name) := by
  unfold FieldSpec.keyword?
  cases hlookup : FieldSpec.keywords.lookup (lowerString name) with
  | some change => exact keyword_eq_step (mem_of_lookup hlookup) s
  | none => exact (keywordStep_of_notMem (lookup_eq_none_iff_notMem.mp hlookup) s).symm

theorem lastOf_cons {α : Type} (table : List (String × α)) (default : α) (a : String)
    (rest : List String) :
    lastOf table default (a :: rest) =
      lastOf table ((table.lookup (lowerString a)).getD default) rest := by
  unfold lastOf
  cases hlookup : table.lookup (lowerString a) with
  | none => simp only [List.filterMap_cons, hlookup, Option.getD_none]
  | some b =>
      simp only [List.filterMap_cons, hlookup, List.getLast?_cons, Option.getD_some]

theorem mentions_cons (words : List String) (a : String) (rest : List String) :
    mentions words (a :: rest) = (words.contains (lowerString a) || mentions words rest) := rfl

/-- Keywords are applied as if each field were looked for on its own. -/
theorem applyKeywords_eq (s : FieldSpec) (names : List String) :
    s.applyKeywords names =
      { s with
        transform := lastOf caseNames s.transform names
        bracket := lastOf bracketNames s.bracket names
        addSpace := s.addSpace || mentions ["space"] names
        ignoreEmpty := s.ignoreEmpty || mentions ["ignore", "ignoreempty"] names
        printKey := s.printKey || mentions ["key"] names
        plainKey := s.plainKey || mentions ["none"] names
        levelColor := s.levelColor || mentions ["color"] names } := by
  induction names generalizing s with
  | nil => simp [FieldSpec.applyKeywords, lastOf, mentions]
  | cons name rest ih =>
      have hstep : s.applyKeywords (name :: rest) =
          (keywordStep s (lowerString name)).applyKeywords rest := by
        rw [← keyword?_step]
        rfl
      rw [hstep, ih]
      simp only [lastOf_cons, mentions_cons, keywordStep, Bool.or_assoc]

/-! ## Colors -/

theorem keyword?_eq_none_of_named {a : String} (h : (Sgr.Attribute.named? a).isSome = true) :
    FieldSpec.keyword? a = none := by
  have hdisjoint : ∀ w ∈ Sgr.attributeNames.map (·.1), w ∉ FieldSpec.keywords.map (·.1) := by
    decide
  obtain ⟨found, hfound⟩ := Option.isSome_iff_exists.mp h
  exact lookup_eq_none_iff_notMem.mpr
    (hdisjoint _ (List.mem_map_of_mem (f := (·.1)) (mem_of_lookup hfound)))

/-! ## Unknown names -/

/-- A name is a keyword or a color, in any letter case. -/
def IsKnown (name : String) : Prop := lowerString name ∈ knownNames

instance (name : String) : Decidable (IsKnown name) :=
  inferInstanceAs (Decidable (lowerString name ∈ knownNames))

/-- The unknown ones of some names. -/
def unknownOf (names : List String) : List String := names.filter fun n => ¬IsKnown n

theorem unknownOf_eq_nil_iff {names : List String} :
    unknownOf names = [] ↔ ∀ n ∈ names, IsKnown n := by
  unfold unknownOf
  rw [List.filter_eq_nil_iff]
  refine forall₂_congr fun n _ => ?_
  rw [decide_eq_true_eq, Decidable.not_not]

theorem not_isKnown_iff {n : String} :
    ¬IsKnown n ↔ FieldSpec.keyword? n = none ∧ Sgr.Attribute.named? n = none := by
  rw [IsKnown, knownNames, List.mem_append, not_or, FieldSpec.keyword?, Sgr.Attribute.named?,
    lookup_eq_none_iff_notMem, lookup_eq_none_iff_notMem]

/-- A name that is no keyword is unknown exactly when it is no color. -/
theorem unknownNames_colorNames (p : Placeholder) :
    Sgr.unknownNames p.colorNames = unknownOf p.names := by
  unfold Sgr.unknownNames Placeholder.colorNames unknownOf
  rw [List.filter_filter]
  refine List.filter_congr fun n _ => ?_
  rw [Bool.eq_iff_iff, Bool.and_eq_true, Option.isNone_iff_eq_none, Option.isNone_iff_eq_none,
    decide_eq_true_eq, not_isKnown_iff, and_comm]

/-- The faults of a placeholder, apart from the note that no name is known, are its unknown
names. -/
theorem Placeholder.filter_faults (p : Placeholder) :
    p.faults.filter (· ≠ .noAttribute) = (unknownOf p.names).map .unknownAttribute := by
  have hnames : ∀ names : List String,
      (names.map TemplateFault.unknownAttribute).filter (· ≠ .noAttribute) =
        names.map .unknownAttribute := by
    intro names
    refine List.filter_eq_self.mpr fun f hf => ?_
    obtain ⟨n, -, rfl⟩ := List.mem_map.mp hf
    rfl
  rw [← unknownNames_colorNames]
  unfold Placeholder.faults
  split
  · rename_i hnone
    rw [hnone]
    rfl
  · rw [Sgr.faultsOf, List.filter_append, hnames]
    split
    · exact List.append_nil _
    · exact List.append_nil _

theorem Placeholder.faults_eq_nil_iff (p : Placeholder) :
    p.faults = [] ↔ unknownOf p.names = [] := by
  constructor
  · intro h
    have hfilter := p.filter_faults
    rw [h] at hfilter
    exact List.map_eq_nil_iff.mp hfilter.symm
  · intro h
    unfold Placeholder.faults
    split
    · rfl
    · rename_i hsome
      rw [← unknownNames_colorNames] at h
      rw [Sgr.faultsOf, h]
      -- a name that has to be a color is one
      obtain ⟨n, hn⟩ := List.exists_mem_of_ne_nil _ hsome
      have hknown := List.filter_eq_nil_iff.mp h n hn
      rw [Option.isNone_iff_eq_none] at hknown
      obtain ⟨color, hcolor⟩ := Option.ne_none_iff_exists'.mp hknown
      have hcolors : p.colorNames.filterMap Sgr.Attribute.named? ≠ [] :=
        List.ne_nil_of_mem (List.mem_filterMap.mpr ⟨n, hn, hcolor⟩)
      rw [if_neg hcolors]
      rfl

end Hooklog.Template

import Hooklog.Sgr

/-!
# Removing control sequences

A control sequence starts with an escape character and introducers.  Then follow either
letters, digits and semicolons up to a bell, or parameters of at most four digits and a
final character.  Without a final character after its parameters, the sequence ends with
their last digit.
-/

namespace Hooklog.Sgr

/-- Character that starts a control sequence. -/
def isEscape (c : Char) : Bool := c = escape || c = Char.ofNat 0x9B

/-- Character between the escape and the parameters. -/
def isIntroducer (c : Char) : Bool :=
  c = '[' || c = ']' || c = '(' || c = ')' || c = '#' || c = ';' || c = '?'

/-- The bell. -/
def bell : Char := Char.ofNat 7

/-- Character of a sequence that ends with a bell. -/
def isBelled (c : Char) : Bool := Text.isAsciiLetter c || Text.isDigit c || c = ';'

/-- Character that ends a sequence, digits apart. -/
def isFinal (c : Char) : Bool :=
  ('A' ≤ c && c ≤ 'P') || c = 'R' || c = 'Z' || c = 'c' || ('f' ≤ c && c ≤ 'n')
    || c = 't' || c = 'q' || c = 'r' || c = 'y' || c = '=' || c = '>' || c = '<' || c = '~'

/-- Text after parameters and a final character.  `room` is the number of digits that the
current parameter still takes, and `mark` the text after the last digit read. -/
def afterParameters? (room : Nat) (mark : Option (List Char)) :
    List Char → Option (List Char)
  | [] => mark
  | c :: rest =>
      if Text.isDigit c then
        if room = 0 then some rest else afterParameters? (room - 1) (some rest) rest
      else if c = ';' ∧ mark ≠ none then afterParameters? 4 mark rest
      else if isFinal c then some rest else mark

/-- Text after a sequence whose escape and introducers have been read. -/
def afterIntroducers? (s : List Char) : Option (List Char) :=
  match s.dropWhile isBelled with
  | c :: rest => if c = bell then some rest else afterParameters? 4 none s
  | [] => afterParameters? 4 none s

/-- Text after a sequence that follows an escape character, if there is one. -/
def afterSequence? (s : List Char) : Option (List Char) :=
  afterIntroducers? (s.dropWhile isIntroducer)

theorem length_afterParameters? {room : Nat} {mark : Option (List Char)} {s r : List Char}
    (hmark : ∀ m, mark = some m → m.length ≤ n) (hs : s.length ≤ n)
    (h : afterParameters? room mark s = some r) : r.length ≤ n := by
  induction s generalizing room mark with
  | nil => exact hmark r h
  | cons c rest ih =>
      have hrest : rest.length ≤ n := by simp only [List.length_cons] at hs; omega
      have hsome : ∀ m, some rest = some m → m.length ≤ n := by
        intro m hm; cases hm; exact hrest
      unfold afterParameters? at h
      split at h
      · split at h
        · exact hsome r h
        · exact ih hsome hrest h
      · split at h
        · exact ih hmark hrest h
        · split at h
          · exact hsome r h
          · exact hmark r h

theorem length_afterIntroducers? {s r : List Char} (h : afterIntroducers? s = some r) :
    r.length ≤ s.length := by
  have hplain : ∀ r, afterParameters? 4 none s = some r → r.length ≤ s.length :=
    fun r h => length_afterParameters? (by simp) (Nat.le_refl _) h
  unfold afterIntroducers? at h
  split at h
  · rename_i c rest hbell
    split at h
    · have := Text.length_dropWhile_le isBelled s
      rw [hbell] at this
      simp only [List.length_cons] at this
      cases h
      omega
    · exact hplain r h
  · exact hplain r h

/-- Reading a sequence never gives back more than it was given. -/
theorem length_afterSequence? {s r : List Char} (h : afterSequence? s = some r) :
    r.length ≤ s.length :=
  Nat.le_trans (length_afterIntroducers? h) (Text.length_dropWhile_le isIntroducer s)

/-- Text without its control sequences. -/
def strip : List Char → List Char
  | [] => []
  | c :: rest =>
      if isEscape c then
        match _taken : afterSequence? rest with
        | some r => strip r
        | none => c :: strip rest
      else c :: strip rest
termination_by s => s.length
decreasing_by
  all_goals simp only [List.length_cons]
  · have := length_afterSequence? _taken
    omega
  · omega
  · omega

/-- String without its control sequences. -/
def stripString (s : String) : String := String.ofList (strip s.toList)

end Hooklog.Sgr

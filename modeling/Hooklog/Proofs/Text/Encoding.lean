import Hooklog.Proofs.Text.Decoding

/-!
# Decoding what was encoded

The bytes of a text are read back as the text, whatever follows them.  A cut behind the end of
a line never falls into a character.
-/

namespace Hooklog.Text

/-- The bytes of characters. -/
def encode (s : List Char) : Bytes := s.flatMap String.utf8EncodeChar

theorem bytesOf_eq_encode (s : String) : bytesOf s = encode s.toList := by
  rw [bytesOf, encode, ← String.utf8Encode_toList]
  exact List.toList_data_toByteArray

theorem bytesOf_append (s t : String) : bytesOf (s ++ t) = bytesOf s ++ bytesOf t := by
  rw [bytesOf, String.toByteArray_append, ByteArray.data_append, Array.toList_append]
  rfl

/-! ## One character -/

/-- A byte that announces more of them opens a character. -/
theorem decodeFrom_lead {b : UInt8} {n low high payload : Nat}
    (h : Lead.ofByte? b.toNat = some ⟨n + 1, low, high, payload⟩) (rest : Bytes) :
    decodeFrom .idle (b :: rest) = decodeFrom (.inside (n + 1) low high payload) rest := by
  rw [decodeFrom, Decoding.step, Decoding.start, h]
  rfl

/-- A byte in its range carries the open character on. -/
theorem decodeFrom_inside {b : UInt8} {n low high : Nat} (hlow : low ≤ b.toNat)
    (hhigh : b.toNat ≤ high) (payload : Nat) (rest : Bytes) :
    decodeFrom (.inside (n + 2) low high payload) (b :: rest) =
      decodeFrom (.inside (n + 1) 0x80 0xBF (payload * 0x40 + (b.toNat - 0x80))) rest := by
  rw [decodeFrom, Decoding.step]
  simp [hlow, hhigh]

/-- The last byte in its range closes the open character. -/
theorem decodeFrom_last {b : UInt8} {low high : Nat} (hlow : low ≤ b.toNat)
    (hhigh : b.toNat ≤ high) (payload : Nat) (rest : Bytes) :
    decodeFrom (.inside 1 low high payload) (b :: rest) =
      Char.ofNat (payload * 0x40 + (b.toNat - 0x80)) :: decodeFrom .idle rest := by
  rw [decodeFrom, Decoding.step]
  simp [hlow, hhigh]

theorem ofByte?_two {b : Nat} (hlow : 0xC2 ≤ b) (hhigh : b < 0xE0) :
    Lead.ofByte? b = some ⟨1, 0x80, 0xBF, b - 0xC0⟩ := by
  rw [Lead.ofByte?, if_neg (by omega), if_neg (by omega), if_pos hhigh]

theorem ofByte?_three {b : Nat} (hlow : 0xE0 ≤ b) (hhigh : b < 0xF0) :
    Lead.ofByte? b =
      some ⟨2, if b = 0xE0 then 0xA0 else 0x80, if b = 0xED then 0x9F else 0xBF, b - 0xE0⟩ := by
  rw [Lead.ofByte?, if_neg (by omega), if_neg (by omega), if_neg (by omega)]
  by_cases hfirst : b = 0xE0
  · subst hfirst; rfl
  by_cases hsurrogates : b = 0xED
  · subst hsurrogates; rfl
  rw [if_neg hfirst, if_neg hsurrogates, if_pos hhigh, if_neg hfirst, if_neg hsurrogates]

theorem ofByte?_four {b : Nat} (hlow : 0xF0 ≤ b) (hhigh : b ≤ 0xF4) :
    Lead.ofByte? b =
      some ⟨3, if b = 0xF0 then 0x90 else 0x80, if b = 0xF4 then 0x8F else 0xBF, b - 0xF0⟩ := by
  rw [Lead.ofByte?, if_neg (by omega), if_neg (by omega), if_neg (by omega), if_neg (by omega),
    if_neg (by omega), if_neg (by omega)]
  by_cases hfirst : b = 0xF0
  · subst hfirst; rfl
  by_cases hlast : b = 0xF4
  · subst hlast; rfl
  rw [if_neg hfirst, if_pos (by omega), if_neg hfirst, if_neg hlast]

/-- The bytes of a character are read back as the character. -/
theorem decodeFrom_encodeChar (c : Char) (rest : Bytes) :
    decodeFrom .idle (String.utf8EncodeChar c ++ rest) = c :: decodeFrom .idle rest := by
  have hvalid : c.val.toNat < 0xD800 ∨ 0xDFFF < c.val.toNat ∧ c.val.toNat < 0x110000 := c.valid
  have hchar : Char.ofNat c.val.toNat = c := Char.ofNat_toNat c
  have hbyte : ∀ n < 256, (UInt8.ofNat n).toNat = n := fun n h => UInt8.toNat_ofNat_of_lt' h
  rw [String.utf8EncodeChar]
  generalize c.val.toNat = v at hvalid hchar
  split_ifs with hone htwo hthree
  · have hv := hbyte v (by omega)
    rw [List.singleton_append, decodeFrom, Decoding.step, Decoding.start, hv, Lead.ofByte?,
      if_pos (by omega)]
    exact congrArg (· :: _) hchar
  · have h1 := hbyte (v / 64 % 32 + 192) (by omega)
    have h2 := hbyte (v % 64 + 128) (by omega)
    rw [List.cons_append, List.singleton_append,
      decodeFrom_lead (by rw [h1]; exact ofByte?_two (by omega) (by omega)),
      decodeFrom_last (by omega) (by omega), h2]
    have hvalue : (v / 64 % 32 + 192 - 0xC0) * 0x40 + (v % 64 + 128 - 0x80) = v := by omega
    rw [hvalue, hchar]
  · have h1 := hbyte (v / 4096 % 16 + 224) (by omega)
    have h2 := hbyte (v / 64 % 64 + 128) (by omega)
    have h3 := hbyte (v % 64 + 128) (by omega)
    rw [List.cons_append, List.cons_append, List.singleton_append,
      decodeFrom_lead (by rw [h1]; exact ofByte?_three (by omega) (by omega)),
      decodeFrom_inside (by split_ifs <;> omega) (by split_ifs <;> omega),
      decodeFrom_last (by omega) (by omega), h2, h3]
    have hvalue : ((v / 4096 % 16 + 224 - 0xE0) * 0x40 + (v / 64 % 64 + 128 - 0x80)) * 0x40
        + (v % 64 + 128 - 0x80) = v := by omega
    rw [hvalue, hchar]
  · have h1 := hbyte (v / 262144 % 8 + 240) (by omega)
    have h2 := hbyte (v / 4096 % 64 + 128) (by omega)
    have h3 := hbyte (v / 64 % 64 + 128) (by omega)
    have h4 := hbyte (v % 64 + 128) (by omega)
    rw [List.cons_append, List.cons_append, List.cons_append, List.singleton_append,
      decodeFrom_lead (by rw [h1]; exact ofByte?_four (by omega) (by omega)),
      decodeFrom_inside (by split_ifs <;> omega) (by split_ifs <;> omega),
      decodeFrom_inside (by omega) (by omega), decodeFrom_last (by omega) (by omega), h2, h3, h4]
    have hvalue : (((v / 262144 % 8 + 240 - 0xF0) * 0x40 + (v / 4096 % 64 + 128 - 0x80)) * 0x40
        + (v / 64 % 64 + 128 - 0x80)) * 0x40 + (v % 64 + 128 - 0x80) = v := by omega
    rw [hvalue, hchar]

/-! ## Texts -/

theorem encode_cons (c : Char) (s : List Char) :
    encode (c :: s) = String.utf8EncodeChar c ++ encode s := List.flatMap_cons

theorem encode_append (s t : List Char) : encode (s ++ t) = encode s ++ encode t :=
  List.flatMap_append

/-- The bytes of a text are read back as the text, whatever follows them. -/
theorem decode_encode_append (s : List Char) (rest : Bytes) :
    decode (encode s ++ rest) = s ++ decode rest := by
  induction s with
  | nil => rfl
  | cons c s ih =>
      rw [encode_cons, List.append_assoc, decode, decodeFrom_encodeChar]
      exact congrArg (c :: ·) ih

theorem decode_encode (s : List Char) : decode (encode s) = s := by
  have h := decode_encode_append s []
  rwa [List.append_nil, show decode [] = [] from rfl, List.append_nil] at h

/-- The byte of a line end is that of no other character. -/
theorem newline_notMem_encodeChar {c : Char} (h : c ≠ '\n') : 10 ∉ String.utf8EncodeChar c := by
  have hne : c.val.toNat ≠ 10 := fun heq => h (Char.ext (UInt32.toNat_inj.mp heq))
  have hbyte : ∀ n, n % 256 ≠ 10 → (10 : UInt8) ≠ UInt8.ofNat n := by
    intro n hn heq
    exact hn (congrArg UInt8.toNat heq).symm
  rw [String.utf8EncodeChar]
  generalize c.val.toNat = v at hne
  split_ifs with hone htwo hthree <;>
    simp only [List.mem_cons, List.not_mem_nil, or_false, not_or]
  · exact hbyte _ (by omega)
  · exact ⟨hbyte _ (by omega), hbyte _ (by omega)⟩
  · exact ⟨hbyte _ (by omega), hbyte _ (by omega), hbyte _ (by omega)⟩
  · exact ⟨hbyte _ (by omega), hbyte _ (by omega), hbyte _ (by omega), hbyte _ (by omega)⟩

theorem Complete.of_append {x y : Bytes} (h : Complete (x ++ y)) : Complete y := by
  rcases List.eq_nil_or_concat y with rfl | ⟨init, b, rfl⟩
  · exact Or.inl rfl
  · rw [List.concat_eq_append] at h ⊢
    rcases h with hnil | ⟨before, hlast⟩
    · simp at hnil
    · rw [← List.append_assoc] at hlast
      exact Or.inr ⟨init, congrArg _ (List.append_inj' hlast rfl).2⟩

/-- A cut behind the end of a line falls between two characters. -/
theorem exists_of_encode_eq_append {s : List Char} {x y : Bytes} (h : encode s = x ++ y)
    (hx : Complete x) : ∃ s₁ s₂, s = s₁ ++ s₂ ∧ x = encode s₁ ∧ y = encode s₂ := by
  induction s generalizing x with
  | nil =>
      obtain ⟨rfl, rfl⟩ := List.append_eq_nil_iff.mp h.symm
      exact ⟨[], [], rfl, rfl, rfl⟩
  | cons c s ih =>
      rw [encode_cons] at h
      rcases List.append_eq_append_iff.mp h with ⟨x', rfl, hrest⟩ | ⟨cut, hchar, rfl⟩
      · obtain ⟨s₁, s₂, rfl, rfl, rfl⟩ := ih hrest hx.of_append
        exact ⟨c :: s₁, s₂, rfl, (encode_cons c s₁).symm, rfl⟩
      · rcases hx with rfl | ⟨before, rfl⟩
        · rw [List.nil_append] at hchar
          exact ⟨[], c :: s, rfl, rfl, by rw [encode_cons, hchar]⟩
        · -- the end of the line would be a byte within the character
          have hc : c = '\n' := Decidable.byContradiction fun hne =>
            newline_notMem_encodeChar hne (by rw [hchar]; simp)
          subst hc
          have hlength := congrArg List.length hchar
          rw [show String.utf8EncodeChar '\n' = [10] by decide] at hlength hchar
          simp only [List.length_append, List.length_singleton] at hlength
          obtain rfl : before = [] := List.eq_nil_of_length_eq_zero (by omega)
          obtain rfl : cut = [] := List.eq_nil_of_length_eq_zero (by omega)
          exact ⟨['\n'], s, rfl, by decide, rfl⟩

end Hooklog.Text

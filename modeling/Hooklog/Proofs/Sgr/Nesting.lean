import Hooklog.Proofs.Sgr.Painted

/-!
# Nested paint

Text is painted in layers: plain pieces stand one behind the other, and attributes can be put
around any part that is painted already.  Removing control sequences gives the plain pieces back,
in order, however the layers are arranged.
-/

namespace Hooklog.Sgr

/-- A way to build a painted text out of plain ones. -/
inductive Painting where
  | text (s : String) (plain : Plain s)
  | under (attributes : List Attribute) (nonempty : attributes ≠ []) (inner : Painting)
  | beside (left right : Painting)

namespace Painting

/-- The text with all of its paint. -/
def written : Painting → String
  | text s _ => s
  | under attributes _ inner => paint attributes inner.written
  | beside left right => left.written ++ right.written

/-- The plain pieces one behind the other. -/
def bare : Painting → String
  | text s _ => s
  | under _ _ inner => inner.bare
  | beside left right => left.bare ++ right.bare

theorem painted (p : Painting) : Painted p.bare.toList p.written.toList := by
  induction p with
  | text s plain => exact .of_plainText plain
  | under attributes nonempty inner ih =>
      rw [written, bare, paint, String.toList_append, String.toList_append]
      exact ih.paint nonempty
  | beside left right ihleft ihright =>
      rw [written, bare, String.toList_append, String.toList_append]
      exact ihleft.append ihright

theorem stripString_written (p : Painting) : stripString p.written = p.bare := by
  rw [stripString, p.painted.strip_eq, String.ofList_toList]

/-- Removing control sequences takes the paint off, both of a painting and of one with more
attributes around it. -/
theorem stripString_paint (p : Painting) {attributes : List Attribute} (hne : attributes ≠ []) :
    stripString p.written = p.bare ∧ stripString (paint attributes p.written) = p.bare :=
  ⟨p.stripString_written, (under attributes hne p).stripString_written⟩

/-- Pieces that look like the rest of a sequence: parameters, introducers and final letters. -/
def misleading : Painting :=
  beside (text "1;31m" (by decide))
    (under [.style .bold, .mixedForeground 255 0 7]
      (List.cons_ne_nil _ _)
      (beside (text "[0;m" (by decide))
        (under [.background true .white] (List.cons_ne_nil _ _) (text "m;4]?H" (by decide)))))

theorem stripString_paint_misleading :
    [Attribute.style .underline] ≠ [] ∧ misleading.bare = "1;31m[0;mm;4]?H" ∧
      stripString misleading.written = misleading.bare ∧
      stripString (paint [.style .underline] misleading.written) = misleading.bare :=
  ⟨List.cons_ne_nil _ _, rfl, misleading.stripString_paint (List.cons_ne_nil _ _)⟩

end Painting

end Hooklog.Sgr

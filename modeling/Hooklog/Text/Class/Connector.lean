/-!
# Connectors

The connecting punctuation and the two join controls, which count as word characters.
-/

namespace Hooklog.Text

/-- Closed ranges of the connecting punctuation. -/
def connectorRanges : List (Nat × Nat) := [
  (0x5F, 0x5F), (0x203F, 0x2040), (0x2054, 0x2054), (0xFE33, 0xFE34), (0xFE4D, 0xFE4F),
  (0xFF3F, 0xFF3F)]

/-- The zero width joiner and non-joiner. -/
def joinControlRanges : List (Nat × Nat) := [(0x200C, 0x200D)]

end Hooklog.Text

/-!
Sets of characters given as spans of code points.
-/

namespace SchemaDiscovery.Text

/-- The first and the last code point of each span, in ascending order. -/
abbrev Spans := List (Nat × Nat)

def Spans.contains (spans : Spans) (c : Char) : Bool :=
  spans.any fun span => span.1 ≤ c.toNat && c.toNat ≤ span.2

end SchemaDiscovery.Text

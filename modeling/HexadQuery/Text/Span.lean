/-
# Spans of code points

A character class that is data of a standard is a list of spans; this module holds the span and
the membership test, and no class.
-/
namespace HexadQuery.Text

/-- The code points from `first` to `last`, both included. -/
structure Span where
  first : Nat
  last : Nat

namespace Span

/-- Whether a character lies in one of the spans. -/
def covers (spans : List Span) (c : Char) : Bool :=
  spans.any fun span => span.first ≤ c.toNat && c.toNat ≤ span.last

end Span

end HexadQuery.Text

namespace CloudClient.Text

/-!
# Sets of characters

A property of characters as a table of spans of code points.

* `CharSet` — the table;
* `CharSet.contains` — membership, decided by going through the spans.
-/

/-- A set of characters, written as ascending and disjoint spans of code points.  Both ends belong
    to a span. -/
structure CharSet where
  spans : List (Nat × Nat)

namespace CharSet

/-- The character lies in one of the spans. -/
def contains (s : CharSet) (c : Char) : Bool :=
  s.spans.any fun span => span.1 ≤ c.toNat && c.toNat ≤ span.2

end CharSet

end CloudClient.Text

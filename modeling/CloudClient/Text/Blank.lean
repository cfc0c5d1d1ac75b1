import CloudClient.Text.CharSet

namespace CloudClient.Text

/-!
# Blank characters

White space in the wide sense: the ASCII controls from tab to carriage return and from the file to
the unit separator, the next-line control, and every space, line or paragraph separator.

* `isBlank` — the class;
* `trimBlank` — a text without the blanks at its two ends.
-/

/-- The blank characters. -/
def blanks : CharSet where
  spans :=
    [(0x9, 0xd), (0x1c, 0x20), (0x85, 0x85), (0xa0, 0xa0), (0x1680, 0x1680), (0x2000, 0x200a),
     (0x2028, 0x2029), (0x202f, 0x202f), (0x205f, 0x205f), (0x3000, 0x3000)]

/-- The character is white space. -/
def isBlank (c : Char) : Bool := blanks.contains c

/-- The text without the blanks at its start and at its end. -/
def trimBlank (cs : List Char) : List Char :=
  ((cs.dropWhile isBlank).reverse.dropWhile isBlank).reverse

end CloudClient.Text

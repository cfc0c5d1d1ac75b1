import CloudClient.Text.Digits
import CloudClient.Text.Printable

namespace CloudClient.Text

/-!
# Quoted text

How a text, or a string of bytes, is shown in a message: between quotes and with nothing in it that
could disturb the line.

* `delimiter` — the quote in use: `'`, unless the text holds `'` and no `"`;
* `escapeChar`, `escapeByte` — one element in its shown form;
* `quoted`, `quotedBytes` — the whole in its shown form.
-/

/-- The quote that delimits a text, chosen so that few quotes inside need an escape. -/
def delimiter (cs : List Char) : Char :=
  if cs.contains '\x27' && !cs.contains '\x22' then '\x22' else '\x27'

/-- A backslash, the letter that tells the number of digits, and the code in lower-case
    hexadecimal. -/
def codeEscape (n : Nat) : List Char :=
  if n < 0x100 then '\\' :: 'x' :: digits 16 2 n
  else if n < 0x10000 then '\\' :: 'u' :: digits 16 4 n
  else '\\' :: 'U' :: digits 16 8 n

/-- The escape that has a letter of its own, for a character that any quoting has to escape. -/
def letterEscape? (quote c : Char) : Option (List Char) :=
  if c = quote ∨ c = '\\' then some ['\\', c]
  else if c = '\n' then some ['\\', 'n']
  else if c = '\r' then some ['\\', 'r']
  else if c = '\t' then some ['\\', 't']
  else none

/-- A character between quotes: as it is if printable. -/
def escapeChar (quote c : Char) : List Char :=
  (letterEscape? quote c).getD (if isPrintable c then [c] else codeEscape c.toNat)

/-- A byte between quotes: as it is if printable ASCII. -/
def escapeByte (quote : Char) (b : UInt8) : List Char :=
  let c := Char.ofNat b.toNat
  (letterEscape? quote c).getD
    (if 0x20 ≤ b.toNat && b.toNat < 0x7f then [c] else codeEscape b.toNat)

/-- A text in its shown form. -/
def quoted (cs : List Char) : List Char :=
  let quote := delimiter cs
  quote :: (cs.flatMap (escapeChar quote) ++ [quote])

/-- A string of bytes in its shown form, marked by a `b`. -/
def quotedBytes (bs : List UInt8) : List Char :=
  let quote := delimiter (bs.map fun b => Char.ofNat b.toNat)
  'b' :: quote :: (bs.flatMap (escapeByte quote) ++ [quote])

/-- A text in its shown form. -/
def quote (s : String) : String := String.ofList (quoted s.toList)

end CloudClient.Text

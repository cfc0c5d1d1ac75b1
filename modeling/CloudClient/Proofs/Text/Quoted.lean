import CloudClient.Proofs.Text.FixedWidth
import CloudClient.Text.Quoted

namespace CloudClient.Text

/-!
# Printable texts

A text in its shown form is printable, whatever the text is, and so is a string of bytes.

* `Printable` — every character of the text is printable;
* `printable_append`, `printable_pushn`, `printable_toString_nat`, `printable_toString_int` — how
  printable texts are made;
* `isPrintable_of_mem_codeEscape`, `isPrintable_of_mem_letterEscape`,
  `isPrintable_of_mem_escapeChar`, `isPrintable_of_mem_escapeByte` — the parts of a shown form;
* `printable_quote`, `printable_quotedBytes` — the shown forms.
-/

/-- Every character of the text is printable. -/
def Printable (s : String) : Prop := ∀ c ∈ s.toList, isPrintable c = true

instance (s : String) : Decidable (Printable s) :=
  decidable_of_iff (s.toList.all isPrintable = true) List.all_eq_true

/-! ### Texts put together -/

@[simp] theorem printable_append {s t : String} :
    Printable (s ++ t) ↔ Printable s ∧ Printable t := by
  simp only [Printable, String.toList_append, List.mem_append]
  refine ⟨?_, ?_⟩
  · intro all
    exact ⟨fun c first => all c (.inl first), fun c second => all c (.inr second)⟩
  · rintro ⟨first, second⟩ c (here | here)
    · exact first c here
    · exact second c here

theorem printable_ofList {cs : List Char} :
    Printable (String.ofList cs) ↔ ∀ c ∈ cs, isPrintable c = true := by
  rw [Printable, String.toList_ofList]

theorem printable_pushn {s : String} {c : Char} (printable : Printable s)
    (plain : isPrintable c = true) (n : Nat) : Printable (s.pushn c n) := by
  rw [String.pushn_eq_repeat_push]
  induction n with
  | zero => exact printable
  | succ n ih =>
    intro x here
    rw [Nat.repeat, String.toList_push, List.mem_append, List.mem_singleton] at here
    rcases here with front | rfl
    · exact ih x front
    · exact plain

/-- An ASCII digit is printable. -/
theorem isPrintable_of_isDigit {c : Char} (digit : c.isDigit = true) : isPrintable c = true := by
  have code := toNat_of_isDigit digit
  exact isPrintable_of_ascii (by omega) (by omega)

theorem isPrintable_of_mem_toDigits {n : Nat} {c : Char} (here : c ∈ Nat.toDigits 10 n) :
    isPrintable c = true :=
  isPrintable_of_isDigit (Nat.isDigit_of_mem_toDigits (by decide) (by decide) here)

theorem printable_toString_nat (n : Nat) : Printable (toString n) := by
  intro c here
  rw [Nat.toString_eq_repr, Nat.toList_repr] at here
  exact isPrintable_of_mem_toDigits here

theorem printable_toString_int (n : Int) : Printable (toString n) := by
  cases n with
  | ofNat n => exact printable_toString_nat n
  | negSucc n =>
    -- The sign stands before the digits.
    have spelled : toString (Int.negSucc n) = "-" ++ toString (n + 1) := rfl
    rw [spelled, printable_append]
    exact ⟨by decide, printable_toString_nat (n + 1)⟩

/-- A printable text has no end of a line in it. -/
theorem Printable.newline_notMem {s : String} (printable : Printable s) : '\n' ∉ s.toList := by
  intro here
  exact absurd (printable '\n' here) (by decide)

/-! ### Escapes -/

theorem isPrintable_digitChar {d : Nat} (lt : d < 16) : isPrintable (Nat.digitChar d) = true := by
  revert d
  decide

theorem isPrintable_of_mem_digits {base width n : Nat} {c : Char} (pos : 0 < base) (le : base ≤ 16)
    (here : c ∈ digits base width n) : isPrintable c = true := by
  induction width generalizing n with
  | zero => exact absurd here List.not_mem_nil
  | succ width ih =>
    rcases List.mem_append.mp here with front | last
    · exact ih front
    · obtain rfl := List.mem_singleton.mp last
      exact isPrintable_digitChar (Nat.lt_of_lt_of_le (Nat.mod_lt n pos) le)

theorem isPrintable_of_mem_codeEscape {n : Nat} {c : Char} (here : c ∈ codeEscape n) :
    isPrintable c = true := by
  -- The three forms differ in their letter and in the number of digits.
  have form (letter : Char) (width : Nat) (plain : isPrintable letter = true)
      (here : c ∈ '\\' :: letter :: digits 16 width n) : isPrintable c = true := by
    rcases List.mem_cons.mp here with rfl | here
    · decide
    · rcases List.mem_cons.mp here with rfl | here
      · exact plain
      · exact isPrintable_of_mem_digits (by decide) (by decide) here
  unfold codeEscape at here
  split at here
  · exact form 'x' 2 (by decide) here
  · split at here
    · exact form 'u' 4 (by decide) here
    · exact form 'U' 8 (by decide) here

/-- An escape with a letter of its own is a backslash and a printable character. -/
theorem isPrintable_of_mem_letterEscape {quote c x : Char} {escape : List Char}
    (plain : isPrintable quote = true) (escapes : letterEscape? quote c = some escape)
    (here : x ∈ escape) : isPrintable x = true := by
  -- The quote and the backslash stand for themselves, and the three controls have letters.
  have pair (letter : Char) (shown : isPrintable letter = true)
      (same : some ['\\', letter] = some escape) : isPrintable x = true := by
    obtain rfl := Option.some.inj same
    rcases List.mem_cons.mp here with rfl | here
    · decide
    · obtain rfl := List.mem_singleton.mp here
      exact shown
  unfold letterEscape? at escapes
  split at escapes
  · rename_i itself
    refine pair c ?_ escapes
    rcases itself with rfl | rfl
    · exact plain
    · decide
  · split at escapes
    · exact pair 'n' (by decide) escapes
    · split at escapes
      · exact pair 'r' (by decide) escapes
      · split at escapes
        · exact pair 't' (by decide) escapes
        · exact absurd escapes (by simp)

/-- An element between quotes is such an escape, or it is shown in its other form. -/
theorem isPrintable_of_mem_escape {quote c x : Char} {other : List Char}
    (plain : isPrintable quote = true) (shown : x ∈ other → isPrintable x = true)
    (here : x ∈ (letterEscape? quote c).getD other) : isPrintable x = true := by
  cases escapes : letterEscape? quote c with
  | some escape =>
    rw [escapes] at here
    exact isPrintable_of_mem_letterEscape plain escapes here
  | none =>
    rw [escapes] at here
    exact shown here

theorem isPrintable_of_mem_escapeChar {quote c x : Char} (plain : isPrintable quote = true)
    (here : x ∈ escapeChar quote c) : isPrintable x = true := by
  refine isPrintable_of_mem_escape plain ?_ here
  intro here
  split at here
  · rename_i itself
    obtain rfl := List.mem_singleton.mp here
    exact itself
  · exact isPrintable_of_mem_codeEscape here

/-- The codes of printable ASCII, checked one after the other. -/
theorem isPrintable_ofNat : ∀ n < 0x7f, 0x20 ≤ n → isPrintable (Char.ofNat n) = true := by
  decide

theorem isPrintable_of_mem_escapeByte {quote x : Char} {b : UInt8}
    (plain : isPrintable quote = true) (here : x ∈ escapeByte quote b) : isPrintable x = true := by
  refine isPrintable_of_mem_escape plain ?_ here
  intro here
  split at here
  · rename_i ascii
    simp only [Bool.and_eq_true, decide_eq_true_eq] at ascii
    obtain rfl := List.mem_singleton.mp here
    exact isPrintable_ofNat b.toNat ascii.2 ascii.1
  · exact isPrintable_of_mem_codeEscape here

/-! ### The shown form -/

theorem isPrintable_delimiter (cs : List Char) : isPrintable (delimiter cs) = true := by
  unfold delimiter
  split <;> decide

/-- Between printable quotes stand the printable escapes of the elements. -/
theorem isPrintable_of_mem_between {α : Type} {quote x : Char} {escape : α → List Char}
    {items : List α} (plain : isPrintable quote = true)
    (escapes : ∀ item, x ∈ escape item → isPrintable x = true)
    (here : x ∈ quote :: (items.flatMap escape ++ [quote])) : isPrintable x = true := by
  rcases List.mem_cons.mp here with rfl | here
  · exact plain
  · rcases List.mem_append.mp here with inside | last
    · obtain ⟨item, -, escaped⟩ := List.mem_flatMap.mp inside
      exact escapes item escaped
    · obtain rfl := List.mem_singleton.mp last
      exact plain

/-- Whatever a text holds, its shown form is printable. -/
theorem printable_quote (s : String) : Printable (quote s) := by
  have plain := isPrintable_delimiter s.toList
  refine printable_ofList.mpr fun x here => ?_
  exact isPrintable_of_mem_between plain (fun _ => isPrintable_of_mem_escapeChar plain) here

theorem printable_quotedBytes (bs : List UInt8) : Printable (String.ofList (quotedBytes bs)) := by
  have plain := isPrintable_delimiter (bs.map fun b => Char.ofNat b.toNat)
  refine printable_ofList.mpr fun x here => ?_
  rcases List.mem_cons.mp here with rfl | here
  · decide
  · exact isPrintable_of_mem_between plain (fun _ => isPrintable_of_mem_escapeByte plain) here

end CloudClient.Text

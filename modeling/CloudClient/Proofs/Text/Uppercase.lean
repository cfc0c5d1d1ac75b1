import CloudClient.Text.Uppercase

namespace CloudClient.Text

/-!
# Upper-case forms in ASCII

* `forall_ascii` — a property of every ASCII character, by a check of each;
* `upperChar_cases` — the upper-case form of a character is several characters, or one;
* `ascii_of_upperChar` — one character of ASCII is the upper-case form of an ASCII character, or of
  one of two others.
-/

/-- A property of every ASCII character, checked one after the other. -/
theorem forall_ascii {P : Char → Prop} (check : ∀ n < 128, P (Char.ofNat n)) {c : Char}
    (low : c.toNat < 128) : P c := by
  have here := check c.toNat low
  rwa [Char.ofNat_toNat] at here

/-- Beyond ASCII the ASCII mapping changes nothing. -/
theorem toUpper_of_not_ascii {c : Char} (high : ¬ c.toNat < 128) : c.toUpper = c := by
  have outside : ¬ ('a'.val ≤ c.val ∧ c.val ≤ 'z'.val) := by
    rintro ⟨-, le⟩
    have : c.toNat ≤ 122 := UInt32.le_iff_toNat_le.mp le
    omega
  exact dif_neg outside

theorem upperChar_of_ascii {c : Char} (low : c.toNat < 128) : upperChar c = [c.toUpper] :=
  if_pos low

/-- The rows of the table have two characters or more. -/
theorem length_ne_one_of_mem_expansions : ∀ row ∈ expansions, row.2.length ≠ 1 := by
  decide

/-- The upper-case form of a character is several characters from the table, or one. -/
theorem upperChar_cases (c : Char) :
    (∃ row ∈ expansions, row.1 = c.toNat ∧ upperChar c = row.2.map Char.ofNat) ∨
      ∃ d, upperChar c = [d] := by
  by_cases low : c.toNat < 128
  · exact .inr ⟨_, upperChar_of_ascii low⟩
  unfold upperChar
  rw [if_neg low]
  split
  · rename_i row found
    have key := List.find?_some found
    exact .inl ⟨row, List.mem_of_find?_eq_some found, by simpa using key, rfl⟩
  · split
    · exact .inr ⟨_, rfl⟩
    · exact .inr ⟨c, rfl⟩

/-- Two runs of one character each lead into ASCII.  All others stay beyond it, and among the code
    points of characters. -/
theorem shifts_cases : ∀ s ∈ shifts,
    (s.first = 0x131 ∧ s.last = 0x131 ∧ s.target = 0x49) ∨
    (s.first = 0x17f ∧ s.last = 0x17f ∧ s.target = 0x53) ∨
    0x80 ≤ s.target ∧ (s.target + (s.last - s.first) < 0xd800 ∨
      0xdfff < s.target ∧ s.target + (s.last - s.first) < 0x110000) := by
  decide +kernel

/-- One character of ASCII is the upper-case form of a character of ASCII, of the dotless i, or of
    the long s. -/
theorem ascii_of_upperChar {c d : Char} (one : upperChar c = [d]) (low : d.toNat < 128) :
    (c.toNat < 128 ∧ d = c.toUpper) ∨ (c = '\u0131' ∧ d = 'I') ∨ (c = '\u017f' ∧ d = 'S') := by
  by_cases ascii : c.toNat < 128
  · rw [upperChar_of_ascii ascii] at one
    exact .inl ⟨ascii, (List.singleton_inj.mp one).symm⟩
  right
  unfold upperChar at one
  rw [if_neg ascii] at one
  split at one
  · rename_i row found
    have several := length_ne_one_of_mem_expansions row (List.mem_of_find?_eq_some found)
    exact absurd (by simpa using congrArg List.length one) several
  split at one
  · rename_i s found
    have covers : s.covers c.toNat = true :=
      List.find?_some (p := fun s : Shift => s.covers c.toNat) found
    simp only [Shift.covers, Bool.and_eq_true, decide_eq_true_eq] at covers
    obtain ⟨⟨first, last⟩, -⟩ := covers
    obtain rfl : Char.ofNat (s.apply c.toNat) = d := List.singleton_inj.mp one
    unfold Shift.apply at low ⊢
    rcases shifts_cases s (List.mem_of_find?_eq_some found) with
      ⟨front, back, target⟩ | ⟨front, back, target⟩ | ⟨beyond, valid⟩
    · have here : c.toNat = 0x131 := by omega
      exact .inl ⟨Char.toNat_inj.mp here, by rw [here, front, target]⟩
    · have here : c.toNat = 0x17f := by omega
      exact .inr ⟨Char.toNat_inj.mp here, by rw [here, front, target]⟩
    · -- The code point is that of a character, so no other one takes its place.
      have code : (s.target + (c.toNat - s.first)).isValidChar := by
        unfold Nat.isValidChar
        omega
      have form : (Char.ofNat (s.target + (c.toNat - s.first))).toNat
          = s.target + (c.toNat - s.first) := by
        rw [Char.ofNat, dif_pos code]
        rfl
      omega
  · obtain rfl := List.singleton_inj.mp one
    exact absurd low ascii

end CloudClient.Text

import CloudClient.Proofs.Text.Blank
import CloudClient.Proofs.Text.Uppercase
import CloudClient.Wire.Format
import Mathlib.Data.List.Forall2

namespace CloudClient

open Text

/-!
# Typed names of formats

Which texts name a format.

* `underscored`, `folded` — a character of a typed name as the format names spell it, after the
  upper case of all characters or of those in ASCII;
* `StandsFor` — a typed character that is taken for a character of a name;
* `map_upperChar_eq_iff`, `map_upper_eq_iff` — the upper-case form of a typed text is a name exactly
  if its characters stand for those of the name, one by one;
* `WireFormat.ofName?_eq_some_iff_standsFor` — the same of a typed name;
* `WireFormat.ofName?_of_folded`, `WireFormat.ofName?_surrounded` — spellings that the look-up does
  not tell apart;
* `typed_name_found_iff` — all this together.
-/

/-- An underscore for a hyphen. -/
def underscored (c : Char) : Char := if c = '-' then '_' else c

/-- A letter of ASCII in upper case, and an underscore for a hyphen. -/
def folded (c : Char) : Char := underscored c.toUpper

/-- The typed character is taken for the character of a name: it is the same, or the letter in lower
    case, or a hyphen for an underscore, or one of two other characters whose upper-case forms are
    letters of ASCII. -/
inductive StandsFor : Char → Char → Prop where
  | same (x : Char) : StandsFor x x
  | lower (x : Char) : StandsFor x.toLower x
  | hyphen : StandsFor '-' '_'
  | dotlessI : StandsFor '\u0131' 'I'
  | longS : StandsFor '\u017f' 'S'

theorem standsFor_iff {c x : Char} : StandsFor c x ↔ c = x ∨ c = x.toLower ∨ (c = '-' ∧ x = '_') ∨
    (c = '\u0131' ∧ x = 'I') ∨ (c = '\u017f' ∧ x = 'S') := by
  constructor
  · rintro (_ | _ | _ | _ | _) <;> simp
  · rintro (rfl | rfl | ⟨rfl, rfl⟩ | ⟨rfl, rfl⟩ | ⟨rfl, rfl⟩)
    exacts [.same c, .lower x, .hyphen, .dotlessI, .longS]

instance : DecidableRel StandsFor := fun _ _ => decidable_of_iff _ standsFor_iff.symm

/-- The character can occur in a name: it is in ASCII, no small letter and no hyphen. -/
def IsNameChar (x : Char) : Prop := x.toNat < 128 ∧ x.toUpper = x ∧ x ≠ '-'

/-! ### Single characters -/

section

variable {c x : Char}

theorem underscored_of_ne (other : x ≠ '-') : underscored x = x := if_neg other

/-- Beyond ASCII every character is left as it is. -/
theorem folded_of_not_ascii (high : ¬ c.toNat < 128) : folded c = c := by
  have other : c ≠ '-' := by
    rintro rfl
    exact high (by decide)
  rw [folded, toUpper_of_not_ascii high, underscored_of_ne other]

/-- In ASCII only the two cases of a letter have one upper-case form. -/
theorem eq_or_eq_toLower {d : Char} (low : c.toNat < 128) (capital : d = c.toUpper) :
    c = d ∨ c = d.toLower := by
  subst capital
  exact forall_ascii (P := fun c => c = c.toUpper ∨ c = c.toUpper.toLower) (by decide) low

/-- A small letter and its capital have one upper-case form. -/
theorem upperChar_toLower (named : IsNameChar x) : upperChar x.toLower = [x] := by
  obtain ⟨low, upper, -⟩ := named
  have lower : x.toLower.toNat < 128 ∧ x.toLower.toUpper = x.toUpper :=
    forall_ascii (P := fun x => x.toLower.toNat < 128 ∧ x.toLower.toUpper = x.toUpper)
      (by decide) low
  rw [upperChar_of_ascii lower.1, lower.2, upper]

/-- Exactly the characters that stand for a character of a name turn into it. -/
theorem map_upperChar_eq_iff (named : IsNameChar x) :
    (upperChar c).map underscored = [x] ↔ StandsFor c x := by
  obtain ⟨low, upper, other⟩ := named
  constructor
  · intro turns
    obtain ⟨d, one, form⟩ := List.map_eq_singleton_iff.mp turns
    by_cases hyphen : d = '-'
    · subst hyphen
      obtain rfl : '_' = x := form
      rcases ascii_of_upperChar one (by decide) with ⟨ascii, capital⟩ | ⟨-, wrong⟩ | ⟨-, wrong⟩
      · rcases eq_or_eq_toLower ascii capital with rfl | rfl <;> exact .hyphen
      all_goals exact absurd wrong (by decide)
    · obtain rfl : d = x := (underscored_of_ne hyphen).symm.trans form
      rcases ascii_of_upperChar one low with ⟨ascii, capital⟩ | ⟨rfl, rfl⟩ | ⟨rfl, rfl⟩
      · rcases eq_or_eq_toLower ascii capital with rfl | rfl
        · exact .same c
        · exact .lower d
      · exact .dotlessI
      · exact .longS
  · rintro (_ | _ | _ | _ | _)
    · rw [upperChar_of_ascii low, upper]
      exact congrArg (fun y => [y]) (underscored_of_ne other)
    · rw [upperChar_toLower ⟨low, upper, other⟩]
      exact congrArg (fun y => [y]) (underscored_of_ne other)
    all_goals decide +kernel

/-- A look-up tells neither the two cases of a letter nor a hyphen and an underscore apart. -/
theorem map_upperChar_folded (c : Char) :
    (upperChar (folded c)).map underscored = (upperChar c).map underscored := by
  by_cases low : c.toNat < 128
  · exact forall_ascii (P := fun c => (upperChar (folded c)).map underscored
      = (upperChar c).map underscored) (by decide +kernel) low
  · rw [folded_of_not_ascii low]

/-- A blank is its own upper-case form, or at least has one of one character. -/
theorem length_upperChar_of_isBlank (blank : isBlank c = true) : (upperChar c).length = 1 := by
  have visible : ∀ row ∈ expansions, isBlank (Char.ofNat row.1) = false := by decide +kernel
  rcases upperChar_cases c with ⟨row, mem, key, -⟩ | ⟨d, one⟩
  · have other := visible row mem
    rw [key, Char.ofNat_toNat, blank] at other
    exact absurd other (by decide)
  · rw [one]
    rfl

theorem isBlank_folded (c : Char) : isBlank (folded c) = isBlank c := by
  by_cases low : c.toNat < 128
  · exact forall_ascii (P := fun c => isBlank (folded c) = isBlank c) (by decide +kernel) low
  · rw [folded_of_not_ascii low]

end

/-! ### Texts -/

/-- A text turns into a name exactly if its characters stand for those of the name, one by one.  In
    the name none of the characters may stand together that one character turns into. -/
theorem map_upper_eq_iff {cs name : List Char} (named : ∀ x ∈ name, IsNameChar x)
    (apart : ∀ row ∈ expansions, ¬ (row.2.map Char.ofNat).map underscored <:+: name) :
    (upper cs).map underscored = name ↔ List.Forall₂ StandsFor cs name := by
  induction cs generalizing name with
  | nil => rw [List.forall₂_nil_left_iff, upper_nil, List.map_nil, eq_comm]
  | cons c cs ih =>
    rw [upper_cons, List.map_append]
    rcases upperChar_cases c with ⟨row, mem, -, several⟩ | ⟨d, one⟩
    · refine iff_of_false ?_ ?_
      · rintro rfl
        refine apart row mem ?_
        rw [several]
        exact (List.prefix_append _ _).isInfix
      · rintro (_ | ⟨stands, -⟩)
        have one := congrArg List.length ((map_upperChar_eq_iff (named _ (by simp))).mpr stands)
        rw [several] at one
        exact length_ne_one_of_mem_expansions row mem (by simpa using one)
    · cases name with
      | nil => simp [one]
      | cons x name =>
        have tail := ih (fun y mem => named y (List.mem_cons_of_mem x mem)) fun row mem inside =>
          apart row mem (inside.trans (List.suffix_cons x name).isInfix)
        rw [List.forall₂_cons, ← tail, ← map_upperChar_eq_iff (named x (by simp)), one]
        simp

namespace WireFormat

/-- The names of the formats are in capitals, digits and underscores. -/
theorem isNameChar_of_mem_name (F : WireFormat) : ∀ x ∈ F.name.toList, IsNameChar x := by
  have checked :
      F.name.toList.all (fun x => x.toNat < 128 && x.toUpper == x && x != '-') = true := by
    cases F <;> decide
  intro x mem
  simpa [IsNameChar, and_assoc] using List.all_eq_true.mp checked x mem

/-- No characters stand together in the name of a format that one character turns into. -/
theorem not_isInfix_name (F : WireFormat) : ∀ row ∈ expansions,
    ¬ (row.2.map Char.ofNat).map underscored <:+: F.name.toList := by
  cases F <;> decide +kernel

variable {s t : String} {F : WireFormat}

/-- A typed name is one of a format exactly if its characters, without the blanks around them, stand
    for those of the format's name. -/
theorem ofName?_eq_some_iff_standsFor :
    ofName? s = some F ↔ List.Forall₂ StandsFor (trimBlank s.toList) F.name.toList := by
  rw [ofName?_eq_some_iff]
  exact map_upper_eq_iff F.isNameChar_of_mem_name F.not_isInfix_name

/-- Nothing that stands for a character of a name is blank. -/
theorem not_isBlank_of_standsFor {c x : Char} (mem : x ∈ F.name.toList) (stands : StandsFor c x) :
    isBlank c = false := by
  have checked : F.name.toList.all (fun y => !isBlank y && !isBlank y.toLower) = true := by
    cases F <;> decide +kernel
  have visible : isBlank x = false ∧ isBlank x.toLower = false := by
    simpa using List.all_eq_true.mp checked x mem
  cases stands with
  | same _ => exact visible.1
  | lower _ => exact visible.2
  | hyphen | dotlessI | longS => decide +kernel

/-- Each character of a typed name stands for one of the format's name. -/
theorem exists_standsFor (found : ofName? s = some F) {c : Char} (mem : c ∈ trimBlank s.toList) :
    ∃ x ∈ F.name.toList, StandsFor c x := by
  have stands := ofName?_eq_some_iff_standsFor.mp found
  obtain ⟨i, bound, rfl⟩ := List.getElem_of_mem mem
  have bound' := stands.length_eq ▸ bound
  exact ⟨_, List.getElem_mem bound', stands.get bound bound'⟩

/-- In a typed name no character turns into several. -/
theorem length_upperChar_of_found (found : ofName? s = some F) {c : Char} (mem : c ∈ s.toList) :
    (upperChar c).length = 1 := by
  by_cases blank : isBlank c = true
  · exact length_upperChar_of_isBlank blank
  · obtain ⟨front, back, whole, before, behind⟩ := exists_around_trimBlank s.toList
    rw [whole, List.mem_append, List.mem_append] at mem
    rcases mem with (mem | mem) | mem
    · exact absurd (before c mem) blank
    · obtain ⟨x, named, stands⟩ := exists_standsFor found mem
      simpa using congrArg List.length
        ((map_upperChar_eq_iff (F.isNameChar_of_mem_name x named)).mpr stands)
    · exact absurd (behind c mem) blank

/-- The look-up sees a name only in the spelling of the format names. -/
theorem ofName?_congr (same : normalizeName s.toList = normalizeName t.toList) :
    ofName? s = ofName? t := by
  unfold ofName?
  rw [same]

/-- It does not tell the two cases of a letter in ASCII apart, nor hyphens and underscores. -/
theorem ofName?_of_folded (alike : s.toList.map folded = t.toList.map folded) :
    ofName? s = ofName? t := by
  have normal (u : String) : normalizeName u.toList = normalizeName (u.toList.map folded) := by
    show ((trimBlank u.toList).flatMap upperChar).map underscored
      = ((trimBlank (u.toList.map folded)).flatMap upperChar).map underscored
    rw [trimBlank_map isBlank_folded, List.map_flatMap, List.map_flatMap, List.flatMap_map]
    simp only [map_upperChar_folded]
  exact ofName?_congr (by rw [normal s, alike, ← normal t])

/-- It does not see blanks around a name. -/
theorem ofName?_surrounded {front back : String} (before : ∀ c ∈ front.toList, isBlank c = true)
    (behind : ∀ c ∈ back.toList, isBlank c = true) : ofName? (front ++ s ++ back) = ofName? s := by
  refine ofName?_congr ?_
  rw [String.toList_append, String.toList_append, normalizeName,
    trimBlank_surrounded _ before behind]
  rfl

end WireFormat

/-- A typed name is the one of a format exactly if, without the blanks around it, it is as long as
    the format's name and each of its characters is the one at this place in the name, or its small
    letter, or a hyphen for an underscore, or the dotless i for `I`, or the long s for `S`.  So it
    is no name with a character that has an upper-case form of several letters, or with a blank
    inside, and for the look-up the case of letters in ASCII, the choice of hyphens or underscores,
    and blanks around the name do not matter. -/
theorem typed_name_found_iff (s : String) :
    (∀ F, WireFormat.ofName? s = some F ↔
      List.Forall₂ StandsFor (trimBlank s.toList) F.name.toList) ∧
    (WireFormat.ofName? s = none ↔
      ∀ F : WireFormat, ¬ List.Forall₂ StandsFor (trimBlank s.toList) F.name.toList) ∧
    ((∃ c ∈ s.toList, (upperChar c).length ≠ 1) → WireFormat.ofName? s = none) ∧
    ((∃ c ∈ trimBlank s.toList, isBlank c = true) → WireFormat.ofName? s = none) ∧
    (∀ t : String, t.toList.map folded = s.toList.map folded →
      WireFormat.ofName? t = WireFormat.ofName? s) ∧
    ∀ front back : String, (∀ c ∈ front.toList, isBlank c = true) →
      (∀ c ∈ back.toList, isBlank c = true) →
        WireFormat.ofName? (front ++ s ++ back) = WireFormat.ofName? s := by
  refine ⟨fun F => WireFormat.ofName?_eq_some_iff_standsFor, ?_, ?_, ?_, ?_, ?_⟩
  · simp only [Option.eq_none_iff_forall_ne_some, ne_eq, WireFormat.ofName?_eq_some_iff_standsFor]
  · rintro ⟨c, mem, several⟩
    rw [Option.eq_none_iff_forall_ne_some]
    exact fun F found => several (WireFormat.length_upperChar_of_found found mem)
  · rintro ⟨c, mem, blank⟩
    rw [Option.eq_none_iff_forall_ne_some]
    intro F found
    obtain ⟨x, named, stands⟩ := WireFormat.exists_standsFor found mem
    exact absurd blank (by simp [WireFormat.not_isBlank_of_standsFor named stands])
  · exact fun t alike => WireFormat.ofName?_of_folded alike
  · exact fun front back before behind => WireFormat.ofName?_surrounded before behind

/-- With a hyphen, a long s and blanks beyond ASCII around it a name is found.  With a sharp s for
    its last letter, or with a space inside, none is. -/
theorem typed_name_found_with_long_s :
    WireFormat.ofName? "\u2003iso8601-\u017feconds\x85" = some .iso8601Seconds ∧
      WireFormat.ofName? "iso8601-second\u00df" = none ∧ WireFormat.ofName? "rfc 822" = none := by
  obtain ⟨found, -⟩ := typed_name_found_iff "\u2003iso8601-\u017feconds\x85"
  obtain ⟨-, -, several, -⟩ := typed_name_found_iff "iso8601-second\u00df"
  obtain ⟨-, -, -, blank, -⟩ := typed_name_found_iff "rfc 822"
  refine ⟨(found .iso8601Seconds).mpr (by decide +kernel), several ⟨'\u00df', ?_, ?_⟩,
    blank ⟨' ', ?_, ?_⟩⟩
  all_goals decide +kernel

end CloudClient

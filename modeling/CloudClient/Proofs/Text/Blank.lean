import CloudClient.Text.Blank
import Mathlib.Data.List.TakeWhile

namespace CloudClient.Text

/-!
# Blanks at the ends of a text

* `exists_around_trimBlank` — what is trimmed off;
* `trimBlank_surrounded` — blanks around a text do not matter;
* `trimBlank_map` — trimming commutes with a mapping that leaves blanks blank, and no others.
-/

/-- What is trimmed off are blanks. -/
theorem exists_around_trimBlank (cs : List Char) :
    ∃ front back, cs = front ++ trimBlank cs ++ back ∧
      (∀ c ∈ front, isBlank c = true) ∧ ∀ c ∈ back, isBlank c = true := by
  have front : cs.takeWhile isBlank ++ cs.dropWhile isBlank = cs := List.takeWhile_append_dropWhile
  have back := List.takeWhile_append_dropWhile (p := isBlank) (l := (cs.dropWhile isBlank).reverse)
  refine ⟨cs.takeWhile isBlank, ((cs.dropWhile isBlank).reverse.takeWhile isBlank).reverse, ?_,
    fun c mem => List.mem_takeWhile_imp mem,
    fun c mem => List.mem_takeWhile_imp (List.mem_reverse.mp mem)⟩
  rw [List.append_assoc, trimBlank, ← List.reverse_append, back, List.reverse_reverse, front]

/-- Blanks around a text do not matter. -/
theorem trimBlank_surrounded {front back : List Char} (cs : List Char)
    (before : ∀ c ∈ front, isBlank c = true) (behind : ∀ c ∈ back, isBlank c = true) :
    trimBlank (front ++ cs ++ back) = trimBlank cs := by
  have skipped : front.dropWhile isBlank = [] := List.dropWhile_eq_nil_iff.mpr before
  have gone : back.dropWhile isBlank = [] := List.dropWhile_eq_nil_iff.mpr behind
  have stripped : back.reverse.dropWhile isBlank = [] :=
    List.dropWhile_eq_nil_iff.mpr fun c mem => behind c (List.mem_reverse.mp mem)
  unfold trimBlank
  rw [List.append_assoc, List.dropWhile_append, skipped, List.isEmpty_nil, if_pos rfl,
    List.dropWhile_append]
  -- A text of blanks alone is skipped to its end, and the blanks behind it with it.
  split
  next blank => rw [gone, List.isEmpty_iff.mp blank]
  next =>
    rw [List.reverse_append, List.dropWhile_append, stripped, List.isEmpty_nil, if_pos rfl]

/-- Trimming commutes with a mapping that leaves blanks blank, and no others. -/
theorem trimBlank_map {f : Char → Char} (keeps : ∀ c, isBlank (f c) = isBlank c) (cs : List Char) :
    trimBlank (cs.map f) = (trimBlank cs).map f := by
  have same : isBlank ∘ f = isBlank := funext keeps
  unfold trimBlank
  rw [List.dropWhile_map, same, ← List.map_reverse, List.dropWhile_map, same, List.map_reverse]

end CloudClient.Text

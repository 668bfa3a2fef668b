import Hashmark.Proofs.Source.Lossless

/-!
# Lines and offsets

The lines of a source make it up (`flatten_lines`), and text behind a line end begins lines of its
own (`lines_append`). So the offset of a place is the length of the lines before its row and its
column (`offsetOf_eq`), and it moves by the length of what is put in front of the source
(`offsetOf_append`).
-/

namespace Hashmark.Source

/-- Text that follows begins a line. -/
def EndsLine (text : List Char) : Prop :=
  text = [] ∨ text.getLast? = some '\n'

/-- A line end ends a line. -/
theorem endsLine_concat (line : List Char) : EndsLine (line ++ ['\n']) :=
  .inr List.getLast?_concat

/-- The lines of a text make it up. -/
theorem flatten_lines (text : List Char) : (lines text).flatten = text := by
  induction text with
  | nil => rfl
  | cons c cs ih =>
    rw [lines]
    split
    · rw [List.flatten_cons, ih]
      rfl
    · cases hcs : lines cs with
      | nil =>
        rw [hcs] at ih
        rw [← ih]
        rfl
      | cons line rest =>
        rw [hcs] at ih
        rw [← ih]
        rfl

/-- A text without lines is empty. -/
theorem lines_eq_nil {text : List Char} (h : lines text = []) : text = [] := by
  rw [← flatten_lines text, h]
  rfl

/-- Behind a line end the lines are those of the rest. -/
theorem EndsLine.of_cons {c : Char} {cs : List Char} (h : EndsLine (c :: cs)) :
    EndsLine cs ∧ (c ≠ '\n' → cs ≠ []) := by
  obtain h | h := h
  · cases h
  cases cs with
  | nil =>
    refine ⟨.inl rfl, fun hc => absurd ?_ hc⟩
    simpa using h
  | cons d ds => exact ⟨.inr (by simpa using h), fun _ => List.cons_ne_nil d ds⟩

/-- Text behind the end of a line begins lines of its own. -/
theorem lines_append {before : List Char} (h : EndsLine before) (after : List Char) :
    lines (before ++ after) = lines before ++ lines after := by
  induction before with
  | nil => rfl
  | cons c cs ih =>
    obtain ⟨hends, hne⟩ := h.of_cons
    rw [List.cons_append, lines, lines, ih hends]
    by_cases hc : c = '\n'
    · rw [if_pos hc, if_pos hc, List.cons_append]
    · rw [if_neg hc, if_neg hc]
      cases hlines : lines cs with
      | nil => exact absurd (lines_eq_nil hlines) (hne hc)
      | cons line rest => rfl

/-- A line with its end is one line. -/
theorem lines_line {line : List Char} (h : '\n' ∉ line) :
    lines (line ++ ['\n']) = [line ++ ['\n']] := by
  induction line with
  | nil => rfl
  | cons c cs ih =>
    have hc : c ≠ '\n' := fun hc => h (hc ▸ List.mem_cons_self)
    rw [List.cons_append, lines, if_neg hc, ih fun hmem => h (List.mem_cons_of_mem c hmem)]

/-- The offsets that are added for lines. -/
theorem foldl_offsets (rows : List (List Char)) (offsets : Array Nat) (total : Nat) :
    (rows.foldl (fun (offsets, total) line =>
        (offsets.push (total + line.length), total + line.length)) (offsets, total)).1.toList =
      offsets.toList ++
        (List.range rows.length).map fun i => total + (rows.take (i + 1)).flatten.length := by
  induction rows generalizing offsets total with
  | nil => simp
  | cons line rows ih =>
    rw [List.foldl_cons, ih, Array.toList_push, List.append_assoc, List.length_cons,
      List.range_succ_eq_map, List.map_cons, List.map_map]
    congr 1
    simp only [List.singleton_append, List.take_succ_cons, List.flatten_cons, List.length_append,
      List.take_zero, List.flatten_nil, List.length_nil, Function.comp_def, Nat.add_assoc,
      Nat.add_zero, Nat.succ_eq_add_one]

/-- The offsets of the lines of a source are the lengths of the lines before them. -/
theorem toList_lineOffsets (source : List Char) :
    (lineOffsets source).toList =
      (List.range ((lines source).length + 1)).map fun i =>
        ((lines source).take i).flatten.length := by
  rw [lineOffsets, foldl_offsets, List.range_succ_eq_map, List.map_cons, List.map_map]
  simp only [Nat.zero_add]
  rfl

/-- The offset of a place is the length of the lines before its row, and its column, as far as the
source goes. -/
theorem offsetOf_eq (source : List Char) (place : Place) :
    offsetOf (lineOffsets source) source.length place =
      min (((lines source).take (place.row - 1)).flatten.length + place.column) source.length := by
  have hsize : (lineOffsets source).size = (lines source).length + 1 := by
    rw [← Array.length_toList, toList_lineOffsets, List.length_map, List.length_range]
  have hget : (lineOffsets source).getD (min (place.row - 1) ((lineOffsets source).size - 1)) 0 =
      ((lines source).take (place.row - 1)).flatten.length := by
    have hin : min (place.row - 1) (lines source).length < (lines source).length + 1 :=
      Nat.lt_succ_of_le (Nat.min_le_right _ _)
    rw [hsize, Nat.add_sub_cancel, Array.getD_eq_getD_getElem?, ← Array.getElem?_toList,
      toList_lineOffsets, List.getElem?_map, List.getElem?_range hin]
    show ((lines source).take (min (place.row - 1) (lines source).length)).flatten.length = _
    rw [← List.take_eq_take_min]
  rw [offsetOf, hget]

/-- A source with text in front of it that ends a line: the offset of a place as many rows further
down as there are lines in front. -/
theorem offsetOf_append {before : List Char} (h : EndsLine before) (after : List Char)
    {place : Place} (hrow : 1 ≤ place.row) :
    offsetOf (lineOffsets (before ++ after)) (before ++ after).length
        ⟨place.row + (lines before).length, place.column⟩ =
      before.length + offsetOf (lineOffsets after) after.length place := by
  have hrows : place.row + (lines before).length - 1 =
      (lines before).length + (place.row - 1) := by omega
  rw [offsetOf_eq, offsetOf_eq, lines_append h, hrows, List.take_length_add_append,
    List.flatten_append, List.length_append, List.length_append, flatten_lines, Nat.add_assoc,
    Nat.add_min_add_left]

end Hashmark.Source

import Hashmark.Path
import Hashmark.Proofs.Text.Separate

/-!
# Names along paths

A path is read from a text as the names between the slashes. What stands behind the last slash is
the last name (`names_ofText_append`), so that names that go on without a slash are told apart by
the paths that they make (`child_append_inj`).
-/

namespace Hashmark.Path

/-- What goes on without a slash, and is longer than a full stop, is the end of the last name. -/
theorem names_ofText_append (cs : List Char) :
    ∃ before last, ∀ rest, '/' ∉ rest → 2 ≤ rest.length →
      (ofText (String.ofList (cs ++ rest))).names = before ++ [String.ofList (last ++ rest)] := by
  obtain ⟨before, last, hfields⟩ := Text.fields_append '/' cs
  refine ⟨(before.map String.ofList).filter fun name => name != "" && name != ".", last,
    fun rest hslash hlength => ?_⟩
  have hkept : (String.ofList (last ++ rest) != "" && String.ofList (last ++ rest) != ".") = true := by
    have hne : ∀ text : String, text.toList.length < 2 → String.ofList (last ++ rest) ≠ text := by
      rintro text htext rfl
      rw [String.toList_ofList, List.length_append] at htext
      omega
    simp only [Bool.and_eq_true, bne_iff_ne]
    exact ⟨hne "" (by decide), hne "." (by decide)⟩
  simp only [ofText, String.toList_ofList]
  rw [hfields rest hslash, List.map_append, List.filter_append]
  congr 1
  exact List.filter_cons_of_pos hkept

/-- Names that go on without a slash are told apart by the paths that they make in a directory. -/
theorem child_append_inj {directory : Path} {start : String} {one other : String}
    (h : '/' ∉ one.toList) (h' : '/' ∉ other.toList) (hlength : 2 ≤ one.toList.length)
    (hlength' : 2 ≤ other.toList.length)
    (hsame : directory.child (start ++ one) = directory.child (start ++ other)) : one = other := by
  obtain ⟨before, last, hnames⟩ := names_ofText_append start.toList
  have hlast : ∀ text : String, '/' ∉ text.toList → 2 ≤ text.toList.length →
      (directory.child (start ++ text)).names.getLast? = some (String.ofList (last ++ text.toList)) := by
    intro text htext hlong
    have hof := hnames text.toList htext hlong
    rw [← String.toList_append, String.ofList_toList] at hof
    rw [child, join]
    split
    · rw [hof, List.getLast?_append]
      rfl
    · rw [hof]
      simp
  have hboth := (hlast one h hlength).symm.trans ((congrArg (·.names.getLast?) hsame).trans
    (hlast other h' hlength'))
  have hlist := congrArg String.toList (Option.some.inj hboth)
  rw [String.toList_ofList, String.toList_ofList] at hlist
  exact String.toList_injective (List.append_cancel_left hlist)

/-- The path of a name in a directory, taken as it is. -/
def entry (directory : Path) (name : String) : Path :=
  ⟨directory.root, directory.names ++ [name]⟩

/-- A text without a slash is read as one name, unless it carries no meaning. -/
theorem ofText_of_name {name : String} (hslash : '/' ∉ name.toList) (hempty : name ≠ "")
    (hstop : name ≠ ".") : ofText name = ⟨"", [name]⟩ := by
  have htake : (name.toList.takeWhile (· == '/')).length = 0 := by
    cases hcs : name.toList with
    | nil => rfl
    | cons c cs =>
      rw [hcs] at hslash
      have hc : (c == '/') = false := beq_eq_false_iff_ne.2 fun h => hslash (h ▸ List.mem_cons_self)
      rw [List.takeWhile_cons, hc]
      rfl
  simp only [ofText, htake, Text.fields_of_notMem hslash, List.map_cons, List.map_nil,
    String.ofList_toList, if_true]
  rw [List.filter_cons_of_pos (by simp [hempty, hstop]), List.filter_nil]

/-- A name without a slash is taken as it is, unless it carries no meaning. -/
theorem child_eq_entry (directory : Path) {name : String} (hslash : '/' ∉ name.toList)
    (hempty : name ≠ "") (hstop : name ≠ ".") : directory.child name = directory.entry name := by
  rw [child, ofText_of_name hslash hempty hstop]
  rfl

/-- The text of a name in a directory goes on as the name does. -/
theorem text_entry_append (directory : Path) (name more : String) :
    (directory.entry (name ++ more)).text = (directory.entry name).text ++ more := by
  have hsome : ∀ last : String, (directory.names ++ [last]).isEmpty = false := by
    intro last
    cases directory.names <;> rfl
  simp only [text, entry, hsome, Bool.and_false, Bool.false_eq_true, if_false,
    Text.intercalate_append_last, String.append_assoc]

/-- A name in a directory, from the working directory. -/
theorem absolute_entry (directory here : Path) (name : String) :
    (directory.entry name).absolute here = (directory.absolute here).entry name := by
  unfold absolute join
  by_cases h : directory.isAbsolute = true
  · rw [if_pos h, if_pos (show (directory.entry name).isAbsolute = true from h)]
  · rw [if_neg h, if_neg (show ¬(directory.entry name).isAbsolute = true from h)]
    simp [entry]

/-- Another name in the same directory. -/
theorem withName_entry (directory : Path) (name other : String) :
    (directory.entry name).withName other = directory.entry other := by
  simp [withName, entry]

/-- The last name of a name in a directory. -/
theorem name_entry (directory : Path) (name : String) : (directory.entry name).name = name := by
  simp [Path.name, entry]

/-- A name begins with the part of it before its suffix. -/
theorem splitName_isInitial (name : String) : (splitName name).1.toList <+: name.toList := by
  unfold splitName
  simp only
  split
  · exact List.prefix_refl _
  · rw [String.toList_ofList]
    obtain ⟨rest, hrest, -⟩ := Text.dropTrailing_append (· != '.') name.toList
    exact (List.dropLast_prefix _).trans ⟨rest, hrest.symm⟩

/-- The suffix of a name is what stands from its last full stop on, unless the name begins there. -/
theorem splitName_suffix (base : String) {rest : List Char} (hstop : '.' ∉ rest) (hrest : rest ≠ []) :
    (splitName (base ++ String.ofList ('.' :: rest))).2 =
      if base = "" then "" else String.ofList ('.' :: rest) := by
  have hlist : (base ++ String.ofList ('.' :: rest)).toList = (base.toList ++ ['.']) ++ rest := by
    simp
  have hkind : ∀ c ∈ rest, (c != '.') = true := by
    intro c hc
    simpa using fun heq : c = '.' => hstop (heq ▸ hc)
  have hdrop : Text.dropTrailing (· != '.') (base ++ String.ofList ('.' :: rest)).toList =
      base.toList ++ ['.'] := by
    rw [hlist]
    exact Text.dropTrailing_append_of_last hkind (by simp)
  have hsuffix : (base ++ String.ofList ('.' :: rest)).toList.drop base.toList.length =
      '.' :: rest := by
    rw [hlist, List.append_assoc, List.drop_left]
    rfl
  have hlength : ¬('.' :: rest).length < 2 := by
    have hpos := List.length_pos_iff.2 hrest
    rw [List.length_cons]
    omega
  simp only [splitName, hdrop, List.dropLast_concat, hsuffix, Bool.or_eq_true,
    List.isEmpty_iff, decide_eq_true_eq]
  by_cases hbase : base = ""
  · rw [if_pos hbase, if_pos (.inl (by rw [hbase]; rfl))]
  · have hne : base.toList ≠ [] := fun hnil => hbase (String.toList_injective (by simpa using hnil))
    rw [if_neg hbase, if_neg (not_or.2 ⟨hne, hlength⟩)]

/-- The last name of a path that is read from a text has no slash. -/
theorem slash_notMem_name (text : String) : '/' ∉ (ofText text).name.toList := by
  unfold Path.name
  cases hlast : (ofText text).names.getLast? with
  | none => simp
  | some last =>
    have hmem := List.mem_of_getLast? hlast
    simp only [ofText] at hmem
    obtain ⟨field, hfield, rfl⟩ := List.mem_map.1 (List.mem_filter.1 hmem).1
    rw [Option.getD_some, String.toList_ofList]
    exact Text.notMem_of_mem_fields hfield

/-- Nor has the part of it before its suffix. -/
theorem slash_notMem_stem (text : String) : '/' ∉ (ofText text).stem.toList :=
  fun hmem => slash_notMem_name text ((splitName_isInitial _).subset hmem)

end Hashmark.Path

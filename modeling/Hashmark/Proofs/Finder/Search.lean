import Hashmark.Finder
import Hashmark.Proofs.FileTree.Locate
import Hashmark.Proofs.Path
import Hashmark.Proofs.Text.Identifier
import Mathlib.Data.List.Basic

/-!
# The first module along a search path

A directory holds a module as a package, by the initial file of a directory of that name, or as a
file of that name. What one directory gives is decided by these two files alone, the package first
(`Gives`), and a search gives what the first directory does that does not lack both
(`find_eq_iff_first`). A search along two lists, one behind the other, is therefore a search along
the first and, if that finds nothing, along the second (`find_append`). Only a path that is too long
for the system ends a search without an answer (`find_ne_error`), and it does so even if a later
directory holds the module (`find_too_long`).
-/

namespace Hashmark

/-- A full name consists of a name, possibly behind the names of packages. -/
def EndsInName (fullName name : String) : Prop :=
  fullName = name ∨ ∃ parent, fullName = parent ++ "." ++ name

/-- The last part of a full name is the name behind the last full stop. -/
theorem tailName_eq {fullName name : String} (hstop : '.' ∉ name.toList)
    (h : EndsInName fullName name) : tailName fullName = name := by
  unfold tailName
  obtain rfl | ⟨parent, rfl⟩ := h
  · rw [Text.fields_of_notMem hstop]
    exact String.ofList_toList
  · obtain ⟨first, before, hfields⟩ := Text.exists_fields_append hstop parent.toList
    have hlist : (parent ++ "." ++ name).toList = parent.toList ++ '.' :: name.toList := by simp
    rw [hlist, hfields, List.getLastD_eq_getLast?, List.getLast?_concat]
    exact String.ofList_toList

namespace Finder

/-- The directory of a package in a directory of a search path. -/
def packageDirectory (entry name : String) : Path :=
  (Path.ofText entry).entry name

/-- The initial file of a package in a directory of a search path. -/
def packageFile (entry name : String) : Path :=
  (packageDirectory entry name).entry "__init__.ppy"

/-- The file of a plain module in a directory of a search path. -/
def moduleFile (entry name : String) : Path :=
  (Path.ofText entry).entry (name ++ ".ppy")

/-- Neither file of a module is in a directory, and the paths of both can be looked at. -/
def Lacks (files : FileTree) (name entry : String) : Prop :=
  files.LacksFile (packageFile entry name) ∧ files.LacksFile (moduleFile entry name)

/-- What a directory gives for a full name that ends in a name. -/
inductive Gives (files : FileTree) (fullName name entry : String) : ModuleSpec → Prop
  /-- The package, to be searched for its parts, whether there is a plain module or not. -/
  | package (hfile : files.HasFile (packageFile entry name)) :
    Gives files fullName name entry
      ⟨fullName, packageFile entry name, some (packageDirectory entry name)⟩
  /-- The plain module, without anything to be searched, if there is no package. -/
  | module (hpackage : files.LacksFile (packageFile entry name))
    (hfile : files.HasFile (moduleFile entry name)) :
    Gives files fullName name entry ⟨fullName, moduleFile entry name, none⟩

/-- Why a directory cannot be searched for a name. -/
inductive Refuses (files : FileTree) (name entry : String) (reason : FileError) : Prop
  /-- The file of the package has too long a path. -/
  | package (hlong : files.TooLong (packageFile entry name) reason)
  /-- There is no package, and the file of the plain module has too long a path. -/
  | module (hpackage : files.LacksFile (packageFile entry name))
    (hlong : files.TooLong (moduleFile entry name) reason)

/-- The first directory of a search path that does not lack a module is one with a property. -/
def First (files : FileTree) (name : String) (entries : List (Option String))
    (P : String → Prop) : Prop :=
  ∃ before entry after, entries = before ++ some entry :: after ∧
    (∀ other, some other ∈ before → Lacks files name other) ∧ P entry

section

variable {files : FileTree} {fullName name : String}

/-- An identifier is the name of the directory of a package. -/
theorem child_eq_packageDirectory (hname : Text.isIdentifier name.toList = true) (entry : String) :
    (Path.ofText entry).child name = packageDirectory entry name := by
  have hslash : '/' ∉ name.toList := Text.notMem_identifier rfl rfl hname
  have hstop : '.' ∉ name.toList := Text.notMem_identifier rfl rfl hname
  refine Path.child_eq_entry _ hslash ?_ ?_
  · rintro rfl
    cases hname
  · rintro rfl
    exact hstop (by decide)

/-- An identifier with the suffix of sources is the name of the file of a plain module. -/
theorem child_eq_moduleFile (hname : Text.isIdentifier name.toList = true) (entry : String) :
    (Path.ofText entry).child (name ++ sourceSuffix) = moduleFile entry name := by
  have hslash : '/' ∉ name.toList := Text.notMem_identifier rfl rfl hname
  have hlong : ∀ text : String, text.length < 4 → name ++ sourceSuffix ≠ text := by
    rintro text htext rfl
    have hlength : sourceSuffix.length = 4 := by decide
    rw [String.length_append] at htext
    omega
  refine Path.child_eq_entry _ ?_ (hlong "" (by decide)) (hlong "." (by decide))
  rw [String.toList_append, List.mem_append, not_or]
  exact ⟨hslash, by decide⟩

/-- A directory is searched for the package first and for the plain module after it. -/
theorem findIn_eq (hname : Text.isIdentifier name.toList = true) (h : EndsInName fullName name)
    (entry : String) :
    findIn files fullName entry =
      match files.isFile (packageFile entry name), files.isFile (moduleFile entry name) with
      | .error e, _ => .error e
      | .ok true, _ => .ok (some ⟨fullName, packageFile entry name,
          some (packageDirectory entry name)⟩)
      | .ok false, .error e => .error e
      | .ok false, .ok true => .ok (some ⟨fullName, moduleFile entry name, none⟩)
      | .ok false, .ok false => .ok none := by
  have hinitial : (packageDirectory entry name).child (packageInit ++ sourceSuffix) =
      packageFile entry name :=
    Path.child_eq_entry _ (by decide) (by decide) (by decide)
  unfold findIn
  rw [tailName_eq (Text.notMem_identifier rfl rfl hname) h]
  simp only
  rw [child_eq_packageDirectory hname, hinitial, child_eq_moduleFile hname]
  -- The plain module is looked at only if there is no package.
  cases files.isFile (packageFile entry name) with
  | error e => rfl
  | ok found =>
    cases found
    · cases files.isFile (moduleFile entry name) with
      | error e => rfl
      | ok found => cases found <;> rfl
    · rfl

/-- A directory that lacks both files gives nothing. -/
theorem findIn_eq_none (hname : Text.isIdentifier name.toList = true)
    (h : EndsInName fullName name) {entry : String} :
    findIn files fullName entry = .ok none ↔ Lacks files name entry := by
  rw [findIn_eq hname h, Lacks, ← FileTree.isFile_eq_false, ← FileTree.isFile_eq_false]
  split <;> simp_all

/-- A directory gives the package if there is one, and else the plain module. -/
theorem findIn_eq_some (hname : Text.isIdentifier name.toList = true)
    (h : EndsInName fullName name) {entry : String} {spec : ModuleSpec} :
    findIn files fullName entry = .ok (some spec) ↔ Gives files fullName name entry spec := by
  rw [findIn_eq hname h]
  constructor
  · intro hfind
    split at hfind
    · cases hfind
    case h_2 hpackage =>
      obtain rfl := Option.some.inj (Except.ok.inj hfind)
      exact .package (FileTree.isFile_eq_true.1 hpackage)
    · cases hfind
    case h_4 hpackage hmodule =>
      obtain rfl := Option.some.inj (Except.ok.inj hfind)
      exact .module (FileTree.isFile_eq_false.1 hpackage) (FileTree.isFile_eq_true.1 hmodule)
    · cases hfind
  · rintro (hfile | ⟨hpackage, hfile⟩)
    · rw [FileTree.isFile_eq_true.2 hfile]
    · rw [FileTree.isFile_eq_false.2 hpackage, FileTree.isFile_eq_true.2 hfile]

/-- A directory is refused for the first of its two files that is. -/
theorem findIn_eq_error (hname : Text.isIdentifier name.toList = true)
    (h : EndsInName fullName name) {entry : String} {reason : FileError} :
    findIn files fullName entry = .error reason ↔ Refuses files name entry reason := by
  rw [findIn_eq hname h]
  constructor
  · intro hfind
    split at hfind
    case h_1 hpackage =>
      obtain rfl := Except.error.inj hfind
      exact .package (FileTree.isFile_eq_error.1 hpackage)
    · cases hfind
    case h_3 hpackage hmodule =>
      obtain rfl := Except.error.inj hfind
      exact .module (FileTree.isFile_eq_false.1 hpackage) (FileTree.isFile_eq_error.1 hmodule)
    · cases hfind
    · cases hfind
  · rintro (hlong | ⟨hpackage, hlong⟩)
    · rw [FileTree.isFile_eq_error.2 hlong]
    · rw [FileTree.isFile_eq_false.2 hpackage, FileTree.isFile_eq_error.2 hlong]

-- The names of the files in `findIn` are not to be computed when a search is taken apart.
attribute [local irreducible] findIn in
/-- A search asks the directory in front, and goes on if that lacks the module. -/
theorem find_cons_some (files : FileTree) (fullName entry : String)
    (entries : List (Option String)) :
    find files fullName (some entry :: entries) =
      match findIn files fullName entry with
      | .error e => .error e
      | .ok (some spec) => .ok (some spec)
      | .ok none => find files fullName entries :=
  rfl

/-- A search passes over an entry that is no text. -/
theorem find_cons_none (files : FileTree) (fullName : String) (entries : List (Option String)) :
    find files fullName (none :: entries) = find files fullName entries :=
  rfl

/-- Nothing comes first on an empty search path. -/
theorem not_first_nil {P : String → Prop} : ¬First files name [] P := by
  rintro ⟨before, entry, after, hentries, -⟩
  exact List.append_ne_nil_of_right_ne_nil before (List.cons_ne_nil _ _) hentries.symm

/-- Entries that are no texts are passed over. -/
theorem first_cons_none {entries : List (Option String)} {P : String → Prop} :
    First files name (none :: entries) P ↔ First files name entries P := by
  constructor
  · rintro ⟨before, entry, after, hentries, hlacks, hP⟩
    cases before with
    | nil => cases hentries
    | cons _ before =>
      exact ⟨before, entry, after, (List.cons.inj hentries).2,
        fun other hother => hlacks other (.tail _ hother), hP⟩
  · rintro ⟨before, entry, after, rfl, hlacks, hP⟩
    refine ⟨none :: before, entry, after, rfl, fun other hother => ?_, hP⟩
    exact hlacks other (by simpa using hother)

/-- The first directory that does not lack the module is the one in front, unless that lacks it. -/
theorem first_cons_some {directory : String} {entries : List (Option String)}
    {P : String → Prop} :
    First files name (some directory :: entries) P ↔
      P directory ∨ Lacks files name directory ∧ First files name entries P := by
  constructor
  · rintro ⟨before, entry, after, hentries, hlacks, hP⟩
    cases before with
    | nil =>
      obtain rfl := Option.some.inj (List.cons.inj hentries).1
      exact .inl hP
    | cons _ before =>
      obtain ⟨rfl, htail⟩ := List.cons.inj hentries
      exact .inr ⟨hlacks directory List.mem_cons_self, before, entry, after, htail,
        fun other hother => hlacks other (.tail _ hother), hP⟩
  · rintro (hP | ⟨hlacks, before, entry, after, rfl, hbefore, hP⟩)
    · exact ⟨[], directory, entries, rfl, fun other hother => (nomatch hother), hP⟩
    · refine ⟨some directory :: before, entry, after, rfl, fun other hother => ?_, hP⟩
      obtain hsame | hother := List.mem_cons.1 hother
      · exact Option.some.inj hsame ▸ hlacks
      · exact hbefore other hother

/-- A search gives what the first directory does that does not lack the module. -/
theorem find_eq_iff_first (hname : Text.isIdentifier name.toList = true)
    (h : EndsInName fullName name) {result : Except FileError (Option ModuleSpec)}
    (hresult : result ≠ .ok none) (entries : List (Option String)) :
    find files fullName entries = result ↔
      First files name entries fun entry => findIn files fullName entry = result := by
  induction entries with
  | nil => exact iff_of_false (fun heq => hresult heq.symm) not_first_nil
  | cons entry entries ih =>
    cases entry with
    | none => rw [find_cons_none, ih, first_cons_none]
    | some entry =>
      -- The directory in front decides, unless it lacks the module.
      rw [first_cons_some, ← findIn_eq_none hname h, ← ih, find_cons_some]
      cases hfind : findIn files fullName entry with
      | error reason => simp
      | ok found =>
        cases found with
        | none => simp [Ne.symm hresult]
        | some spec => simp

/-- A search gives the module of the first directory that does not lack it. -/
theorem find_eq_some (hname : Text.isIdentifier name.toList = true)
    (h : EndsInName fullName name) {entries : List (Option String)} {spec : ModuleSpec} :
    find files fullName entries = .ok (some spec) ↔
      First files name entries fun entry => Gives files fullName name entry spec := by
  simp only [← findIn_eq_some hname h]
  exact find_eq_iff_first hname h (by simp) entries

/-- A search is refused for the first directory that does not lack the module. -/
theorem find_eq_error (hname : Text.isIdentifier name.toList = true)
    (h : EndsInName fullName name) {entries : List (Option String)} {reason : FileError} :
    find files fullName entries = .error reason ↔
      First files name entries fun entry => Refuses files name entry reason := by
  simp only [← findIn_eq_error hname h]
  exact find_eq_iff_first hname h (by simp) entries

/-- A search gives nothing if every directory lacks the module. -/
theorem find_eq_none_iff (hname : Text.isIdentifier name.toList = true)
    (h : EndsInName fullName name) (entries : List (Option String)) :
    find files fullName entries = .ok none ↔
      ∀ entry, some entry ∈ entries → Lacks files name entry := by
  induction entries with
  | nil => exact iff_of_true rfl fun entry hmem => nomatch hmem
  | cons entry entries ih =>
    cases entry with
    | none => simpa [find_cons_none] using ih
    | some entry =>
      simp only [List.mem_cons, Option.some.injEq, forall_eq_or_imp, ← ih,
        ← @findIn_eq_none files fullName name hname h entry, find_cons_some]
      cases hfind : findIn files fullName entry with
      | error reason => simp
      | ok found => cases found <;> simp

/-- A search along two lists goes on along the second one if it finds nothing along the first. -/
theorem find_append (files : FileTree) (fullName : String) (front back : List (Option String)) :
    find files fullName (front ++ back) =
      match find files fullName front with
      | .ok none => find files fullName back
      | found => found := by
  induction front with
  | nil => rfl
  | cons entry front ih =>
    cases entry with
    | none => exact ih
    | some entry =>
      rw [List.cons_append, find_cons_some, find_cons_some]
      cases findIn files fullName entry with
      | error reason => rfl
      | ok found =>
        cases found with
        | none => exact ih
        | some spec => rfl

/-- No directory is refused on a search path all of whose files have paths that are not too long. -/
theorem find_ne_error (hname : Text.isIdentifier name.toList = true)
    (h : EndsInName fullName name) {entries : List (Option String)}
    (hfits : ∀ entry, some entry ∈ entries →
      files.Fits (packageFile entry name) ∧ files.Fits (moduleFile entry name))
    (reason : FileError) : find files fullName entries ≠ .error reason := by
  rw [Ne, find_eq_error hname h]
  rintro ⟨before, entry, after, rfl, -, hrefuses⟩
  obtain ⟨hpackage, hmodule⟩ := hfits entry (by simp)
  obtain hlong | ⟨-, hlong⟩ := hrefuses
  · exact hlong.not_fits hpackage
  · exact hlong.not_fits hmodule

/-- A directory that gives a module holds one of its files. -/
theorem Gives.hasFile {entry : String} {spec : ModuleSpec}
    (h : Gives files fullName name entry spec) :
    files.HasFile (packageFile entry name) ∨ files.HasFile (moduleFile entry name) := by
  cases h with
  | package hfile => exact .inl hfile
  | module _ hfile => exact .inr hfile

/-- A search that is not refused finds a module if some directory holds one of its files. -/
theorem exists_find_iff (hname : Text.isIdentifier name.toList = true)
    (h : EndsInName fullName name) {entries : List (Option String)}
    (hanswer : ∀ reason, find files fullName entries ≠ .error reason) :
    (∃ spec, find files fullName entries = .ok (some spec)) ↔
      ∃ entry, some entry ∈ entries ∧
        (files.HasFile (packageFile entry name) ∨ files.HasFile (moduleFile entry name)) := by
  constructor
  · rintro ⟨spec, hfind⟩
    obtain ⟨before, entry, after, rfl, -, hgives⟩ := (find_eq_some hname h).1 hfind
    exact ⟨entry, by simp, hgives.hasFile⟩
  · rintro ⟨entry, hmem, hfile⟩
    -- If nothing were found, the directory would lack both files.
    match hfind : find files fullName entries with
    | .error reason => exact absurd hfind (hanswer reason)
    | .ok (some spec) => exact ⟨spec, rfl⟩
    | .ok none =>
      obtain ⟨hpackage, hmodule⟩ := (find_eq_none_iff hname h entries).1 hfind entry hmem
      exact absurd hfile (not_or.2 ⟨hpackage.1, hmodule.1⟩)

/-- Two directories, of which one holds the module `part`, both as a package and as a plain module,
and the working directory, which holds it as a plain module. -/
def shelves : FileTree where
  nodes := [(["one"], .directory), (["two"], .directory), (["two", "part"], .directory),
    (["two", "part", "__init__.ppy"], .file [] 0), (["two", "part.ppy"], .file [] 0),
    (["part.ppy"], .file [] 0)]
  here := ⟨"/", []⟩
  now := 0

/-- A directory whose name is too long is refused. -/
theorem shelves_refuses {n : Nat} (hlong : 255 < n) :
    let name := String.ofList (List.replicate n 'a')
    Refuses shelves "part" name ⟨.tooLong, packageFile name "part"⟩ := by
  intro name
  have hcharacters : name.toList = List.replicate n 'a' := String.toList_ofList
  have hne : ∀ text : String, text.toList.length ≤ 255 → name ≠ text := by
    rintro text htext rfl
    rw [hcharacters, List.length_replicate] at htext
    omega
  have hof : Path.ofText name = ⟨"", [name]⟩ :=
    Path.ofText_of_name (by simp [hcharacters]) (hne "" (by decide)) (hne "." (by decide))
  have hfile : packageFile name "part" = ⟨"", [name, "part", "__init__.ppy"]⟩ := by
    rw [packageFile, packageDirectory, hof]
    rfl
  have htext : (packageFile name "part").text =
      "" ++ String.intercalate "/" [name, "part", "__init__.ppy"] := by
    rw [hfile]
    rfl
  refine .package (FileTree.tooLong_of_name ?_ (by rw [hfile]; rfl) (?_ : 255 < _))
  · rw [htext, String.toList_append, Text.toList_intercalate_cons, hcharacters]
    simp
  · have hone : (Text.Encoding.encodeChar 'a').length = 1 := rfl
    simpa [FileTree.byteLength, Text.Encoding.encodeUtf8, List.length_flatMap, hcharacters, hone]
      using hlong

end

end Finder

end Hashmark

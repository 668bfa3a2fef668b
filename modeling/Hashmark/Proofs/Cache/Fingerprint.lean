import Hashmark.Cache
import Hashmark.Proofs.Cache.Predefined
import Hashmark.Proofs.Pass.Congruence
import Hashmark.Proofs.Path
import Hashmark.Proofs.Value.Scan

/-!
# What a fingerprint tells

A fingerprint is a text of fields with bars between them. The last one, the constants, is known from
its quotes, and the fields before it are known if at most one of them holds bars
(`fields_of_fingerprint?`). The first one tells the predefined macros unless a value holds the name
of another macro, which is possible because values are not escaped (`fingerprint?_clash`). Apart from
that, configurations with the same fingerprint process every file alike
(`fingerprint?_separates`).
-/

namespace Hashmark

namespace Constants

/-- A constant as the value that it is written as. -/
def entryValue : String × Value → Value :=
  fun (name, v) => .tuple [.text name, v]

/-- A constant is known from the value that it is written as. -/
theorem entryValue_injective : Function.Injective entryValue := by
  rintro ⟨name, v⟩ ⟨name', v'⟩ h
  obtain ⟨hname, hrest⟩ := List.cons.inj (Value.tuple.inj h)
  exact Prod.ext (Value.text.inj hname) (List.cons.inj hrest).1

/-- Constants are written as a list of values in the order of their names. -/
theorem toList_shown? {constants : Constants} {text : String}
    (h : constants.shown? = some text) :
    ∃ shown, (Value.list ((constants.entries.mergeSort fun a b => decide (a.1 ≤ b.1)).map
        entryValue)).shown? = some shown ∧
      text.toList = "MappingConstants(".toList ++ (shown.toList ++ [')']) := by
  obtain ⟨shown, hshown, rfl⟩ := Option.map_eq_some_iff.1 h
  exact ⟨shown, hshown, by simp⟩

/-- No bar stands outside of quotes in the text of constants. -/
theorem scan_shown? {constants : Constants} {text : String} (h : constants.shown? = some text) :
    Value.scan text.toList .outside = .outside := by
  obtain ⟨shown, hshown, htext⟩ := toList_shown? h
  have hsettled := Value.scan_shown _ hshown
  have hsplit : text.toList = "MappingConstants".toList ++ ('(' :: (shown.toList ++ [')'])) := by
    rw [htext]
    rfl
  have hclose : Value.scan [')'] .outside = .outside :=
    Value.scan_plain (List.all_eq_true.1 (by decide))
  rw [hsplit, Value.scan_append, Value.scan_cons, Value.scan_append, hclose,
    Value.next_plain (by decide) hsettled]
  exact Value.scan_plain (List.all_eq_true.1 (by decide))

/-- A name leads to the first of the constants that go by it. -/
theorem find?_eq (constants : Constants) (name : String) :
    constants.find? name = (constants.entries.find? fun entry => entry.1 == name).map Prod.snd := by
  rw [find?]
  induction constants.entries with
  | nil => rfl
  | cons entry entries ih =>
    obtain ⟨key, v⟩ := entry
    rw [List.lookup_cons, List.find?_cons, ih]
    by_cases hkey : key = name
    · simp [hkey]
    · simp [beq_eq_false_iff_ne.2 hkey, beq_eq_false_iff_ne.2 (Ne.symm hkey)]

/-- Constants that are written the same lead to the same. -/
theorem find?_of_shown? {one other : Constants} {text : String}
    (hnodup : (one.entries.map Prod.fst).Nodup) (h : one.shown? = some text)
    (h' : other.shown? = some text) (name : String) : one.find? name = other.find? name := by
  obtain ⟨shown, hshown, htext⟩ := toList_shown? h
  obtain ⟨shown', hshown', htext'⟩ := toList_shown? h'
  have hsame : shown = shown' := by
    apply String.toList_injective
    have hboth := htext.symm.trans htext'
    simpa using hboth
  subst hsame
  have hvalues := Value.list.inj (Value.shown?_inj hshown hshown')
  have hsorted := entryValue_injective.list_map hvalues
  rw [find?_eq, find?_eq, Config.find?_fst_perm (Config.perm_of_mergeSort hsorted) hnodup]

end Constants

namespace Config

/-- The base directory as it is written in a fingerprint. -/
def directoryText (config : Config) : String :=
  (config.baseDirectory.map Path.text).getD ""

/-- The kind of includes as it is written in a fingerprint. -/
def includesText (config : Config) : String :=
  if config.recursiveIncludes then "True" else "False"

/-- The predefined macros in the order of their names. -/
def sortedDefines (config : Config) : List (String × String) :=
  config.defines.mergeSort fun a b => decide (a.1 ≤ b.1)

/-- A fingerprint is made of its fields with bars between them. -/
theorem toList_fingerprint? {config : Config} {text : String}
    (h : config.fingerprint? = some text) :
    ∃ constants, config.ambient.shown? = some constants ∧
      text.toList = (joined config.sortedDefines ++ '|' :: (config.mode.name.toList ++
        '|' :: (config.includesText.toList ++ '|' :: (config.directoryText.toList ++
          '|' :: config.encoding.toList)))) ++ '|' :: constants.toList := by
  rw [fingerprint?] at h
  obtain ⟨constants, hconstants, rfl⟩ := Option.map_eq_some_iff.1 h
  refine ⟨constants, hconstants, ?_⟩
  rw [Text.toList_intercalate_cons]
  simp [joined, sortedDefines, includesText, directoryText]

/-- At most one of three fields of two configurations holds bars: the predefined macros, the base
directory, or the name of the encoding. -/
def FieldsApart (a b : Config) : Prop :=
  ('|' ∉ a.directoryText.toList ∧ '|' ∉ b.directoryText.toList ∧
    '|' ∉ a.encoding.toList ∧ '|' ∉ b.encoding.toList) ∨
  ('|' ∉ joined a.sortedDefines ∧ '|' ∉ joined b.sortedDefines ∧
    '|' ∉ a.encoding.toList ∧ '|' ∉ b.encoding.toList) ∨
  ('|' ∉ joined a.sortedDefines ∧ '|' ∉ joined b.sortedDefines ∧
    '|' ∉ a.directoryText.toList ∧ '|' ∉ b.directoryText.toList)

/-- Five fields with bars between them are known if at most one holds bars, and that is neither the
second nor the third. -/
theorem five_fields_inj {u v m n r s x y e f : List Char} (hm : '|' ∉ m) (hn : '|' ∉ n)
    (hr : '|' ∉ r) (hs : '|' ∉ s)
    (hbars : ('|' ∉ x ∧ '|' ∉ y ∧ '|' ∉ e ∧ '|' ∉ f) ∨ ('|' ∉ u ∧ '|' ∉ v ∧ '|' ∉ e ∧ '|' ∉ f) ∨
      ('|' ∉ u ∧ '|' ∉ v ∧ '|' ∉ x ∧ '|' ∉ y))
    (h : u ++ '|' :: (m ++ '|' :: (r ++ '|' :: (x ++ '|' :: e))) =
      v ++ '|' :: (n ++ '|' :: (s ++ '|' :: (y ++ '|' :: f)))) :
    u = v ∧ m = n ∧ r = s ∧ x = y ∧ e = f := by
  obtain ⟨hx, hy, he, hf⟩ | ⟨hu, hv, hrest⟩ : ('|' ∉ x ∧ '|' ∉ y ∧ '|' ∉ e ∧ '|' ∉ f) ∨
      ('|' ∉ u ∧ '|' ∉ v ∧ ('|' ∉ e ∧ '|' ∉ f ∨ '|' ∉ x ∧ '|' ∉ y)) := by tauto
  · -- The first field is what is left when the others are taken off from the end.
    have hback : (((u ++ '|' :: m) ++ '|' :: r) ++ '|' :: x) ++ '|' :: e =
        (((v ++ '|' :: n) ++ '|' :: s) ++ '|' :: y) ++ '|' :: f := by simpa using h
    obtain ⟨hfour, he⟩ := Text.append_run_inj he hf hback
    obtain ⟨hthree, hx⟩ := Text.append_run_inj hx hy hfour
    obtain ⟨htwo, hr⟩ := Text.append_run_inj hr hs hthree
    obtain ⟨hu, hm⟩ := Text.append_run_inj hm hn htwo
    exact ⟨hu, hm, hr, hx, he⟩
  -- The first three fields are taken off from the front, and the last two from either end.
  · obtain ⟨hu, hfour⟩ := Text.run_separator_inj hu hv h
    obtain ⟨hm, hthree⟩ := Text.run_separator_inj hm hn hfour
    obtain ⟨hr, htwo⟩ := Text.run_separator_inj hr hs hthree
    have hlast : x = y ∧ e = f := by
      obtain ⟨he, hf⟩ | ⟨hx, hy⟩ := hrest
      · exact Text.append_run_inj he hf htwo
      · exact Text.run_separator_inj hx hy htwo
    exact ⟨hu, hm, hr, hlast⟩

/-- Configurations with the same fingerprint write their predefined macros the same and have the
other fields in common. -/
theorem fields_of_fingerprint? {a b : Config} (hbars : a.FieldsApart b) {text : String}
    (h : a.fingerprint? = some text) (h' : b.fingerprint? = some text) :
    joined a.sortedDefines = joined b.sortedDefines ∧ a.mode = b.mode ∧
      a.recursiveIncludes = b.recursiveIncludes ∧ a.directoryText = b.directoryText ∧
      a.encoding = b.encoding ∧
      ∃ constants, a.ambient.shown? = some constants ∧ b.ambient.shown? = some constants := by
  obtain ⟨constants, hconstants, htext⟩ := toList_fingerprint? h
  obtain ⟨constants', hconstants', htext'⟩ := toList_fingerprint? h'
  have hmode : ∀ mode : Mode, '|' ∉ mode.name.toList := by
    intro mode
    cases mode <;> decide
  have hincludes : ∀ config : Config, '|' ∉ config.includesText.toList := by
    intro config
    rw [includesText]
    split <;> decide
  -- The constants come last, and have bars within quotes only.
  obtain ⟨hfields, hc⟩ := Value.bar_append_inj (Constants.scan_shown? hconstants)
    (Constants.scan_shown? hconstants') (htext.symm.trans htext')
  obtain ⟨hdefines, hm, hrecursive, hdirectory, hencoding⟩ := five_fields_inj (hmode a.mode)
    (hmode b.mode) (hincludes a) (hincludes b) hbars hfields
  obtain rfl := String.toList_injective hc
  refine ⟨hdefines, ?_, ?_, String.toList_injective hdirectory, String.toList_injective hencoding,
    constants, hconstants, hconstants'⟩
  · revert hm
    cases a.mode <;> cases b.mode <;> decide
  · revert hrecursive
    rw [includesText, includesText]
    cases a.recursiveIncludes <;> cases b.recursiveIncludes <;> decide

/-- The names of a configuration are identifiers and distinct, as are those of its constants. -/
structure WellFormed (config : Config) : Prop where
  /-- Predefined macros have identifiers as names. -/
  identifiers : ∀ entry ∈ config.defines, Text.isIdentifier entry.1.toList = true
  /-- No macro is predefined twice. -/
  distinct : (config.defines.map Prod.fst).Nodup
  /-- No constant has two values. -/
  constants : (config.ambient.entries.map Prod.fst).Nodup

/-- Defining a name keeps the names distinct identifiers. -/
theorem WellFormed.setDefine {config : Config} (h : config.WellFormed) {name : String}
    (hname : Text.isIdentifier name.toList = true) (value : String) :
    { config with defines := Config.setDefine config.defines name value }.WellFormed := by
  unfold Config.setDefine
  split
  · refine ⟨?_, ?_, h.constants⟩
    · intro entry hentry
      obtain ⟨old, hold, rfl⟩ := List.mem_map.1 hentry
      split
      · exact hname
      · exact h.identifiers old hold
    · have hsame : (config.defines.map fun entry =>
          if entry.1 == name then (name, value) else entry).map Prod.fst =
          config.defines.map Prod.fst := by
        rw [List.map_map]
        apply List.map_congr_left
        intro entry _
        by_cases hentry : entry.1 = name
        · simp [hentry]
        · simp [hentry]
      rw [hsame]
      exact h.distinct
  case isFalse hnew =>
    refine ⟨?_, ?_, h.constants⟩
    · intro entry hentry
      obtain hold | hadded := List.mem_append.1 hentry
      · exact h.identifiers entry hold
      · rw [List.mem_singleton.1 hadded]
        exact hname
    · rw [List.map_append, List.nodup_append]
      refine ⟨h.distinct, List.nodup_singleton _, ?_⟩
      rintro old hold added hadded rfl
      obtain ⟨entry, hentry, rfl⟩ := List.mem_map.1 hold
      -- A name that is defined already keeps its place.
      have hsame : entry.1 = name := by simpa using hadded
      exact hnew (List.any_eq_true.2 ⟨entry, hentry, by simpa using hsame⟩)

/-- The items that predefine macros keep the names distinct identifiers. -/
theorem WellFormed.parseDefines {config parsed : Config} (h : config.WellFormed)
    {items : List String} (hparsed : config.parseDefines items = .ok parsed) :
    parsed.WellFormed := by
  induction items generalizing config with
  | nil =>
    obtain rfl := Except.ok.inj hparsed
    exact h
  | cons item items ih =>
    rw [Config.parseDefines] at hparsed
    split at hparsed
    · cases hparsed
    case h_2 name value hitem =>
      refine ih (h.setDefine ?_ value) hparsed
      rw [parseDefine] at hitem
      simp only at hitem
      split at hitem
      case isTrue hidentifier =>
        obtain ⟨hname, -⟩ := Prod.mk.inj (Except.ok.inj hitem)
        rw [← hname, String.toList_ofList]
        exact hidentifier
      · cases hitem

/-- Configurations on one host in which what has a name in common is the same object. -/
structure SharesHost (a b : Config) : Prop where
  /-- The host is the same. -/
  host : a.host = b.host
  /-- The texts of predefined macros are the same objects. -/
  macroObject : a.macroObject = b.macroObject
  /-- The constants are the same objects. -/
  constantObject : a.constantObject = b.constantObject

/-- No value of a predefined macro goes on as if a macro of the other configuration was
predefined. -/
def DefinesApart (a b : Config) : Prop :=
  (∀ entry ∈ a.defines, ∀ other ∈ b.defines, ¬Holds entry.2 other.1) ∧
    ∀ entry ∈ b.defines, ∀ other ∈ a.defines, ¬Holds entry.2 other.1

/-- Configurations on one host with the same fingerprint whose predefined macros are told apart
process every file alike. -/
theorem processFile_of_fingerprint? {a b : Config} (ha : a.WellFormed) (hb : b.WellFormed)
    (hshares : a.SharesHost b) (hfields : a.FieldsApart b) (hdefines : a.DefinesApart b)
    {text : String} (h : a.fingerprint? = some text) (h' : b.fingerprint? = some text)
    (files : FileTree) (source : Path) :
    a.processFile files source = b.processFile files source := by
  obtain ⟨hjoined, hmode, hrecursive, -, hencoding, constants, hc, hc'⟩ :=
    fields_of_fingerprint? hfields h h'
  have hmem : ∀ {config : Config} {entry}, entry ∈ config.sortedDefines → entry ∈ config.defines :=
    fun hentry => (List.mergeSort_perm _ _).subset hentry
  -- The text tells the sorted definitions, and the order in which they are made decides nothing.
  have hsorted : a.sortedDefines = b.sortedDefines := by
    apply joined_inj _ _ _ _ hjoined
    · exact fun entry hentry => ha.identifiers entry (hmem hentry)
    · exact fun entry hentry => hb.identifiers entry (hmem hentry)
    · exact fun entry hentry other hother => hdefines.1 entry (hmem hentry) other (hmem hother)
    · exact fun entry hentry other hother => hdefines.2 entry (hmem hentry) other (hmem hother)
  have hread := FileTree.readText_congr hencoding hshares.host files
  have hdefined : ∀ name,
      (MacroTable.empty.seedMissing a.defines a.macroObject).find? name =
        (MacroTable.empty.seedMissing b.defines b.macroObject).find? name := by
    rw [hshares.macroObject]
    exact find?_seedMissing_perm (perm_of_mergeSort hsorted) ha.distinct _
  have hagree := @Pass.processFile_agree ⟨a, files⟩ ⟨b, files⟩
    ⟨hrecursive, ⟨Constants.find?_of_shown? ha.constants hc hc', hshares.constantObject⟩, rfl⟩
    hmode hdefined source (by simp only [Pass.readSource, hread]) fun target _ => hread target
  obtain ⟨hresult, hwarnings⟩ := hagree.result_eq
  simp only [processFile, hresult, hwarnings]

end Config

namespace Cache

/-- What the name of an artifact holds a digest of: the path of a source and a fingerprint. -/
def key (here source : Path) (fingerprint : String) : String :=
  (source.absolute here).text ++ "|" ++ fingerprint

/-- The digest of a key. -/
def keyDigest (key : String) : String :=
  Text.Digest.hexDigest (Text.Encoding.encodeUtf8 key)

/-- A digest has no slash. -/
theorem slash_notMem_keyDigest (key : String) : '/' ∉ (keyDigest key).toList := by
  have hdigit : ∀ d < 16, Nat.digitChar d ≠ '/' := by decide
  rw [keyDigest, Text.Digest.hexDigest, String.toList_ofList, List.mem_flatMap]
  rintro ⟨b, -, hmem⟩
  simp only [Text.hexDigits, List.nil_append, List.mem_append, List.mem_singleton] at hmem
  obtain hmem | hmem := hmem
  · exact hdigit _ (Nat.mod_lt _ (by decide)) hmem.symm
  · exact hdigit _ (Nat.mod_lt _ (by decide)) hmem.symm

/-- The artifact of a source is named after the digest of a key. -/
theorem artifact?_eq_some {cache : Cache} {here source artifact : Path} :
    cache.artifact? here source = some artifact ↔
      ∃ fingerprint, cache.config.fingerprint? = some fingerprint ∧
        artifact = cache.directory.child
          ((source.stem ++ "_") ++ (keyDigest (key here source fingerprint) ++ artifactSuffix)) := by
  simp only [artifact?, Option.map_eq_some_iff, ← String.append_assoc, key, keyDigest]
  constructor
  · rintro ⟨fingerprint, hfingerprint, hname⟩
    exact ⟨fingerprint, hfingerprint, hname.symm⟩
  · rintro ⟨fingerprint, hfingerprint, hname⟩
    exact ⟨fingerprint, hfingerprint, hname.symm⟩

/-- Caches on one directory with one artifact for a source have keys with the same digest. -/
theorem keyDigest_of_artifact? {one other : Cache} (hdirectory : one.directory = other.directory)
    {here source artifact : Path} (h : one.artifact? here source = some artifact)
    (h' : other.artifact? here source = some artifact) :
    ∃ fingerprint fingerprint', one.config.fingerprint? = some fingerprint ∧
      other.config.fingerprint? = some fingerprint' ∧
      keyDigest (key here source fingerprint) = keyDigest (key here source fingerprint') := by
  obtain ⟨fingerprint, hfingerprint, hname⟩ := artifact?_eq_some.1 h
  obtain ⟨fingerprint', hfingerprint', hname'⟩ := artifact?_eq_some.1 h'
  refine ⟨fingerprint, fingerprint', hfingerprint, hfingerprint', ?_⟩
  have hslash : ∀ key, '/' ∉ (keyDigest key ++ artifactSuffix).toList := by
    intro key hmem
    rw [String.toList_append] at hmem
    obtain hmem | hmem := List.mem_append.1 hmem
    · exact slash_notMem_keyDigest key hmem
    · revert hmem
      decide
  have hlength : ∀ key, 2 ≤ (keyDigest key ++ artifactSuffix).toList.length := by
    intro key
    rw [String.toList_append, List.length_append]
    exact Nat.le_add_left_of_le (by decide)
  rw [hname, hdirectory] at hname'
  have hsame := Path.child_append_inj (hslash _) (hslash _) (hlength _) (hlength _) hname'
  have hlist := congrArg String.toList hsame
  rw [String.toList_append, String.toList_append] at hlist
  exact String.toList_injective (List.append_cancel_right hlist)

/-- The digests of two keys are the same only if the keys are. -/
def NoCollision (one other : String) : Prop :=
  keyDigest one = keyDigest other → one = other

/-- Configurations on one host whose fields and predefined macros are told apart process every file
alike if they have the same fingerprint. Caches on one directory then have the same artifact for a
source only if their configurations process every file alike, provided that the keys have no
collision. -/
theorem fingerprint?_separates {a b : Config} (ha : a.WellFormed) (hb : b.WellFormed)
    (hshares : a.SharesHost b) (hfields : a.FieldsApart b) (hdefines : a.DefinesApart b) :
    (∀ fingerprint, a.fingerprint? = some fingerprint → b.fingerprint? = some fingerprint →
      ∀ files source, a.processFile files source = b.processFile files source) ∧
    ∀ directory here source,
      (∀ fingerprint fingerprint', a.fingerprint? = some fingerprint →
        b.fingerprint? = some fingerprint' →
        NoCollision (key here source fingerprint) (key here source fingerprint')) →
      ∀ artifact, (Cache.mk directory a).artifact? here source = some artifact →
        (Cache.mk directory b).artifact? here source = some artifact →
        ∀ files source, a.processFile files source = b.processFile files source := by
  have hsame : ∀ fingerprint, a.fingerprint? = some fingerprint →
      b.fingerprint? = some fingerprint →
      ∀ files source, a.processFile files source = b.processFile files source :=
    fun _ h h' => Config.processFile_of_fingerprint? ha hb hshares hfields hdefines h h'
  refine ⟨hsame, ?_⟩
  intro directory here source hcollision artifact h h'
  obtain ⟨fingerprint, fingerprint', hf, hf', hdigest⟩ :=
    @keyDigest_of_artifact? ⟨directory, a⟩ ⟨directory, b⟩ rfl here source artifact h h'
  have hkey := congrArg String.toList (hcollision fingerprint fingerprint' hf hf' hdigest)
  simp only [key, String.toList_append] at hkey
  obtain rfl := String.toList_injective (List.append_cancel_left hkey)
  exact hsame fingerprint hf hf'

/-- The fingerprint of a configuration that predefines macros and has no constants. -/
theorem fingerprint?_plain (defines : List (String × String)) :
    Config.fingerprint? { defines := defines, constants := some .none } =
      some (String.intercalate "," ((defines.mergeSort fun a b => decide (a.1 ≤ b.1)).map
        fun (name, value) => name ++ "=" ++ value) ++ "|scoped|False||utf-8|MappingConstants([])") := by
  simp [Config.fingerprint?, Config.ambient, Constants.shown?, Constants.none, Value.shown?,
    Value.shownItems?, Value.commaSeparated, Mode.name, String.append_assoc]

/-- Macros that are predefined in another order, one of them with a comma in its value, make the
same fingerprint and process every file alike. -/
theorem fingerprint?_separates_swap :
    ∃ a b : Config, a.defines = [("A", "1,2"), ("B", "3")] ∧ b.defines = [("B", "3"), ("A", "1,2")] ∧
      ∀ files source, a.processFile files source = b.processFile files source := by
  have hless : ¬"B" ≤ "A" := by decide
  have hsort : [("B", "3"), ("A", "1,2")].mergeSort (fun a b => decide (a.1 ≤ b.1)) =
      [("A", "1,2"), ("B", "3")] := by
    simp [List.mergeSort, List.MergeSort.Internal.splitInTwo, hless]
  refine ⟨{ defines := [("A", "1,2"), ("B", "3")], constants := some .none },
    { defines := [("B", "3"), ("A", "1,2")], constants := some .none }, rfl, rfl, ?_⟩
  have hshares : Config.SharesHost
      { defines := [("A", "1,2"), ("B", "3")], constants := some .none }
      { defines := [("B", "3"), ("A", "1,2")], constants := some .none } := ⟨rfl, rfl, rfl⟩
  refine (fingerprint?_separates ⟨by decide, by decide, by decide⟩
    ⟨by decide, by decide, by decide⟩ hshares (.inl (by decide))
    (by unfold Config.DefinesApart Config.Holds; decide)).1 _ (fingerprint?_plain _) ?_
  rw [fingerprint?_plain, hsort, List.mergeSort_of_pairwise (by decide)]

/-- A value that holds the name of another macro can be taken for two macros: configurations with
the same fingerprint process a file differently. -/
theorem fingerprint?_clash :
    ∃ a b : Config, a.WellFormed ∧ b.WellFormed ∧ a.SharesHost b ∧ a.FieldsApart b ∧
      (∃ fingerprint, a.fingerprint? = some fingerprint ∧ b.fingerprint? = some fingerprint) ∧
      ∃ files source, (a.processFile files source).result ≠ (b.processFile files source).result := by
  refine ⟨{ defines := [("A", "1,B=2")], constants := some .none },
    { defines := [("A", "1"), ("B", "2")], constants := some .none },
    ⟨by decide, by decide, by decide⟩, ⟨by decide, by decide, by decide⟩, ⟨rfl, rfl, rfl⟩,
    .inl (by decide), ⟨_, fingerprint?_plain _, ?_⟩,
    ⟨[(["s"], .file (Text.Encoding.encodeUtf8 "#ifdef B\nyes\n#endif\n") 0)], ⟨"/", []⟩, 0⟩,
    Path.ofText "s", by decide +kernel⟩
  rw [fingerprint?_plain, List.mergeSort_singleton, List.mergeSort_of_pairwise (by decide)]
  decide

/-- A bar in two fields can be taken for another one, so that a configuration has the fingerprint of
one whose encoding is unknown. -/
theorem fingerprint?_clash_fields :
    ∃ a b : Config, a.WellFormed ∧ b.WellFormed ∧ a.SharesHost b ∧ a.DefinesApart b ∧
      (∃ fingerprint, a.fingerprint? = some fingerprint ∧ b.fingerprint? = some fingerprint) ∧
      ∃ files source, (a.processFile files source).result ≠ (b.processFile files source).result := by
  refine ⟨{ baseDirectory := some ⟨"", ["x|utf-8"]⟩, encoding := "ascii", constants := some .none },
    { baseDirectory := some ⟨"", ["x"]⟩, encoding := "utf-8|ascii", constants := some .none },
    ⟨by decide, by decide, by decide⟩, ⟨by decide, by decide, by decide⟩, ⟨rfl, rfl, rfl⟩,
    by unfold Config.DefinesApart Config.Holds; decide,
    ⟨"|scoped|False|x|utf-8|ascii|MappingConstants([])", ?_, ?_⟩,
    ⟨[(["s"], .file [] 0)], ⟨"/", []⟩, 0⟩, Path.ofText "s", by decide +kernel⟩
  · simp [Config.fingerprint?, Config.ambient, Constants.shown?, Constants.none, Value.shown?,
      Value.shownItems?, Value.commaSeparated, Mode.name, Path.text]
  · simp [Config.fingerprint?, Config.ambient, Constants.shown?, Constants.none, Value.shown?,
      Value.shownItems?, Value.commaSeparated, Mode.name, Path.text]

end Cache

end Hashmark

import Hashmark.Config
import Hashmark.Macro
import Hashmark.Proofs.Text.Identifier
import Hashmark.Proofs.Text.Separate
import Mathlib.Data.List.Find
import Mathlib.Data.List.Nodup

/-!
# Predefined macros as one text

Predefined macros are written as their names and values with equals signs between them and commas
behind them, and nothing in a value is escaped. A value that holds a comma, a name, and an equals
sign can therefore be taken for a value and another macro. Two lists of macros that are written the
same are the same if no value of one holds a name of the other in this way (`joined_inj`); what a
name leads to does then not depend on the order of the macros either (`find?_seedMissing_perm`).
-/

namespace Hashmark.Config

/-- Neither an equals sign nor a comma is in an identifier. -/
theorem identifier_notMem {cs : List Char} (h : Text.isIdentifier cs = true) :
    '=' ∉ cs ∧ ',' ∉ cs := by
  have hnot : ∀ d, Text.isIdentifierStart d = false → Text.isIdentifierContinue d = false →
      d ∉ cs := by
    intro d hstart hcontinue hmem
    have hallowed : ∀ c ∈ cs, Text.isIdentifierStart c = true ∨ Text.isIdentifierContinue c = true :=
      Text.forall_mem_identifier (fun _ => .inl) (fun _ => .inr) h
    obtain hd | hd := hallowed d hmem
    · rw [hd] at hstart
      cases hstart
    · rw [hd] at hcontinue
      cases hcontinue
  exact ⟨hnot '=' rfl rfl, hnot ',' rfl rfl⟩

/-- A macro as it is written. -/
def entryText (entry : String × String) : List Char :=
  entry.1.toList ++ '=' :: entry.2.toList

/-- Macros as they are written behind others. -/
def tailText (entries : List (String × String)) : List Char :=
  entries.flatMap fun entry => ',' :: entryText entry

/-- Macros as they are written. -/
def joined (entries : List (String × String)) : List Char :=
  (String.intercalate "," (entries.map fun (name, value) => name ++ "=" ++ value)).toList

/-- Macros are written as the first one and the others behind commas. -/
theorem joined_cons (entry : String × String) (entries : List (String × String)) :
    joined (entry :: entries) = entryText entry ++ tailText entries := by
  rw [joined, List.map_cons, Text.toList_intercalate_cons, List.flatMap_map]
  simp [entryText, tailText]

/-- A value goes on as if another macro with this name was predefined. -/
def Holds (value name : String) : Prop :=
  ',' :: (name.toList ++ ['=']) <:+: value.toList

/-- What is written before other macros and makes up macros itself holds the name of one. -/
theorem name_infix_of_tailText {entries others : List (String × String)}
    (hentries : ∀ entry ∈ entries, Text.isIdentifier entry.1.toList = true) {z : List Char}
    (hne : z ≠ []) (h : tailText entries = z ++ tailText others) :
    ∃ entry ∈ entries, ',' :: (entry.1.toList ++ ['=']) <:+: z := by
  obtain ⟨c, z, rfl⟩ := List.exists_cons_of_ne_nil hne
  cases entries with
  | nil => cases h
  | cons entry entries =>
    have hname := identifier_notMem (hentries entry List.mem_cons_self)
    rw [tailText, List.flatMap_cons, List.cons_append, entryText, List.append_assoc] at h
    obtain ⟨rfl, hrest⟩ := List.cons.inj h
    refine ⟨entry, List.mem_cons_self, ?_⟩
    -- Other macros begin with a comma, so that they begin behind the equals sign.
    have hothers : ∀ d rest, tailText others = d :: rest → d = ',' := by
      intro d rest hd
      cases others with
      | nil => cases hd
      | cons other others => exact (List.cons.inj hd).1.symm
    obtain ⟨y, hz, hy⟩ | ⟨y, hn, hy⟩ := List.append_eq_append_iff.1 hrest
    · cases y with
      | nil => cases hothers _ _ hy.symm
      | cons d y =>
        obtain ⟨rfl, -⟩ := List.cons.inj hy
        exact ⟨[], y, by simp [hz]⟩
    · cases y with
      | nil => cases hothers _ _ hy
      | cons d y =>
        obtain rfl := hothers _ _ hy
        exact absurd (by rw [hn]; simp) hname.2

/-- Values with macros behind them are the same if they are written the same, and neither holds a
name of what is behind the other. -/
theorem value_append_inj {v w : String} {as bs : List (String × String)}
    (has : ∀ entry ∈ as, Text.isIdentifier entry.1.toList = true)
    (hbs : ∀ entry ∈ bs, Text.isIdentifier entry.1.toList = true)
    (hv : ∀ entry ∈ bs, ¬Holds v entry.1) (hw : ∀ entry ∈ as, ¬Holds w entry.1)
    (h : v.toList ++ tailText as = w.toList ++ tailText bs) : v = w ∧ tailText as = tailText bs := by
  obtain ⟨z, hz, hrest⟩ | ⟨z, hz, hrest⟩ := List.append_eq_append_iff.1 h
  · by_cases hne : z = []
    · rw [hne, List.append_nil] at hz
      rw [hne, List.nil_append] at hrest
      exact ⟨String.toList_injective hz.symm, hrest⟩
    · obtain ⟨entry, hentry, hwithin⟩ := name_infix_of_tailText has hne hrest
      exact absurd (hwithin.trans (hz ▸ (List.suffix_append _ _).isInfix)) (hw entry hentry)
  · by_cases hne : z = []
    · rw [hne, List.append_nil] at hz
      rw [hne, List.nil_append] at hrest
      exact ⟨String.toList_injective hz, hrest.symm⟩
    · obtain ⟨entry, hentry, hwithin⟩ := name_infix_of_tailText hbs hne hrest
      exact absurd (hwithin.trans (hz ▸ (List.suffix_append _ _).isInfix)) (hv entry hentry)

/-- Macros behind others are the same if they are written the same, and no value of one list holds a
name of the other. -/
theorem tailText_inj {as bs : List (String × String)}
    (has : ∀ entry ∈ as, Text.isIdentifier entry.1.toList = true)
    (hbs : ∀ entry ∈ bs, Text.isIdentifier entry.1.toList = true)
    (hab : ∀ a ∈ as, ∀ b ∈ bs, ¬Holds a.2 b.1) (hba : ∀ b ∈ bs, ∀ a ∈ as, ¬Holds b.2 a.1)
    (h : tailText as = tailText bs) : as = bs := by
  induction as generalizing bs with
  | nil =>
    cases bs with
    | nil => rfl
    | cons b bs => cases h
  | cons a as ih =>
    cases bs with
    | nil => cases h
    | cons b bs =>
      have htail : ∀ {c : String × String} {cs : List (String × String)},
          tailText (c :: cs) = ',' :: (c.1.toList ++ '=' :: (c.2.toList ++ tailText cs)) := by
        simp [tailText, entryText]
      -- A name ends at the first equals sign.
      have hstop : ∀ {c : String × String}, Text.isIdentifier c.1.toList = true →
          ∀ d ∈ c.1.toList, (d != '=') = true := by
        intro c hc d hd
        simpa using fun heq : d = '=' => (identifier_notMem hc).1 (heq ▸ hd)
      rw [htail, htail] at h
      obtain ⟨hname, hrest⟩ := Text.run_append_inj (hstop (has a List.mem_cons_self))
        (hstop (hbs b List.mem_cons_self)) (by simp) (by simp) (List.cons.inj h).2
      -- A value ends where the next name begins, since no value goes on as if there was another
      -- macro.
      obtain ⟨hvalue, hothers⟩ := value_append_inj (fun c hc => has c (.tail _ hc))
        (fun c hc => hbs c (.tail _ hc))
        (fun c hc => hab a List.mem_cons_self c (.tail _ hc))
        (fun c hc => hba b List.mem_cons_self c (.tail _ hc)) (List.cons.inj hrest).2
      rw [Prod.ext (String.toList_injective hname) hvalue,
        ih (fun c hc => has c (.tail _ hc)) (fun c hc => hbs c (.tail _ hc))
          (fun c hc d hd => hab c (.tail _ hc) d (.tail _ hd))
          (fun c hc d hd => hba c (.tail _ hc) d (.tail _ hd)) hothers]

/-- Macros are the same if they are written the same, and no value of one list holds a name of the
other. -/
theorem joined_inj {as bs : List (String × String)}
    (has : ∀ entry ∈ as, Text.isIdentifier entry.1.toList = true)
    (hbs : ∀ entry ∈ bs, Text.isIdentifier entry.1.toList = true)
    (hab : ∀ a ∈ as, ∀ b ∈ bs, ¬Holds a.2 b.1) (hba : ∀ b ∈ bs, ∀ a ∈ as, ¬Holds b.2 a.1)
    (h : joined as = joined bs) : as = bs := by
  have hcomma : ∀ {c : String × String} {cs : List (String × String)},
      tailText (c :: cs) = ',' :: joined (c :: cs) := by
    intro c cs
    rw [joined_cons]
    rfl
  cases as with
  | nil =>
    cases bs with
    | nil => rfl
    | cons b bs =>
      rw [joined_cons, entryText] at h
      exact absurd h (by simp [joined])
  | cons a as =>
    cases bs with
    | nil =>
      rw [joined_cons, entryText] at h
      exact absurd h (by simp [joined])
    | cons b bs => exact tailText_inj has hbs hab hba (by rw [hcomma, hcomma, h])

/-- Lists that are the same in order have the same members. -/
theorem perm_of_mergeSort {α : Type} {le : α → α → Bool} {as bs : List α}
    (h : as.mergeSort le = bs.mergeSort le) : as.Perm bs := by
  have hbs := List.mergeSort_perm bs le
  rw [← h] at hbs
  exact (List.mergeSort_perm as le).symm.trans hbs

/-- Where names are distinct, what is found by a name does not depend on the order. -/
theorem find?_fst_perm {α : Type} {as bs : List (String × α)} (h : as.Perm bs)
    (hnodup : (as.map Prod.fst).Nodup) (name : String) :
    (as.find? fun entry => entry.1 == name) = bs.find? fun entry => entry.1 == name := by
  apply List.find?_eq_find?_of_perm h
  rintro a ⟨ha, hname⟩ b ⟨hb, hname'⟩
  rw [beq_iff_eq] at hname hname'
  exact List.inj_on_of_nodup_map hnodup ha hb (hname.trans hname'.symm)

/-- A name leads to the first of the macros that go by it, unless it is defined already. -/
theorem find?_seedMissing (table : MacroTable) (defines : List (String × String))
    (object : String → Option Nat) (name : String) :
    (table.seedMissing defines object).find? name =
      (table.find? name).or ((defines.find? fun entry => entry.1 == name).map fun entry =>
        ⟨entry.1, entry.2, .unknown, object entry.1⟩) := by
  induction defines generalizing table with
  | nil => simp [MacroTable.seedMissing]
  | cons entry defines ih =>
    obtain ⟨key, value⟩ := entry
    have hstep : table.seedMissing ((key, value) :: defines) object =
        (if table.contains key then table
          else table.push ⟨key, value, .unknown, object key⟩).seedMissing defines object := rfl
    rw [hstep, ih]
    -- The entry matters only if it has the name, and if the table has none of that name yet.
    by_cases hkey : key = name
    · subst hkey
      rw [List.find?_cons_of_pos (by simp)]
      split
      case isTrue hcontains =>
        obtain ⟨m, hm⟩ := Option.isSome_iff_exists.1 hcontains
        simp [hm]
      case isFalse hcontains =>
        have hnone : table.find? key = none := by simpa [MacroTable.contains] using hcontains
        simp only [MacroTable.find?] at hnone
        simp [MacroTable.find?, MacroTable.push, List.find?_append, hnone]
    · rw [List.find?_cons_of_neg (by simpa using hkey)]
      split
      · rfl
      · simp [MacroTable.find?, MacroTable.push, List.find?_append, hkey]

/-- What the predefined macros lead to does not depend on their order, if no name occurs twice. -/
theorem find?_seedMissing_perm {as bs : List (String × String)} (h : as.Perm bs)
    (hnodup : (as.map Prod.fst).Nodup) (object : String → Option Nat) (name : String) :
    (MacroTable.empty.seedMissing as object).find? name =
      (MacroTable.empty.seedMissing bs object).find? name := by
  rw [find?_seedMissing, find?_seedMissing, find?_fst_perm h hnodup]

end Hashmark.Config

import Hashmark.Proofs.FileTree.Text
import Hashmark.Proofs.Pass.Handling
import Mathlib.Data.List.Nodup
import Mathlib.Data.List.Perm.Subperm

/-!
# What a pass depends on

Two passes over one file agree if their environments are alike and every file that the first of them
includes reads the same in both (`processFile_agree`). Of the macros only what their names lead to
matters, not their order, and of the configuration neither the base directory nor the encoding,
beyond what they make of the files that are read.

The depth that bounds recursive includes does not matter either. Files that include one another are
different files, so that there are no more of them than places in a tree (`Fits.depth_pos`), and the
bound is never met.
-/

namespace Hashmark

/-- Configurations in which a name leads to the same constant, as the same object. -/
structure Config.SharesConstants (one other : Config) : Prop where
  /-- The value is the same. -/
  ambient : ∀ name, one.ambient.find? name = other.ambient.find? name
  /-- The object is the same. -/
  constantObject : one.constantObject = other.constantObject

/-- Configurations with the same constants of their own on the same host share them. -/
theorem Config.SharesConstants.of_eq {one other : Config} (hconstants : one.constants = other.constants)
    (hhost : one.host = other.host) (hobject : one.constantObject = other.constantObject) :
    one.SharesConstants other where
  ambient name := by rw [Config.ambient, Config.ambient, hconstants, hhost]
  constantObject := hobject

namespace Pass

open Source (Token Tokenized)

/-- Environments with the same kind of includes, the same constants and the same working
directory. -/
structure Environment.Alike (first second : Environment) : Prop where
  /-- Both preprocess included files, or neither does. -/
  recursiveIncludes : first.config.recursiveIncludes = second.config.recursiveIncludes
  /-- The constants are the same. -/
  constants : first.config.SharesConstants second.config
  /-- The working directories are the same. -/
  here : first.files.here = second.files.here

/-- A file reads the same in both environments. -/
def ReadsAlike (first second : Environment) (target : Path) : Prop :=
  first.files.readText target first.config =
    second.files.readText target second.config

/-- States that differ at most in the order of their macros. -/
def State.Alike (first second : State) : Prop :=
  ∃ macros, second = { first with macros } ∧
    ∀ name, first.macros.find? name = macros.find? name

/-- The same result, with states that are alike. -/
def Agree {α : Type} (first second : State × α) : Prop :=
  first.2 = second.2 ∧ first.1.Alike second.1

/-- What no step of a pass over a file changes, and the files that were read for an include, which
only become more. -/
structure Continues (before after : State) : Prop where
  /-- The files that are being included are the same. -/
  including : after.including = before.including
  /-- The file at hand is the same. -/
  path : after.location.path = before.location.path
  /-- The files that were read before were read. -/
  reads : before.reads <:+ after.reads

/-- Processing an included file comes back to the file at hand. -/
def Returns (emit : State → String → Path → Step) : Prop :=
  ∀ state text path, (emit state text path).1.location.path = state.location.path ∧
    state.reads <:+ (emit state text path).1.reads

/-- Nothing changes if nothing is done. -/
theorem Continues.refl (state : State) : Continues state state :=
  ⟨rfl, rfl, List.suffix_refl _⟩

/-- One step after another changes no more than each. -/
theorem Continues.trans {first second third : State} (h : Continues first second)
    (h' : Continues second third) : Continues first third :=
  ⟨h'.including.trans h.including, h'.path.trans h.path, h.reads.trans h'.reads⟩

/-- More output continues a pass. -/
theorem Continues.append (state : State) (text : String) : Continues state (state.append text) :=
  ⟨rfl, rfl, List.suffix_refl _⟩

/-- A pass continues step by step. -/
theorem Continues.stepwise : Stepwise Continues where
  refl := .refl
  trans := .trans
  warn := fun _ _ => ⟨rfl, rfl, List.suffix_refl _⟩

section Continues

variable {env : Environment} {emit : State → String → Path → Step}

/-- Settling a directive continues a pass as the directive does. -/
theorem settle_continues {state : State} {handled : Handled} (h : Continues state handled.1)
    (text : String) : Continues state (settle text handled).1 :=
  settle_stepwise Continues.stepwise h fun state => .append state text

/-- An include continues a pass that has read the file. -/
theorem Includes.continues (hemit : Returns emit) {state : State} {target : Path}
    {handled : Handled} (h : Includes env emit state target handled) :
    Continues { state with reads := target :: state.reads } handled.1 := by
  cases h with
  | refuse e => exact .refl _
  | insert hread => exact .append _ _
  | splice hread resolved result =>
    obtain ⟨hpath, hreads⟩ := hemit { state with
      reads := target :: state.reads
      including := state.including ++ [resolved] } _ resolved
    exact ⟨rfl, hpath, hreads⟩

/-- An include continues a pass that has read the file it names. -/
theorem includeFile_continues_target (hemit : Returns emit) (state : State) (payload : String) :
    Continues
      { state with
        reads := includeTarget env state (stripWrapping (Text.strip payload)) :: state.reads }
      (includeFile env emit state payload).1 :=
  (includeFile_includes state payload).continues hemit

/-- A comment continues a pass. -/
theorem Handles.continues (hemit : Returns emit) {state : State} {handled : Handled}
    (h : Handles env emit state handled) : Continues state handled.1 := by
  cases h with
  | idle consumed => exact .refl _
  | define m h => exact ⟨rfl, rfl, List.suffix_refl _⟩
  | turn conditions h => exact ⟨rfl, rfl, List.suffix_refl _⟩
  | fail e => exact .refl _
  | inclusion target h =>
    have hread : Continues state { state with reads := target :: state.reads } :=
      ⟨rfl, rfl, List.suffix_cons _ _⟩
    exact hread.trans (h.continues hemit)

/-- A token continues a pass. -/
theorem processToken_continues (env : Environment) (hemit : Returns emit) (state : State)
    (token : Token) :
    Continues state (processToken env emit state token).1 :=
  processToken_stepwise Continues.stepwise ⟨rfl, rfl, List.suffix_refl _⟩
    ((handleComment_handles env emit _ _).continues hemit) fun state => .append state _

/-- Tokens continue a pass. -/
theorem processTokens_continues (env : Environment) (hemit : Returns emit) (state : State)
    (tokens : List Token) :
    Continues state (processTokens env emit state tokens).1 :=
  processTokens_stepwise Continues.stepwise
    (fun token _ state => processToken_continues env hemit state token) state

/-- The pieces of a source continue a pass. -/
theorem processPieces_continues (env : Environment) (hemit : Returns emit) (state : State)
    (pieces : Tokenized) :
    Continues state (processPieces env emit state pieces).1 :=
  processPieces_stepwise Continues.stepwise
    (fun token _ state => processToken_continues env hemit state token) state

end Continues

/-- Processing a text comes back to the place where it began. -/
theorem emit_returns (env : Environment) (depth : Nat) :
    Returns fun state text path => emit env depth state text (some path) := by
  induction depth with
  | zero => exact fun state text path => ⟨rfl, List.suffix_refl _⟩
  | succ depth ih =>
    intro state text path
    have h := processPieces_continues env ih
      { state with location := ⟨some path, state.location.line⟩ } (Source.tokenize text)
    simp only [emit]
    exact ⟨trivial, h.reads⟩

/-- The files being included are different places that the tree lists, and the depth leaves room for
all that are left. -/
structure Fits (files : FileTree) (depth : Nat) (including : List Path) : Prop where
  /-- No two of them are the same. -/
  nodup : including.Nodup
  /-- They are resolved paths. -/
  root : ∀ path ∈ including, path.root = "/"
  /-- They lead to places that the tree lists. -/
  listed : ∀ path ∈ including, path.names ∈ files.nodes.map Prod.fst
  /-- The depth and the files being included are more than the places. -/
  room : files.nodes.length < depth + including.length

/-- Different resolved paths that lead to these places are no more than the places. -/
theorem length_le_of_resolved {paths : List Path} {sites : List Site} (hnodup : paths.Nodup)
    (hroot : ∀ path ∈ paths, path.root = "/") (hsites : ∀ path ∈ paths, path.names ∈ sites) :
    paths.length ≤ sites.length := by
  have hnames : (paths.map Path.names).Nodup := by
    refine List.Nodup.map_on (fun one hone other hother heq => ?_) hnodup
    have hsame : one.root = other.root := (hroot one hone).trans (hroot other hother).symm
    cases one
    cases other
    simp_all
  have hsubset : paths.map Path.names ⊆ sites := by
    intro names hmem
    obtain ⟨path, hpath, rfl⟩ := List.mem_map.1 hmem
    exact hsites path hpath
  have hlength := (List.subperm_of_subset hnames hsubset).length_le
  rw [List.length_map] at hlength
  exact hlength

/-- The bound on the depth of includes is not met. -/
theorem Fits.depth_pos {files : FileTree} {depth : Nat} {including : List Path}
    (h : Fits files depth including) : 0 < depth := by
  have hlength := length_le_of_resolved h.nodup h.root h.listed
  rw [List.length_map] at hlength
  have hroom := h.room
  omega

/-- Another file that is read may be included within the others. -/
theorem Fits.snoc {files : FileTree} {depth : Nat} {including : List Path} {path : Path}
    (h : Fits files (depth + 1) including) (hnew : path ∉ including) (hroot : path.root = "/")
    (hlisted : path.names ∈ files.nodes.map Prod.fst) :
    Fits files depth (including ++ [path]) where
  nodup := by
    refine List.nodup_append.2 ⟨h.nodup, List.nodup_singleton path, fun one hone other hother => ?_⟩
    rw [List.mem_singleton.1 hother]
    rintro rfl
    exact hnew hone
  root := by
    intro other hmem
    obtain hmem | hmem := List.mem_append.1 hmem
    · exact h.root other hmem
    · rw [List.mem_singleton.1 hmem, hroot]
  listed := by
    intro other hmem
    obtain hmem | hmem := List.mem_append.1 hmem
    · exact h.listed other hmem
    · rw [List.mem_singleton.1 hmem]
      exact hlisted
  room := by
    have hroom := h.room
    rw [List.length_append, List.length_singleton]
    omega

section Agree

variable {first second : Environment}

/-- Equal results with one state agree. -/
theorem State.Alike.refl (state : State) : state.Alike state :=
  ⟨state.macros, rfl, fun _ => rfl⟩

/-- Names are the names of macros alike. -/
theorem contains_congr {table other : MacroTable}
    (h : ∀ name, table.find? name = other.find? name) (name : String) :
    table.contains name = other.contains name := by
  rw [MacroTable.contains, MacroTable.contains, h]

/-- A further macro leads to the same for every name. -/
theorem find?_push_congr {table other : MacroTable}
    (h : ∀ name, table.find? name = other.find? name) (m : Macro) (name : String) :
    (table.push m).find? name = (other.push m).find? name := by
  have hname := h name
  simp only [MacroTable.find?, MacroTable.push, List.find?_append] at hname ⊢
  rw [hname]

/-- Names lead to the same in states that are alike. -/
theorem lookup_alike (henv : first.Alike second) {s t : State} (h : s.Alike t) :
    lookup first s = lookup second t := by
  obtain ⟨macros, rfl, hm⟩ := h
  funext name
  simp only [lookup, hm, henv.constants.ambient, henv.constants.constantObject]

/-- Conditions are true alike. -/
theorem test_alike (henv : first.Alike second) {s t : State} (h : s.Alike t) (payload : String) :
    test first s payload = test second t payload := by
  unfold test
  rw [lookup_alike henv h]

/-- Names are defined alike. -/
theorem isDefined_alike (henv : first.Alike second) {s t : State} (h : s.Alike t)
    (name : String) : isDefined first s name = isDefined second t name := by
  obtain ⟨macros, rfl, hm⟩ := h
  simp only [isDefined, Constants.contains, contains_congr hm, henv.constants.ambient]

/-- Tests are true alike. -/
theorem BranchTest.holds_alike (henv : first.Alike second) {s t : State} (h : s.Alike t)
    (b : BranchTest) : b.holds first s = b.holds second t :=
  b.holds_of_eq (test_alike henv h) (isDefined_alike henv h)

/-- A token is copied alike. -/
theorem copy_alike {s t : State} (h : s.Alike t) (text : String) :
    (copy s text).Alike (copy t text) := by
  obtain ⟨macros, rfl, hm⟩ := h
  have hs : ({ s with macros } : State).suppressed = s.suppressed := rfl
  unfold copy
  rw [hs]
  split
  · exact ⟨macros, rfl, hm⟩
  · exact ⟨macros, rfl, hm⟩

/-- What is handled alike is settled alike. -/
theorem settle_agree {one other : Handled} (h : Agree one other) (text : String) :
    Agree (settle text one) (settle text other) := by
  obtain ⟨s, result⟩ := one
  obtain ⟨t, result'⟩ := other
  obtain ⟨rfl, halike⟩ := h
  match result with
  | .ok true => exact ⟨rfl, halike⟩
  | .ok false => exact ⟨rfl, copy_alike halike text⟩
  | .error e => exact ⟨rfl, halike⟩

/-- Blocks are changed alike. -/
theorem changeBlocks_agree {s t : State} (h : s.Alike t) (result : Except Imbalance Conditional) :
    Agree (changeBlocks s result) (changeBlocks t result) := by
  obtain ⟨macros, rfl, hm⟩ := h
  cases result with
  | ok conditions => exact ⟨rfl, macros, rfl, hm⟩
  | error e => exact ⟨rfl, macros, rfl, hm⟩

/-- A macro is defined alike. -/
theorem defineMacro_agree {s t : State} (h : s.Alike t) (payload : String) :
    Agree (defineMacro s payload) (defineMacro t payload) := by
  obtain ⟨macros, rfl, hm⟩ := h
  simp only [defineMacro, MacroTable.define, contains_congr hm]
  by_cases hc : macros.contains (String.ofList (Text.cut ' ' payload.toList).1) = true
  · simp only [if_pos hc]
    exact ⟨rfl, macros, rfl, hm⟩
  · simp only [if_neg hc]
    exact ⟨rfl, _, rfl, find?_push_congr hm _⟩

/-- Processing included files agrees: files that fit into both trees leave the same behind, if what
the first run reads reads alike. -/
def EmitsAgree (first second : Environment) (depth other : Nat)
    (emit₁ emit₂ : State → String → Path → Step) : Prop :=
  ∀ s t : State, s.Alike t → ∀ text path, Fits first.files depth s.including →
    Fits second.files other s.including →
    (∀ target ∈ (emit₁ s text path).1.reads, ReadsAlike first second target) →
    Agree (emit₁ s text path) (emit₂ t text path)

/-- A file that reads alike is included alike, or cannot be read for the same reason. -/
theorem readInclude_congr {target : Path} (h : ReadsAlike first second target)
    (location : Location) :
    readInclude first location target = readInclude second location target := by
  unfold readInclude
  rw [h]

/-- What is read for an include was read as a text. -/
theorem readText_of_readInclude {env : Environment} {location : Location} {target : Path}
    {text : String} (h : readInclude env location target = .ok text) :
    env.files.readText target env.config = .ok text := by
  unfold readInclude at h
  split at h
  case h_1 hr =>
    obtain rfl := Except.ok.inj h
    exact hr
  case h_2 => cases h
  case h_3 => split at h <;> cases h
  case h_4 => cases h

variable {depth other : Nat} {emit₁ emit₂ : State → String → Path → Step}

/-- The text of an included file is processed alike. -/
theorem spliceFile_agree (hemit : EmitsAgree first second depth other emit₁ emit₂) {s t : State}
    (h : s.Alike t) (text : String) {resolved : Path} (hroot : resolved.root = "/")
    (hfits : Fits first.files (depth + 1) s.including)
    (hfits' : Fits second.files (other + 1) s.including)
    (hlisted : resolved.names ∈ first.files.nodes.map Prod.fst)
    (hlisted' : resolved.names ∈ second.files.nodes.map Prod.fst)
    (hreads : ∀ target ∈ (spliceFile emit₁ s text resolved).1.reads,
      ReadsAlike first second target) :
    Agree (spliceFile emit₁ s text resolved) (spliceFile emit₂ t text resolved) := by
  obtain ⟨macros, rfl, hm⟩ := h
  unfold spliceFile at hreads ⊢
  simp only at hreads ⊢
  by_cases hmem : s.including.contains resolved = true
  · rw [if_pos hmem, if_pos hmem]
    exact ⟨rfl, macros, rfl, hm⟩
  · rw [if_neg hmem] at hreads ⊢
    rw [if_neg hmem]
    -- The file is new among those in progress, so that the depths suffice for it too.
    have hnew : resolved ∉ s.including := by simpa using hmem
    have hagree := hemit { s with including := s.including ++ [resolved] }
      { s with macros, including := s.including ++ [resolved] } ⟨macros, rfl, hm⟩ text resolved
      (hfits.snoc hnew hroot hlisted) (hfits'.snoc hnew hroot hlisted')
    generalize emit₁ { s with including := s.including ++ [resolved] } text resolved = step
      at hreads hagree ⊢
    generalize emit₂ { s with macros, including := s.including ++ [resolved] } text resolved =
      step' at hagree ⊢
    obtain ⟨after, failure⟩ := step
    obtain ⟨after', failure'⟩ := step'
    cases failure with
    | none =>
      obtain ⟨rfl, macros', rfl, hm'⟩ := hagree hreads
      exact ⟨rfl, macros', rfl, hm'⟩
    | some e =>
      obtain ⟨rfl, macros', rfl, hm'⟩ := hagree hreads
      exact ⟨rfl, macros', rfl, hm'⟩

/-- A file is included alike. -/
theorem includeFile_agree (henv : first.Alike second)
    (hemit : EmitsAgree first second depth other emit₁ emit₂) (hreturns : Returns emit₁)
    {s t : State} (h : s.Alike t) (hpath : s.location.path.isSome = true)
    (hfits : Fits first.files (depth + 1) s.including)
    (hfits' : Fits second.files (other + 1) s.including) (payload : String)
    (hreads : ∀ target ∈ (includeFile first emit₁ s payload).1.reads,
      ReadsAlike first second target) :
    Agree (includeFile first emit₁ s payload) (includeFile second emit₂ t payload) := by
  obtain ⟨macros, rfl, hm⟩ := h
  have htarget : ∀ name, includeTarget second { s with macros } name =
      includeTarget first s name := by
    intro name
    obtain ⟨path, hpath⟩ := Option.isSome_iff_exists.1 hpath
    simp only [includeTarget, hpath]
  -- The file is among those that the first run has read, whatever comes of reading it.
  have hread := hreads _ ((includeFile_continues_target hreturns s payload).reads.subset
    List.mem_cons_self)
  unfold includeFile at hreads ⊢
  rw [htarget]
  generalize includeTarget first s (stripWrapping (Text.strip payload)) = target at hread hreads ⊢
  simp only at hreads ⊢
  rw [← readInclude_congr hread]
  cases hr : readInclude first s.location target with
  | error e => exact ⟨rfl, macros, rfl, hm⟩
  | ok text =>
    rw [hr] at hreads
    simp only [← henv.recursiveIncludes, ← henv.here] at hreads ⊢
    split at hreads
    case isTrue hrec =>
      rw [if_pos hrec, if_pos hrec]
      have halike : State.Alike { s with reads := target :: s.reads }
        { s with macros, reads := target :: s.reads } := ⟨macros, rfl, hm⟩
      have hfirst := readText_of_readInclude hr
      have hsecond := hfirst
      rw [hread] at hsecond
      have hlisted' := FileTree.resolve_mem_of_readText hsecond
      rw [← henv.here] at hlisted'
      exact spliceFile_agree hemit halike text rfl hfits hfits'
        (FileTree.resolve_mem_of_readText hfirst) hlisted' hreads
    case isFalse hrec =>
      rw [if_neg hrec, if_neg hrec]
      exact ⟨rfl, macros, rfl, hm⟩

/-- A directive is obeyed alike. -/
theorem obey_agree (henv : first.Alike second)
    (hemit : EmitsAgree first second depth other emit₁ emit₂) (hreturns : Returns emit₁)
    {s t : State} (h : s.Alike t) (hpath : s.location.path.isSome = true)
    (hfits : Fits first.files (depth + 1) s.including)
    (hfits' : Fits second.files (other + 1) s.including) (command : Command)
    (payload : Option String)
    (hreads : ∀ target ∈ (obey first emit₁ s command payload).1.reads,
      ReadsAlike first second target) :
    Agree (obey first emit₁ s command payload) (obey second emit₂ t command payload) := by
  have hsuppressed : t.suppressed = s.suppressed := by
    obtain ⟨macros, rfl, hm⟩ := h
    rfl
  have hconditions : t.conditions = s.conditions := by
    obtain ⟨macros, rfl, hm⟩ := h
    rfl
  have hholds : ∀ b : BranchTest, b.holds second t = b.holds first s :=
    fun b => (b.holds_alike henv h).symm
  -- Whether what is read reads alike matters to includes only.
  refine obey_rel (Q := fun one another =>
      (∀ target ∈ one.1.reads, ReadsAlike first second target) → Agree one another)
    hsuppressed hconditions hholds ?idle ?turn ?define ?inclusion hreads
  case idle => exact fun consumed _ => ⟨rfl, h⟩
  case turn => exact fun result _ _ => changeBlocks_agree h result
  case define => exact fun text _ _ _ => defineMacro_agree h text
  case inclusion =>
    exact fun text _ _ hreads => includeFile_agree henv hemit hreturns h hpath hfits hfits' text hreads

/-- A token is processed alike. -/
theorem processToken_agree (henv : first.Alike second)
    (hemit : EmitsAgree first second depth other emit₁ emit₂) (hreturns : Returns emit₁)
    {s t : State} (h : s.Alike t) (hpath : s.location.path.isSome = true)
    (hfits : Fits first.files (depth + 1) s.including)
    (hfits' : Fits second.files (other + 1) s.including) (token : Token)
    (hreads : ∀ target ∈ (processToken first emit₁ s token).1.reads,
      ReadsAlike first second target) :
    Agree (processToken first emit₁ s token) (processToken second emit₂ t token) := by
  have hreach : (s.reach token).Alike (t.reach token) := by
    obtain ⟨macros, rfl, hm⟩ := h
    exact ⟨macros, rfl, hm⟩
  rw [processToken_eq] at hreads ⊢
  rw [processToken_eq]
  split at hreads
  case isFalse hcandidate =>
    rw [if_neg hcandidate, if_neg hcandidate]
    exact ⟨rfl, copy_alike hreach _⟩
  case isTrue hcandidate =>
    rw [if_pos hcandidate, if_pos hcandidate]
    refine settle_agree ?_ token.text
    -- Settling what the comment asks for reads no file beyond those that were read for it.
    have hhandled := fun target hmem => hreads target
      ((settle_continues (.refl _) token.text).reads.subset hmem)
    unfold handleComment at hhandled ⊢
    simp only at hhandled ⊢
    split
    · exact ⟨rfl, hreach⟩
    case h_2 hcommand =>
      rw [hcommand] at hhandled
      exact obey_agree henv hemit hreturns hreach hpath hfits hfits' _ _ hhandled

/-- Tokens are processed alike. -/
theorem processTokens_agree (henv : first.Alike second)
    (hemit : EmitsAgree first second depth other emit₁ emit₂) (hreturns : Returns emit₁)
    {s t : State} (h : s.Alike t) (hpath : s.location.path.isSome = true)
    (hfits : Fits first.files (depth + 1) s.including)
    (hfits' : Fits second.files (other + 1) s.including) (tokens : List Token)
    (hreads : ∀ target ∈ (processTokens first emit₁ s tokens).1.reads,
      ReadsAlike first second target) :
    Agree (processTokens first emit₁ s tokens) (processTokens second emit₂ t tokens) := by
  induction tokens generalizing s t with
  | nil => exact ⟨rfl, h⟩
  | cons token tokens ih =>
    have hcontinues := processToken_continues first hreturns s token
    have htoken := processToken_agree henv hemit hreturns h hpath hfits hfits' token
    rw [processTokens] at hreads ⊢
    rw [processTokens]
    generalize processToken first emit₁ s token = step at hreads hcontinues htoken ⊢
    generalize processToken second emit₂ t token = step' at htoken ⊢
    obtain ⟨after, failure⟩ := step
    obtain ⟨after', failure'⟩ := step'
    cases failure with
    | some e =>
      obtain ⟨rfl, halike⟩ := htoken hreads
      exact ⟨rfl, halike⟩
    | none =>
      have hrest := processTokens_continues first hreturns after tokens
      obtain ⟨rfl, halike⟩ := htoken fun target hmem => hreads target (hrest.reads.subset hmem)
      refine ih halike ?_ ?_ ?_ hreads
      · rw [hcontinues.path]
        exact hpath
      · rw [hcontinues.including]
        exact hfits
      · rw [hcontinues.including]
        exact hfits'

/-- The pieces of a source are processed alike. -/
theorem processPieces_agree (henv : first.Alike second)
    (hemit : EmitsAgree first second depth other emit₁ emit₂) (hreturns : Returns emit₁)
    {s t : State} (h : s.Alike t) (hpath : s.location.path.isSome = true)
    (hfits : Fits first.files (depth + 1) s.including)
    (hfits' : Fits second.files (other + 1) s.including) (pieces : Tokenized)
    (hreads : ∀ target ∈ (processPieces first emit₁ s pieces).1.reads,
      ReadsAlike first second target) :
    Agree (processPieces first emit₁ s pieces) (processPieces second emit₂ t pieces) := by
  have hcontinues := processTokens_continues first hreturns s pieces.scanned
  have hscanned := processTokens_agree henv hemit hreturns h hpath hfits hfits' pieces.scanned
  unfold processPieces at hreads ⊢
  generalize processTokens first emit₁ s pieces.scanned = step at hreads hcontinues hscanned ⊢
  generalize processTokens second emit₂ t pieces.scanned = step' at hscanned ⊢
  obtain ⟨after, failure⟩ := step
  obtain ⟨after', failure'⟩ := step'
  cases failure with
  | some e =>
    obtain ⟨rfl, halike⟩ := hscanned hreads
    exact ⟨rfl, halike⟩
  | none =>
    simp only at hreads hcontinues
    have hrest := processTokens_continues first hreturns { after with
      warnings := pieces.warning.toList.map (warningText after.location.path) ++ after.warnings }
      pieces.rest.toList
    obtain ⟨rfl, macros, rfl, hm⟩ :=
      hscanned fun target hmem => hreads target (hrest.reads.subset hmem)
    simp only
    generalize pieces.warning.toList.map (warningText after.location.path) ++ after.warnings =
      warnings at hreads
    have halike : State.Alike { after with warnings } { after with macros, warnings } :=
      ⟨macros, rfl, hm⟩
    refine processTokens_agree henv hemit hreturns halike ?_ ?_ ?_ _ hreads
    · rw [hcontinues.path]
      exact hpath
    · rw [hcontinues.including]
      exact hfits
    · rw [hcontinues.including]
      exact hfits'

/-- Texts of files are processed alike, whatever depth bounds their includes, if the files fit. -/
theorem emits_agree (henv : first.Alike second) (depth other : Nat) :
    EmitsAgree first second depth other
      (fun state text path => emit first depth state text (some path))
      (fun state text path => emit second other state text (some path)) := by
  induction depth generalizing other with
  | zero => exact fun _ _ _ _ _ hfits => absurd hfits.depth_pos (Nat.lt_irrefl 0)
  | succ depth ih =>
    intro s t halike text path hfits hfits' hreads
    cases other with
    | zero => exact absurd hfits'.depth_pos (Nat.lt_irrefl 0)
    | succ other =>
      obtain ⟨macros, rfl, hm⟩ := halike
      simp only [emit] at hreads ⊢
      have hentered : State.Alike { s with location := ⟨some path, s.location.line⟩ }
        { s with macros, location := ⟨some path, s.location.line⟩ } := ⟨macros, rfl, hm⟩
      obtain ⟨hfailure, macros', hstate, hm'⟩ := processPieces_agree henv (ih other)
        (emit_returns first depth) hentered rfl hfits hfits' (Source.tokenize text) hreads
      exact ⟨hfailure, macros', by rw [hstate], hm'⟩

/-- The end of a pass leaves its state as it is. -/
theorem finish_fst (path : Option Path) (step : Step) : (finish path step).1 = step.1 := by
  obtain ⟨state, failure⟩ := step
  cases failure with
  | some e => rfl
  | none =>
    rw [finish]
    split <;> rfl

/-- Passes that agree end alike. -/
theorem finish_agree {one another : Step} (h : Agree one another) (path : Option Path) :
    Agree (finish path one) (finish path another) := by
  refine ⟨?_, by rw [finish_fst, finish_fst]; exact h.2⟩
  obtain ⟨state, failure⟩ := one
  obtain ⟨state', failure'⟩ := another
  obtain ⟨rfl, macros, rfl, hm⟩ := h
  cases failure with
  | some e => rfl
  | none =>
    simp only [finish]
    split <;> rfl

end Agree

/-- Steps that agree have the same result and warn of the same. -/
theorem Agree.result_eq {one another : Step} (h : Agree one another) :
    Step.result one = Step.result another ∧ one.1.warnings = another.1.warnings := by
  obtain ⟨state, result⟩ := one
  obtain ⟨other, result'⟩ := another
  obtain ⟨rfl, macros, rfl, -⟩ := h
  cases result <;> exact ⟨rfl, rfl⟩

/-- The text of a source is read from its file. -/
theorem readText_of_readSource {env : Environment} {path : Path} {text : String}
    (h : readSource env path = .ok text) :
    env.files.readText path env.config = .ok text := by
  unfold readSource at h
  split at h
  · cases h
  · cases h
  · exact h

/-- A file that can be processed fits within the bound on the depth of includes. -/
theorem fits_of_readSource {env : Environment} {path : Path} {text : String}
    (h : readSource env path = .ok text) :
    Fits env.files (depthBound env.files) [path.resolve env.files.here] where
  nodup := List.nodup_singleton _
  root := by
    intro other hmem
    rw [List.mem_singleton.1 hmem]
    rfl
  listed := by
    intro other hmem
    rw [List.mem_singleton.1 hmem]
    exact FileTree.resolve_mem_of_readText (readText_of_readSource h)
  room := by
    rw [List.length_singleton, depthBound]
    omega

/-- A first pass over a file agrees with one in an environment that is alike, if the macros that
they begin with lead to the same, and the file and all that the first pass includes read the
same. -/
theorem processFile_agree {first second : Environment} (henv : first.Alike second)
    (hmode : first.config.mode = second.config.mode)
    (hdefines : ∀ name,
      (MacroTable.empty.seedMissing first.config.defines first.config.macroObject).find? name =
        (MacroTable.empty.seedMissing second.config.defines second.config.macroObject).find? name)
    (path : Path)
    (hsource : readSource first path = readSource second path)
    (hreads : ∀ target ∈ (processFile first (State.start first.config.mode) path).1.reads,
      ReadsAlike first second target) :
    Agree (processFile first (State.start first.config.mode) path)
      (processFile second (State.start second.config.mode) path) := by
  unfold processFile at hreads ⊢
  rw [← hsource, ← hmode, ← henv.here]
  cases hr : readSource first path with
  | error e => exact ⟨rfl, .refl _⟩
  | ok text =>
    rw [hr] at hreads
    simp only at hreads ⊢
    have hfits := fits_of_readSource hr
    have hfits' := fits_of_readSource (hsource.symm.trans hr)
    rw [← henv.here] at hfits'
    generalize path.resolve first.files.here = resolved at hreads hfits hfits' ⊢
    have hbegin : (begin first.config (State.start first.config.mode) (some resolved)).Alike
        (begin second.config (State.start first.config.mode) (some resolved)) := by
      refine ⟨(begin second.config (State.start first.config.mode) (some resolved)).macros, rfl, ?_⟩
      simp only [begin, State.start, ite_self]
      exact hdefines
    have hagree := emits_agree henv (depthBound first.files) (depthBound second.files) _ _ hbegin
      text resolved hfits hfits'
    unfold run at hreads ⊢
    rw [finish_fst] at hreads
    exact finish_agree (hagree hreads) _

end Pass

end Hashmark

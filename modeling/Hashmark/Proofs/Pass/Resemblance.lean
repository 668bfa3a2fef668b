import Hashmark.Proofs.Pass.Congruence
import Mathlib.Data.List.Forall2
import Mathlib.Data.Option.Basic

/-!
# Passes that differ in their lines

Nothing that a pass does depends on the numbers of lines, the files that were read before, or the
warnings that were given. It only reports them, in its failures and as the places of its macros. So
two passes over tokens that are the same but for their lines do the same, and report lines that are
related as those of the tokens are (`processTokens_resembles`, `emit_resembles`).

The relation of the lines is a parameter, `lines`. With equality it asks for the same lines, so that
the macros and the failures are the same (`MacroTable.Resembles.eq`, `Step.Resembles.failure_eq`),
and what is left free are the files that were read and the warnings. With a relation that always
holds it says nothing about lines.
-/

namespace Hashmark

/-- Places in the same file, on lines that are related. -/
structure Location.Resembles (lines : Int → Int → Prop) (one other : Location) : Prop where
  /-- The file is the same. -/
  path : one.path = other.path
  /-- The lines are related. -/
  line : lines one.line other.line

/-- Macros that are the same but for the lines of their definitions. -/
structure Macro.Resembles (lines : Int → Int → Prop) (one other : Macro) : Prop where
  /-- The name is the same. -/
  name : one.name = other.name
  /-- The text is the same. -/
  value : one.value = other.value
  /-- The places resemble each other. -/
  location : one.location.Resembles lines other.location
  /-- The text is the same object. -/
  object : one.object = other.object

/-- Tables of macros that are the same, in the same order, but for the lines of their
definitions. -/
def MacroTable.Resembles (lines : Int → Int → Prop) (one other : MacroTable) : Prop :=
  List.Forall₂ (Macro.Resembles lines) one.macros other.macros

/-- If macros correspond one by one, and by name, then a name leads to macros that correspond, or to
none in either table. -/
theorem MacroTable.find?_rel {R : Macro → Macro → Prop}
    (hname : ∀ {m m' : Macro}, R m m' → m.name = m'.name) {table table' : MacroTable}
    (h : List.Forall₂ R table.macros table'.macros) (name : String) :
    Option.Rel R (table.find? name) (table'.find? name) := by
  obtain ⟨macros⟩ := table
  obtain ⟨macros'⟩ := table'
  change List.Forall₂ R macros macros' at h
  show Option.Rel R (macros.find? _) (macros'.find? _)
  induction h with
  | nil => exact .none
  | @cons m m' ms ms' hm _ ih =>
    rw [List.find?_cons, List.find?_cons, hname hm]
    split
    · exact .some hm
    · exact ih

/-- Tables of macros that resemble each other on the same lines are the same. -/
theorem MacroTable.Resembles.eq {table table' : MacroTable} (h : table.Resembles Eq table') :
    table = table' := by
  obtain ⟨macros⟩ := table
  obtain ⟨macros'⟩ := table'
  have heq : List.Forall₂ Eq macros macros' := by
    refine List.Forall₂.imp (fun m m' hm => ?_) h
    obtain ⟨name, value, ⟨path, line⟩, object⟩ := m
    obtain ⟨name', value', ⟨path', line'⟩, object'⟩ := m'
    obtain ⟨rfl, rfl, ⟨rfl, rfl⟩, rfl⟩ := hm
    rfl
  rw [List.forall₂_eq_eq_eq] at heq
  rw [heq]

/-- Failures that are the same but for the line. -/
inductive Failure.Resembles (lines : Int → Int → Prop) : Failure → Failure → Prop
  /-- A failure resembles itself. -/
  | refl (e : Failure) : Failure.Resembles lines e e
  /-- The problem is the same, and the places resemble each other. -/
  | located (problem : Problem) {one other : Location} (h : one.Resembles lines other) :
      Failure.Resembles lines (.at problem one) (.at problem other)

/-- Failures that resemble each other on the same line are the same. -/
theorem Failure.Resembles.eq {e e' : Failure} (h : e.Resembles Eq e') : e = e' := by
  cases h with
  | refl => rfl
  | @located problem one other h =>
    obtain ⟨path, line⟩ := one
    obtain ⟨path', line'⟩ := other
    obtain ⟨rfl, rfl⟩ := h
    rfl

/-- Tokens that are the same but for their lines. -/
structure Source.Token.Resembles (lines : Int → Int → Prop) (one other : Token) : Prop where
  /-- The kind is the same. -/
  kind : one.kind = other.kind
  /-- The text is the same. -/
  text : one.text = other.text
  /-- The lines are related. -/
  line : lines one.line other.line

namespace Pass

open Source (Token Tokenized)

/-- States that are the same but for the lines of the macros, the line that is reached, the files
that were read, and the warnings. -/
structure State.Resembles (lines : Int → Int → Prop) (one other : State) : Prop where
  /-- The macros resemble each other. -/
  macros : one.macros.Resembles lines other.macros
  /-- The same blocks are open. -/
  conditions : one.conditions = other.conditions
  /-- The same text has been produced. -/
  output : one.output = other.output
  /-- The same files are being included. -/
  including : one.including = other.including
  /-- The same file is at hand. -/
  path : one.location.path = other.location.path

/-- Results that are the same but for the line of a failure. -/
inductive ResultResembles {α : Type} (lines : Int → Int → Prop) :
    Except Failure α → Except Failure α → Prop
  /-- The results are the same. -/
  | ok (a : α) : ResultResembles lines (.ok a) (.ok a)
  /-- The failures resemble each other. -/
  | error {e e' : Failure} (h : e.Resembles lines e') : ResultResembles lines (.error e) (.error e')

/-- Steps to states that resemble each other, which fail alike if they do. -/
def Step.Resembles (lines : Int → Int → Prop) (one other : Step) : Prop :=
  one.1.Resembles lines other.1 ∧ Option.Rel (Failure.Resembles lines) one.2 other.2

/-- Directives handled alike, in states that resemble each other. -/
def Handled.Resembles (lines : Int → Int → Prop) (one other : Handled) : Prop :=
  one.1.Resembles lines other.1 ∧ ResultResembles lines one.2 other.2

/-- Processing the text of an included file in states that resemble each other, on lines that are
related, does the same. -/
def EmitResembles (lines : Int → Int → Prop) (emit : State → String → Path → Step) : Prop :=
  ∀ s t : State, s.Resembles lines t → lines s.location.line t.location.line → ∀ text path,
    (emit s text path).Resembles lines (emit t text path)

section Resembles

variable {lines : Int → Int → Prop} {env : Environment} {emit : State → String → Path → Step}
  {s t : State}

/-- A state resembles itself. -/
theorem State.Resembles.refl (hlines : ∀ line, lines line line) (state : State) :
    state.Resembles lines state where
  macros := List.forall₂_same.2 fun _ _ => ⟨rfl, rfl, ⟨rfl, hlines _⟩, rfl⟩
  conditions := rfl
  output := rfl
  including := rfl
  path := rfl

/-- A step resembles itself. -/
theorem Step.Resembles.refl (hlines : ∀ line, lines line line) (step : Step) :
    step.Resembles lines step := by
  obtain ⟨state, failure⟩ := step
  refine ⟨.refl hlines state, ?_⟩
  cases failure with
  | none => exact .none
  | some e => exact .some (.refl e)

/-- Tokens resemble themselves. -/
theorem tokens_resemble (hlines : ∀ line, lines line line) (tokens : List Token) :
    List.Forall₂ (Token.Resembles lines) tokens tokens :=
  List.forall₂_same.2 fun _ _ => ⟨rfl, rfl, hlines _⟩

/-- States that resemble each other on related lines are at places that do. -/
theorem State.Resembles.location (h : s.Resembles lines t)
    (hline : lines s.location.line t.location.line) :
    s.location.Resembles lines t.location :=
  ⟨h.path, hline⟩

/-- Text is suppressed alike. -/
theorem State.Resembles.suppressed (h : s.Resembles lines t) : s.suppressed = t.suppressed := by
  rw [State.suppressed, State.suppressed, h.conditions]

/-- A name leads to macros that resemble each other, or to none. -/
theorem find?_resembles {table table' : MacroTable} (h : table.Resembles lines table')
    (name : String) :
    Option.Rel (Macro.Resembles lines) (table.find? name) (table'.find? name) :=
  MacroTable.find?_rel Macro.Resembles.name h name

/-- The same names are defined. -/
theorem contains_resembles {table table' : MacroTable} (h : table.Resembles lines table')
    (name : String) : table.contains name = table'.contains name := by
  have hfind := find?_resembles h name
  rw [MacroTable.contains, MacroTable.contains]
  generalize table.find? name = one at hfind
  generalize table'.find? name = other at hfind
  cases hfind with
  | none => rfl
  | some => rfl

/-- Names lead to the same. -/
theorem lookup_resembles (h : s.Resembles lines t) : lookup env s = lookup env t := by
  funext name
  have hfind := find?_resembles h.macros name
  unfold lookup
  generalize s.macros.find? name = one at hfind ⊢
  generalize t.macros.find? name = other at hfind ⊢
  cases hfind with
  | none => rfl
  | some hm => simp only [Macro.lookup, hm.value, hm.object]

/-- Conditions are true alike. -/
theorem test_resembles (h : s.Resembles lines t) (payload : String) :
    test env s payload = test env t payload := by
  unfold test
  rw [lookup_resembles h]

/-- Names are defined alike. -/
theorem isDefined_resembles (h : s.Resembles lines t) (name : String) :
    isDefined env s name = isDefined env t name := by
  unfold isDefined
  rw [contains_resembles h.macros]

/-- A token is copied alike. -/
theorem copy_resembles (h : s.Resembles lines t) (text : String) :
    (copy s text).Resembles lines (copy t text) := by
  unfold copy
  rw [h.suppressed]
  split
  · exact h
  · exact { h with output := congrArg (· ++ text) h.output }

/-- What is handled alike is settled alike. -/
theorem settle_resembles {one other : Handled} (h : one.Resembles lines other) (text : String) :
    (settle text one).Resembles lines (settle text other) := by
  obtain ⟨s, result⟩ := one
  obtain ⟨t, result'⟩ := other
  obtain ⟨hs, hresult⟩ := h
  cases hresult with
  | ok consumed =>
    cases consumed with
    | true => exact ⟨hs, .none⟩
    | false => exact ⟨copy_resembles hs text, .none⟩
  | error he => exact ⟨hs, .some he⟩

/-- Blocks are changed alike. -/
theorem changeBlocks_resembles (h : s.Resembles lines t)
    (hline : lines s.location.line t.location.line) (result : Except Imbalance Conditional) :
    (changeBlocks s result).Resembles lines (changeBlocks t result) := by
  cases result with
  | ok conditions => exact ⟨{ h with conditions := rfl }, .ok true⟩
  | error e => exact ⟨h, .error (.located _ (h.location hline))⟩

/-- A macro is defined alike. -/
theorem defineMacro_resembles (h : s.Resembles lines t)
    (hline : lines s.location.line t.location.line) (payload : String) :
    (defineMacro s payload).Resembles lines (defineMacro t payload) := by
  simp only [defineMacro, MacroTable.define, contains_resembles h.macros]
  by_cases hc : t.macros.contains (String.ofList (Text.cut ' ' payload.toList).1) = true
  · simp only [if_pos hc]
    exact ⟨h, .error (.located _ (h.location hline))⟩
  · simp only [if_neg hc]
    have hm : ∀ name value, Macro.Resembles lines ⟨name, value, s.location, none⟩
        ⟨name, value, t.location, none⟩ := fun _ _ => ⟨rfl, rfl, h.location hline, rfl⟩
    exact ⟨{ h with macros := List.rel_append h.macros (.cons (hm _ _) .nil) }, .ok true⟩

/-- The text of a file to include is the same, or it cannot be read for the same reason. -/
theorem readInclude_resembles {location location' : Location}
    (h : location.Resembles lines location') (target : Path) :
    ResultResembles lines (readInclude env location target) (readInclude env location' target) := by
  unfold readInclude
  split
  · exact .ok _
  · exact .error (.located _ h)
  · split
    · exact .error (.refl _)
    · exact .error (.located _ h)
  · exact .error (.refl _)

/-- The text of an included file is processed alike. -/
theorem spliceFile_resembles (hemit : EmitResembles lines emit) (h : s.Resembles lines t)
    (hline : lines s.location.line t.location.line) (text : String) (resolved : Path) :
    (spliceFile emit s text resolved).Resembles lines (spliceFile emit t text resolved) := by
  unfold spliceFile
  rw [h.including]
  split
  · exact ⟨h, .error (.located _ (h.location hline))⟩
  · have henter : State.Resembles lines { s with including := t.including ++ [resolved] }
        { t with including := t.including ++ [resolved] } := { h with including := rfl }
    have hemitted := hemit _ _ henter hline text resolved
    generalize emit { s with including := t.including ++ [resolved] } text resolved = step
      at hemitted ⊢
    generalize emit { t with including := t.including ++ [resolved] } text resolved = step'
      at hemitted ⊢
    obtain ⟨after, failure⟩ := step
    obtain ⟨after', failure'⟩ := step'
    obtain ⟨hafter, hfailure⟩ := hemitted
    cases hfailure with
    | none => exact ⟨{ hafter with including := rfl }, .ok true⟩
    | some he => exact ⟨{ hafter with including := rfl }, .error he⟩

/-- A file is included alike. -/
theorem includeFile_resembles (hemit : EmitResembles lines emit) (h : s.Resembles lines t)
    (hline : lines s.location.line t.location.line) (payload : String) :
    (includeFile env emit s payload).Resembles lines (includeFile env emit t payload) := by
  have htarget : includeTarget env s = includeTarget env t := by
    funext name
    simp only [includeTarget, h.path]
  unfold includeFile
  rw [htarget]
  generalize includeTarget env t (stripWrapping (Text.strip payload)) = target
  have hread : State.Resembles lines { s with reads := target :: s.reads }
      { t with reads := target :: t.reads } := { h with }
  have hresult : ResultResembles lines (readInclude env s.location target)
      (readInclude env t.location target) := readInclude_resembles (h.location hline) target
  simp only
  generalize readInclude env s.location target = result at hresult ⊢
  generalize readInclude env t.location target = result' at hresult ⊢
  cases hresult with
  | error he => exact ⟨hread, .error he⟩
  | ok text =>
    simp only
    split
    · exact spliceFile_resembles hemit hread hline text _
    · exact ⟨{ hread with output := congrArg (· ++ text) h.output }, .ok true⟩

/-- A directive is obeyed alike. -/
theorem obey_resembles (hemit : EmitResembles lines emit) (h : s.Resembles lines t)
    (hline : lines s.location.line t.location.line) (command : Command)
    (payload : Option String) :
    (obey env emit s command payload).Resembles lines (obey env emit t command payload) := by
  have hholds : ∀ b : BranchTest, b.holds env t = b.holds env s :=
    fun b => (b.holds_of_eq (test_resembles h) (isDefined_resembles h)).symm
  refine obey_rel (Q := Handled.Resembles lines) h.suppressed.symm h.conditions.symm hholds
    ?idle ?turn ?define ?inclusion
  case idle => exact fun consumed => ⟨h, .ok consumed⟩
  case turn => exact fun result _ => changeBlocks_resembles h hline result
  case define => exact fun text _ _ => defineMacro_resembles h hline text
  case inclusion => exact fun text _ _ => includeFile_resembles hemit h hline text

/-- A comment is handled alike. -/
theorem handleComment_resembles (hemit : EmitResembles lines emit) (h : s.Resembles lines t)
    (hline : lines s.location.line t.location.line) (comment : String) :
    (handleComment env emit s comment).Resembles lines (handleComment env emit t comment) := by
  unfold handleComment
  simp only
  split
  · exact ⟨h, .ok false⟩
  · exact obey_resembles hemit h hline _ _

/-- Tokens that are the same but for their lines are processed alike. The line that was reached
before does not matter. -/
theorem processToken_resembles (env : Environment) (hemit : EmitResembles lines emit)
    (h : s.Resembles lines t) {token token' : Token} (htoken : token.Resembles lines token') :
    (processToken env emit s token).Resembles lines (processToken env emit t token') := by
  have hreach : (s.reach token).Resembles lines (t.reach token') := { h with }
  have hcandidate : token.isCandidate = token'.isCandidate := by
    rw [Token.isCandidate, Token.isCandidate, htoken.kind, htoken.text]
  rw [processToken_eq, processToken_eq, hcandidate, htoken.text]
  split
  · exact settle_resembles (handleComment_resembles hemit hreach htoken.line _) _
  · exact ⟨copy_resembles hreach _, .none⟩

/-- Tokens that are the same but for their lines are processed alike, one after another. -/
theorem processTokens_resembles (env : Environment) (hemit : EmitResembles lines emit)
    (h : s.Resembles lines t) {tokens tokens' : List Token}
    (htokens : List.Forall₂ (Token.Resembles lines) tokens tokens') :
    (processTokens env emit s tokens).Resembles lines (processTokens env emit t tokens') := by
  induction htokens generalizing s t with
  | nil => exact ⟨h, .none⟩
  | @cons token token' tokens tokens' htoken _ ih =>
    have hstep := processToken_resembles env hemit h htoken
    rw [processTokens, processTokens]
    generalize processToken env emit s token = step at hstep ⊢
    generalize processToken env emit t token' = step' at hstep ⊢
    obtain ⟨after, failure⟩ := step
    obtain ⟨after', failure'⟩ := step'
    obtain ⟨hafter, hfailure⟩ := hstep
    cases hfailure with
    | none => exact ih hafter
    | some he => exact ⟨hafter, .some he⟩

/-- The pieces of a source are processed alike. -/
theorem processPieces_resembles (env : Environment) (hlines : ∀ line, lines line line)
    (hemit : EmitResembles lines emit) (h : s.Resembles lines t) (pieces : Tokenized) :
    (processPieces env emit s pieces).Resembles lines (processPieces env emit t pieces) := by
  have hscanned := processTokens_resembles env hemit h (tokens_resemble hlines pieces.scanned)
  unfold processPieces
  generalize processTokens env emit s pieces.scanned = step at hscanned ⊢
  generalize processTokens env emit t pieces.scanned = step' at hscanned ⊢
  obtain ⟨after, failure⟩ := step
  obtain ⟨after', failure'⟩ := step'
  obtain ⟨hafter, hfailure⟩ := hscanned
  cases hfailure with
  | some he => exact ⟨hafter, .some he⟩
  | none =>
    -- The warnings differ, which nothing depends on.
    have hwarned : ∀ warnings warnings' : List String,
        State.Resembles lines { after with warnings } { after' with warnings := warnings' } :=
      fun _ _ => { hafter with }
    exact processTokens_resembles env hemit (hwarned _ _) (tokens_resemble hlines _)

/-- Passes that end alike but for their lines are finished alike. -/
theorem finish_resembles (hlines : ∀ line, lines line line) (path : Option Path)
    {one other : Step} (h : one.Resembles lines other) :
    (finish path one).Resembles lines (finish path other) := by
  obtain ⟨state, failure⟩ := one
  obtain ⟨state', failure'⟩ := other
  obtain ⟨hstate, hfailure⟩ := h
  cases hfailure with
  | some he => exact ⟨hstate, .some he⟩
  | none =>
    have hconditions : state.conditions = state'.conditions := hstate.conditions
    simp only [finish, hconditions]
    split
    · exact ⟨hstate, .none⟩
    · exact ⟨hstate, .some (.located _ ⟨rfl, hlines 0⟩)⟩

end Resembles

/-- A text is processed alike in states that resemble each other on related lines. -/
theorem emit_resembles {lines : Int → Int → Prop} (hlines : ∀ line, lines line line)
    (env : Environment) (depth : Nat) {s t : State} (h : s.Resembles lines t)
    (hline : lines s.location.line t.location.line) (text : String) (path : Option Path) :
    (emit env depth s text path).Resembles lines (emit env depth t text path) := by
  induction depth generalizing s t text path with
  | zero =>
    simp only [emit, h.including]
    exact ⟨h, .some (.located _ (h.location hline))⟩
  | succ depth ih =>
    have hinner : EmitResembles lines fun state text path =>
        emit env depth state text (some path) :=
      fun _ _ h hline text path => ih h hline text (some path)
    have henter : State.Resembles lines { s with location := ⟨path, s.location.line⟩ }
        { t with location := ⟨path, t.location.line⟩ } := { h with path := rfl }
    obtain ⟨hafter, hfailure⟩ :=
      processPieces_resembles env hlines hinner henter (Source.tokenize text)
    simp only [emit]
    exact ⟨{ hafter with path := h.path }, hfailure⟩

/-- Steps that resemble each other on the same lines fail for the same reason. -/
theorem Step.Resembles.failure_eq {one other : Step} (h : one.Resembles Eq other) :
    one.2 = other.2 := by
  obtain ⟨state, failure⟩ := one
  obtain ⟨state', failure'⟩ := other
  obtain ⟨-, hfailure⟩ := h
  cases hfailure with
  | none => rfl
  | some he => exact congrArg some he.eq

/-- What resembles something on the same lines resembles what that resembles. -/
theorem Step.Resembles.congr {lines : Int → Int → Prop} {one one' other other' : Step}
    (h : one'.Resembles lines other') (hone : one.Resembles Eq one')
    (hother : other.Resembles Eq other') : one.Resembles lines other := by
  refine ⟨?_, by rw [hone.failure_eq, hother.failure_eq]; exact h.2⟩
  exact {
    macros := by rw [hone.1.macros.eq, hother.1.macros.eq]; exact h.1.macros
    conditions := by rw [hone.1.conditions, hother.1.conditions, h.1.conditions]
    output := by rw [hone.1.output, hother.1.output, h.1.output]
    including := by rw [hone.1.including, hother.1.including, h.1.including]
    path := by rw [hone.1.path, hother.1.path, h.1.path] }

/-- The state in which a pass over a file, or over no file, processes its tokens. -/
def State.enter (env : Environment) (state : State) (path : Option Path) : State :=
  { begin env.config state path with location := ⟨path, state.location.line⟩ }

/-- How a pass processes the text of a file that its source includes. -/
def included (env : Environment) (state : State) (text : String) (path : Path) : Step :=
  emit env (env.files.nodes.length + 1) state text (some path)

/-- A pass over pieces processes them and comes back to the place where it began. -/
theorem runPieces_eq (env : Environment) (state : State) (pieces : Tokenized)
    (path : Option Path) :
    runPieces env state pieces path =
      let step := processPieces env (included env) (state.enter env path) pieces
      finish path ({ step.1 with location := state.location }, step.2) := rfl

/-- The text of an included file is processed alike. -/
theorem included_resembles {lines : Int → Int → Prop} (hlines : ∀ line, lines line line)
    (env : Environment) : EmitResembles lines (included env) :=
  fun _ _ h hline text path => emit_resembles hlines env _ h hline text (some path)

/-- What is done for the pieces of a source is what is done for their tokens. -/
theorem processPieces_resembles_tokens (env : Environment)
    {emit : State → String → Path → Step} (hemit : EmitResembles Eq emit) (state : State)
    (pieces : Tokenized) :
    (processPieces env emit state pieces).Resembles Eq
      (processTokens env emit state pieces.tokens) := by
  rw [Tokenized.tokens, processTokens_append]
  unfold processPieces
  generalize processTokens env emit state pieces.scanned = step
  match step with
  | (after, some e) => exact .refl (fun _ => rfl) _
  | (after, none) =>
    have hwarned : State.Resembles Eq { after with
        warnings := pieces.warning.toList.map (warningText after.location.path) ++ after.warnings }
        after := { State.Resembles.refl (fun _ => rfl) after with }
    exact processTokens_resembles env hemit hwarned (tokens_resemble (fun _ => rfl) _)

/-- Passes over pieces are alike if their tokens are processed alike. -/
theorem runPieces_resembles {lines : Int → Int → Prop} (hlines : ∀ line, lines line line)
    {env : Environment} {state : State} {pieces pieces' : Tokenized} {path : Option Path}
    (h : (processTokens env (included env) (state.enter env path) pieces.tokens).Resembles lines
      (processTokens env (included env) (state.enter env path) pieces'.tokens)) :
    (runPieces env state pieces path).Resembles lines (runPieces env state pieces' path) := by
  have hpieces := processPieces_resembles_tokens env (included_resembles (fun _ => rfl) env)
    (state.enter env path)
  obtain ⟨hafter, hfailure⟩ := h.congr (hpieces pieces) (hpieces pieces')
  -- Leaving the source, both passes come back to the same place.
  exact finish_resembles hlines path ⟨{ hafter with path := rfl }, hfailure⟩

end Pass

end Hashmark

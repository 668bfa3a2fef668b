import Hashmark.Proofs.Pass.Effect
import Mathlib.Computability.StateTransition

/-!
# A pass moment by moment

A pass is a sequence of moments. At each of them several texts may be in progress, one within the
other: the source, a file that it includes, a file that this one includes, and so on (`levels`). The
next moment takes one token of the innermost text, or leaves that text when it is at its end or has
failed (`next?`). There is no bound on the depth here: a file is entered whenever it is not among
those that are being processed, and left by dropping the last of those.

`Advances` lists the five ways in which one moment follows another, so that what holds at every
moment is proved with one case for each. `runPieces_eval` says that the moments of a pass come to an
end and that the pass is what the last one shows. The depth that bounds recursive includes in
`emit` is therefore never met.
-/

namespace Hashmark

/-- What is left to do of a source. -/
inductive Source.Piece where
  /-- A token to process. -/
  | token (token : Token)
  /-- A warning to give. -/
  | warning (warning : ScanWarning)
  deriving DecidableEq, Repr

/-- The tokens and the warning of a source in their order. -/
def Source.Tokenized.inOrder (pieces : Tokenized) : List Piece :=
  pieces.scanned.map .token ++ (pieces.warning.toList.map .warning ++ pieces.rest.toList.map .token)

namespace Pass

open Source (Token Tokenized Piece)

/-- A text in progress. -/
structure Level where
  /-- What is left of it. -/
  left : List Piece
  /-- The place to come back to behind it. -/
  back : Location
  deriving DecidableEq, Repr

/-- A moment of a pass. -/
structure Moment where
  /-- The state at that moment. -/
  state : State
  /-- The texts in progress, the innermost first. -/
  levels : List Level
  /-- The failure that ends the pass, if there has been one. -/
  failure : Option Failure
  deriving DecidableEq, Repr

namespace Moment

/-- The state in which a text is left: back at the place where it was entered, and, unless it is the
source of the pass, without the file that it is the text of. -/
def left (state : State) (back : Location) (outer : List Level) : State :=
  { state with
    location := back
    including := if outer.isEmpty then state.including else state.including.dropLast }

/-- The state in which a warning has been given. -/
def warned (state : State) (warning : Source.ScanWarning) : State :=
  { state with warnings := warningText state.location.path warning :: state.warnings }

/-- Processing an included file where there is none to process. -/
def noFile (state : State) (_ : String) (_ : Path) : Step :=
  (state, none)

/-- The failure of including a file that is being processed. -/
def circular (state : State) (file : Path) : Failure :=
  .at (.circularInclude (state.including ++ [file])) state.location

/-- The state in which the text of a file begins. -/
def entered (state : State) (file : Path) : State :=
  { state with
    including := state.including ++ [file]
    location := ⟨some file, state.location.line⟩ }

/-- The moment behind a token, which is the first one of `level` in the levels `level :: outer`. -/
def take (env : Environment) (state : State) (token : Token) (level : Level)
    (outer : List Level) : Moment :=
  match inclusion? env state token with
  | none =>
    let (after, failure) := processToken env noFile state token
    ⟨after, level :: outer, failure⟩
  | some inclusion =>
    let before := state.read token inclusion
    if before.including.contains inclusion.file then
      ⟨before, level :: outer, some (circular before inclusion.file)⟩
    else
      ⟨entered before inclusion.file,
        ⟨(Source.tokenize inclusion.text).inOrder, before.location⟩ :: level :: outer, none⟩

/-- The next moment of a pass that has not failed; the levels are `level :: outer`. -/
def resume (env : Environment) (state : State) (level : Level) (outer : List Level) : Moment :=
  match level.left with
  | [] => ⟨left state level.back outer, outer, none⟩
  | .warning warning :: rest => ⟨warned state warning, ⟨rest, level.back⟩ :: outer, none⟩
  | .token token :: rest => take env state token ⟨rest, level.back⟩ outer

/-- The next moment of a pass; none when no text is in progress any more. -/
def next? (env : Environment) : Moment → Option Moment
  | ⟨_, [], _⟩ => none
  | ⟨state, level :: outer, none⟩ => some (resume env state level outer)
  | ⟨state, level :: outer, some e⟩ => some ⟨left state level.back outer, outer, some e⟩

/-- The first moment of a pass over the pieces of a source, after macros are predefined. -/
def start (env : Environment) (state : State) (pieces : Tokenized) (path : Option Path) : Moment :=
  ⟨state.enter env path, [⟨pieces.inOrder, state.location⟩], none⟩

/-- One moment of a pass comes to another. -/
abbrev Reaches (env : Environment) : Moment → Moment → Prop :=
  StateTransition.Reaches (next? env)

/-- The token that is processed next, unless the pass has failed. -/
def token? : Moment → Option Token
  | ⟨_, ⟨.token token :: _, _⟩ :: _, none⟩ => some token
  | _ => none

/-- The five ways in which a moment of a pass follows another. -/
inductive Advances (env : Environment) : Moment → Moment → Prop
  /-- A text is left at its end, or because the pass has failed. -/
  | leave {state : State} {rest : List Piece} {back : Location} {outer : List Level}
      {failure : Option Failure} (h : failure = none → rest = []) :
      Advances env ⟨state, ⟨rest, back⟩ :: outer, failure⟩ ⟨left state back outer, outer, failure⟩
  /-- A warning is given. -/
  | warn {state : State} {warning : Source.ScanWarning} {rest : List Piece} {back : Location}
      {outer : List Level} :
      Advances env ⟨state, ⟨.warning warning :: rest, back⟩ :: outer, none⟩
        ⟨warned state warning, ⟨rest, back⟩ :: outer, none⟩
  /-- A token is processed that has no file processed in its place. -/
  | process {state : State} {token : Token} {rest : List Piece} {back : Location}
      {outer : List Level} (h : inclusion? env state token = none) :
      Advances env ⟨state, ⟨.token token :: rest, back⟩ :: outer, none⟩
        ⟨(processToken env noFile state token).1, ⟨rest, back⟩ :: outer,
          (processToken env noFile state token).2⟩
  /-- A file is included within itself. -/
  | repeat {state : State} {token : Token} {rest : List Piece} {back : Location}
      {outer : List Level} {inclusion : Inclusion} (h : inclusion? env state token = some inclusion)
      (hmem : inclusion.file ∈ state.including) :
      Advances env ⟨state, ⟨.token token :: rest, back⟩ :: outer, none⟩
        ⟨state.read token inclusion, ⟨rest, back⟩ :: outer,
          some (circular (state.read token inclusion) inclusion.file)⟩
  /-- A file is entered. -/
  | enter {state : State} {token : Token} {rest : List Piece} {back : Location}
      {outer : List Level} {inclusion : Inclusion} (h : inclusion? env state token = some inclusion)
      (hmem : inclusion.file ∉ state.including) :
      Advances env ⟨state, ⟨.token token :: rest, back⟩ :: outer, none⟩
        ⟨entered (state.read token inclusion) inclusion.file,
          ⟨(Source.tokenize inclusion.text).inOrder, (state.reach token).location⟩ ::
            ⟨rest, back⟩ :: outer, none⟩

end Moment

namespace Moment

variable {env : Environment}

/-- A moment that follows another does so in one of five ways. -/
theorem advances_of_next? {m m' : Moment} (h : next? env m = some m') : Advances env m m' := by
  obtain ⟨state, levels, failure⟩ := m
  match levels, failure with
  | [], _ => cases h
  | ⟨rest, back⟩ :: outer, some e =>
    obtain rfl := Option.some.inj h
    exact .leave fun he => nomatch he
  | ⟨[], back⟩ :: outer, none =>
    obtain rfl := Option.some.inj h
    exact .leave fun _ => rfl
  | ⟨.warning warning :: rest, back⟩ :: outer, none =>
    obtain rfl := Option.some.inj h
    exact .warn
  | ⟨.token token :: rest, back⟩ :: outer, none =>
    obtain rfl := Option.some.inj h
    show Advances env _ (take env state token ⟨rest, back⟩ outer)
    unfold take
    cases hinclusion : inclusion? env state token with
    | none => exact .process hinclusion
    | some inclusion =>
      simp only
      split
      case isTrue hmem => exact .repeat hinclusion (List.contains_iff_mem.1 hmem)
      case isFalse hmem => exact .enter hinclusion fun hin => hmem (List.contains_iff_mem.2 hin)

/-- A moment before a token is that of a text that begins with the token. -/
theorem token?_eq_some {m : Moment} {token : Token} (h : m.token? = some token) :
    ∃ rest back outer, m = ⟨m.state, ⟨.token token :: rest, back⟩ :: outer, none⟩ := by
  unfold token? at h
  split at h
  · obtain rfl := Option.some.inj h
    exact ⟨_, _, _, rfl⟩
  · cases h

/-- In each of the five ways the moment that follows is the next one. -/
theorem Advances.next? {m m' : Moment} (h : Advances env m m') : next? env m = some m' := by
  cases h with
  | @leave state rest back outer failure h =>
    cases failure with
    | none =>
      rw [h rfl]
      rfl
    | some e => rfl
  | warn => rfl
  | process h => simp only [Moment.next?, resume, take, h]
  | @«repeat» state token rest back outer inclusion h hmem =>
    have hcontains : (state.read token inclusion).including.contains inclusion.file = true :=
      List.contains_iff_mem.2 hmem
    simp only [Moment.next?, resume, take, h, hcontains, if_true]
  | @enter state token rest back outer inclusion h hmem =>
    have hcontains : ¬(state.read token inclusion).including.contains inclusion.file = true :=
      fun hin => hmem (List.contains_iff_mem.1 hin)
    simp only [Moment.next?, resume, take, h, if_neg hcontains]
    rfl

/-- One moment comes to the next. -/
theorem Advances.reaches {m m' : Moment} (h : Advances env m m') : Reaches env m m' :=
  .single h.next?

/-- Processing a file comes to an end and leaves the file: from the moment at which its text is
entered, the pass comes to the one at which the levels are as before, with the state and the failure
that processing the file gives. -/
def EntersAndLeaves (env : Environment) (emit : State → String → Path → Step)
    (depth : Nat) : Prop :=
  ∀ (state : State) (text : String) (file : Path) (level : Level) (outer : List Level),
    Fits env.files depth state.including →
    Reaches env
      ⟨{ state with location := ⟨some file, state.location.line⟩ },
        ⟨(Source.tokenize text).inOrder, state.location⟩ :: level :: outer, none⟩
      ⟨{ (emit state text file).1 with including := state.including.dropLast }, level :: outer,
        (emit state text file).2⟩

section Reaches

variable {emit : State → String → Path → Step} {depth : Nat}

/-- A pass comes from the moment before a token to the one behind it. -/
theorem reaches_processToken (hemit : EntersAndLeaves env emit depth) {state : State}
    (hfits : Fits env.files (depth + 1) state.including) (token : Token) (rest : List Piece)
    (back : Location) (outer : List Level) :
    Reaches env ⟨state, ⟨.token token :: rest, back⟩ :: outer, none⟩
      ⟨(processToken env emit state token).1, ⟨rest, back⟩ :: outer,
        (processToken env emit state token).2⟩ := by
  cases hinclusion : inclusion? env state token with
  | none =>
    rw [processToken_congr emit noFile hinclusion]
    exact (Advances.process hinclusion).reaches
  | some inclusion =>
    -- A file is refused if it is in progress, and entered otherwise.
    by_cases hmem : inclusion.file ∈ state.including
    · rw [processToken_repeated emit hinclusion hmem]
      exact (Advances.repeat hinclusion hmem).reaches
    rw [processToken_entered emit hinclusion hmem]
    obtain ⟨-, -, payload, -, -, hread, hfile⟩ := inclusion?_eq_some hinclusion
    have hlisted := FileTree.resolve_mem_of_readText (readText_of_readInclude hread)
    rw [← hfile] at hlisted
    have hroot : inclusion.file.root = "/" := by
      rw [hfile]
      rfl
    have hinner := hemit
      { state.read token inclusion with including := state.including ++ [inclusion.file] }
      inclusion.text inclusion.file ⟨rest, back⟩ outer (hfits.snoc hmem hroot hlisted)
    rw [List.dropLast_concat] at hinner
    have henter : Advances env ⟨state, ⟨.token token :: rest, back⟩ :: outer, none⟩ _ :=
      .enter hinclusion hmem
    exact henter.reaches.trans hinner

/-- A pass comes from the moment before tokens to the one behind them, or behind the one that
fails. -/
theorem reaches_processTokens (hreturns : Returns emit) (hemit : EntersAndLeaves env emit depth)
    (state : State) (tokens : List Token) (more : List Piece) (back : Location) (outer : List Level)
    (hfits : Fits env.files (depth + 1) state.including) :
    ∃ rest, Reaches env ⟨state, ⟨tokens.map .token ++ more, back⟩ :: outer, none⟩
        ⟨(processTokens env emit state tokens).1, ⟨rest, back⟩ :: outer,
          (processTokens env emit state tokens).2⟩ ∧
      ((processTokens env emit state tokens).2 = none → rest = more) := by
  induction tokens generalizing state with
  | nil => exact ⟨more, .refl, fun _ => rfl⟩
  | cons token tokens ih =>
    have htoken := reaches_processToken hemit hfits token (tokens.map .token ++ more) back outer
    have hincluding := (processToken_continues env hreturns state token).including
    rw [processTokens]
    generalize processToken env emit state token = step at htoken hincluding
    match step with
    | (after, some e) =>
      -- A token that fails leaves those behind it undone.
      exact ⟨_, htoken, fun hnone => nomatch hnone⟩
    | (after, none) =>
      have hafter : Fits env.files (depth + 1) after.including := by
        rw [hincluding]
        exact hfits
      obtain ⟨rest, hrest, hleft⟩ := ih after hafter
      exact ⟨rest, htoken.trans hrest, hleft⟩

/-- A pass comes from the beginning of a source to its end, or to the token that fails. -/
theorem reaches_processPieces (hreturns : Returns emit) (hemit : EntersAndLeaves env emit depth)
    (state : State) (pieces : Tokenized) (back : Location) (outer : List Level)
    (hfits : Fits env.files (depth + 1) state.including) :
    ∃ rest, Reaches env ⟨state, ⟨pieces.inOrder, back⟩ :: outer, none⟩
        ⟨(processPieces env emit state pieces).1, ⟨rest, back⟩ :: outer,
          (processPieces env emit state pieces).2⟩ ∧
      ((processPieces env emit state pieces).2 = none → rest = []) := by
  obtain ⟨rest, hscanned, hleft⟩ := reaches_processTokens hreturns hemit state pieces.scanned
    (pieces.warning.toList.map .warning ++ pieces.rest.toList.map .token) back outer hfits
  have hincluding := (processTokens_continues env hreturns state pieces.scanned).including
  unfold processPieces
  generalize processTokens env emit state pieces.scanned = step at hscanned hleft hincluding
  match step with
  | (after, some e) => exact ⟨rest, hscanned, fun hnone => nomatch hnone⟩
  | (after, none) =>
    rw [hleft rfl] at hscanned
    have hafter : Fits env.files (depth + 1) after.including := by
      rw [hincluding]
      exact hfits
    -- The warning, if there is one, is given between the scanned tokens and the last one.
    have hwarned : Reaches env
        ⟨after, ⟨pieces.warning.toList.map .warning ++ pieces.rest.toList.map .token, back⟩ ::
          outer, none⟩
        ⟨{ after with warnings :=
            pieces.warning.toList.map (warningText after.location.path) ++ after.warnings },
          ⟨pieces.rest.toList.map .token ++ [], back⟩ :: outer, none⟩ := by
      rw [List.append_nil]
      cases pieces.warning with
      | none => exact .refl
      | some warning => exact Advances.warn.reaches
    obtain ⟨rest, hrest, hdone⟩ := reaches_processTokens hreturns hemit
      { after with warnings :=
          pieces.warning.toList.map (warningText after.location.path) ++ after.warnings }
      pieces.rest.toList [] back outer hafter
    exact ⟨rest, (hscanned.trans hwarned).trans hrest, hdone⟩

end Reaches

/-- A file is processed to its end and left, however many files are within one another, as long as
the depth leaves room for them. -/
theorem entersAndLeaves_emit (env : Environment) (depth : Nat) :
    EntersAndLeaves env (fun state text path => emit env depth state text (some path)) depth := by
  induction depth with
  | zero =>
    -- There is always room for one more file than can be in progress.
    exact fun _ _ _ _ _ hfits => absurd hfits.depth_pos (Nat.lt_irrefl 0)
  | succ depth ih =>
    intro state text file level outer hfits
    have hreturns := emit_returns env depth
    obtain ⟨rest, hpieces, hleft⟩ := reaches_processPieces hreturns ih
      { state with location := ⟨some file, state.location.line⟩ } (Source.tokenize text)
      state.location (level :: outer) hfits
    have hincluding := (processPieces_continues env hreturns
      { state with location := ⟨some file, state.location.line⟩ } (Source.tokenize text)).including
    -- The text is left as it was entered: among the files before it, at the place before it.
    have hleave := hpieces.tail (Advances.leave hleft).next?
    simp only [left, List.isEmpty_cons, Bool.false_eq_true, if_false] at hleave
    rw [hincluding] at hleave
    simp only [emit]
    exact hleave

end Moment

/-- Where the source of a pass comes from: from no file, or from a file that can be read. -/
inductive Environment.Provides (env : Environment) : Option Path → Prop
  /-- A text that is no file. -/
  | text : Provides env none
  /-- A file that is read as a text. -/
  | file {path : Path} {text : String} (h : readSource env path = .ok text) :
      Provides env (some (path.resolve env.files.here))

/-- The source of a pass leaves room for all files that can be included within one another. -/
theorem Environment.Provides.fits {env : Environment} {path : Option Path} (h : env.Provides path)
    (state : State) : Fits env.files (depthBound env.files) (state.enter env path).including := by
  cases h with
  | text =>
    exact {
      nodup := List.nodup_nil
      root := fun _ hmem => nomatch hmem
      listed := fun _ hmem => nomatch hmem
      room := by
        show env.files.nodes.length < env.files.nodes.length + 2 + 0
        omega }
  | file h => exact fits_of_readSource h

namespace Moment

variable {env : Environment}

/-- After a failure the macros stay as they are, and the failure does. -/
theorem Advances.failed {m m' : Moment} (h : Advances env m m') {e : Failure}
    (he : m.failure = some e) : m'.failure = some e ∧ m'.state.macros = m.state.macros := by
  cases h with
  | leave h => exact ⟨he, rfl⟩
  | warn | process h | «repeat» h hmem | enter h hmem => cases he

/-- After a failure the macros stay as they are to the end, and the failure does. -/
theorem failed_of_reaches {m m' : Moment} (h : Reaches env m m') {e : Failure}
    (he : m.failure = some e) : m'.failure = some e ∧ m'.state.macros = m.state.macros := by
  induction h with
  | refl => exact ⟨he, rfl⟩
  | tail _ hnext ih =>
    obtain ⟨hfailure, hmacros⟩ := (advances_of_next? hnext).failed ih.1
    exact ⟨hfailure, hmacros.trans ih.2⟩

/-- A pass that has failed has done so between two moments. -/
theorem exists_failing {m last : Moment} (h : Reaches env m last) {e : Failure}
    (hm : m.failure = none) (he : last.failure = some e) :
    ∃ before after, Reaches env m before ∧ before.failure = none ∧ Advances env before after ∧
      after.failure = some e := by
  induction h with
  | refl =>
    rw [hm] at he
    cases he
  | @tail before after hbefore hnext ih =>
    have hadvances := advances_of_next? hnext
    cases hfailure : before.failure with
    | none => exact ⟨before, after, hbefore, hfailure, hadvances, he⟩
    | some e' =>
      have hsame := (hadvances.failed hfailure).1
      rw [he] at hsame
      exact ih (by rw [hfailure, hsame])

end Moment

/-- The end of a pass adds no failure but that of blocks that are still open. -/
theorem finish_eq_some {path : Option Path} {step : Step} {e : Failure}
    (h : (finish path step).2 = some e) :
    step.2 = some e ∨ ∃ imbalance, e = .at (.unbalanced imbalance) ⟨path, 0⟩ := by
  obtain ⟨state, failure⟩ := step
  cases failure with
  | some e' => exact .inl h
  | none =>
    rw [finish] at h
    split at h
    · cases h
    · exact .inr ⟨_, (Option.some.inj h).symm⟩

/-- The moments of a pass come to an end, and the last one shows what the pass does. -/
theorem runPieces_eval (env : Environment) (state : State) (pieces : Tokenized)
    {path : Option Path} (h : env.Provides path) :
    ∃ last ∈ StateTransition.eval (Moment.next? env) (Moment.start env state pieces path),
      last.levels = [] ∧
        finish path (last.state, last.failure) = runPieces env state pieces path := by
  obtain ⟨rest, hpieces, hleft⟩ := Moment.reaches_processPieces (emit_returns env _)
    (Moment.entersAndLeaves_emit env (env.files.nodes.length + 1)) (state.enter env path) pieces
    state.location [] (h.fits state)
  have hlast := hpieces.tail (Moment.Advances.leave hleft).next?
  exact ⟨_, StateTransition.mem_eval.2 ⟨hlast, rfl⟩, rfl, rfl⟩

section Fails

variable {env : Environment} {state : State} {pieces : Tokenized} {path : Option Path} {e : Failure}

/-- A pass fails as one of its moments has failed, and leaves the macros of that moment. -/
theorem runPieces_of_failure (hpath : env.Provides path) {m : Moment}
    (hm : Moment.Reaches env (Moment.start env state pieces path) m) (he : m.failure = some e) :
    (runPieces env state pieces path).2 = some e ∧
      (runPieces env state pieces path).1.macros = m.state.macros := by
  obtain ⟨last, hlast, -, hrun⟩ := runPieces_eval env state pieces hpath
  -- The moments of a pass are in one line, so that every one of them comes to the last.
  rw [StateTransition.reaches_eval hm] at hlast
  obtain ⟨hfailure, hmacros⟩ := Moment.failed_of_reaches (StateTransition.mem_eval.1 hlast).1 he
  rw [← hrun, hfailure]
  exact ⟨rfl, hmacros⟩

/-- A pass fails exactly if it comes to a moment that is a cause of the failure, unless this is
that of blocks that do not match: a cause is what holds of the moment before the failure, and has
the failure as its consequence. -/
theorem runPieces_failure_iff (hpath : env.Provides path) {cause : Moment → Prop}
    (hbalanced : ∀ imbalance location, e ≠ .at (.unbalanced imbalance) location)
    (hbefore : ∀ m m', Moment.Advances env m m' → m.failure = none → m'.failure = some e → cause m)
    (hafter : ∀ m, cause m → ∃ m', Moment.next? env m = some m' ∧ m'.failure = some e) :
    (runPieces env state pieces path).2 = some e ↔
      ∃ m, Moment.Reaches env (Moment.start env state pieces path) m ∧ cause m := by
  constructor
  · intro he
    obtain ⟨last, hlast, -, hrun⟩ := runPieces_eval env state pieces hpath
    rw [← hrun] at he
    obtain he | ⟨imbalance, he⟩ := finish_eq_some he
    · -- The failure is one between two moments, not that of the end of the pass.
      obtain ⟨m, m', hm, hnone, hnext, hfailure⟩ :=
        Moment.exists_failing (StateTransition.mem_eval.1 hlast).1 rfl he
      exact ⟨m, hm, hbefore m m' hnext hnone hfailure⟩
    · exact absurd he (hbalanced imbalance _)
  · rintro ⟨m, hm, hcause⟩
    obtain ⟨m', hnext, hfailure⟩ := hafter m hcause
    exact (runPieces_of_failure hpath (hm.tail hnext) hfailure).1

end Fails

end Pass

end Hashmark

import Hashmark.Proofs.Pass.Conditions
import Hashmark.Proofs.Pass.Definitions
import Hashmark.Proofs.Pass.Failing
import Hashmark.Proofs.Source.Numbering

/-!
# Failures point at what caused them

At every moment of a pass each text in progress is what is left of the text of a file, and the
place of the pass is in the innermost of them (`Moment.Located`): a file is entered with its own
place, and left with the place of the directive that included it. So a token that is processed
stands in the text of the file at that place, and if it is a comment, on the line that it carries.

A pass fails because of one token (`Moment.Advances.offends`), and every macro that it adds is
defined by one (`reaches_defined`). `passes_traced` says that the failure and the macro carry the
file in whose text the comment stands, and its line there.
-/

namespace Hashmark

/-- The token that is to be processed, if it is one. -/
def Source.Piece.token? : Piece → Option Token
  | .token piece => some piece
  | .warning _ => none

/-- The tokens of a source are those among its pieces. -/
theorem Source.Tokenized.filterMap_inOrder (pieces : Tokenized) :
    pieces.inOrder.filterMap Piece.token? = pieces.tokens := by
  have htokens : ∀ tokens : List Token,
      (tokens.map Piece.token).filterMap Piece.token? = tokens := by
    intro tokens
    rw [List.filterMap_map]
    exact List.filterMap_some (l := tokens)
  have hwarnings : (pieces.warning.toList.map Piece.warning).filterMap Piece.token? = [] := by
    rw [List.filterMap_map]
    exact List.filterMap_eq_nil_iff.2 fun _ _ => rfl
  rw [inOrder, List.filterMap_append, List.filterMap_append, htokens, htokens, hwarnings,
    List.nil_append, tokens]

namespace Pass

open Source (Token Tokenized Piece concatText lineAfter)

/-- The texts that a pass may be over: the given one, which is no file, and those of files. -/
inductive Environment.Holds (env : Environment) (given : Option String) :
    Option Path → String → Prop
  /-- The text that is given. -/
  | given {text : String} (h : given = some text) : Holds env given none text
  /-- The text of a file, which has the path in its resolved form. -/
  | file {path : Path} {text : String}
      (h : env.files.readText path env.config = .ok text) :
      Holds env given (some (path.resolve env.files.here)) text

/-- A comment stands in the text of the file at a place, on the line of the place: one more than the
line ends in front of it. -/
def Stands (env : Environment) (given : Option String) (token : Token) (location : Location) :
    Prop :=
  token.kind = .comment ∧ ∃ text before after, env.Holds given location.path text ∧
    (Source.tokenize text).tokens = before ++ token :: after ∧
    location.line = (lineAfter (concatText before) : Int)

/-- A directive causes a problem in a state. -/
inductive Offends (env : Environment) (state : State) (token : Token) : Problem → Prop
  /-- It defines a name that is defined. -/
  | redefinition {entry : Macro} (h : definition? state token = some entry)
      (hdefined : state.macros.contains entry.name = true) :
      Offends env state token (.redefinition entry.name)
  /-- It includes what cannot be read. -/
  | includeNotFound {name : String} {reason : Failure} (h : includedName? state token = some name)
      (hread : env.files.readText (includeTarget env (state.reach token) name)
        env.config = .error reason) :
      Offends env state token (.includeNotFound (includeTarget env (state.reach token) name))
  /-- It includes a file that is in progress. -/
  | circularInclude {inclusion : Inclusion} (h : inclusion? env state token = some inclusion)
      (hmem : inclusion.file ∈ state.including) :
      Offends env state token (.circularInclude (state.including ++ [inclusion.file]))
  /-- It begins another branch where no block is open. -/
  | branch {b : BranchTest} (h : role token = .branch b) (hempty : state.conditions = .scoped []) :
      Offends env state token (.unbalanced (.unmatched b.directive))
  /-- It closes a block where none is open. -/
  | ending (h : role token = .ending) (hempty : state.conditions = .scoped []) :
      Offends env state token (.unbalanced (.unmatched "#endif"))

/-- In a pass that begins at a moment a directive is processed where it causes a problem, and the
place is where its comment stands. -/
def Caused (env : Environment) (given : Option String) (start : Moment) (problem : Problem)
    (location : Location) : Prop :=
  ∃ m token, Moment.Reaches env start m ∧ m.token? = some token ∧
    Offends env m.state token problem ∧ Stands env given token location

/-- In a pass that begins at a moment a directive is processed that defines a macro, and the place
of the macro is where its comment stands. -/
def Defined (env : Environment) (given : Option String) (start : Moment) (entry : Macro) : Prop :=
  ∃ m token, Moment.Reaches env start m ∧ m.token? = some token ∧
    definition? m.state token = some entry ∧ Stands env given token entry.location

section Token

variable {env : Environment} {state : State} {token : Token}

/-- A change of the blocks fails only where no block is open, and at the present place. -/
theorem changeBlocks_eq_some (state : State) {text directive : String}
    {result : Except Imbalance Conditional}
    {e : Failure}
    (h : (∃ after, result = .ok after) ∨
      state.conditions = .scoped [] ∧ result = .error (.unmatched directive))
    (he : (settle text (changeBlocks state result)).2 = some e) :
    state.conditions = .scoped [] ∧
      e = .at (.unbalanced (.unmatched directive)) state.location := by
  obtain ⟨after, rfl⟩ | ⟨hempty, rfl⟩ := h
  · cases he
  · exact ⟨hempty, (Option.some.inj he).symm⟩

/-- A token that has no file processed in its place fails for what it is a problem for, at its own
place. -/
theorem processToken_offends {emit : State → String → Path → Step}
    (h : inclusion? env state token = none) {problem : Problem} {location : Location}
    (he : (processToken env emit state token).2 = some (.at problem location)) :
    Offends env state token problem ∧ location = (state.reach token).location := by
  cases hrole : role token with
  | text =>
    rw [processToken_text hrole] at he
    cases he
  | definition payload =>
    cases hkept : state.suppressed with
    | true =>
      rw [processToken_definition hrole, if_pos hkept] at he
      cases he
    | false =>
      -- The name is defined already, or the token would not fail.
      obtain ⟨entry, hentry⟩ : ∃ entry, definition? state token = some entry := by
        refine Option.isSome_iff_exists.1 ?_
        simp only [definition?, hkept, hrole]
        rfl
      rw [processToken_definition? env emit hentry] at he
      split at he
      case isTrue hdefined =>
        cases he
        exact ⟨.redefinition hentry hdefined, rfl⟩
      case isFalse => cases he
  | inclusion payload =>
    obtain ⟨name, hname, hread⟩ := processToken_inclusion_failure hrole h he
    -- A file that can be read is copied, so that this one cannot.
    obtain ⟨reason, hreason⟩ := readText_of_readInclude_error hread
    obtain heq | hne := readInclude_eq_error hread
    · cases heq
      exact ⟨.includeNotFound hname hreason, rfl⟩
    · exact absurd rfl (hne _)
  | opening b =>
    rw [processToken_opening hrole] at he
    cases he
  | branch b =>
    rw [processToken_branchBlocks hrole] at he
    split at he
    · cases he
    -- Another branch is begun in the innermost block, and fails only without one.
    · have hcases : (∃ after, branchBlocks state.conditions b (b.holds env state) = .ok after) ∨
          state.conditions = .scoped [] ∧
            branchBlocks state.conditions b (b.holds env state) =
              .error (.unmatched b.directive) := by
        cases b with
        | always => exact state.conditions.otherwise_cases
        | expression => exact state.conditions.alternative_cases _
        | defined => exact state.conditions.alternative_cases _
        | undefined => exact state.conditions.alternative_cases _
        | never => exact state.conditions.alternative_cases _
      obtain ⟨hempty, heq⟩ := changeBlocks_eq_some (state.reach token) hcases he
      cases heq
      exact ⟨.branch hrole hempty, rfl⟩
  | ending =>
    rw [processToken_ending hrole] at he
    obtain ⟨hempty, heq⟩ :=
      changeBlocks_eq_some (state.reach token) state.conditions.closeBlock_cases he
    cases heq
    exact ⟨.ending hrole hempty, rfl⟩

/-- A directive that causes a problem is a comment, and so is one that defines a macro. -/
theorem kind_of_role (h : role token ≠ .text) : token.kind = .comment := by
  obtain ⟨hcandidate, -⟩ := command_of_role rfl h
  unfold Source.Token.isCandidate at hcandidate
  exact of_decide_eq_true (Bool.and_eq_true_iff.1 hcandidate).1

/-- A token that defines a macro is a comment, and the macro carries its place. -/
theorem definition?_eq_some {entry : Macro} (h : definition? state token = some entry) :
    token.kind = .comment ∧ entry.location = (state.reach token).location := by
  unfold definition? at h
  split at h
  · cases h
  · split at h
    case h_1 hrole =>
      obtain rfl := Option.some.inj h
      exact ⟨kind_of_role (hrole ▸ nofun), rfl⟩
    case h_2 => cases h

/-- A directive that causes a problem is a comment. -/
theorem Offends.kind {problem : Problem} (h : Offends env state token problem) :
    token.kind = .comment := by
  cases h with
  | redefinition h => exact (definition?_eq_some h).1
  | includeNotFound h =>
    obtain ⟨-, payload, hrole, -⟩ := includedName?_eq_some h
    exact kind_of_role (hrole ▸ nofun)
  | circularInclude h =>
    obtain ⟨-, -, payload, hrole, -⟩ := inclusion?_eq_some h
    exact kind_of_role (hrole ▸ nofun)
  | branch h => exact kind_of_role (h ▸ nofun)
  | ending h => exact kind_of_role (h ▸ nofun)

end Token

namespace Moment

variable {env : Environment} {given : Option String}

/-- The texts in progress, the innermost first, are those of the files at their places: the
innermost at `place`, and each other at the place to come back to from the one within it. -/
inductive InTexts (env : Environment) (given : Option String) : Option Path → List Level → Prop
  /-- No text is in progress. -/
  | nil (place : Option Path) : InTexts env given place []
  /-- What is left of a text follows what has been processed of it. -/
  | cons {place : Option Path} {text : String} (done : List Piece) {level : Level}
      {outer : List Level} (hholds : env.Holds given place text)
      (hleft : (Source.tokenize text).inOrder = done ++ level.left)
      (houter : InTexts env given level.back.path outer) :
      InTexts env given place (level :: outer)

/-- A moment at which the pass is in the text of the file at its place. -/
def Located (env : Environment) (given : Option String) (m : Moment) : Prop :=
  InTexts env given m.state.location.path m.levels

/-- Behind the next piece the pass is in the same text. -/
theorem InTexts.behind {place : Option Path} {piece : Piece} {rest : List Piece} {back : Location}
    {outer : List Level} (h : InTexts env given place (⟨piece :: rest, back⟩ :: outer)) :
    InTexts env given place (⟨rest, back⟩ :: outer) := by
  cases h with
  | @cons _ text done _ _ hholds hleft houter =>
    refine .cons (done ++ [piece]) hholds ?_ houter
    rw [hleft, List.append_assoc]
    rfl

/-- From one moment to the next a pass stays in its text, enters another, or comes back. -/
theorem Located.advance {m m' : Moment} (h : Located env given m) (hnext : Advances env m m') :
    Located env given m' := by
  cases hnext with
  | leave =>
    cases h with
    | cons _ _ _ houter => exact houter
  | warn => exact InTexts.behind h
  | @process state token =>
    have hbehind := InTexts.behind h
    show InTexts env given (processToken env noFile state token).1.location.path _
    rw [processToken_noFile_location]
    exact hbehind
  | «repeat» => exact InTexts.behind h
  | enter hsome =>
    -- The file that is entered has been read, and nothing of its text has been processed yet.
    obtain ⟨-, -, payload, -, -, hread, hfile⟩ := inclusion?_eq_some hsome
    have hholds : env.Holds given _ _ := .file (readText_of_readInclude hread)
    rw [← hfile] at hholds
    exact .cons [] hholds rfl (InTexts.behind h)

/-- All along a pass is in the text of the file at its place. -/
theorem Located.reaches {m m' : Moment} (h : Located env given m) (hm : Reaches env m m') :
    Located env given m' := by
  induction hm with
  | refl => exact h
  | tail _ hnext ih => exact ih.advance (advances_of_next? hnext)

/-- A comment that is processed stands at the place of the pass, on the line that it carries. -/
theorem Located.stands {m : Moment} (h : Located env given m) {token : Token}
    (htoken : m.token? = some token) (hkind : token.kind = .comment) :
    Stands env given token (m.state.reach token).location := by
  obtain ⟨rest, back, outer, hm⟩ := token?_eq_some htoken
  rw [hm] at h
  cases h with
  | @cons _ text done _ _ hholds hleft houter =>
    -- The pieces of the text that are tokens are all its tokens, in their order.
    have htokens : (Source.tokenize text).tokens = done.filterMap Piece.token? ++
        token :: rest.filterMap Piece.token? := by
      rw [← Source.Tokenized.filterMap_inOrder, hleft, List.filterMap_append]
      rfl
    refine ⟨hkind, text, _, _, hholds, htokens, ?_⟩
    rw [← Source.line_of_comment htokens hkind]
    rfl

/-- Between two moments a pass fails because of the token that is processed, and at its place. -/
theorem Advances.offends {m m' : Moment} (h : Advances env m m') (hm : m.failure = none)
    {problem : Problem} {location : Location} (he : m'.failure = some (.at problem location)) :
    ∃ token, m.token? = some token ∧ Offends env m.state token problem ∧
      location = (m.state.reach token).location := by
  cases h with
  | leave =>
    dsimp only at hm he
    rw [hm] at he
    cases he
  | warn => cases he
  | process hnone =>
    obtain ⟨hoffends, hlocation⟩ := processToken_offends hnone he
    exact ⟨_, rfl, hoffends, hlocation⟩
  | «repeat» hsome hmem =>
    cases he
    exact ⟨_, rfl, .circularInclude hsome hmem, rfl⟩
  | enter => cases he

end Moment

section Run

variable {env : Environment} {given : Option String} {state : State} {text : String}
  {path : Option Path}

/-- A pass begins in the text that it is over. -/
theorem located_start (hholds : env.Holds given path text) (state : State) :
    (Moment.start env state (Source.tokenize text) path).Located env given :=
  .cons [] hholds rfl (.nil _)

/-- A macro is there from the beginning of a pass on, or a directive defines it where its comment
stands. -/
theorem reaches_defined (hholds : env.Holds given path text) {m : Moment}
    (hm : Moment.Reaches env (Moment.start env state (Source.tokenize text) path) m)
    {entry : Macro} (hentry : entry ∈ m.state.macros.macros) :
    entry ∈ (state.enter env path).macros.macros ∨
      Defined env given (Moment.start env state (Source.tokenize text) path) entry := by
  induction hm with
  | refl => exact .inl hentry
  | @tail before after hbefore hnext ih =>
    obtain hsame | ⟨token, added, htoken, hadded, -, hpush⟩ :=
      (Moment.advances_of_next? hnext).macros
    · exact ih (hsame ▸ hentry)
    · -- The macro was there before, or it is the one that the token defines.
      rw [hpush] at hentry
      obtain hin | hin := List.mem_append.1 hentry
      · exact ih hin
      · obtain rfl := List.mem_singleton.1 hin
        obtain ⟨hkind, hlocation⟩ := definition?_eq_some hadded
        have hstands := ((located_start hholds state).reaches hbefore).stands htoken hkind
        rw [← hlocation] at hstands
        exact .inr ⟨before, token, hbefore, htoken, hadded, hstands⟩

/-- What a pass fails with and what macros it leaves behind point at their origins. -/
structure Traced (env : Environment) (given : Option String) (path : Option Path) (start : Moment)
    (step : Step) : Prop where
  /-- The failure is that of blocks that are open at the end, or a directive causes it, and then its
  place is where the comment of the directive stands. -/
  failure : ∀ problem location, step.2 = some (.at problem location) →
    (∃ count, problem = .unbalanced (.unterminated count) ∧ location = ⟨path, 0⟩) ∨
      Caused env given start problem location
  /-- A macro is there from the beginning on, or a directive defines it, and then its place is where
  the comment of the directive stands. -/
  macros : ∀ entry ∈ step.1.macros.macros,
    entry ∈ start.state.macros.macros ∨ Defined env given start entry

/-- A pass over a text is traced. -/
theorem run_traced (hpath : env.Provides path) (hholds : env.Holds given path text)
    (state : State) :
    Traced env given path (Moment.start env state (Source.tokenize text) path)
      (run env state text path) := by
  refine ⟨fun problem location he => ?_, fun entry hentry => ?_⟩
  · obtain ⟨m, m', hm, hnone, hnext, he'⟩ | ⟨count, heq⟩ := run_failing hpath he
    · obtain ⟨token, htoken, hoffends, rfl⟩ := hnext.offends hnone he'
      exact .inr ⟨m, token, hm, htoken, hoffends,
        ((located_start hholds state).reaches hm).stands htoken hoffends.kind⟩
    · cases heq
      exact .inl ⟨count, rfl, rfl⟩
  · -- The macros that a pass leaves behind are those of its last moment.
    obtain ⟨last, hlast, -, hrun⟩ := runPieces_eval env state (Source.tokenize text) hpath
    rw [run_eq_runPieces, ← hrun, finish_fst] at hentry
    exact reaches_defined hholds (StateTransition.mem_eval.1 hlast).1 hentry

end Run

/-- Failures and macros point at the directives that they come from, however files include one
another: the place is in the file in whose text the comment of the directive stands, by its resolved
path, or in no file if it is the text that is given to the pass, and on the line of the comment
there. This holds of a redefinition, of a file that is not found or includes itself, and of a branch
or an end without a block; only blocks that are still open at the end have no line. A file that
cannot be read is not processed. -/
theorem passes_traced (env : Environment) (state : State) :
    (∀ text, Traced env (some text) none (Moment.start env state (Source.tokenize text) none)
      (processText env state text)) ∧
    (∀ path text, readSource env path = .ok text →
      Traced env none (some (path.resolve env.files.here))
        (Moment.start env state (Source.tokenize text) (some (path.resolve env.files.here)))
        (processFile env state path)) ∧
    ∀ path e, readSource env path = .error e → processFile env state path = (state, some e) := by
  refine ⟨fun text => run_traced .text (.given rfl) state, fun path text hread => ?_,
    fun path e hread => ?_⟩
  · have hholds : env.Holds none (some (path.resolve env.files.here)) text :=
      .file (readText_of_readSource hread)
    rw [processFile, hread]
    exact run_traced (.file hread) hholds state
  · rw [processFile, hread]

/-- A redefinition behind an include, in a file that the given text includes. -/
theorem passes_traced_redefinition :
    let one : Node := .file (Text.Encoding.encodeUtf8 "#include 'b'\n#define A 1\n#define A 2\n") 0
    let other : Node := .file (Text.Encoding.encodeUtf8 "\n\n\n#define B 1\n") 0
    let env : Environment :=
      ⟨{ recursiveIncludes := true }, ⟨[(["a"], one), (["b"], other)], ⟨"/", []⟩, 0⟩⟩
    let state := State.start env.config.mode
    let text := "\n#include 'a'\n"
    (processText env state text).2 =
        some (.at (.redefinition "A") ⟨some ⟨"/", ["a"]⟩, 3⟩) ∧
      ∃ token, Stands env (some text) token ⟨some ⟨"/", ["a"]⟩, 3⟩ := by
  intro one other env state text
  have hfails : (processText env state text).2 =
      some (.at (.redefinition "A") ⟨some ⟨"/", ["a"]⟩, 3⟩) := by decide +kernel
  obtain ⟨count, heq, -⟩ | ⟨m, token, -, -, -, hstands⟩ :=
    ((passes_traced env state).1 text).failure _ _ hfails
  · cases heq
  · exact ⟨hfails, token, hstands⟩

end Pass

end Hashmark

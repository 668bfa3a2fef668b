import Hashmark.Proofs.Pass.Behind
import Hashmark.Proofs.Pass.Conditions
import Hashmark.Proofs.Pass.Identity
import Hashmark.Proofs.Pass.Spacing
import Hashmark.Proofs.Pass.Suppressed

/-!
# Files that guard themselves

A file may stand as a whole in a block that is kept only while a name is not defined, and define the
name at the beginning of that block (`guardedText`). Its first inclusion defines the name, whatever
becomes of the rest (`Guarded.defines`). From then on the name stays defined, so that at every later
inclusion the block is passed over with all that is in it, and nothing is left of the file but the
end of its last line (`Guarded.skips`). The two come together for the moments of a pass in
`run_guarded`.
-/

namespace Hashmark.Pass

open Source (Token Tokenized concatText)

/-- A text that is a block for an undefined name, which defines the name in front of a body. -/
def guardedText (name body : String) : String :=
  "#ifndef " ++ name ++ "\n#define " ++ name ++ "\n" ++ body ++ "#endif\n"

/-- A name that both directives take as it is written. -/
structure IsGuardName (name : String) : Prop where
  /-- There is a name. -/
  ne_empty : name ≠ ""
  /-- A definition would end the name at a space. -/
  notMem_space : ' ' ∉ name.toList
  /-- A question would drop the blanks around the name. -/
  strip_eq : Text.strip name = name

/-- The tokens of such a text, if its three directives are comments and the blocks in the body
match. -/
inductive Guarded (name body : String) : List Token → Prop
  /-- Between the directives are the ends of their lines and the body. -/
  | intro {first second third : Nat} {gap inner rest : List Token}
      (hgap : concatText gap = ['\n']) (hinner : concatText inner = '\n' :: body.toList)
      (hrest : concatText rest = ['\n']) (hbalanced : imbalance? 0 inner = none) :
      Guarded name body
        (⟨.comment, "#ifndef " ++ name, first⟩ :: (gap ++ ⟨.comment, "#define " ++ name, second⟩ ::
          (inner ++ ⟨.comment, "#endif", third⟩ :: rest)))

/-- A name guards a body: the scan of the guarded text does not fail and finds the directives. -/
structure Guards (name body : String) : Prop where
  /-- Both directives mean the name. -/
  isGuardName : IsGuardName name
  /-- The scan does not fail. -/
  warning : (Source.tokenize (guardedText name body)).warning = none
  /-- The directives are comments, and the blocks of the body match. -/
  guarded : Guarded name body (Source.tokenize (guardedText name body)).tokens

section Role

variable {name : String}

/-- The first line of a guarded text asks whether the name is undefined. -/
theorem role_ifndef (h : IsGuardName name) (line : Nat) :
    role ⟨.comment, "#ifndef " ++ name, line⟩ = .opening (.undefined name) := by
  have hspaced : "#ifndef " ++ name = spaced .whenUndefined 1 name := by
    apply String.toList_injective
    simp [spaced, Command.name]
  rw [hspaced, role_spaced .whenUndefined 0 (not_isBlankText h.ne_empty h.strip_eq),
    keptBehind_zero h.strip_eq, Role.ofCommand, h.strip_eq]

/-- The second line of a guarded text defines the name. -/
theorem role_define (h : IsGuardName name) (line : Nat) :
    role ⟨.comment, "#define " ++ name, line⟩ = .definition name := by
  have hspaced : "#define " ++ name = spaced .define 1 name := by
    apply String.toList_injective
    simp [spaced, Command.name]
  rw [hspaced, role_spaced .define 0 (not_isBlankText h.ne_empty h.strip_eq),
    keptBehind_zero h.strip_eq, Role.ofCommand]

/-- The last line of a guarded text ends a block. -/
theorem role_endif (line : Nat) : role ⟨.comment, "#endif", line⟩ = .ending := by
  have hblank : IsBlankText "" := by simp [IsBlankText]
  have hspaced : "#endif" = spaced .endBlock 0 "" := by
    apply String.toList_injective
    simp [spaced, Command.name]
  rw [hspaced, role_spaced_of_blank .endBlock 0 hblank, Role.ofCommand]

/-- Tokens that make up a text of blanks are text. -/
theorem role_of_mem_blank {tokens : List Token}
    (h : ∀ c ∈ concatText tokens, Text.isBlank c = true) : ∀ token ∈ tokens, role token = .text :=
  fun _ htoken => role_of_isBlankText fun c hc => h c (List.mem_flatMap.2 ⟨_, htoken, hc⟩)

/-- Tokens that make up the end of a line are text. -/
theorem role_of_mem_lineBreak {tokens : List Token} (h : concatText tokens = ['\n']) :
    ∀ token ∈ tokens, role token = .text := by
  refine role_of_mem_blank fun c hc => ?_
  rw [h, List.mem_singleton] at hc
  rw [hc]
  decide

/-- Text in front of tokens does not matter to their blocks. -/
theorem imbalance?_text {tokens : List Token} (h : ∀ token ∈ tokens, role token = .text)
    (depth : Nat) (more : List Token) :
    imbalance? depth (tokens ++ more) = imbalance? depth more := by
  induction tokens with
  | nil => rfl
  | cons token tokens ih =>
    obtain ⟨htoken, htokens⟩ := List.forall_mem_cons.1 h
    rw [List.cons_append, imbalance?, htoken]
    exact ih htokens

end Role

section Define

variable {env : Environment} {emit : State → String → Path → Step} {state : State} {name : String}

/-- Elementary changes leave names defined that are. -/
theorem Evolves.contains {before after : State} (h : Evolves before after)
    (hname : before.macros.contains name = true) : after.macros.contains name = true := by
  have hfind := MacroTable.find?_of_grown h.macros_grow hname
  rw [MacroTable.contains, hfind]
  exact hname

/-- Behind a definition the name is defined, whether by it or before. -/
theorem contains_of_definition? (env : Environment) (emit : State → String → Path → Step)
    {token : Token} {m : Macro} (h : definition? state token = some m) :
    (processToken env emit state token).1.macros.contains m.name = true := by
  rw [processToken_definition? env emit h]
  cases hdefined : state.macros.contains m.name with
  | true =>
    rw [if_pos rfl]
    exact hdefined
  | false =>
    rw [if_neg Bool.false_ne_true]
    exact state.macros.contains_push_self m

/-- A definition of nothing but a name. -/
theorem definition?_define (h : IsGuardName name) (hkept : state.suppressed = false) (line : Nat) :
    definition? state ⟨.comment, "#define " ++ name, line⟩ =
      some ⟨name, "", (state.reach ⟨.comment, "#define " ++ name, line⟩).location, none⟩ := by
  have hcut : Text.cut ' ' name.toList = (name.toList, none) := Text.cut_of_notMem h.notMem_space
  rw [definition?, hkept, if_neg Bool.false_ne_true, role_define h]
  simp only [hcut, String.ofList_toList]
  rfl

/-- What a token defines stays defined to the end of the tokens that begin with it. -/
theorem contains_processTokens_cons (hemit : EmitEvolves emit) {token : Token}
    (h : (processToken env emit state token).1.macros.contains name = true)
    (tokens : List Token) :
    (processTokens env emit state (token :: tokens)).1.macros.contains name = true := by
  rw [processTokens]
  generalize processToken env emit state token = step at h ⊢
  match step with
  | (after, none) => exact (processTokens_evolves env hemit after tokens).contains h
  | (after, some e) => exact h

end Define

section Guarded

variable {env : Environment} {emit : State → String → Path → Step} {state : State}
  {name body : String} {tokens : List Token}

/-- Where its name is not defined, a guarded text defines the name, even if it fails behind the
definition. -/
theorem Guarded.defines (h : Guarded name body tokens) (hname : IsGuardName name)
    (hemit : EmitEvolves emit) (hkept : state.suppressed = false)
    (hnew : isDefined env state name = false) :
    (processTokens env emit state tokens).1.macros.contains name = true := by
  cases h with
  | @intro first second third gap inner rest hgap =>
    have hholds : BranchTest.holds env state (.undefined name) = true := by
      rw [BranchTest.holds, hnew]
      rfl
    rw [processTokens, processToken_opening (role_ifndef hname first), hholds]
    generalize hopened : ({ state.reach ⟨.comment, "#ifndef " ++ name, first⟩ with
      conditions := state.conditions.openBlock true } : State) = opened
    have hopen : opened.suppressed = false := by
      rw [← hopened]
      exact suppressed_openBlock hkept
    -- Text is kept up to the definition, so that the definition is obeyed.
    obtain ⟨location, hcopied⟩ := processTokens_text env emit hopen (role_of_mem_lineBreak hgap)
    have hstill : State.suppressed { opened with
        output := opened.output ++ String.ofList (concatText gap), location } = false := hopen
    have hcontains := contains_of_definition? env emit (definition?_define hname hstill second)
    simp only
    rw [processTokens_append, hcopied]
    simp only
    exact contains_processTokens_cons hemit hcontains _

/-- Where its name is defined, nothing is left of a guarded text but the end of its last line. -/
theorem Guarded.skips (h : Guarded name body tokens) (hname : IsGuardName name)
    (emit : State → String → Path → Step) (hmode : state.conditions.mode = .scoped)
    (hkept : state.suppressed = false) (hdefined : isDefined env state name = true) :
    ∃ location, processTokens env emit state tokens =
      ({ state with output := state.output ++ "\n", location }, none) := by
  cases h with
  | @intro first second third gap inner rest hgap hinner hrest hbalanced =>
    have hholds : BranchTest.holds env state (.undefined name) = false := by
      rw [BranchTest.holds, hdefined]
      rfl
    -- What stands between the first line and the last is a region whose blocks match.
    have hregion :
        imbalance? 0 (gap ++ ⟨.comment, "#define " ++ name, second⟩ :: inner) = none := by
      rw [imbalance?_text (role_of_mem_lineBreak hgap), imbalance?, role_define hname]
      exact hbalanced
    have hskipped := processTokens_block_skipped emit hmode (role_ifndef hname first)
      (role_endif third) hholds hregion rest
    rw [List.append_assoc, List.cons_append] at hskipped
    have hstill : (state.reach ⟨.comment, "#endif", third⟩).suppressed = false := hkept
    obtain ⟨location, hcopied⟩ :=
      processTokens_text env emit hstill (role_of_mem_lineBreak hrest)
    rw [hskipped, hcopied, hrest]
    exact ⟨location, rfl⟩

end Guarded

section File

variable {env : Environment} {state : State} {name body : String}

/-- Where no warning is given, the pieces of a source are its tokens. -/
theorem processPieces_of_warning (env : Environment) (emit : State → String → Path → Step)
    (state : State) {pieces : Tokenized} (h : pieces.warning = none) :
    processPieces env emit state pieces = processTokens env emit state pieces.tokens := by
  rw [Tokenized.tokens, processTokens_append, processPieces, h]
  generalize processTokens env emit state pieces.scanned = step
  obtain ⟨after, failure⟩ := step
  cases failure <;> rfl

/-- The first inclusion of a guarded file defines its name. -/
theorem Guards.defines (h : Guards name body) (file : Path) (hkept : state.suppressed = false)
    (hnew : isDefined env state name = false) :
    (included env state (guardedText name body) file).1.macros.contains name = true := by
  rw [included, emit]
  simp only
  rw [processPieces_of_warning _ _ _ h.warning]
  exact h.guarded.defines h.isGuardName (fun state text path => emit_evolves env _ state text _)
    hkept hnew

/-- A later inclusion of a guarded file leaves the end of a line. -/
theorem Guards.skips (h : Guards name body) (file : Path)
    (hmode : state.conditions.mode = .scoped) (hkept : state.suppressed = false)
    (hdefined : isDefined env state name = true) :
    included env state (guardedText name body) file =
      ({ state with output := state.output ++ "\n" }, none) := by
  rw [included, emit]
  simp only
  generalize hwithin :
    ({ state with location := ⟨some file, state.location.line⟩ } : State) = within
  have hmode' : within.conditions.mode = .scoped := hwithin ▸ hmode
  have hkept' : within.suppressed = false := hwithin ▸ hkept
  have hdefined' : isDefined env within name = true := hwithin ▸ hdefined
  obtain ⟨location, hskipped⟩ := h.guarded.skips h.isGuardName
    (fun state text path => emit env env.files.nodes.length state text (some path)) hmode' hkept'
    hdefined'
  rw [processPieces_of_warning _ _ _ h.warning, hskipped, ← hwithin]

/-- Behind a token that includes a guarded file, and does not fail, the name is defined. -/
theorem Guards.contains (h : Guards name body) {token : Token} {inclusion : Inclusion}
    (hinclusion : inclusion? env state token = some inclusion)
    (htext : inclusion.text = guardedText name body) (hnew : isDefined env state name = false)
    (hnone : (processToken env (included env) state token).2 = none) :
    (processToken env (included env) state token).1.macros.contains name = true := by
  have hmem : inclusion.file ∉ state.including := by
    intro hmem
    rw [processToken_repeated (included env) hinclusion hmem] at hnone
    cases hnone
  obtain ⟨-, hkept, -⟩ := inclusion?_eq_some hinclusion
  rw [processToken_entered (included env) hinclusion hmem, htext]
  generalize hentered : ({ state.read token inclusion with
    including := state.including ++ [inclusion.file] } : State) = entered
  have hkept' : entered.suppressed = false := hentered ▸ hkept
  have hnew' : isDefined env entered name = false := hentered ▸ hnew
  have hdefines := h.defines inclusion.file hkept' hnew'
  generalize included env entered (guardedText name body) inclusion.file = step at hdefines ⊢
  exact hdefines

/-- A token that includes a guarded file whose name is defined leaves the end of a line, and nothing
else is done but to read the file. -/
theorem Guards.processToken_skips (h : Guards name body) {token : Token} {inclusion : Inclusion}
    (hinclusion : inclusion? env state token = some inclusion)
    (htext : inclusion.text = guardedText name body) (hmem : inclusion.file ∉ state.including)
    (hmode : state.conditions.mode = .scoped) (hdefined : isDefined env state name = true) :
    processToken env (included env) state token =
      ({ state.read token inclusion with output := state.output ++ "\n" }, none) := by
  obtain ⟨-, hkept, -⟩ := inclusion?_eq_some hinclusion
  rw [processToken_entered (included env) hinclusion hmem, htext]
  generalize hentered : ({ state.read token inclusion with
    including := state.including ++ [inclusion.file] } : State) = entered
  have hmode' : entered.conditions.mode = .scoped := hentered ▸ hmode
  have hkept' : entered.suppressed = false := hentered ▸ hkept
  have hdefined' : isDefined env entered name = true := hentered ▸ hdefined
  rw [h.skips inclusion.file hmode' hkept' hdefined', ← hentered]
  rfl

end File

/-- A file that guards itself leaves nothing but the end of a line after its first inclusion. Of a
pass with scoped blocks over a source, which may include files that include others:

let a token outside suppressed text include a file whose text is that of a body guarded by a name,
where the name is neither a macro nor a constant. Then, from the moment behind that token on, every
token outside suppressed text that includes the same file, whatever path leads to it, and is not
within the file itself, is come back from without a failure, and the only difference to the state is
that the end of a line is added to the output and that the file has been read: no macro, no block,
and no other file. -/
theorem run_guarded (env : Environment) (state : State) (text : String) {path : Option Path}
    (hpath : env.Provides path) (hmode : state.conditions.mode = .scoped) {name body : String}
    (hguards : Guards name body) {m m' : Moment}
    (hm : Moment.Reaches env (Moment.start env state (Source.tokenize text) path) m) {token : Token}
    (htoken : m.token? = some token) {inclusion : Inclusion}
    (hinclusion : inclusion? env m.state token = some inclusion)
    (htext : inclusion.text = guardedText name body)
    (hnew : isDefined env m.state name = false) (hbehind : Moment.Behind env m m') :
    ∀ n token' inclusion', Moment.Reaches env m' n → n.token? = some token' →
      inclusion? env n.state token' = some inclusion' → inclusion'.file = inclusion.file →
      inclusion'.file ∉ n.state.including →
      (∃ n', Moment.Behind env n n') ∧
        ∀ n', Moment.Behind env n n' →
          n'.failure = none ∧
          n'.state = { n.state.reach token' with
            output := n.state.output ++ "\n"
            reads := inclusion'.target :: n.state.reads } := by
  intro n token' inclusion' hn htoken' hinclusion' hfile hmem'
  have hnested := (Moment.nested_start hpath state (Source.tokenize text)).reaches hm
  have hlater := hm.trans (hbehind.reaches.trans hn)
  have hnested' := (Moment.nested_start hpath state (Source.tokenize text)).reaches hlater
  -- The first inclusion has not failed, since the pass has gone on behind it.
  have hnone : m'.failure = none := by
    obtain ⟨rest, back, outer, hlive⟩ := Moment.token?_eq_some htoken'
    cases hfailure : m'.failure with
    | none => rfl
    | some e =>
      have hfailed := (Moment.failed_of_reaches hn hfailure).1
      rw [hlive] at hfailed
      cases hfailed
  -- So it has defined the name of its guard.
  have hdefined : m'.state.macros.contains name = true := by
    obtain ⟨hstate, hfailure⟩ := hnested.behind htoken hbehind
    rw [hnone] at hfailure
    rw [hstate]
    exact hguards.contains hinclusion htext hnew hfailure.symm
  -- It stays defined, and the file is the same.
  have hdefined' : isDefined env n.state name = true := by
    rw [isDefined, (Moment.evolves_of_reaches hn).contains hdefined, Bool.true_or]
  have htext' : inclusion'.text = guardedText name body := by
    obtain ⟨-, -, -, -, -, hread, hresolved⟩ := inclusion?_eq_some hinclusion
    obtain ⟨-, -, -, -, -, hread', hresolved'⟩ := inclusion?_eq_some hinclusion'
    rw [hresolved, hresolved'] at hfile
    rw [← htext]
    exact FileTree.readText_unique (readText_of_readInclude hread')
      (readText_of_readInclude hread) hfile
  have hmode' : n.state.conditions.mode = .scoped := by
    rw [(Moment.evolves_of_reaches hlater).mode]
    exact (enter_mode env state path).trans hmode
  -- With the name defined, the text of the file leaves no more than the end of a line.
  have hprocessed := hguards.processToken_skips hinclusion' htext' hmem' hmode' hdefined'
  constructor
  · obtain ⟨-, -, -, hreturns⟩ := run_nested env state text hpath
    exact (hreturns n token' hlater htoken').1
  · intro n' hn'
    obtain ⟨hstate, hfailure⟩ := hnested'.behind htoken' hn'
    rw [hprocessed] at hstate hfailure
    exact ⟨hfailure, hstate⟩

/-- A guarded file with a block of its own, included by a source and then by another file. -/
theorem run_guarded_nested :
    let body := "#if A\n#define B\n#endif\nx\n"
    let files : FileTree :=
      ⟨[(["g"], .file (Text.Encoding.encodeUtf8 (guardedText "G" body)) 0),
        (["a"], .file (Text.Encoding.encodeUtf8 "#include 'g'\n") 0)], ⟨"/", []⟩, 0⟩
    let env : Environment := ⟨{ recursiveIncludes := true }, files⟩
    let state := State.start .scoped
    let source := "#include 'g'\n#include 'a'\n"
    let m := Moment.start env state (Source.tokenize source) none
    env.Provides none ∧ Guards "G" body ∧
    ∃ m' n n' token inclusion inclusion', m.token? = some token ∧
      inclusion? env m.state token = some inclusion ∧ inclusion.text = guardedText "G" body ∧
      isDefined env m.state "G" = false ∧ Moment.Behind env m m' ∧ Moment.Reaches env m' n ∧
      n.token? = some token ∧ inclusion? env n.state token = some inclusion' ∧
      inclusion'.file = inclusion.file ∧ n.state.including = [⟨"/", ["a"]⟩] ∧
      m'.state.output = "\n\n\nx\n\n" ∧ n.state.output = "\n\n\nx\n\n\n" ∧
      Moment.Behind env n n' ∧ n'.failure = none ∧ n'.state.output = "\n\n\nx\n\n\n\n" := by
  intro body files env state source m
  -- The body has a block and a definition, none of which is that of the guard.
  have htokens : (Source.tokenize (guardedText "G" body)).tokens =
      ⟨.comment, "#ifndef " ++ "G", 1⟩ :: ([⟨.lineBreak, "\n", 1⟩] ++
        ⟨.comment, "#define " ++ "G", 2⟩ :: ([⟨.lineBreak, "\n", 2⟩, ⟨.comment, "#if A", 3⟩,
          ⟨.lineBreak, "\n", 3⟩, ⟨.comment, "#define B", 4⟩, ⟨.lineBreak, "\n", 4⟩,
          ⟨.comment, "#endif", 5⟩, ⟨.lineBreak, "\n", 5⟩, ⟨.name, "x", 6⟩, ⟨.newline, "\n", 6⟩] ++
          ⟨.comment, "#endif", 7⟩ :: [⟨.lineBreak, "\n", 7⟩])) := by
    decide +kernel
  have hguards : Guards "G" body := {
    isGuardName := ⟨by decide, by decide, Text.strip_identifier (by decide)⟩
    warning := by decide +kernel
    guarded := by
      rw [htokens]
      exact .intro (by decide +kernel) (by decide +kernel) (by decide +kernel)
        (by decide +kernel) }
  -- The moment behind the first inclusion, and the one before the second.
  let token : Token := ⟨.comment, "#include 'g'", 1⟩
  let rest : List Source.Piece :=
    [.token ⟨.lineBreak, "\n", 1⟩, .token ⟨.comment, "#include 'a'", 2⟩,
      .token ⟨.lineBreak, "\n", 2⟩]
  let inclusion : Inclusion := ⟨⟨"/", ["g"]⟩, guardedText "G" body, ⟨"/", ["g"]⟩⟩
  let after : Moment := ⟨(processToken env (included env) (state.enter env none) token).1,
    [⟨rest, .unknown⟩], (processToken env (included env) (state.enter env none) token).2⟩
  let between := (Moment.next? env after).getD after
  let n := (Moment.next? env between).getD after
  have hm : m = ⟨state.enter env none, [⟨.token token :: rest, .unknown⟩], none⟩ := by
    decide +kernel
  have htoken : m.token? = some token := by decide +kernel
  have hinclusion : inclusion? env m.state token = some inclusion := by decide +kernel
  have hnew : isDefined env m.state "G" = false := by decide +kernel
  have hbetween : Moment.next? env after = some between := by decide +kernel
  have hn : Moment.next? env between = some n := by decide +kernel
  have htoken' : n.token? = some token := by decide +kernel
  have hinclusion' : inclusion? env n.state token = some inclusion := by decide +kernel
  have hincluding : n.state.including = [⟨"/", ["a"]⟩] := by decide +kernel
  have hafter : after.state.output = "\n\n\nx\n\n" := by decide +kernel
  have hbefore : n.state.output = "\n\n\nx\n\n\n" := by decide +kernel
  obtain ⟨-, -, -, hreturns⟩ := run_nested env state source .text
  -- There is only one moment behind the first inclusion.
  obtain ⟨m', hbehind⟩ := (hreturns m token .refl htoken).1
  obtain rfl : m' = after := by
    have hnested := Moment.nested_start (.text : env.Provides none) state (Source.tokenize source)
    have hbehind' := hbehind
    change Moment.Nested env none m at hnested
    rw [hm] at hnested hbehind'
    exact hnested.eq_of_behind hbehind'
  have hreaches : Moment.Reaches env after n := .head hbetween (.single hn)
  have hmem : inclusion.file ∉ n.state.including := by
    rw [hincluding]
    decide
  obtain ⟨⟨n', hn'⟩, hskipped⟩ := run_guarded env state source .text rfl hguards .refl htoken
    hinclusion rfl hnew hbehind n token inclusion hreaches htoken' hinclusion' rfl hmem
  obtain ⟨hnone, hstate⟩ := hskipped n' hn'
  have houtput : n'.state.output = "\n\n\nx\n\n\n\n" := by
    rw [hstate]
    show n.state.output ++ "\n" = _
    rw [hbefore]
    decide
  exact ⟨.text, hguards, after, n, n', token, inclusion, inclusion, htoken, hinclusion, rfl, hnew,
    hbehind, hreaches, htoken', hinclusion', rfl, hincluding, hafter, hbefore, hn', hnone, houtput⟩

end Hashmark.Pass

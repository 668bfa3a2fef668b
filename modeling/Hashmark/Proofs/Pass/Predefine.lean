import Hashmark.Proofs.Pass.History
import Hashmark.Proofs.Pass.Identity
import Hashmark.Proofs.Pass.Objects
import Hashmark.Proofs.Pass.Prepend
import Hashmark.Proofs.Source.Below
import Hashmark.Proofs.Text.Identifier

/-!
# Predefined macros as lines

A macro that the options predefine is one that a line in front of the source defines. The line is a
comment with the name and, in quotes, the text (`definitionComment`). Whatever the text, quotes,
blanks and equals signs in it included, reading the directive gives it back, as long as it holds no
line end (`processToken_definitionComment`). In the output each of the lines leaves its line end.

So a pass with the macros predefined and one with the lines in front of its source come to states
that are the same but for the line ends in front and for the lines on which the macros are defined,
and process the same tokens from there (`preprocess_definitionLines`). The text of a macro that a
line defines is an object of its own. Where the options give one object as several texts, only a
condition that asks for identity finds that out, so that without such conditions the objects may be
any.
-/

namespace Hashmark.Pass

open Source (Token Tokenized)

/-- Any two lines. -/
def anyLine (_ _ : Int) : Prop := True

/-- The comment that defines a name as a text. -/
def definitionComment (definition : String × String) : List Char :=
  '#' :: "define".toList ++
    ' ' :: (definition.1.toList ++ ' ' :: '"' :: (definition.2.toList ++ ['"']))

/-- The lines that define these macros. -/
def definitionLines (definitions : List (String × String)) : String :=
  String.ofList (definitions.flatMap fun definition => definitionComment definition ++ ['\n'])

/-- The tokens of a line that defines a macro, but for their line. -/
def definitionTokens (definition : String × String) : List Token :=
  [⟨.comment, String.ofList (definitionComment definition), 1⟩, ⟨.lineBreak, "\n", 1⟩]

/-- So many line ends. -/
def lineEnds (n : Nat) : String :=
  String.ofList (List.replicate n '\n')

/-- One line end more, in front. -/
theorem lineEnds_succ (n : Nat) : lineEnds (n + 1) = "\n" ++ lineEnds n := by
  rw [lineEnds, List.replicate_succ, ← List.singleton_append, String.ofList_append]
  rfl

/-- A macro that a line can define: its name is an identifier, and its text has no line end. -/
structure IsDefinable (definition : String × String) : Prop where
  /-- The name is an identifier. -/
  name : Text.isIdentifier definition.1.toList = true
  /-- The text is on one line. -/
  value : '\n' ∉ definition.2.toList

instance (definition : String × String) : Decidable (IsDefinable definition) :=
  decidable_of_iff
    (Text.isIdentifier definition.1.toList = true ∧ '\n' ∉ definition.2.toList)
    ⟨fun h => ⟨h.1, h.2⟩, fun h => ⟨h.name, h.value⟩⟩

section Comment

variable {definition : String × String}

/-- The name of a macro that a line can define holds no blank. -/
theorem IsDefinable.notMem (h : IsDefinable definition) {c : Char} (hc : Text.isBlank c = true) :
    c ∉ definition.1.toList := by
  intro hmem
  rw [Text.not_isBlank_of_mem_identifier h.name c hmem] at hc
  cases hc

/-- The comment that defines a macro ends in a quote. -/
theorem getLast?_definitionComment (definition : String × String) :
    (definitionComment definition).getLast? = some '"' := by
  have hquote : definitionComment definition = '#' :: "define".toList ++
      ' ' :: (definition.1.toList ++ ' ' :: '"' :: definition.2.toList) ++ ['"'] := by
    simp only [definitionComment, List.cons_append, List.append_assoc]
  rw [hquote, List.getLast?_concat]

/-- The comment that defines a macro may fill a line. -/
theorem IsDefinable.isComment (h : IsDefinable definition) :
    Source.IsComment (definitionComment definition) where
  head := rfl
  line := by
    have hname : '\n' ∉ definition.1.toList := h.notMem (by decide)
    have hdefine : '\n' ∉ "define".toList := by decide
    simp only [definitionComment, List.cons_append, List.mem_cons, List.mem_append, hdefine, hname,
      h.value]
    decide
  last := by
    rw [getLast?_definitionComment]
    decide

/-- There is no blank at the ends of the comment that defines a macro. -/
theorem strip_definitionComment (definition : String × String) :
    Text.strip (String.ofList (definitionComment definition)) =
      String.ofList (definitionComment definition) := by
  refine Text.strip_eq_self (fun c hc => ?_) fun c hc => ?_
  · rw [String.toList_ofList, definitionComment, List.cons_append, List.head?_cons] at hc
    obtain rfl := Option.some.inj hc
    decide
  · rw [String.toList_ofList, getLast?_definitionComment] at hc
    obtain rfl := Option.some.inj hc
    decide

/-- The comment that defines a macro, read as a directive. -/
theorem ofComment_definitionComment (definition : String × String) :
    Directive.ofComment (String.ofList (definitionComment definition)) =
      ⟨"define", some (String.ofList
        (definition.1.toList ++ ' ' :: '"' :: (definition.2.toList ++ ['"'])))⟩ := by
  have hdefine : ' ' ∉ "define".toList := by decide
  have hlower : Text.lower (String.ofList "define".toList) = "define" := by decide +kernel
  rw [Directive.ofComment, strip_definitionComment, String.toList_ofList, definitionComment,
    List.cons_append, List.drop_succ_cons, List.drop_zero, Text.cut_append hdefine]
  simp only [hlower]
  rfl

/-- The comment that defines a macro is a definition of its name and, in quotes, its text. -/
theorem role_definitionComment (definition : String × String) (line : Nat) :
    role ⟨.comment, String.ofList (definitionComment definition), line⟩ =
      .definition (String.ofList
        (definition.1.toList ++ ' ' :: '"' :: (definition.2.toList ++ ['"']))) := by
  have hcandidate : Token.isCandidate
      ⟨.comment, String.ofList (definitionComment definition), line⟩ = true := by
    rw [Token.isCandidate, strip_definitionComment, String.toList_ofList]
    rfl
  have hcommand : (Directive.ofComment (String.ofList (definitionComment definition))).command? =
      some .define := by
    rw [ofComment_definitionComment]
    show Command.ofName? "define" = some .define
    decide
  rw [role, if_pos hcandidate, hcommand, ofComment_definitionComment]
  rfl

/-- A text in quotes without the quotes. -/
theorem stripWrapping_quoted (text : String) :
    stripWrapping (String.ofList ('"' :: (text.toList ++ ['"']))) = text := by
  rw [stripWrapping, String.toList_ofList, List.drop_succ_cons, List.drop_zero,
    List.dropLast_concat, String.ofList_toList]

/-- Where a name is not defined, the comment that defines it defines it as its text. -/
theorem processToken_definitionComment (env : Environment) (emit : State → String → Path → Step)
    (h : IsDefinable definition) {state : State} (hkept : state.suppressed = false)
    (hnew : state.macros.contains definition.1 = false) {token : Token}
    (htoken : token.Resembles anyLine
      ⟨.comment, String.ofList (definitionComment definition), 1⟩) :
    processToken env emit state token =
      ({ state.reach token with
          macros := state.macros.push
            ⟨definition.1, definition.2, (state.reach token).location, none⟩ }, none) := by
  obtain ⟨kind, text, line⟩ := token
  obtain ⟨rfl, rfl, -⟩ := htoken
  have hrole := role_definitionComment definition line
  have hname : ' ' ∉ definition.1.toList := h.notMem (by decide)
  have hmacros : ∀ token, (state.reach token).macros = state.macros := fun _ => rfl
  rw [processToken_definition hrole, hkept, if_neg Bool.false_ne_true, defineMacro,
    String.toList_ofList, Text.cut_append hname]
  simp only [Option.getD_some, stripWrapping_quoted, String.ofList_toList, MacroTable.define, hmacros,
    hnew]
  rfl

end Comment

section Lines

variable {definitions : List (String × String)}

/-- What resembles tokens resembles what they resemble. -/
theorem tokens_resemble_trans {first second third : List Token}
    (h : List.Forall₂ (Token.Resembles anyLine) first second)
    (h' : List.Forall₂ (Token.Resembles anyLine) second third) :
    List.Forall₂ (Token.Resembles anyLine) first third := by
  induction h generalizing third with
  | nil => exact h'
  | cons htoken _ ih =>
    cases h' with
    | cons htoken' h' =>
      exact .cons ⟨htoken.kind.trans htoken'.kind, htoken.text.trans htoken'.text, trivial⟩ (ih h')

/-- The tokens of a source with lines in front of it that define macros, but for their lines. -/
theorem tokens_definitionLines (h : ∀ definition ∈ definitions, IsDefinable definition)
    (text : String) :
    List.Forall₂ (Token.Resembles anyLine)
      (Source.tokenize (definitionLines definitions ++ text)).tokens
      (definitions.flatMap definitionTokens ++ (Source.tokenize text).tokens) := by
  induction definitions with
  | nil =>
    have htext : definitionLines [] ++ text = text := by
      rw [definitionLines, List.flatMap_nil, String.ofList_nil, String.empty_append]
    rw [htext]
    exact tokens_resemble (fun _ => trivial) _
  | cons definition definitions ih =>
    obtain ⟨hdefinition, hrest⟩ := List.forall_mem_cons.1 h
    have htext : definitionLines (definition :: definitions) ++ text =
        String.ofList (definitionComment definition ++ ['\n']) ++
          (definitionLines definitions ++ text) := by
      rw [definitionLines, List.flatMap_cons, String.ofList_append, String.append_assoc]
      rfl
    obtain ⟨tokens, heq, hbelow⟩ := Source.tokens_commentLine hdefinition.isComment
      (definitionLines definitions ++ text)
    rw [htext, heq]
    -- The tokens behind the line are those of the rest, one row further down.
    have hsame : List.Forall₂ (Token.Resembles anyLine) tokens
        (Source.tokenize (definitionLines definitions ++ text)).tokens :=
      (hbelow.imp fun _ _ htoken => ⟨htoken.kind.symm, htoken.text.symm, trivial⟩).flip
    exact .cons ⟨rfl, rfl, trivial⟩ (.cons ⟨rfl, rfl, trivial⟩
      (tokens_resemble_trans hsame (ih hrest)))

/-- The lines that define macros define them and leave their line ends. -/
theorem processTokens_definitions (env : Environment) (emit : State → String → Path → Step)
    (h : ∀ definition ∈ definitions, IsDefinable definition)
    (hdistinct : (definitions.map Prod.fst).Nodup) {state other : State}
    (hstate : state.Resembles anyLine other) (hkept : state.suppressed = false)
    (hpath : state.location.path = none)
    (hnew : ∀ definition ∈ definitions, state.macros.contains definition.1 = false)
    {tokens : List Token}
    (htokens : List.Forall₂ (Token.Resembles anyLine) tokens
      (definitions.flatMap definitionTokens)) :
    ∃ after, processTokens env emit state tokens = (after, none) ∧
      after.Resembles anyLine { other with
        macros := other.macros.seedMissing definitions fun _ => none
        output := other.output ++ lineEnds definitions.length } := by
  induction definitions generalizing state other tokens with
  | nil =>
    cases htokens
    exact ⟨state, rfl, { hstate with output := hstate.output.trans String.append_empty.symm }⟩
  | cons definition definitions ih =>
    obtain ⟨hdefinition, hrest⟩ := List.forall_mem_cons.1 h
    obtain ⟨hname, hnames⟩ := List.nodup_cons.1 hdistinct
    obtain ⟨hfirst, hothers⟩ := List.forall_mem_cons.1 hnew
    have hfirst' : other.macros.contains definition.1 = false :=
      (contains_resembles hstate.macros definition.1).symm.trans hfirst
    cases htokens with
    | @cons comment _ tokens _ hcomment htokens =>
    cases htokens with
    | @cons lineEnd _ tokens _ hlineEnd htokens =>
    -- The comment defines the macro, and the line end behind it is copied.
    let defined : State := { state.reach comment with
      macros := state.macros.push
        ⟨definition.1, definition.2, (state.reach comment).location, none⟩ }
    have hdefined : processToken env emit state comment = (defined, none) :=
      processToken_definitionComment env emit hdefinition hkept hfirst hcomment
    have hcopied : processToken env emit defined lineEnd =
        ((defined.reach lineEnd).append "\n", none) := by
      have hrole : role lineEnd = .text := by
        rw [role, Token.isCandidate, hlineEnd.kind]
        rfl
      have hkept' : ¬(defined.reach lineEnd).suppressed = true := by
        rw [Bool.not_eq_true]
        exact hkept
      rw [processToken_text hrole, hlineEnd.text, copy, if_neg hkept']
    -- The macro differs from one that is predefined in its line only.
    have hmacro : Macro.Resembles anyLine
        ⟨definition.1, definition.2, (state.reach comment).location, none⟩
        ⟨definition.1, definition.2, .unknown, none⟩ := ⟨rfl, rfl, ⟨hpath, trivial⟩, rfl⟩
    have hstate' : ((defined.reach lineEnd).append "\n").Resembles anyLine { other with
        macros := other.macros.push ⟨definition.1, definition.2, .unknown, none⟩
        output := other.output ++ "\n" } := {
      hstate with
      macros := List.rel_append hstate.macros (.cons hmacro .nil)
      output := congrArg (· ++ "\n") hstate.output }
    -- The names are different, so that the others are as new as before.
    have hnew' : ∀ definition' ∈ definitions,
        ((defined.reach lineEnd).append "\n").macros.contains definition'.1 = false := by
      intro definition' hmem
      have hne : definition.1 ≠ definition'.1 := by
        intro heq
        rw [heq] at hname
        exact hname (List.mem_map_of_mem hmem)
      exact (state.macros.contains_push_of_ne hne).trans (hothers definition' hmem)
    obtain ⟨after, hprocessed, hafter⟩ := ih hrest hnames hstate' hkept hpath hnew' htokens
    -- To predefine the macro is to push it as well, since its name is new.
    have hmissing : other.macros.seedMissing (definition :: definitions) (fun _ => none) =
        (other.macros.push ⟨definition.1, definition.2, .unknown, none⟩).seedMissing definitions
          fun _ => none := by
      rw [MacroTable.seedMissing_cons, hfirst']
      rfl
    refine ⟨after, ?_, ?_⟩
    · rw [processTokens, hdefined]
      simp only
      rw [processTokens, hcopied]
      exact hprocessed
    · rw [hmissing, List.length_cons, lineEnds_succ, ← String.append_assoc]
      exact hafter

/-- With lines in front of the source that define macros, the tokens do what they do with the macros
predefined, behind the line ends, if the text of each of these is an object of its own. -/
theorem processTokens_definitionLines (env : Environment)
    (h : ∀ definition ∈ definitions, IsDefinable definition)
    (hdistinct : (definitions.map Prod.fst).Nodup)
    (hobjects : ∀ definition ∈ definitions, env.config.macroObject definition.1 = none)
    (mode : Mode) (text : String) :
    Step.Resembles anyLine
      (processTokens (env.predefining []) (included (env.predefining []))
        ((State.start mode).enter (env.predefining []) none)
        (Source.tokenize (definitionLines definitions ++ text)).tokens)
      (prepend (lineEnds definitions.length)
        (processTokens (env.predefining definitions) (included (env.predefining definitions))
          ((State.start mode).enter (env.predefining definitions) none)
          (Source.tokenize text).tokens)) := by
  have hlines := tokens_definitionLines h text
  have hfront := List.forall₂_take_append _ _ _ hlines
  have hrest := List.forall₂_drop_append _ _ _ hlines
  -- The tokens of the lines are in front of those of the source.
  rw [← List.take_append_drop (definitions.flatMap definitionTokens).length
    (Source.tokenize (definitionLines definitions ++ text)).tokens, processTokens_append]
  have hnone : ((State.start mode).enter (env.predefining []) none).macros = .empty :=
    ite_self MacroTable.empty
  have hnew : ∀ definition ∈ definitions,
      ((State.start mode).enter (env.predefining []) none).macros.contains definition.1 =
        false := by
    intro definition _
    rw [hnone]
    rfl
  obtain ⟨after, hprocessed, hafter⟩ := processTokens_definitions (env.predefining [])
    (included (env.predefining [])) h hdistinct (State.Resembles.refl (fun _ => trivial) _)
    (enter_conditions (env.predefining []) (State.start mode) none).1 rfl hnew hfront
  rw [hprocessed]
  -- The macros are those that the options predefine, and the output is in front of that.
  have hseeded : ((State.start mode).enter (env.predefining definitions) none).macros =
      MacroTable.empty.seedMissing definitions fun _ => none := by
    rw [← MacroTable.seedMissing_congr _ hobjects, ← hnone]
    rfl
  have hafter' : after.Resembles anyLine
      (((State.start mode).enter (env.predefining definitions) none).prepend
        (lineEnds definitions.length)) :=
    { hafter with
      macros := by
        have hmacros := hafter.macros
        rw [hnone, ← hseeded] at hmacros
        exact hmacros
      output := hafter.output.trans (by
        show "" ++ lineEnds definitions.length = lineEnds definitions.length ++ ""
        rw [String.empty_append, String.append_empty]) }
  -- From there on the pass goes as the other one does, with the line ends in front.
  have hprepend := processTokens_prepend (env.predefining definitions)
    (lineEnds definitions.length) []
    ((State.start mode).enter (env.predefining definitions) none) (Source.tokenize text).tokens
  rw [← hprepend]
  exact processTokens_resembles (env.predefining []) (included_resembles (fun _ => trivial) _)
    hafter' hrest

/-- A pass with lines in front of the source that define macros does what it does with the macros
predefined, behind the line ends, if the text of each of these is an object of its own. -/
theorem processText_definitionLines (env : Environment)
    (h : ∀ definition ∈ definitions, IsDefinable definition)
    (hdistinct : (definitions.map Prod.fst).Nodup)
    (hobjects : ∀ definition ∈ definitions, env.config.macroObject definition.1 = none)
    (mode : Mode) (text : String) :
    Step.Resembles anyLine
      (processText (env.predefining []) (State.start mode) (definitionLines definitions ++ text))
      (prepend (lineEnds definitions.length)
        (processText (env.predefining definitions) (State.start mode) text)) := by
  exact runPieces_resembles_prepend (fun _ => trivial) rfl
    (processTokens_definitionLines env h hdistinct hobjects mode text)

/-- Without predefined macros, none has a text that is any object. -/
theorem preprocess_predefining_nil (env : Environment) (object : String → Option Nat)
    (text : String) :
    preprocess (env.predefining [] object) text = preprocess (env.predefining []) text := by
  have hbegin : begin ((env.predefining []).predefining [] object).config
      (State.start env.config.mode) none =
        (begin (env.predefining []).config (State.start env.config.mode) none).recast "" id := by
    rw [begin_start, begin_start]
    rfl
  -- No test notices that.
  have htested : Tested (fun _ => True) text := fun _ _ _ _ => trivial
  have hfiles : (env.predefining []).Tested fun _ => True := fun _ _ _ _ _ _ _ _ => trivial
  have hrun := run_recast (unnoticed_id (env.predefining []) [] object) hfiles htested hbegin
  have hresult := congrArg Step.result hrun
  rw [result_recast] at hresult
  exact hresult

/-- With the lines and with the macros predefined, passes come to steps that are the same but for the
line ends in front, if the texts of the macros are objects of their own or no condition asks for
identity. -/
theorem exists_definitionLines (env : Environment)
    (h : ∀ definition ∈ definitions, IsDefinable definition)
    (hdistinct : (definitions.map Prod.fst).Nodup) {text : String}
    (hobjects : (∀ definition ∈ definitions, env.config.macroObject definition.1 = none) ∨
      env.IgnoresIdentity text) :
    ∃ lined predefined : Step,
      preprocess (env.predefining []) (definitionLines definitions ++ text) = lined.result ∧
      preprocess (env.predefining definitions) text = predefined.result ∧
      lined.Resembles anyLine (prepend (lineEnds definitions.length) predefined) := by
  obtain hobjects | hignores := hobjects
  · exact ⟨_, _, rfl, rfl,
      processText_definitionLines env h hdistinct hobjects env.config.mode text⟩
  · -- The texts might as well be objects of their own.
    have hignores' : (env.predefining definitions).IgnoresIdentity text :=
      ⟨hignores.text, hignores.files⟩
    exact ⟨_, _, (preprocess_predefining_nil env (fun _ => none) _).symm,
      (preprocess_separate _ hignores').symm,
      processText_definitionLines (env.predefining env.config.defines fun _ => none) h hdistinct
        (fun _ _ => rfl) env.config.mode text⟩

end Lines

/-- Two predefined texts that are the same object are not those of two lines. -/
example :
    preprocess (Environment.predefining ⟨{}, ⟨[], ⟨"/", []⟩, 0⟩⟩ [("A", "xyz"), ("B", "xyz")]
        fun _ => some 0) "#if A is B\nz\n#endif\n" = .ok "\nz\n\n" ∧
    preprocess (Environment.predefining ⟨{}, ⟨[], ⟨"/", []⟩, 0⟩⟩ [])
        (definitionLines [("A", "xyz"), ("B", "xyz")] ++ "#if A is B\nz\n#endif\n") =
      .ok (lineEnds 2 ++ "\n") := by
  decide +kernel

end Hashmark.Pass

import Hashmark.Proofs.Pass.Definitions
import Hashmark.Proofs.Pass.Inlining
import Hashmark.Proofs.Pass.Predefine
import Hashmark.Proofs.Pass.Suppressed

/-!
# Two passes and one

Where macros are kept, a pass finds the macros that the one before it has left, those that the
options predefine among them, so that nothing is defined anew. With scoped blocks a pass ends only
where no block is open. So a second pass begins in the state that the first one has come to, but for
its output (`enter_resembles`). If the source of the second is put behind that of the first, and the
tokens of the whole are those of its parts, a single pass does what the two do, and its output is
both of theirs (`passes_compose`).
-/

namespace Hashmark

/-- Tables that resemble each other have the same names and texts. -/
theorem MacroTable.Resembles.definitions_eq {lines : Int → Int → Prop} {table table' : MacroTable}
    (h : table.Resembles lines table') : table.definitions = table'.definitions := by
  obtain ⟨macros⟩ := table
  obtain ⟨macros'⟩ := table'
  change List.Forall₂ _ macros macros' at h
  show macros.map _ = macros'.map _
  induction h with
  | nil => rfl
  | cons hentry _ ih => rw [List.map_cons, List.map_cons, ih, hentry.name, hentry.value]

/-- A failure that resembles a second definition of a name is one. -/
theorem Failure.Resembles.redefinition {lines : Int → Int → Prop} {e : Failure} {name : String}
    {location : Location} (h : e.Resembles lines (.at (.redefinition name) location)) :
    ∃ location', e = .at (.redefinition name) location' := by
  generalize he : Failure.at (.redefinition name) location = e' at h
  cases h with
  | refl => exact ⟨location, he.symm⟩
  | located problem h =>
    cases he
    exact ⟨_, rfl⟩

instance (lines : Int → Int → Prop) [DecidableRel lines] :
    DecidableRel (Source.Token.Resembles lines) := fun one other =>
  decidable_of_iff (one.kind = other.kind ∧ one.text = other.text ∧ lines one.line other.line)
    ⟨fun h => ⟨h.1, h.2.1, h.2.2⟩, fun h => ⟨h.kind, h.text, h.line⟩⟩

instance : DecidableRel Pass.anyLine := fun _ _ => isTrue trivial

/-- Defining names that are all defined changes nothing. -/
theorem MacroTable.seedMissing_eq_self {table : MacroTable} {definitions : List (String × String)}
    (h : ∀ definition ∈ definitions, table.contains definition.1 = true)
    (object : String → Option Nat) : table.seedMissing definitions object = table := by
  induction definitions with
  | nil => rfl
  | cons definition definitions ih =>
    obtain ⟨hfirst, hrest⟩ := List.forall_mem_cons.1 h
    have hstep : table.seedMissing (definition :: definitions) object =
        seedMissing (if table.contains definition.1 then table
          else table.push ⟨definition.1, definition.2, .unknown, object definition.1⟩)
          definitions object := rfl
    rw [hstep, if_pos hfirst, ih hrest]

namespace Pass

open Source (Token)

variable {env : Environment} {state : State}

/-- The names that the options predefine are defined behind a pass. -/
theorem contains_predefined (env : Environment) (state : State) (text : String)
    (path : Option Path) :
    ∀ definition ∈ env.config.defines,
      (run env state text path).1.macros.contains definition.1 = true := by
  intro definition hdefinition
  have hbegin : (begin env.config state path).macros.contains definition.1 = true :=
    (begin_seeded env.config state path).defined _ (.inr (List.mem_map_of_mem hdefinition))
  have hfind := MacroTable.find?_of_grown (begin_prefix_run env state text path) hbegin
  rw [MacroTable.contains, hfind]
  exact hbegin

/-- Scoped blocks none of which is open. -/
theorem eq_scoped_of_finish {conditions : Conditional} (hmode : conditions.mode = .scoped)
    (hfinish : conditions.finish = none) : conditions = .scoped [] := by
  cases conditions with
  | flat suppressed => cases hmode
  | «scoped» frames =>
    cases frames with
    | nil => rfl
    | cons frame frames => cases hfinish

/-- Where macros are kept and blocks are scoped, a pass begins in the state that a pass before it
has come to, with the output of that in front. -/
theorem enter_resembles (hkeep : env.config.keepMacros = true)
    (hmode : state.conditions.mode = .scoped) {one first : String}
    (hfirst : (processText env state one).result = .ok first) :
    ∃ after, processTokens env (included env) (state.enter env none) (Source.tokenize one).tokens =
        (after, none) ∧
      (((processText env state one).1.enter env none).prepend first).Resembles Eq after := by
  obtain ⟨behind, hpieces, houtput, hfinish, hrun⟩ := processPieces_of_result hfirst
  have hreturns : Returns (included env) := emit_returns env _
  have hcontinues :=
    processTokens_continues env hreturns (state.enter env none) (Source.tokenize one).tokens
  have htokens := processPieces_resembles_tokens env (included_resembles (fun _ => rfl) env)
    (state.enter env none) (Source.tokenize one)
  rw [hpieces] at htokens
  generalize processTokens env (included env) (state.enter env none) (Source.tokenize one).tokens =
    step at htokens hcontinues ⊢
  obtain ⟨after, failure⟩ := step
  obtain rfl : none = failure := htokens.failure_eq
  obtain ⟨hafter, -⟩ := htokens
  refine ⟨after, rfl, ?_⟩
  -- The macros are not reset, and nothing that the options predefine is missing.
  have hmacros : ((processText env state one).1.enter env none).macros = after.macros := by
    have hcontains := contains_predefined env state one none
    rw [hrun] at hcontains
    show MacroTable.seedMissing (if env.config.keepMacros then _ else _) env.config.defines _ = _
    rw [if_pos hkeep, processText, hrun, MacroTable.seedMissing_eq_self hcontains]
    exact hafter.macros.eq
  -- The blocks are reset, but none is open.
  have hconditions : ((processText env state one).1.enter env none).conditions =
      after.conditions := by
    have hmode' : (run env state one none).1.conditions.mode = .scoped :=
      (run_mode env state one none).trans hmode
    have hbehind : behind.conditions = .scoped [] := by
      rw [hrun] at hmode'
      exact eq_scoped_of_finish hmode' hfinish
    rw [← hafter.conditions, hbehind]
    show Conditional.start (run env state one none).1.conditions.mode = .scoped []
    rw [hmode']
    rfl
  exact {
    macros := hmacros ▸ List.forall₂_same.2 fun _ _ => ⟨rfl, rfl, ⟨rfl, rfl⟩, rfl⟩
    conditions := hconditions
    output := (String.append_empty (s := first)).trans (houtput.symm.trans hafter.output)
    including := hcontinues.including.symm
    path := hcontinues.path.symm }

/-- If the tokens of a source are those of its two parts, but for their lines, a pass over it does
what a pass over the second part does behind a pass over the first. -/
theorem processText_append (hkeep : env.config.keepMacros = true)
    (hmode : state.conditions.mode = .scoped) {one other first : String}
    (htokens : List.Forall₂ (Token.Resembles anyLine) (Source.tokenize (one ++ other)).tokens
      ((Source.tokenize one).tokens ++ (Source.tokenize other).tokens))
    (hfirst : (processText env state one).result = .ok first) :
    (processText env state (one ++ other)).Resembles anyLine
      (prepend first (processText env (processText env state one).1 other)) := by
  obtain ⟨after, hprocessed, hafter⟩ := enter_resembles hkeep hmode hfirst
  have hwhole := processTokens_resembles env (included_resembles (fun _ => trivial) env)
    (State.Resembles.refl (fun _ => trivial) (state.enter env none)) htokens
  rw [processTokens_append, hprocessed] at hwhole
  have hsecond := processTokens_resembles env (included_resembles (fun _ => rfl) env) hafter
    (tokens_resemble (fun _ => rfl) (Source.tokenize other).tokens)
  have hprepend := processTokens_prepend env first env.config.defines
    ((processText env state one).1.enter env none) (Source.tokenize other).tokens
  have hsame : env.predefining env.config.defines = env := rfl
  rw [hsame] at hprepend
  rw [hprepend] at hsecond
  refine runPieces_resembles_prepend (fun _ => trivial) ?_
    (hwhole.congr (.refl (fun _ => rfl) _) hsecond)
  exact congrArg Location.path (run_location env state one none).symm

/-- Where macros are kept and blocks are scoped, and the tokens of a source are those of its two
parts, but for their lines: if a pass over the first part succeeds, a pass over the source ends as a
pass over the second part does behind that one. It gives the texts of both one behind the other and
leaves the same macros with the same texts, or it fails for the same reason. A name that is defined
a second time in either part or in both of them is such a reason. -/
theorem passes_compose (hkeep : env.config.keepMacros = true)
    (hmode : state.conditions.mode = .scoped) {one other first : String}
    (htokens : List.Forall₂ (Token.Resembles anyLine) (Source.tokenize (one ++ other)).tokens
      ((Source.tokenize one).tokens ++ (Source.tokenize other).tokens))
    (hfirst : (processText env state one).result = .ok first) :
    let behind := processText env (processText env state one).1 other
    let whole := processText env state (one ++ other)
    (∀ second, behind.result = .ok second →
      whole.result = .ok (first ++ second) ∧
        whole.1.macros.definitions = behind.1.macros.definitions) ∧
    (∀ e, behind.result = .error e → ∃ e', whole.result = .error e' ∧ e'.Resembles anyLine e) ∧
    ∀ name location, behind.result = .error (.at (.redefinition name) location) →
      ∃ location', whole.result = .error (.at (.redefinition name) location') := by
  intro behind whole
  -- The whole is the second pass with the output of the first in front.
  have happend : whole.Resembles anyLine (prepend first behind) :=
    processText_append hkeep hmode htokens hfirst
  generalize behind = behind at happend ⊢
  generalize whole = whole at happend ⊢
  obtain ⟨after, failure⟩ := behind
  obtain ⟨after', failure'⟩ := whole
  obtain ⟨hstate, hfailure⟩ := happend
  have houtput : after'.output = first ++ after.output := hstate.output
  change Option.Rel (Failure.Resembles anyLine) failure' failure at hfailure
  cases hfailure with
  | none =>
    refine ⟨fun second hsecond => ?_, nofun, nofun⟩
    rw [← Except.ok.inj hsecond]
    exact ⟨congrArg Except.ok houtput, hstate.macros.definitions_eq⟩
  | @some e' e he =>
    refine ⟨nofun, fun other hother => ⟨e', rfl, Except.error.inj hother ▸ he⟩, ?_⟩
    intro name location hlocation
    obtain ⟨location', rfl⟩ := (Except.error.inj hlocation ▸ he).redefinition
    exact ⟨location', rfl⟩

/-- A condition on a macro that the first part defines, and a name that the options predefine, the
first part tests, and the second part defines once more. -/
theorem passes_compose_predefined :
    let env : Environment :=
      ⟨{ defines := [("A", "1")], keepMacros := true }, ⟨[], ⟨"/", []⟩, 0⟩⟩
    let one := "#ifdef A\n#define B 'b'\n#endif\nx\n"
    let other := "#if B == 'b'\n(y,\n#endif\nz)"
    let again := "w\n#define A 2\n"
    List.Forall₂ (Token.Resembles anyLine) (Source.tokenize (one ++ other)).tokens
      ((Source.tokenize one).tokens ++ (Source.tokenize other).tokens) ∧
    List.Forall₂ (Token.Resembles anyLine) (Source.tokenize (one ++ again)).tokens
      ((Source.tokenize one).tokens ++ (Source.tokenize again).tokens) ∧
    (processText env (State.start .scoped) one).result = .ok "\n\n\nx\n" ∧
    (processText env (State.start .scoped) (one ++ other)).result =
      .ok ("\n\n\nx\n" ++ "\n(y,\n\nz)") ∧
    ∃ location, (processText env (State.start .scoped) (one ++ again)).result =
      .error (.at (.redefinition "A") location) := by
  intro env one other again
  have htokens : List.Forall₂ (Token.Resembles anyLine) (Source.tokenize (one ++ other)).tokens
      ((Source.tokenize one).tokens ++ (Source.tokenize other).tokens) := by decide +kernel
  have htokens' : List.Forall₂ (Token.Resembles anyLine) (Source.tokenize (one ++ again)).tokens
      ((Source.tokenize one).tokens ++ (Source.tokenize again).tokens) := by decide +kernel
  have hfirst : (processText env (State.start .scoped) one).result = .ok "\n\n\nx\n" := by
    decide +kernel
  refine ⟨htokens, htokens', hfirst, ?_, ?_⟩
  · exact ((passes_compose rfl rfl htokens hfirst).1 _ (by decide +kernel)).1
  · exact (passes_compose rfl rfl htokens' hfirst).2.2 "A" ⟨none, 2⟩ (by decide +kernel)

end Pass

end Hashmark

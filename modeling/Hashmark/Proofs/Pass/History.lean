import Hashmark.Proofs.Pass.Evolution
import Hashmark.Proofs.Pass.Resemblance

/-!
# One pass after another

One engine serves for many calls: passes over texts and files, and directives that are handled
outside any pass. Each of them may fail at any point, also within files that include one another. A
call leaves macros, blocks and output behind, but it always comes back to no place in no source, and
it never changes the model of conditional blocks (`State.AtRest`).

A pass begins by resetting all that it depends on, except macros that are to be kept. So it does
what it would do as the first call of an engine that has only those macros (`passes_independent`).
-/

namespace Hashmark

section Seed

/-- A further macro defines no other name than its own. -/
theorem MacroTable.contains_push_of_ne (table : MacroTable) {m : Macro} {name : String}
    (h : m.name ≠ name) : (table.push m).contains name = table.contains name := by
  have hfind : [m].find? (fun m => m.name == name) = none := by
    rw [List.find?_singleton, if_neg (by rwa [beq_iff_eq])]
  rw [contains, contains, find?, find?, push, List.find?_append, hfind, Option.or_none]

/-- Defining those names that a table does not define is defining what is missing, and does not
fail. -/
theorem MacroTable.seed_filter (table : MacroTable) {definitions : List (String × String)}
    (h : (definitions.map Prod.fst).Nodup) (object : String → Option Nat) :
    table.seed (definitions.filter fun entry => !table.contains entry.1) object =
      (table.seedMissing definitions object, none) := by
  -- The names are told apart by the table at the beginning; definitions add none of those to come.
  have hall : ∀ current : MacroTable,
      (∀ entry ∈ definitions, current.contains entry.1 = table.contains entry.1) →
      current.seed (definitions.filter fun entry => !table.contains entry.1) object =
        (current.seedMissing definitions object, none) := by
    induction definitions with
    | nil => exact fun _ _ => rfl
    | cons entry definitions ih =>
      intro current hcurrent
      obtain ⟨name, value⟩ := entry
      obtain ⟨hname, hrest⟩ := List.forall_mem_cons.1 hcurrent
      obtain ⟨hnew, hnodup⟩ := List.nodup_cons.1 h
      have hmissing : current.seedMissing ((name, value) :: definitions) object =
          MacroTable.seedMissing
            (if current.contains name then current
              else current.push ⟨name, value, .unknown, object name⟩)
            definitions object := rfl
      rw [hmissing, List.filter_cons, hname]
      cases htable : table.contains name with
      | true => exact ih hnodup current hrest
      | false =>
        have hother : ∀ entry ∈ definitions,
            (current.push ⟨name, value, .unknown, object name⟩).contains entry.1 =
              table.contains entry.1 := by
          intro entry hentry
          have hne : name ≠ entry.1 := by
            intro heq
            rw [heq] at hnew
            exact hnew (List.mem_map.2 ⟨entry, hentry, rfl⟩)
          rw [current.contains_push_of_ne hne]
          exact hrest entry hentry
        have hdefine : current.define name value .unknown (object name) =
            .ok (current.push ⟨name, value, .unknown, object name⟩) := by
          rw [define, hname, htable]
          rfl
        show current.seed ((name, value) :: _) object = _
        rw [seed, hdefine]
        exact ih hnodup _ hother
  exact hall table fun _ _ => rfl

end Seed

namespace Pass

/-- What an engine is called for. -/
inductive Call where
  /-- A pass over a text. -/
  | text (source : String)
  /-- A pass over the file at a path. -/
  | file (path : Path)
  /-- A directive outside any pass. -/
  | directive (comment : String)
  deriving DecidableEq, Repr

/-- The state after a call, whatever comes of it. -/
def Call.after (env : Environment) (state : State) : Call → State
  | .text source => (processText env state source).1
  | .file path => (processFile env state path).1
  | .directive comment => (handleDirective env state comment).1

/-- The state after calls, each with the files as they are at that time. -/
def State.afterAll (config : Config) (state : State) (history : List (FileTree × Call)) : State :=
  history.foldl (fun state entry => entry.2.after ⟨config, entry.1⟩ state) state

/-- The state of a new engine; if macros are kept, it is given those of a state. -/
def State.fresh (config : Config) (state : State) : State :=
  if config.keepMacros then { State.start config.mode with macros := state.macros }
  else State.start config.mode

/-- What every call finds and leaves behind. -/
structure State.AtRest (config : Config) (state : State) : Prop where
  /-- The model of conditional blocks is that of the configuration. -/
  mode : state.conditions.mode = config.mode
  /-- No place in a source is at hand. -/
  location : state.location = .unknown

/-- Passes with the same end: the same text or the same failure, and the same macros, blocks and
output after it. -/
structure EndsAlike (one other : Step) : Prop where
  /-- The text or the failure is the same. -/
  result : one.result = other.result
  /-- The macros are the same. -/
  macros : one.1.macros = other.1.macros
  /-- The blocks are the same. -/
  conditions : one.1.conditions = other.1.conditions
  /-- The output is the same. -/
  output : one.1.output = other.1.output

/-- Passes that resemble each other on the same lines end alike. -/
theorem Step.Resembles.endsAlike {one other : Step} (h : one.Resembles Eq other) :
    EndsAlike one other where
  result := by
    have hfailure := h.failure_eq
    have houtput := h.1.output
    obtain ⟨state, failure⟩ := one
    obtain ⟨state', failure'⟩ := other
    obtain rfl : failure = failure' := hfailure
    cases failure with
    | none => exact congrArg Except.ok houtput
    | some e => rfl
  macros := h.1.macros.eq
  conditions := h.1.conditions
  output := h.1.output

section AtRest

variable {config : Config} {files : FileTree} {state : State}

/-- A new engine is at rest. -/
theorem atRest_start (config : Config) : (State.start config.mode).AtRest config where
  mode := Conditional.mode_start config.mode
  location := rfl

/-- A new engine that is given macros is at rest. -/
theorem atRest_fresh (config : Config) (state : State) : (state.fresh config).AtRest config := by
  unfold State.fresh
  split
  · exact { atRest_start config with }
  · exact atRest_start config

/-- A pass leaves an engine at rest. -/
theorem State.AtRest.run (h : state.AtRest config) (text : String) (path : Option Path) :
    (run ⟨config, files⟩ state text path).1.AtRest config where
  mode := (run_mode _ state text path).trans h.mode
  location := (run_location _ state text path).trans h.location

/-- Every call leaves an engine at rest, whatever comes of it. -/
theorem State.AtRest.after (h : state.AtRest config) (call : Call) :
    (call.after ⟨config, files⟩ state).AtRest config := by
  cases call with
  | text source => exact h.run source none
  | file path =>
    show (processFile ⟨config, files⟩ state path).1.AtRest config
    unfold processFile
    split
    · -- A file that cannot be read leaves the state alone.
      exact h
    · exact h.run _ _
  | directive comment =>
    show (handleDirective ⟨config, files⟩ state comment).1.AtRest config
    constructor
    · rw [(handleDirective_evolves _ state comment).mode, h.mode]
    · rw [handleDirective_location, h.location]

/-- Calls leave an engine at rest. -/
theorem State.AtRest.afterAll (h : state.AtRest config) (history : List (FileTree × Call)) :
    (state.afterAll config history).AtRest config := by
  induction history generalizing state with
  | nil => exact h
  | cons entry history ih => exact ih (h.after entry.2)

/-- An engine at rest begins a pass as a new one that is given its macros does. -/
theorem begin_resembles (h : state.AtRest config) (path : Option Path) :
    (begin config state path).Resembles Eq (begin config (state.fresh config) path) := by
  have hfresh := atRest_fresh config state
  -- Where macros are not kept both begin without any, else with the same.
  have hmacros : (begin config state path).macros =
      (begin config (state.fresh config) path).macros := by
    unfold begin State.fresh
    cases config.keepMacros <;> rfl
  have hconditions : (begin config state path).conditions =
      (begin config (state.fresh config) path).conditions := by
    show Conditional.start state.conditions.mode =
      Conditional.start (state.fresh config).conditions.mode
    rw [h.mode, hfresh.mode]
  have hpath : (begin config state path).location.path =
      (begin config (state.fresh config) path).location.path := by
    show state.location.path = (state.fresh config).location.path
    rw [h.location, hfresh.location]
  exact {
    macros := by
      rw [hmacros]
      exact (State.Resembles.refl (fun _ => rfl) _).macros
    conditions := hconditions
    output := rfl
    including := rfl
    path := hpath }

/-- A pass of an engine at rest ends as that of a new one that is given its macros. -/
theorem run_fresh (h : state.AtRest config) (text : String) (path : Option Path) :
    EndsAlike (run ⟨config, files⟩ state text path)
      (run ⟨config, files⟩ (state.fresh config) text path) := by
  -- The line at hand is that of a failure only where the depth of includes is exhausted.
  have hline : (begin config state path).location.line =
      (begin config (state.fresh config) path).location.line := by
    show state.location.line = (state.fresh config).location.line
    rw [h.location, (atRest_fresh config state).location]
  have hemit := emit_resembles (fun _ => rfl) ⟨config, files⟩ (depthBound files)
    (begin_resembles h path) hline text path
  exact (finish_resembles (fun _ => rfl) path hemit).endsAlike

end AtRest

/-- Passes do not depend on what was done before. After any calls, of which each may have failed at
any point, a pass over a text or a file ends as it does as the first one of an engine, which is
given the macros if they are kept; a file that cannot be read changes nothing. The names that a
configuration defines are defined at the beginning of a pass without failure, whatever macros are
kept. -/
theorem passes_independent (config : Config) (history : List (FileTree × Call))
    (files : FileTree) :
    let env : Environment := ⟨config, files⟩
    let state := (State.start config.mode).afterAll config history
    let fresh := state.fresh config
    (∀ text, EndsAlike (processText env state text) (processText env fresh text)) ∧
    (∀ path text, readSource env path = .ok text →
      EndsAlike (processFile env state path) (processFile env fresh path)) ∧
    (∀ path e, readSource env path = .error e →
      processFile env state path = (state, some e) ∧
        processFile env fresh path = (fresh, some e)) ∧
    ((config.defines.map Prod.fst).Nodup → ∀ table : MacroTable,
      table.seed (config.defines.filter fun entry => !table.contains entry.1) config.macroObject =
        (table.seedMissing config.defines config.macroObject, none)) := by
  have hrest : ((State.start config.mode).afterAll config history).AtRest config :=
    (atRest_start config).afterAll history
  refine ⟨fun text => run_fresh hrest text none, ?_, ?_, fun h table => table.seed_filter h _⟩
  · intro path text hread
    simp only [processFile, hread]
    exact run_fresh hrest text _
  · intro path e hread
    simp only [processFile, hread]
    exact ⟨trivial, trivial⟩

/-- An engine whose passes have failed within included files, and have left a macro of such a file
behind. -/
theorem passes_independent_nested :
    let config : Config :=
      { defines := [("A", "1")], recursiveIncludes := true, keepMacros := true }
    let files : FileTree := ⟨[(["a"], .file (Text.Encoding.encodeUtf8 "#define Q\n#include 'b'") 0),
      (["b"], .file (Text.Encoding.encodeUtf8 "#define W 2\n#endif\n") 0)], ⟨"/", []⟩, 0⟩
    let env : Environment := ⟨config, files⟩
    let history : List (FileTree × Call) :=
      [(files, .file (.ofText "a")), (files, .text "#if A\nx"), (files, .directive "#include 'a'"),
        (files, .file (.ofText "c"))]
    let state := (State.start config.mode).afterAll config history
    state.macros.contains "W" = true ∧
    EndsAlike (processText env state "#define W 3\n")
      (processText env (state.fresh config) "#define W 3\n") ∧
    EndsAlike (processFile env state (.ofText "b"))
      (processFile env (state.fresh config) (.ofText "b")) ∧
    processFile env state (.ofText "c") =
      (state, some (.at (.notFound (.ofText "c")) .unknown)) ∧
    state.macros.seed (config.defines.filter fun entry => !state.macros.contains entry.1)
        config.macroObject =
      (state.macros.seedMissing config.defines config.macroObject, none) := by
  intro config files env history state
  obtain ⟨htext, hfile, hmissing, hseed⟩ := passes_independent config history files
  refine ⟨by decide +kernel, htext _, ?_, ?_, hseed (by decide) _⟩
  · exact hfile _ "#define W 2\n#endif\n" (by decide +kernel)
  · exact (hmissing _ _ (by decide +kernel)).1

end Pass

end Hashmark

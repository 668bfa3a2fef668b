import Hashmark.Proofs.Pass.History
import Hashmark.Proofs.Pass.Moment

/-!
# Macros are added and stay

From one moment of a pass to the next, the table of macros stays as it is, or a token that defines a
macro outside suppressed text adds it behind the others (`Moment.Advances.macros`). So each moment
finds the macros of all moments before it, in their order and as they were defined. A token that
defines a name a second time ends the pass without a change. Where macros are kept from pass to pass
the same holds of the moments of different passes, whatever an engine is called for between them.
-/

namespace Hashmark

namespace MacroTable

/-- A table is the beginning of what it becomes with a further macro. -/
theorem prefix_push (table : MacroTable) (entry : Macro) :
    table.macros <+: (table.push entry).macros :=
  List.prefix_append _ _

/-- A name that is defined in the beginning of a table leads to the same macro in all of it. -/
theorem find?_of_grown {before after : MacroTable} (h : before.macros <+: after.macros)
    {name : String} (hname : before.contains name = true) :
    after.find? name = before.find? name := by
  obtain ⟨more, hmore⟩ := h
  obtain ⟨entry, hentry⟩ := Option.isSome_iff_exists.1 hname
  unfold find? at hentry ⊢
  rw [← hmore, List.find?_append, hentry, Option.some_or]

/-- A further macro leaves names defined that were. -/
theorem contains_push {table : MacroTable} {name : String} (h : table.contains name = true)
    (entry : Macro) : (table.push entry).contains name = true := by
  unfold contains find? at h ⊢
  rw [push, List.find?_append, Option.isSome_or, h, Bool.true_or]

/-- A name is defined once a macro of the name is added. -/
theorem contains_push_self (table : MacroTable) (entry : Macro) :
    (table.push entry).contains entry.name = true := by
  have hself : [entry].find? (fun m => m.name == entry.name) = some entry := by
    rw [List.find?_singleton, beq_self_eq_true, if_pos rfl]
  unfold contains find?
  rw [push, List.find?_append, hself, Option.isSome_or, Option.isSome_some, Bool.or_true]

/-- What defining missing names makes of a table: it begins with the macros that there were, all
others are definitions at no place in a source, and all names are defined. -/
structure Seeded (before : MacroTable) (definitions : List (String × String))
    (after : MacroTable) : Prop where
  /-- The macros that there were come first. -/
  beginning : before.macros <+: after.macros
  /-- Every other macro is one of the definitions. -/
  added : ∀ entry ∈ after.macros, entry ∈ before.macros ∨
    (entry.name, entry.value) ∈ definitions ∧ entry.location = .unknown
  /-- All names are defined, and those that were still are. -/
  defined : ∀ name, before.contains name = true ∨ name ∈ definitions.map Prod.fst →
    after.contains name = true

/-- Definitions may be made one after the other. -/
theorem Seeded.append {first second third : MacroTable} {definitions more : List (String × String)}
    (h : first.Seeded definitions second) (h' : second.Seeded more third) :
    first.Seeded (definitions ++ more) third where
  beginning := h.beginning.trans h'.beginning
  added entry hentry := by
    rcases h'.added entry hentry with hin | ⟨hin, hlocation⟩
    · rcases h.added entry hin with hin | ⟨hin, hlocation⟩
      · exact .inl hin
      · exact .inr ⟨List.mem_append_left _ hin, hlocation⟩
    · exact .inr ⟨List.mem_append_right _ hin, hlocation⟩
  defined name hname := by
    rw [List.map_append, List.mem_append, ← or_assoc] at hname
    exact h'.defined name (hname.imp_left (h.defined name))

/-- Defining a name that is missing adds the definition, and any other name is left alone. -/
theorem seeded_singleton (table : MacroTable) (name value : String) (object : Option Nat) :
    table.Seeded [(name, value)]
      (if table.contains name then table else table.push ⟨name, value, .unknown, object⟩) := by
  cases hname : table.contains name with
  | true =>
    refine ⟨List.prefix_refl _, fun _ hentry => .inl hentry, fun other hother => ?_⟩
    rcases hother with hother | hother
    · exact hother
    · rw [List.mem_singleton.1 hother]
      exact hname
  | false =>
    refine ⟨table.prefix_push _, fun entry hentry => ?_, fun other hother => ?_⟩
    · rcases List.mem_append.1 hentry with hin | hin
      · exact .inl hin
      · rw [List.mem_singleton.1 hin]
        exact .inr ⟨List.mem_singleton_self _, rfl⟩
    · rcases hother with hother | hother
      · exact contains_push hother _
      · rw [List.mem_singleton.1 hother]
        exact table.contains_push_self _

/-- Defining those names that are missing adds them behind the macros that there are. -/
theorem seeded_seedMissing (table : MacroTable) (definitions : List (String × String))
    (object : String → Option Nat) :
    table.Seeded definitions (table.seedMissing definitions object) := by
  induction definitions generalizing table with
  | nil =>
    exact {
      beginning := List.prefix_refl _
      added := fun _ hentry => .inl hentry
      defined := fun _ hname => hname.resolve_right List.not_mem_nil }
  | cons definition definitions ih =>
    obtain ⟨name, value⟩ := definition
    exact (table.seeded_singleton name value _).append (ih _)

end MacroTable

namespace Pass

open Source (Token Tokenized)

/-- Elementary changes of a state leave its macros as they are and add others behind them. -/
theorem Evolves.macros_grow {before after : State} (h : Evolves before after) :
    before.macros.macros <+: after.macros.macros := by
  induction h with
  | refl => exact List.prefix_refl _
  | tail _ hchange ih =>
    cases hchange with
    | move | append | turn => exact ih
    | define m h => exact ih.trans (MacroTable.prefix_push _ m)

namespace Moment

variable {env : Environment} {m m' : Moment}

/-- From one moment to the next macros stay as they are, or a token outside suppressed text defines
one that is not defined. -/
theorem Advances.macros (h : Advances env m m') :
    m'.state.macros = m.state.macros ∨
      ∃ token entry, m.token? = some token ∧ definition? m.state token = some entry ∧
        m.state.macros.contains entry.name = false ∧
        m'.state.macros = m.state.macros.push entry := by
  cases h with
  | leave | warn | «repeat» | enter => exact .inl rfl
  | @process state token rest back outer hnone =>
    obtain ⟨entry, hentry⟩ | hleaves := processToken_cases noFile hnone
    · have hstep := processToken_definition? env noFile hentry
      cases hdefined : state.macros.contains entry.name with
      | true =>
        rw [hdefined, if_pos rfl] at hstep
        rw [hstep]
        exact .inl rfl
      | false =>
        rw [hdefined, if_neg Bool.false_ne_true] at hstep
        rw [hstep]
        exact .inr ⟨token, entry, rfl, hentry, hdefined, rfl⟩
    · exact .inl hleaves.macros

/-- Every moment finds the macros of those before it. -/
theorem macros_prefix_of_reaches (h : Reaches env m m') :
    m.state.macros.macros <+: m'.state.macros.macros := by
  induction h with
  | refl => exact List.prefix_refl _
  | tail _ hnext ih =>
    obtain hsame | ⟨_, entry, _, _, _, hpush⟩ := (advances_of_next? hnext).macros
    · rw [hsame]
      exact ih
    · rw [hpush]
      exact ih.trans (MacroTable.prefix_push _ entry)

/-- A token that defines a name a second time ends the pass and changes no macros. -/
theorem exists_redefinition {token : Token} {entry : Macro} (htoken : m.token? = some token)
    (h : definition? m.state token = some entry)
    (hdefined : m.state.macros.contains entry.name = true) :
    ∃ m', next? env m = some m' ∧ m'.state.macros = m.state.macros ∧
      m'.failure = some (.at (.redefinition entry.name) (m.state.reach token).location) := by
  obtain ⟨rest, back, outer, hm⟩ := token?_eq_some htoken
  -- A definition includes nothing.
  have hnone : inclusion? env m.state token = none := by
    cases hinclusion : inclusion? env m.state token with
    | none => rfl
    | some inclusion =>
      obtain ⟨-, hkept, payload, hrole, -⟩ := inclusion?_eq_some hinclusion
      simp only [definition?, hkept, hrole] at h
      cases h
  have hprocess : Advances env ⟨m.state, ⟨.token token :: rest, back⟩ :: outer, none⟩ _ :=
    .process hnone
  rw [← hm, processToken_definition? env noFile h, if_pos hdefined] at hprocess
  exact ⟨_, hprocess.next?, rfl, rfl⟩

/-- A pass fails for a name that is defined a second time only at a token that does so. -/
theorem exists_definition_of_redefinition (h : Advances env m m') (hm : m.failure = none)
    {name : String} {location : Location}
    (he : m'.failure = some (.at (.redefinition name) location)) :
    ∃ token entry, m.token? = some token ∧ definition? m.state token = some entry ∧
      m.state.macros.contains entry.name = true ∧ name = entry.name ∧
      location = (m.state.reach token).location := by
  cases h with
  | leave h =>
    simp only at hm he
    rw [hm] at he
    cases he
  | warn | enter => cases he
  | «repeat» => cases he
  | @process state token rest back outer hnone =>
    simp only at he
    -- Nothing but a definition fails like this.
    obtain ⟨entry, hentry⟩ | hleaves := processToken_cases noFile hnone
    swap
    · exact absurd he (hleaves.ne_redefinition name location)
    rw [processToken_definition? env noFile hentry] at he
    cases hdefined : state.macros.contains entry.name with
    | false =>
      rw [hdefined, if_neg Bool.false_ne_true] at he
      cases he
    | true =>
      rw [hdefined, if_pos rfl] at he
      simp only [Failure.at, Option.some.injEq, Failure.fault.injEq, Fault.mk.injEq,
        Problem.redefinition.injEq] at he
      exact ⟨token, entry, rfl, hentry, hdefined, he.1.symm, he.2.symm⟩

end Moment

section Calls

variable {config : Config} {files : FileTree} {state : State}

/-- The macros that a pass begins with are those that are kept and those that the configuration
defines. -/
theorem begin_seeded (config : Config) (state : State) (path : Option Path) :
    (if config.keepMacros then state.macros else .empty).Seeded config.defines
      (begin config state path).macros :=
  MacroTable.seeded_seedMissing _ _ _

/-- A pass leaves behind the macros that it begins with. -/
theorem begin_prefix_run (env : Environment) (state : State) (text : String)
    (path : Option Path) :
    (begin env.config state path).macros.macros <+: (run env state text path).1.macros.macros := by
  rw [run, finish_fst]
  exact (emit_evolves env _ _ text path).macros_grow

/-- Where macros are kept, a pass leaves behind those that it finds. -/
theorem macros_prefix_run (hkeep : config.keepMacros = true) (text : String)
    (path : Option Path) :
    state.macros.macros <+: (run ⟨config, files⟩ state text path).1.macros.macros := by
  have hbegin := (begin_seeded config state path).beginning
  rw [if_pos hkeep] at hbegin
  exact hbegin.trans (begin_prefix_run ⟨config, files⟩ state text path)

/-- Where macros are kept, every call leaves behind those that it finds. -/
theorem Call.macros_grow (hkeep : config.keepMacros = true) (call : Call) :
    state.macros.macros <+: (call.after ⟨config, files⟩ state).macros.macros := by
  cases call with
  | text source =>
    rw [Call.after, processText]
    exact macros_prefix_run hkeep source none
  | file path =>
    rw [Call.after, processFile]
    split
    · -- A file that cannot be read leaves the state alone.
      exact List.prefix_refl _
    · exact macros_prefix_run hkeep _ _
  | directive comment =>
    rw [Call.after]
    exact (handleDirective_evolves _ state comment).macros_grow

/-- Where macros are kept, calls leave behind those that they find. -/
theorem macros_prefix_afterAll (hkeep : config.keepMacros = true)
    (history : List (FileTree × Call)) (state : State) :
    state.macros.macros <+: (state.afterAll config history).macros.macros := by
  induction history generalizing state with
  | nil => exact List.prefix_refl _
  | cons entry history ih => exact (Call.macros_grow hkeep entry.2).trans (ih _)

end Calls

section Run

variable {env : Environment} {state : State} {pieces : Tokenized} {path : Option Path}

/-- A pass leaves behind the macros of each of its moments. -/
theorem macros_prefix_runPieces (hpath : env.Provides path) {m : Moment}
    (hm : Moment.Reaches env (Moment.start env state pieces path) m) :
    m.state.macros.macros <+: (runPieces env state pieces path).1.macros.macros := by
  obtain ⟨last, hlast, -, hrun⟩ := runPieces_eval env state pieces hpath
  -- All moments are in one line, so that the last one comes behind this one.
  rw [StateTransition.reaches_eval hm] at hlast
  rw [← hrun, finish_fst]
  exact Moment.macros_prefix_of_reaches (StateTransition.mem_eval.1 hlast).1

/-- A pass fails for a name that is defined a second time exactly if it comes to a token that does
so. -/
theorem runPieces_redefinition_iff (hpath : env.Provides path) (name : String)
    (location : Location) :
    (runPieces env state pieces path).2 = some (.at (.redefinition name) location) ↔
      ∃ m, Moment.Reaches env (Moment.start env state pieces path) m ∧
        ∃ token entry, m.token? = some token ∧ definition? m.state token = some entry ∧
          m.state.macros.contains entry.name = true ∧ name = entry.name ∧
          location = (m.state.reach token).location := by
  refine runPieces_failure_iff hpath (fun imbalance location h => ?_)
    (fun m m' hnext hnone he => Moment.exists_definition_of_redefinition hnext hnone he)
    (fun m hcause => ?_)
  · cases h
  · obtain ⟨token, entry, htoken, hentry, hdefined, rfl, rfl⟩ := hcause
    obtain ⟨m', hnext, -, he⟩ := Moment.exists_redefinition htoken hentry hdefined
    exact ⟨m', hnext, he⟩

end Run

/-- Macros are only added, and the first definition of a name stays. Of a pass over the pieces of a
source, which may end in a failure within files that include one another:

* it begins with the macros that are kept, if they are, and those that the configuration defines,
  which are at no place in a source;
* each moment, and the end of the pass, finds the macros of every moment before it as they were, and
  others only behind them; so a name that is defined leads to the same macro ever after;
* a macro is added only by a token that defines a name outside suppressed text, and the name is not
  defined before;
* it fails for a name that is defined a second time exactly if it comes to a token, outside
  suppressed text, that does so, and then it leaves the macros that there were;
* if macros are kept, a moment of any later pass finds those of any moment of this one in the same
  way, whatever calls there are in between. -/
theorem runPieces_macros (env : Environment) (state : State) (pieces : Tokenized)
    {path : Option Path} (hpath : env.Provides path) :
    let start := Moment.start env state pieces path
    (if env.config.keepMacros then state.macros else .empty).Seeded env.config.defines
      start.state.macros ∧
    (∀ m m', Moment.Reaches env start m → Moment.Reaches env m m' →
      m.state.macros.macros <+: m'.state.macros.macros ∧
      m'.state.macros.macros <+: (runPieces env state pieces path).1.macros.macros ∧
      ∀ name, m.state.macros.contains name = true →
        m'.state.macros.find? name = m.state.macros.find? name) ∧
    (∀ m m', Moment.Reaches env start m → Moment.next? env m = some m' →
      m'.state.macros = m.state.macros ∨
        ∃ token entry, m.token? = some token ∧ definition? m.state token = some entry ∧
          m.state.macros.contains entry.name = false ∧
          m'.state.macros = m.state.macros.push entry) ∧
    (∀ name location,
      (runPieces env state pieces path).2 = some (.at (.redefinition name) location) ↔
        ∃ m, Moment.Reaches env start m ∧
          ∃ token entry, m.token? = some token ∧ definition? m.state token = some entry ∧
            m.state.macros.contains entry.name = true ∧ name = entry.name ∧
            location = (m.state.reach token).location) ∧
    (∀ m token entry, Moment.Reaches env start m → m.token? = some token →
      definition? m.state token = some entry → m.state.macros.contains entry.name = true →
      (runPieces env state pieces path).1.macros = m.state.macros) ∧
    (env.config.keepMacros = true →
      ∀ (history : List (FileTree × Call)) (files : FileTree) (later : Tokenized)
        (other : Option Path),
        let state' := (runPieces env state pieces path).1.afterAll env.config history
        let env' : Environment := ⟨env.config, files⟩
        ∀ m m', Moment.Reaches env start m →
          Moment.Reaches env' (Moment.start env' state' later other) m' →
          m.state.macros.macros <+: m'.state.macros.macros) := by
  intro start
  refine ⟨begin_seeded env.config state path, ?_, ?_, runPieces_redefinition_iff hpath, ?_, ?_⟩
  · intro m m' hm hm'
    have hgrows := Moment.macros_prefix_of_reaches hm'
    exact ⟨hgrows, macros_prefix_runPieces hpath (hm.trans hm'),
      fun name hname => MacroTable.find?_of_grown hgrows hname⟩
  · intro m m' _ hnext
    exact (Moment.advances_of_next? hnext).macros
  · intro m token entry hm htoken hentry hdefined
    obtain ⟨m', hnext, hsame, he⟩ := Moment.exists_redefinition htoken hentry hdefined
    rw [(runPieces_of_failure hpath (hm.tail hnext) he).2, hsame]
  · intro hkeep history files later other state' env' m m' hm hm'
    -- From the moment to the end of its pass, through the calls, the beginning and the moments of
    -- the later pass.
    have hpass := macros_prefix_runPieces hpath hm
    have hcalls := macros_prefix_afterAll hkeep history (runPieces env state pieces path).1
    have hbegin := (begin_seeded env.config state' other).beginning
    rw [if_pos hkeep] at hbegin
    have hlater := Moment.macros_prefix_of_reaches hm'
    exact ((hpass.trans hcalls).trans hbegin).trans hlater

/-- A file that defines a macro and fails for a second definition in a file that it includes, and
the same once more where macros are kept. -/
theorem runPieces_macros_kept :
    let files : FileTree :=
      ⟨[(["b"], .file (Text.Encoding.encodeUtf8 "#define W 2\n#define Q 3\n") 0)], ⟨"/", []⟩, 0⟩
    let env : Environment :=
      ⟨{ defines := [("A", "1")], recursiveIncludes := true, keepMacros := true }, files⟩
    let state := State.start env.config.mode
    let pieces := Source.tokenize "#define Q\n#if Q\n#define A\n#endif\n#include 'b'\n"
    let start := Moment.start env state pieces none
    let after := (runPieces env state pieces none).1
    env.Provides none ∧ env.config.keepMacros = true ∧
    after.macros.macros.map Macro.name = ["A", "Q", "W"] ∧
    (∃ m token entry, Moment.Reaches env start m ∧ m.token? = some token ∧
      definition? m.state token = some entry ∧ "Q" = entry.name ∧ after.macros = m.state.macros) ∧
    start.state.macros.macros <+:
      (Moment.start env (after.afterAll env.config []) pieces none).state.macros.macros := by
  intro files env state pieces start after
  obtain ⟨-, -, -, hredefined, hunchanged, hkept⟩ := runPieces_macros env state pieces .text
  obtain ⟨m, hm, token, entry, htoken, hentry, hdefined, hname, -⟩ :=
    (hredefined "Q" ⟨some ⟨"/", ["b"]⟩, 2⟩).1 (by decide +kernel)
  refine ⟨.text, rfl, by decide +kernel, ?_, hkept rfl [] files pieces none _ _ .refl .refl⟩
  have hleft := hunchanged m token entry hm htoken hentry hdefined
  exact ⟨m, token, entry, hm, htoken, hentry, hname, hleft⟩

end Pass

end Hashmark

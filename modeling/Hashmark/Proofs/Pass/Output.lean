import Hashmark.Proofs.Pass.Congruence
import Hashmark.Proofs.Source.Lossless
import Hashmark.Proofs.Text.Encoding

/-!
# Where output comes from

A pass writes nothing of its own: every character of its output is one of the source or of a file
that is included. Whatever holds of all characters of all files that can be read therefore holds of
the output (`emit_outputs`). In particular the output can be written in the encoding in which the
files were read, if that can write what it reads (`exists_encode_of_result`).
-/

namespace Hashmark.Pass

open Source (Token Tokenized)

/-- Something holds of every character of the output. -/
def Outputs (P : Char → Prop) (state : State) : Prop :=
  ∀ c ∈ state.output.toList, P c

/-- Processing a text adds to the output only characters of which something holds, if it holds of
those of the text. -/
def EmitOutputs (P : Char → Prop) (emit : State → String → Path → Step) : Prop :=
  ∀ state text path, (∀ c ∈ text.toList, P c) → Outputs P state → Outputs P (emit state text path).1

/-- Something holds of every character of a file that can be read. -/
def Environment.Reads (env : Environment) (P : Char → Prop) : Prop :=
  ∀ target text, env.files.readText target env.config = .ok text → ∀ c ∈ text.toList, P c

section Outputs

variable {P : Char → Prop} {env : Environment} {emit : State → String → Path → Step}

/-- Text is added to the output. -/
theorem append_outputs {state : State} (h : Outputs P state) {text : String}
    (htext : ∀ c ∈ text.toList, P c) : Outputs P (state.append text) := by
  intro c hc
  rw [State.append, String.toList_append] at hc
  obtain hc | hc := List.mem_append.1 hc
  · exact h c hc
  · exact htext c hc

/-- From step to step, something holds of every character of the output. -/
theorem outputs_stepwise (P : Char → Prop) :
    Stepwise fun before after => Outputs P before → Outputs P after where
  refl := fun _ h => h
  trans := fun h h' hfirst => h' (h hfirst)
  warn := fun _ _ h => h

/-- Of the directives only includes have output, and what they add comes from the file. -/
theorem Handles.outputs (hreads : env.Reads P) (hemit : EmitOutputs P emit) {state : State}
    (h : Outputs P state) {handled : Handled} (hhandled : Handles env emit state handled) :
    Outputs P handled.1 := by
  cases hhandled with
  | inclusion target hincludes =>
    have hread : Outputs P { state with reads := target :: state.reads } := h
    cases hincludes with
    | refuse e => exact h
    | insert hfile =>
      exact append_outputs hread (hreads target _ (readText_of_readInclude hfile))
    | @splice text hfile resolved result =>
      have henter : Outputs P { state with
          reads := target :: state.reads
          including := state.including ++ [resolved] } := h
      exact hemit _ text resolved (hreads target text (readText_of_readInclude hfile)) henter
  | _ => exact h

/-- A token adds its own text or that of an included file. -/
theorem processToken_outputs (hreads : env.Reads P) (hemit : EmitOutputs P emit) {token : Token}
    (htoken : ∀ c ∈ token.text.toList, P c) (state : State) :
    Outputs P state → Outputs P (processToken env emit state token).1 :=
  processToken_stepwise (outputs_stepwise P) (fun h => h)
    (fun h => (handleComment_handles env emit _ _).outputs hreads hemit h)
    fun _ h => append_outputs h htoken

/-- What holds of the characters of a text and of all files holds of what processing the text
outputs. -/
theorem emit_outputs (hreads : env.Reads P) (depth : Nat) {state : State} (h : Outputs P state)
    {text : String} (htext : ∀ c ∈ text.toList, P c) (path : Option Path) :
    Outputs P (Pass.emit env depth state text path).1 := by
  induction depth generalizing state text path with
  | zero => exact h
  | succ depth ih =>
    have hinner : EmitOutputs P fun state text path => Pass.emit env depth state text (some path) :=
      fun state text path htext h => ih h htext (some path)
    have hentered : Outputs P { state with location := ⟨path, state.location.line⟩ } := h
    have htokens : ∀ token ∈ (Source.tokenize text).tokens, ∀ c ∈ token.text.toList, P c :=
      fun token htoken c hc => htext c (Source.mem_source_of_mem_token htoken hc)
    have hprocessed := processPieces_stepwise (outputs_stepwise P)
      (fun token htoken => processToken_outputs hreads hinner (htokens token htoken))
      { state with location := ⟨path, state.location.line⟩ }
    simp only [Pass.emit]
    generalize processPieces env _ _ _ = step at hprocessed ⊢
    exact hprocessed hentered

/-- What holds of the characters of a text and of all files holds of what a pass over the text
outputs, whatever earlier passes have output. -/
theorem run_outputs (hreads : env.Reads P) (state : State) {text : String}
    (htext : ∀ c ∈ text.toList, P c) (path : Option Path) :
    Outputs P (run env state text path).1 := by
  have hbegin : Outputs P (begin env.config state path) := by
    simp [Outputs, begin]
  simp only [run, finish_fst]
  exact emit_outputs hreads _ hbegin htext path

end Outputs

/-- The source of a pass that ends well was read. -/
theorem readSource_of_result {env : Environment} {state : State} {path : Path} {text : String}
    (h : (processFile env state path).result = .ok text) :
    ∃ source, readSource env path = .ok source := by
  unfold processFile at h
  cases hsource : readSource env path with
  | error e =>
    rw [hsource] at h
    cases h
  | ok source => exact ⟨source, rfl⟩

/-- A pass that ends well ends with its output. -/
theorem output_of_result {step : Step} {text : String} (h : step.result = .ok text) :
    step.1.output = text := by
  obtain ⟨state, failure⟩ := step
  cases failure with
  | none => exact Except.ok.inj h
  | some e => cases h

/-- The output of a pass over a file is made of characters that its encoding reads. -/
theorem reads_of_result {env : Environment} {state : State} {path : Path} {text : String}
    (h : (processFile env state path).result = .ok text) :
    ∃ codec, env.config.codec? = some codec ∧ ∀ c ∈ text.toList, codec.Reads c := by
  obtain ⟨source, hsource⟩ := readSource_of_result h
  obtain ⟨-, codec, -, hcodec, -⟩ := FileTree.readText_eq_ok.1 (readText_of_readSource hsource)
  have hreads : env.Reads codec.Reads := by
    intro target text htext c hc
    obtain ⟨bytes, found, -, hfound, hdecode⟩ := FileTree.readText_eq_ok.1 htext
    obtain rfl := Option.some.inj (hcodec.symm.trans hfound)
    exact ⟨bytes, text, hdecode, hc⟩
  unfold processFile at h
  rw [hsource] at h
  have hout := run_outputs hreads state (hreads path source (readText_of_readSource hsource))
    (some (path.resolve env.files.here))
  rw [Outputs, output_of_result h] at hout
  exact ⟨codec, hcodec, hout⟩

/-- The output of a pass over a file can be written in the encoding of the pass, and reads back, if
the encoding can write what it reads. -/
theorem exists_encode_of_result (env : Environment) (hfaithful : env.config.Faithful)
    {state : State} {path : Path} {text : String}
    (h : (processFile env state path).result = .ok text) :
    ∃ codec bytes, env.config.codec? = some codec ∧ codec.encode text = some bytes ∧
      codec.decode bytes = .ok text := by
  obtain ⟨codec, hcodec, hreads⟩ := reads_of_result h
  obtain ⟨bytes, hencode, hdecode⟩ := hfaithful codec hcodec text hreads
  exact ⟨codec, bytes, hcodec, hencode, hdecode⟩

end Hashmark.Pass

import Hashmark.Proofs.Pass.Correspondence
import Hashmark.Proofs.Pass.Moment

/-!
# How a pass fails

A pass over a text ends with its output or with a failure. If the host knows the encoding, the
failure is one of four of the notation: a macro is defined twice, an included file is not found, a
file includes itself, or blocks do not match. There are two exceptions (`Escapes`): the path of an
include may hold the null character, and the encoding may refuse the bytes of a file as a whole,
without telling which of them are at fault.

The failures of one token are listed by its role (`processToken_failure`), and from there those
between two moments of a pass (`Moment.Advances.failure`). A pass fails between two of its moments,
or for the blocks that are still open at its end (`run_failing`), so that its failures are of the
same kinds (`run_failure`). In the other direction, an include that names something that cannot be
read ends the pass at its own place (`Moment.next?_of_includes`). `processText_failure` puts both
together.
-/

namespace Hashmark.Pass

open Source (Token Tokenized Piece)

/-- Whether a failure is one of the notation that a pass may end with. -/
def isNotation : Failure → Bool
  | .fault ⟨.redefinition _, _⟩ => true
  | .fault ⟨.includeNotFound _, _⟩ => true
  | .fault ⟨.circularInclude _, _⟩ => true
  | .fault ⟨.unbalanced _, _⟩ => true
  | _ => false

/-- A failure that an include lets through as it is, when what it names cannot be read. -/
inductive Escapes (env : Environment) (target : Path) : Failure → Prop
  /-- The path holds the null character. -/
  | nullCharacter : '\x00' ∈ target.text.toList →
    Escapes env target (.file ⟨.nullCharacter, target⟩)
  /-- The encoding refuses the bytes of the file as a whole. -/
  | refused {bytes : List UInt8} {codec : Text.Codec} {words : String} :
    env.files.read target = .ok bytes → env.config.codec? = some codec →
    codec.decode bytes = .error (.refused words) →
    Escapes env target (.undecodable (.refused words))

/-- At this moment comes an include directive outside suppressed text that names `target`. -/
def Moment.Includes (env : Environment) (m : Moment) (target : Path) (location : Location) : Prop :=
  ∃ token name, m.token? = some token ∧ includedName? m.state token = some name ∧
    target = includeTarget env (m.state.reach token) name ∧
    location = (m.state.reach token).location

section Failure

variable {env : Environment}

/-- What cannot be included cannot be read. -/
theorem readText_of_readInclude_error {location : Location} {target : Path} {e : Failure}
    (h : readInclude env location target = .error e) :
    ∃ reason, env.files.readText target env.config = .error reason := by
  unfold readInclude at h
  cases hread : env.files.readText target env.config with
  | error reason => exact ⟨reason, rfl⟩
  | ok text =>
    rw [hread] at h
    cases h

/-- What an include lets through is its failure. -/
theorem readInclude_of_escapes (hknown : env.config.codec?.isSome) {target : Path} {e : Failure}
    (h : Escapes env target e) (location : Location) :
    readInclude env location target = .error e := by
  obtain ⟨codec, hcodec⟩ := Option.isSome_iff_exists.1 hknown
  have hname := Config.null_notMem_encoding hcodec
  cases h with
  | nullCharacter hmem =>
    have hread : env.files.read target = .error ⟨.nullCharacter, target⟩ := by
      unfold FileTree.read FileTree.status FileTree.locate
      rw [if_pos (List.contains_iff_mem.2 hmem)]
    unfold readInclude FileTree.readText
    rw [hname, hread]
    rfl
  | refused hread hcodec hdecode =>
    unfold readInclude FileTree.readText
    rw [hname, hread, hcodec]
    simp only [Bool.false_eq_true, if_false, hdecode]

/-- What cannot be read is not found, unless the include lets the reason through. -/
theorem readInclude_of_unreadable (hknown : env.config.codec?.isSome) {target : Path}
    {reason : Failure} (h : env.files.readText target env.config = .error reason)
    (hnone : ∀ e, ¬Escapes env target e) (location : Location) :
    readInclude env location target = .error (.at (.includeNotFound target) location) := by
  unfold readInclude
  rw [h]
  cases FileTree.unreadable_of_readText h with
  | name hnull =>
    obtain ⟨codec, hcodec⟩ := Option.isSome_iff_exists.1 hknown
    rw [Config.null_notMem_encoding hcodec] at hnull
    cases hnull
  | @file e hread =>
    obtain ⟨hpath, hnull⟩ := FileTree.read_eq_error hread
    have hfault : e.fault ≠ .nullCharacter :=
      fun heq => hnone _ (.nullCharacter (hnull.1 heq))
    simp only [if_neg hfault]
  | encoding hmissing =>
    rw [hmissing] at hknown
    cases hknown
  | @bytes bytes codec e hread hcodec hdecode =>
    cases e with
    | malformed => rfl
    | refused => exact absurd (.refused hread hcodec hdecode) (hnone _)

/-- An include fails because what it names is not found, or because of what it lets through. -/
theorem escapes_or_notFound (hknown : env.config.codec?.isSome) {location : Location}
    {target : Path} {e : Failure} (h : readInclude env location target = .error e) :
    Escapes env target e ∨ e = .at (.includeNotFound target) location := by
  obtain ⟨reason, hreason⟩ := readText_of_readInclude_error h
  by_cases hnone : ∀ e, ¬Escapes env target e
  · rw [readInclude_of_unreadable hknown hreason hnone] at h
    exact .inr (Except.error.inj h).symm
  · obtain ⟨e', hescapes⟩ := not_forall_not.1 hnone
    rw [readInclude_of_escapes hknown hescapes] at h
    exact .inl (Except.error.inj h ▸ hescapes)

/-- A macro can fail to be defined only because there is one of the name. -/
theorem defineMacro_failure {state : State} {payload text : String} {e : Failure}
    (he : (settle text (defineMacro state payload)).2 = some e) : isNotation e = true := by
  simp only [defineMacro, MacroTable.define] at he
  by_cases hdefined : state.macros.contains
      (String.ofList (Text.cut ' ' payload.toList).1) = true
  · simp only [if_pos hdefined] at he
    obtain rfl := Option.some.inj he
    rfl
  · simp only [if_neg hdefined] at he
    cases he

/-- A change of the blocks can fail only for the blocks. -/
theorem changeBlocks_failure {state : State} {text : String} {result : Except Imbalance Conditional}
    {e : Failure} (he : (settle text (changeBlocks state result)).2 = some e) :
    isNotation e = true := by
  cases result with
  | ok conditions => cases he
  | error imbalance =>
    obtain rfl := Option.some.inj he
    rfl

/-- An include directive that has no file processed in its place fails because the file that it
names cannot be read. -/
theorem processToken_inclusion_failure {state : State} {token : Token} {payload : String}
    {emit : State → String → Path → Step} (hrole : role token = .inclusion payload)
    (h : inclusion? env state token = none) {e : Failure}
    (he : (processToken env emit state token).2 = some e) :
    ∃ name, includedName? state token = some name ∧
      readInclude env (state.reach token).location
        (includeTarget env (state.reach token) name) = .error e := by
  rw [processToken_inclusion hrole] at he
  cases hkept : state.suppressed with
  | true =>
    rw [hkept, if_pos rfl] at he
    cases he
  | false =>
    rw [hkept, if_neg Bool.false_ne_true] at he
    refine ⟨stripWrapping (Text.strip payload), ?_, ?_⟩
    · simp only [includedName?, hkept, hrole, Bool.false_eq_true, if_false]
    · simp only [inclusion?, hrole, hkept] at h
      unfold includeFile at he
      simp only at he
      generalize readInclude env (state.reach token).location _ = result at h he ⊢
      cases result with
      | error reason =>
        obtain rfl := Option.some.inj he
        rfl
      | ok text =>
        -- A file that can be read is taken as it is, since it is not processed.
        cases hrec : env.config.recursiveIncludes with
        | false =>
          simp only [hrec] at he
          cases he
        | true => simp [hrec] at h

/-- A token that has no file processed in its place fails with a failure of the notation, or it is
an include directive and fails with that of an include. -/
theorem processToken_failure {state : State} {token : Token}
    {emit : State → String → Path → Step} (h : inclusion? env state token = none) {e : Failure}
    (he : (processToken env emit state token).2 = some e) :
    isNotation e = true ∨ ∃ name, includedName? state token = some name ∧
      readInclude env (state.reach token).location
        (includeTarget env (state.reach token) name) = .error e := by
  cases hrole : role token with
  | text =>
    rw [processToken_text hrole] at he
    cases he
  | definition payload =>
    rw [processToken_definition hrole] at he
    split at he
    · cases he
    · exact .inl (defineMacro_failure he)
  | inclusion payload => exact .inr (processToken_inclusion_failure hrole h he)
  | opening b =>
    rw [processToken_opening hrole] at he
    cases he
  | branch b =>
    rw [processToken_branchBlocks hrole] at he
    split at he
    · cases he
    · exact .inl (changeBlocks_failure he)
  | ending =>
    rw [processToken_ending hrole] at he
    exact .inl (changeBlocks_failure he)

namespace Moment

/-- Between two moments a pass fails with a failure of the notation, or with one that an include lets
through. -/
theorem Advances.failure (hknown : env.config.codec?.isSome) {m m' : Moment}
    (h : Advances env m m') (hm : m.failure = none) {e : Failure} (he : m'.failure = some e) :
    isNotation e = true ∨ ∃ target location, m.Includes env target location ∧
      Escapes env target e := by
  cases h with
  | leave h =>
    dsimp only at hm he
    rw [hm] at he
    cases he
  | warn => cases he
  | @process state token rest back outer hinclusion =>
    -- If the token is not at fault itself, it includes a file that cannot be read.
    obtain hnotation | ⟨name, hname, hread⟩ := processToken_failure hinclusion he
    · exact .inl hnotation
    · obtain hescapes | rfl := escapes_or_notFound hknown hread
      · exact .inr ⟨_, _, ⟨token, name, rfl, hname, rfl, rfl⟩, hescapes⟩
      · exact .inl rfl
  | «repeat» hinclusion hmem =>
    obtain rfl := Option.some.inj he
    exact .inl rfl
  | enter hinclusion hmem => cases he

/-- An include of what cannot be included ends the pass. -/
theorem next?_of_includes {m : Moment} {target : Path} {location : Location}
    (h : m.Includes env target location) {e : Failure}
    (hread : readInclude env location target = .error e) :
    ∃ m', next? env m = some m' ∧ m'.failure = some e := by
  obtain ⟨token, name, htoken, hname, rfl, rfl⟩ := h
  obtain ⟨rest, back, outer, hm⟩ := token?_eq_some htoken
  obtain ⟨hkept, payload, hrole, rfl⟩ := includedName?_eq_some hname
  have hinclusion : inclusion? env m.state token = none := by
    simp only [inclusion?, hrole, hread, ite_self]
  rw [hm]
  refine ⟨_, (Advances.process hinclusion).next?, ?_⟩
  dsimp only
  rw [processToken_inclusion hrole, hkept, if_neg Bool.false_ne_true]
  unfold includeFile
  simp only
  rw [hread]
  rfl

end Moment

/-- A pass ends as its moments do, or fails for the number of blocks that are still open. -/
theorem finish_unterminated {path : Option Path} {step : Step} {e : Failure}
    (h : (finish path step).2 = some e) :
    step.2 = some e ∨ ∃ count, e = .at (.unbalanced (.unterminated count)) ⟨path, 0⟩ := by
  obtain ⟨after, failure⟩ := step
  cases failure with
  | some e' => exact .inl h
  | none =>
    rw [finish] at h
    cases hblocks : after.conditions with
    | flat =>
      rw [hblocks] at h
      cases h
    | «scoped» frames =>
      rw [hblocks] at h
      cases frames with
      | nil => cases h
      | cons frame outer => exact .inr ⟨(frame :: outer).length, (Option.some.inj h).symm⟩

/-- A pass without a result has failed. -/
theorem failure_of_result {step : Step} {e : Failure} (h : step.result = .error e) :
    step.2 = some e := by
  obtain ⟨state, failure⟩ := step
  cases failure with
  | none => cases h
  | some e' =>
    obtain rfl := Except.error.inj h
    rfl

/-- A pass fails between two of its moments, or for the blocks that are still open at its end. -/
theorem run_failing {path : Option Path} (hpath : env.Provides path) {state : State}
    {text : String} {e : Failure} (h : (run env state text path).2 = some e) :
    (∃ m m', Moment.Reaches env (Moment.start env state (Source.tokenize text) path) m ∧
      m.failure = none ∧ Moment.Advances env m m' ∧ m'.failure = some e) ∨
    ∃ count, e = .at (.unbalanced (.unterminated count)) ⟨path, 0⟩ := by
  obtain ⟨last, hlast, -, hrun⟩ := runPieces_eval env state (Source.tokenize text) hpath
  rw [run_eq_runPieces, ← hrun] at h
  refine (finish_unterminated h).imp_left fun hfailure => ?_
  exact Moment.exists_failing (StateTransition.mem_eval.1 hlast).1 rfl hfailure

/-- With a known encoding, a pass fails with a failure of the notation, or with one that an include
lets through. -/
theorem run_failure (hknown : env.config.codec?.isSome)
    {path : Option Path} (hpath : env.Provides path) {state : State} {text : String} {e : Failure}
    (h : (run env state text path).2 = some e) :
    isNotation e = true ∨ ∃ m target location,
      Moment.Reaches env (Moment.start env state (Source.tokenize text) path) m ∧
      m.Includes env target location ∧ Escapes env target e := by
  obtain ⟨m, m', hm, hnone, hnext, he⟩ | ⟨count, rfl⟩ := run_failing hpath h
  · obtain hnotation | ⟨target, location, hincludes, hescapes⟩ := hnext.failure hknown hnone he
    · exact .inl hnotation
    · exact .inr ⟨m, target, location, hm, hincludes, hescapes⟩
  · exact .inl rfl

/-- With an encoding that the host knows, a pass over a text ends with an output or with a failure of
the notation, unless it comes to an include outside suppressed text that lets another failure
through: its path holds the null character, or the encoding refuses the bytes of the file as a
whole. If it comes to an include of something else that cannot be read, its failure says so, at the
place of the include. -/
theorem processText_failure (hknown : env.config.codec?.isSome) (state : State) (text : String) :
    (∀ e, (processText env state text).2 = some e → isNotation e = true ∨
      ∃ m target location,
        Moment.Reaches env (Moment.start env state (Source.tokenize text) none) m ∧
        m.Includes env target location ∧ Escapes env target e) ∧
    ∀ m target location reason,
      Moment.Reaches env (Moment.start env state (Source.tokenize text) none) m →
      m.Includes env target location →
      env.files.readText target env.config = .error reason →
      (∀ e, Escapes env target e → (processText env state text).2 = some e) ∧
        ((∀ e, ¬Escapes env target e) →
          (processText env state text).2 = some (.at (.includeNotFound target) location)) := by
  have hpath : env.Provides none := .text
  rw [processText, run_eq_runPieces]
  refine ⟨fun e he => ?_, fun m target location reason hm hincludes hreason => ?_⟩
  · obtain ⟨last, hlast, -, hrun⟩ := runPieces_eval env state (Source.tokenize text) hpath
    rw [← hrun] at he
    -- The pass fails at some moment, or at its end, for a block that is still open.
    obtain hfailure | ⟨imbalance, rfl⟩ := finish_eq_some he
    · obtain ⟨m, m', hm, hnone, hnext, he'⟩ :=
        Moment.exists_failing (StateTransition.mem_eval.1 hlast).1 rfl hfailure
      obtain hnotation | ⟨target, location, hincludes, hescapes⟩ :=
        hnext.failure hknown hnone he'
      · exact .inl hnotation
      · exact .inr ⟨m, target, location, hm, hincludes, hescapes⟩
    · exact .inl rfl
  · have hfails : ∀ {e}, readInclude env location target = .error e →
        (runPieces env state (Source.tokenize text) none).2 = some e := by
      intro e hread
      obtain ⟨m', hnext, he⟩ := Moment.next?_of_includes hincludes hread
      exact (runPieces_of_failure hpath (hm.tail hnext) he).1
    exact ⟨fun e hescapes => hfails (readInclude_of_escapes hknown hescapes location),
      fun hnone => hfails (readInclude_of_unreadable hknown hreason hnone location)⟩

end Failure

/-- A file that does not exist is not found where it is included, and one of bytes that a further
encoding refuses fails as that words it. -/
theorem processText_failure_missing :
    let host : Host := { Host.reference with
      codecs := fun name => if name = "marked" then
        some ⟨fun _ => .error (.refused "no mark"), fun _ => none⟩ else none }
    let env : Environment := ⟨{ encoding := "marked", host }, ⟨[(["b"], .file [0x78] 0)], ⟨"/", []⟩, 0⟩⟩
    env.config.codec?.isSome = true ∧
    (processText env (State.start .scoped) "#include 'a'\n").2 =
      some (.at (.includeNotFound ⟨"/", ["a"]⟩) ⟨none, 1⟩) ∧
    (processText env (State.start .scoped) "#include 'b'\n").2 =
      some (.undecodable (.refused "no mark")) := by
  intro host env
  have hcodec : env.config.codec? = some ⟨fun _ => .error (.refused "no mark"), fun _ => none⟩ :=
    Config.codec?_of_ofName?_eq_none (by decide) (by decide +kernel)
  have hknown : env.config.codec?.isSome := Option.isSome_of_eq_some hcodec
  have hincludes : (Moment.start env (State.start .scoped) (Source.tokenize "#include 'a'\n")
      none).Includes env ⟨"/", ["a"]⟩ ⟨none, 1⟩ :=
    ⟨⟨.comment, "#include 'a'", 1⟩, "a", by decide +kernel, by decide +kernel, by decide +kernel,
      by decide +kernel⟩
  have hincludes' : (Moment.start env (State.start .scoped) (Source.tokenize "#include 'b'\n")
      none).Includes env ⟨"/", ["b"]⟩ ⟨none, 1⟩ :=
    ⟨⟨.comment, "#include 'b'", 1⟩, "b", by decide +kernel, by decide +kernel, by decide +kernel,
      by decide +kernel⟩
  have hmissing : env.files.read ⟨"/", ["a"]⟩ = .error ⟨.missing, ⟨"/", ["a"]⟩⟩ := by
    decide +kernel
  have hread : env.files.read ⟨"/", ["b"]⟩ = .ok [0x78] := by decide +kernel
  have hnone : ∀ e, ¬Escapes env ⟨"/", ["a"]⟩ e := by
    rintro e (hmem | ⟨hbytes, -, -⟩)
    · revert hmem
      decide +kernel
    · rw [hmissing] at hbytes
      cases hbytes
  obtain ⟨-, hfirst⟩ := processText_failure hknown (State.start .scoped) "#include 'a'\n"
  obtain ⟨-, hsecond⟩ := processText_failure hknown (State.start .scoped) "#include 'b'\n"
  exact ⟨hknown,
    (hfirst _ _ _ (.file ⟨.missing, ⟨"/", ["a"]⟩⟩) .refl hincludes (by decide +kernel)).2 hnone,
    (hsecond _ _ _ (.undecodable (.refused "no mark")) .refl hincludes' (by decide +kernel)).1 _
      (.refused hread hcodec rfl)⟩

/-- The null character in the path of an include leads to a failure that is none of the notation. -/
theorem processText_null_character :
    ∃ e, (processText ⟨{}, ⟨[], ⟨"/", []⟩, 0⟩⟩ (State.start .scoped) "#include 'a\x00b'\n").2 =
      some e ∧ isNotation e = false :=
  ⟨.file ⟨.nullCharacter, ⟨"/", ["a\x00b"]⟩⟩, by decide +kernel, rfl⟩

end Hashmark.Pass

import Hashmark.Proofs.Pass.Moment
import Mathlib.Data.List.Dedup

/-!
# Files within files

Where included files are preprocessed, a file may include others, and these others again. At every
moment of a pass the files in progress are different files that can be read (`Nested`), so that
there are never more of them than there are such files. A file that includes one of those in
progress ends the pass, and nothing else ends it in that way. And whatever happens within an
included file, the pass comes back from it to the place and among the files where it was included
(`Moment.Behind.restored`).
-/

namespace Hashmark

/-- The text of the file at a place, in the encoding of a configuration. -/
def FileTree.textAt? (tree : FileTree) (config : Config) (site : Site) : Option String :=
  match tree.nodeAt? site, config.codec? with
  | some (.file bytes _), some codec => (codec.decode bytes).toOption
  | _, _ => none

/-- The places of the files that can be read as texts in the encoding of a configuration, each of
them once. -/
def FileTree.readable (tree : FileTree) (config : Config) : List Site :=
  (tree.nodes.map Prod.fst).dedup.filter fun site => (tree.textAt? config site).isSome

/-- A file that is read as a text is one of those that can be. -/
theorem FileTree.mem_readable {tree : FileTree} {path : Path} {config : Config} {text : String}
    (h : tree.readText path config = .ok text) :
    (path.resolve tree.here).names ∈ tree.readable config := by
  obtain ⟨bytes, codec, hread, hcodec, hdecode⟩ := readText_eq_ok.1 h
  obtain ⟨time, hstatus⟩ := read_eq_ok.1 hread
  obtain ⟨site, hlocate, hnode⟩ := status_eq_ok.1 hstatus
  have htext : tree.textAt? config site = some text := by
    simp only [textAt?, hnode, hcodec, hdecode, Except.toOption]
  rw [← locate_eq hlocate]
  refine List.mem_filter.2 ⟨List.mem_dedup.2 (mem_nodes_of_nodeAt? hnode), ?_⟩
  rw [htext]
  rfl

namespace Pass

open Source (Token Tokenized Piece)

namespace Moment

/-- The files in progress at a moment of a pass. -/
structure Nested (env : Environment) (path : Option Path) (m : Moment) : Prop where
  /-- No two of them are the same. -/
  nodup : m.state.including.Nodup
  /-- They are resolved paths of files that can be read. -/
  readable : ∀ file ∈ m.state.including,
    file.root = "/" ∧ file.names ∈ env.files.readable env.config
  /-- Each of them has a level of its own, and so has a source that is no file. -/
  depth : m.levels ≠ [] → m.levels.length + path.toList.length = m.state.including.length + 1

/-- There are no more files in progress than files that can be read. -/
theorem Nested.length_le {env : Environment} {path : Option Path} {m : Moment}
    (h : Nested env path m) :
    m.state.including.length ≤ (env.files.readable env.config).length :=
  length_le_of_resolved h.nodup (fun file hmem => (h.readable file hmem).1)
    fun file hmem => (h.readable file hmem).2

variable {env : Environment} {path : Option Path}

/-- Where a pass begins, at most its source is in progress. -/
theorem nested_start (hpath : env.Provides path) (state : State) (pieces : Tokenized) :
    Nested env path (start env state pieces path) := by
  cases hpath with
  | text =>
    exact {
      nodup := List.nodup_nil
      readable := fun _ hmem => nomatch hmem
      depth := fun _ => rfl }
  | @file given text h =>
    refine ⟨List.nodup_singleton _, fun file hmem => ?_, fun _ => rfl⟩
    rw [List.mem_singleton.1 hmem]
    exact ⟨rfl, FileTree.mem_readable (readText_of_readSource h)⟩

/-- Where no file is processed in the place of a token, processing comes back at once. -/
theorem returns_noFile : Returns noFile :=
  fun _ _ _ => ⟨rfl, List.suffix_refl _⟩

/-- One moment after another, the files in progress stay different files that can be read. -/
theorem Nested.advance {m m' : Moment} (h : Nested env path m) (hnext : Advances env m m') :
    Nested env path m' := by
  cases hnext with
  | @leave state rest back outer failure hleft =>
    cases outer with
    | nil =>
      -- The source is left last, and stays among the files in progress.
      exact ⟨h.nodup, h.readable, fun hne => absurd rfl hne⟩
    | cons level outer =>
      have hsublist : (left state back (level :: outer)).including.Sublist state.including :=
        List.dropLast_sublist _
      refine ⟨h.nodup.sublist hsublist, fun file hmem => h.readable file (hsublist.subset hmem),
        fun _ => ?_⟩
      have hdepth := h.depth (List.cons_ne_nil _ _)
      have hpath : path.toList.length ≤ 1 := by
        cases path <;> simp
      show (level :: outer).length + path.toList.length = state.including.dropLast.length + 1
      rw [List.length_dropLast]
      simp only [List.length_cons] at hdepth ⊢
      omega
  | warn => exact ⟨h.nodup, h.readable, fun _ => h.depth (List.cons_ne_nil _ _)⟩
  | @process state token rest back outer hnone =>
    have hincluding := (processToken_continues env returns_noFile state token).including
    refine ⟨?_, ?_, fun _ => ?_⟩
    · rw [hincluding]
      exact h.nodup
    · rw [hincluding]
      exact h.readable
    · rw [hincluding]
      exact h.depth (List.cons_ne_nil _ _)
  | «repeat» hsome hmem => exact ⟨h.nodup, h.readable, fun _ => h.depth (List.cons_ne_nil _ _)⟩
  | @enter state token rest back outer inclusion hsome hmem =>
    -- The file that is entered is a new one, and it has been read.
    obtain ⟨-, -, payload, -, -, hread, hfile⟩ := inclusion?_eq_some hsome
    have hentered : (entered (state.read token inclusion) inclusion.file).including =
        state.including ++ [inclusion.file] := rfl
    refine ⟨?_, fun file hin => ?_, fun _ => ?_⟩
    · rw [hentered, ← List.concat_eq_append]
      exact h.nodup.concat hmem
    · rw [hentered] at hin
      rcases List.mem_append.1 hin with hin | hin
      · exact h.readable file hin
      · rw [List.mem_singleton.1 hin, hfile]
        exact ⟨rfl, FileTree.mem_readable (readText_of_readInclude hread)⟩
    · have hdepth := h.depth (List.cons_ne_nil _ _)
      rw [hentered, List.length_append]
      simp only [List.length_cons, List.length_nil] at hdepth ⊢
      omega

/-- At every moment of a pass the files in progress are different files that can be read. -/
theorem Nested.reaches {m m' : Moment} (h : Nested env path m) (hm : Reaches env m m') :
    Nested env path m' := by
  induction hm with
  | refl => exact h
  | tail _ hnext ih => exact ih.advance (advances_of_next? hnext)

/-- Processing a token does not fail for a file within itself if it has no file processed in its
place. -/
theorem processToken_ne_circular {state : State} {token : Token}
    (h : inclusion? env state token = none) (chain : List Path) (location : Location) :
    (processToken env noFile state token).2 ≠ some (.at (.circularInclude chain) location) := by
  obtain ⟨m, hm⟩ | hleaves := processToken_cases noFile h
  · -- A definition fails for a name that is defined.
    rw [processToken_definition? env noFile hm]
    split
    · exact fun hfailure => nomatch hfailure
    · exact fun hfailure => nomatch hfailure
  · exact hleaves.ne_circular chain location

/-- A pass fails for a file within itself between two moments only where a token includes a file
that is in progress. -/
theorem exists_inclusion_of_circular {m m' : Moment} (h : Advances env m m')
    (hm : m.failure = none) {chain : List Path} {location : Location}
    (he : m'.failure = some (.at (.circularInclude chain) location)) :
    ∃ token inclusion, m.token? = some token ∧ inclusion? env m.state token = some inclusion ∧
      inclusion.file ∈ m.state.including ∧ chain = m.state.including ++ [inclusion.file] ∧
      location = (m.state.reach token).location := by
  cases h with
  | leave h =>
    simp only at hm he
    rw [hm] at he
    cases he
  | warn => cases he
  | process hnone => exact absurd he (processToken_ne_circular hnone chain location)
  -- Of the five ways to advance only this one fails so.
  | @«repeat» state token rest back outer inclusion hsome hmem =>
    simp only [circular, Failure.at, Option.some.injEq, Failure.fault.injEq, Fault.mk.injEq,
      Problem.circularInclude.injEq] at he
    obtain ⟨hchain, hlocation⟩ := he
    exact ⟨token, inclusion, rfl, hsome, hmem, hchain.symm, hlocation.symm⟩
  | enter hsome hmem => cases he

/-- A token that includes a file that is in progress ends the pass. -/
theorem exists_circular {m : Moment} {token : Token} {inclusion : Inclusion}
    (htoken : m.token? = some token) (h : inclusion? env m.state token = some inclusion)
    (hmem : inclusion.file ∈ m.state.including) :
    ∃ m', next? env m = some m' ∧ m'.failure =
      some (.at (.circularInclude (m.state.including ++ [inclusion.file]))
        (m.state.reach token).location) := by
  obtain ⟨rest, back, outer, hm⟩ := token?_eq_some htoken
  have hrepeat : Advances env ⟨m.state, ⟨.token token :: rest, back⟩ :: outer, none⟩ _ :=
    .repeat h hmem
  rw [← hm] at hrepeat
  exact ⟨_, hrepeat.next?, rfl⟩

/-- The moment behind the token that is processed next: the first one after it at which no more
texts are in progress than before. -/
def Behind (env : Environment) (m m' : Moment) : Prop :=
  ∃ first, next? env m = some first ∧
    Relation.ReflTransGen
      (fun a b => next? env a = some b ∧ m.levels.length < a.levels.length) first m' ∧
    m'.levels.length ≤ m.levels.length

/-- A pass that comes to few texts in progress comes there for a first time. -/
theorem exists_first_of_reaches {count : ℕ} {m last : Moment} (h : Reaches env m last)
    (hlast : last.levels.length ≤ count) :
    ∃ m', Relation.ReflTransGen
        (fun a b => next? env a = some b ∧ count < a.levels.length) m m' ∧
      m'.levels.length ≤ count := by
  -- By induction from the end: a moment with few texts is the first one, any other passes on.
  induction h using Relation.ReflTransGen.head_induction_on with
  | refl => exact ⟨last, .refl, hlast⟩
  | @head before after hnext _ ih =>
    by_cases hbefore : before.levels.length ≤ count
    · exact ⟨before, .refl, hbefore⟩
    · obtain ⟨m', hm', hcount⟩ := ih
      exact ⟨m', .head ⟨hnext, Nat.lt_of_not_le hbefore⟩ hm', hcount⟩

/-- A pass that comes to an end comes to the moment behind every token. -/
theorem exists_behind {m last : Moment} (h : Reaches env m last) (hlast : last.levels = [])
    {token : Token} (htoken : m.token? = some token) : ∃ m', Behind env m m' := by
  obtain ⟨rest, back, outer, hm⟩ := token?_eq_some htoken
  obtain heq | ⟨first, hfirst, hreaches⟩ := Relation.ReflTransGen.cases_head h
  · -- The last moment is not one before a token.
    rw [← heq, hm] at hlast
    cases hlast
  have hcount : last.levels.length ≤ m.levels.length := by
    rw [hlast]
    exact Nat.zero_le _
  obtain ⟨m', hm', hle⟩ := exists_first_of_reaches hreaches hcount
  exact ⟨m', first, hfirst, hm', hle⟩

/-- What a moment has kept of the one behind a token, at which the files `base` are in progress, the
place is `location` and the levels are `level :: outer`: either the files that have been entered
since are in progress as well and lead back to that place, or they have been left. -/
inductive Keeps (base : List Path) (location : Location) (level : Level) (outer : List Level) :
    Moment → Prop
  /-- The files that have been entered are in progress. -/
  | inside {state : State} {failure : Option Failure} {above : List Level} {more : List Path}
      (hback : (above.map Level.back).getLast? = some location)
      (hincluding : state.including = base ++ more) (hcount : more.length = above.length) :
      Keeps base location level outer ⟨state, above ++ level :: outer, failure⟩
  /-- They have been left. -/
  | outside {state : State} {failure : Option Failure} (hincluding : state.including = base)
      (hlocation : state.location = location) :
      Keeps base location level outer ⟨state, level :: outer, failure⟩

/-- Processing a token ends at its place if no file is processed in its place. -/
theorem processToken_noFile_location (state : State) (token : Token) :
    (processToken env noFile state token).1.location = (state.reach token).location := by
  have hstays : Stepwise fun before after => after.location = before.location :=
    ⟨fun _ => rfl, fun h h' => h'.trans h, fun _ _ => rfl⟩
  have hhandled : (handleComment env noFile (state.reach token) token.text).1.location =
      (state.reach token).location :=
    (handleComment_handles env noFile _ _).location fun _ _ _ => rfl
  rw [processToken_eq]
  split
  · exact settle_stepwise hstays hhandled fun _ => rfl
  · exact copy_stepwise hstays (fun _ => rfl) _

section Keeps

variable {base : List Path} {location : Location} {level inner : Level} {outer above : List Level}
  {state : State} {more : List Path}

/-- What has been entered behind a token may be left again, and the last text of it leads back to
the place of the token. -/
theorem Keeps.leave (hback : ((inner :: above).map Level.back).getLast? = some location)
    (hincluding : state.including = base ++ more) (hcount : more.length = above.length + 1)
    (failure : Option Failure) :
    Keeps base location level outer
      ⟨left state inner.back (above ++ level :: outer), above ++ level :: outer, failure⟩ := by
  -- There is a file for every text, so that there is one to leave.
  obtain ⟨more, file, rfl⟩ := (List.eq_nil_or_concat' more).resolve_left fun hnil => by
    rw [hnil] at hcount
    cases hcount
  have hcount' : more.length = above.length := by
    rw [List.length_append] at hcount
    exact Nat.add_right_cancel hcount
  have hleft : state.including.dropLast = base ++ more := by
    rw [hincluding, ← List.append_assoc, List.dropLast_concat]
  cases above with
  | nil =>
    obtain rfl := List.eq_nil_of_length_eq_zero hcount'
    rw [List.append_nil] at hleft
    exact .outside hleft (Option.some.inj hback)
  | cons next above =>
    rw [List.map_cons, List.map_cons, List.getLast?_cons_cons, ← List.map_cons] at hback
    exact .inside hback hleft hcount'

/-- While files are in progress that have been entered behind a token, each moment keeps what the
one before it has kept. -/
theorem Keeps.advance {m m' : Moment} (h : Keeps base location level outer m)
    (hnext : Advances env m m') (hinside : outer.length + 1 < m.levels.length) :
    Keeps base location level outer m' := by
  cases h with
  | outside => exact absurd hinside (Nat.lt_irrefl _)
  | @inside state failure above more hback hincluding hcount =>
    cases above with
    | nil => cases hback
    | cons inner above =>
      rw [List.cons_append] at hnext
      -- Whatever is done within the innermost text, the texts lead back to the same places.
      have hstay : ∀ (state' : State) (failure' : Option Failure) (rest : List Piece),
          state'.including = state.including →
            Keeps base location level outer
              ⟨state', (⟨rest, inner.back⟩ :: above) ++ level :: outer, failure'⟩ := by
        intro state' failure' rest hsame
        exact .inside hback (hsame.trans hincluding) hcount
      cases hnext with
      | leave => exact .leave hback hincluding hcount _
      | warn => exact hstay _ _ _ rfl
      | @process _ token =>
        exact hstay _ _ _ (processToken_continues env returns_noFile state token).including
      | «repeat» => exact hstay _ _ _ rfl
      | @enter _ token rest back _ inclusion =>
        show Keeps base location level outer
          ⟨_, (⟨_, (state.reach token).location⟩ :: ⟨rest, back⟩ :: above) ++ level :: outer, _⟩
        have hentered : state.including ++ [inclusion.file] =
            base ++ (more ++ [inclusion.file]) := by
          rw [hincluding, List.append_assoc]
        refine .inside ?_ hentered ?_
        · rw [List.map_cons, List.map_cons, List.getLast?_cons_cons]
          exact hback
        · rw [List.length_append, hcount]
          rfl

end Keeps

/-- Behind a token the texts in progress are those before it, and so are the files; the place is that
of the token. -/
theorem Behind.outside {state : State} {token : Token} {rest : List Piece} {back : Location}
    {outer : List Level} {m' : Moment}
    (h : Behind env ⟨state, ⟨.token token :: rest, back⟩ :: outer, none⟩ m') :
    ∃ after failure, m' = ⟨after, ⟨rest, back⟩ :: outer, failure⟩ ∧
      after.including = state.including ∧ after.location = (state.reach token).location := by
  obtain ⟨first, hfirst, hreaches, hcount⟩ := h
  have hbegin : Keeps state.including (state.reach token).location ⟨rest, back⟩ outer first := by
    have hnext := advances_of_next? hfirst
    cases hnext with
    | leave h => cases h rfl
    | process =>
      exact .outside (processToken_continues env returns_noFile state token).including
        (processToken_noFile_location state token)
    | «repeat» => exact .outside rfl rfl
    | @enter _ _ _ _ _ inclusion =>
      show Keeps _ _ _ _ ⟨_, [⟨_, (state.reach token).location⟩] ++ ⟨rest, back⟩ :: outer, _⟩
      exact .inside rfl rfl rfl
  -- From the first moment behind the token on each keeps what the one before it has kept.
  have hkeeps : Keeps state.including (state.reach token).location ⟨rest, back⟩ outer m' := by
    clear hcount
    induction hreaches with
    | refl => exact hbegin
    | tail _ hnext ih => exact ih.advance (advances_of_next? hnext.1) hnext.2
  cases hkeeps with
  | outside hincluding hlocation => exact ⟨_, _, rfl, hincluding, hlocation⟩
  | @inside _ _ above more hback =>
    -- There are more texts in progress than before the token.
    cases above with
    | nil => cases hback
    | cons inner above =>
      simp only [List.length_append, List.length_cons] at hcount
      omega

/-- Behind a token the files in progress are those before it, and the place is that of the
token. -/
theorem Behind.restored {m m' : Moment} {token : Token} (h : Behind env m m')
    (htoken : m.token? = some token) :
    m'.state.including = m.state.including ∧
      m'.state.location = (m.state.reach token).location := by
  obtain ⟨rest, back, outer, hm⟩ := token?_eq_some htoken
  rw [hm] at h
  obtain ⟨after, failure, rfl, hincluding, hlocation⟩ := h.outside
  exact ⟨hincluding, hlocation⟩

end Moment

section Run

variable {env : Environment} {state : State} {pieces : Tokenized} {path : Option Path}

/-- A pass fails for a file within itself exactly if it comes to a token that includes a file in
progress. -/
theorem runPieces_circular_iff (hpath : env.Provides path) (chain : List Path)
    (location : Location) :
    (runPieces env state pieces path).2 = some (.at (.circularInclude chain) location) ↔
      ∃ m, Moment.Reaches env (Moment.start env state pieces path) m ∧
        ∃ token inclusion, m.token? = some token ∧ inclusion? env m.state token = some inclusion ∧
          inclusion.file ∈ m.state.including ∧ chain = m.state.including ++ [inclusion.file] ∧
          location = (m.state.reach token).location := by
  refine runPieces_failure_iff hpath (fun imbalance location h => ?_)
    (fun m m' hnext hnone he => Moment.exists_inclusion_of_circular hnext hnone he)
    (fun m hcause => ?_)
  · cases h
  · obtain ⟨token, inclusion, htoken, hinclusion, hmem, rfl, rfl⟩ := hcause
    exact Moment.exists_circular htoken hinclusion hmem

end Run

/-- Passes with includes end, and do not process a file within itself. Of a pass over a text, which
may be that of a file:

* its moments come to an end, at which the pass is over;
* at every moment the files in progress are different files that can be read, so that there are at
  most as many as there are such files;
* it fails for a file within itself exactly if it comes to an include directive, outside suppressed
  text, that names a readable file in progress, and then it names the files in progress and that
  one;
* it comes back from every token, whether it fails or not, to the files in progress and the place
  at which it came to the token. -/
theorem run_nested (env : Environment) (state : State) (text : String) {path : Option Path}
    (hpath : env.Provides path) :
    let start := Moment.start env state (Source.tokenize text) path
    (∃ last ∈ StateTransition.eval (Moment.next? env) start,
      finish path (last.state, last.failure) = run env state text path) ∧
    (∀ m, Moment.Reaches env start m →
      m.state.including.Nodup ∧
      (∀ file ∈ m.state.including,
        file.root = "/" ∧ file.names ∈ env.files.readable env.config) ∧
      m.levels.length ≤ m.state.including.length + 1 ∧
      m.state.including.length ≤ (env.files.readable env.config).length) ∧
    (∀ chain location,
      (run env state text path).2 = some (.at (.circularInclude chain) location) ↔
        ∃ m, Moment.Reaches env start m ∧
          ∃ token inclusion, m.token? = some token ∧
            inclusion? env m.state token = some inclusion ∧
            inclusion.file ∈ m.state.including ∧ chain = m.state.including ++ [inclusion.file] ∧
            location = (m.state.reach token).location) ∧
    (∀ m token, Moment.Reaches env start m → m.token? = some token →
      (∃ m', Moment.Behind env m m') ∧
        ∀ m', Moment.Behind env m m' →
          m'.state.including = m.state.including ∧
          m'.state.location = (m.state.reach token).location) := by
  intro start
  rw [run_eq_runPieces]
  obtain ⟨last, hlast, hempty, hrun⟩ := runPieces_eval env state (Source.tokenize text) hpath
  refine ⟨⟨last, hlast, hrun⟩, ?_, runPieces_circular_iff hpath, ?_⟩
  · intro m hm
    have hnested := (Moment.nested_start hpath state (Source.tokenize text)).reaches hm
    refine ⟨hnested.nodup, hnested.readable, ?_, hnested.length_le⟩
    cases hlevels : m.levels with
    | nil => exact Nat.zero_le _
    | cons level outer =>
      have hdepth := hnested.depth (by rw [hlevels]; exact List.cons_ne_nil _ _)
      rw [hlevels] at hdepth
      omega
  · intro m token hm htoken
    refine ⟨?_, fun m' hm' => hm'.restored htoken⟩
    -- All moments are in one line, which leads to the last one.
    have heval := StateTransition.reaches_eval hm
    have hreaches := (StateTransition.mem_eval.1 (heval ▸ hlast)).1
    exact Moment.exists_behind hreaches hempty htoken

/-- A file that includes another, which passes over an include of its own and then includes the
first. -/
theorem run_nested_circular :
    let one : Path := ⟨"/", ["a"]⟩
    let other : Path := ⟨"/", ["b"]⟩
    let source := "#include 'b'\n"
    let files : FileTree := ⟨[(["a"], .file (Text.Encoding.encodeUtf8 source) 0),
      (["b"], .file (Text.Encoding.encodeUtf8 "#if A\n#include 'b'\n#endif\n#include 'a'\n") 0)],
      ⟨"/", []⟩, 0⟩
    let env : Environment := ⟨{ recursiveIncludes := true }, files⟩
    let state := State.start env.config.mode
    let start := Moment.start env state (Source.tokenize source) (some one)
    env.Provides (some one) ∧
    (∃ m token inclusion, Moment.Reaches env start m ∧ m.token? = some token ∧
      inclusion? env m.state token = some inclusion ∧
      [one, other, one] = m.state.including ++ [inclusion.file] ∧
      (⟨some other, 4⟩ : Location) = (m.state.reach token).location ∧
      ∃ m', Moment.Behind env m m' ∧ m'.state.including = m.state.including) := by
  intro one other source files env state start
  have hread : readSource env (.ofText "a") = .ok source := by decide +kernel
  have hresolve : (Path.ofText "a").resolve files.here = one := by decide +kernel
  have hpath : env.Provides (some one) := by
    rw [← hresolve]
    exact .file hread
  obtain ⟨-, -, hcircular, hbehind⟩ := run_nested env state source hpath
  obtain ⟨m, hm, token, inclusion, htoken, hinclusion, -, hchain, hlocation⟩ :=
    (hcircular [one, other, one] ⟨some other, 4⟩).1 (by decide +kernel)
  obtain ⟨⟨m', hm'⟩, hrestored⟩ := hbehind m token hm htoken
  exact ⟨hpath, m, token, inclusion, hm, htoken, hinclusion, hchain, hlocation, m', hm',
    (hrestored m' hm').1⟩

end Pass

end Hashmark

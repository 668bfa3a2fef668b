import Hashmark.Proofs.Pass.Definitions
import Hashmark.Proofs.Pass.Presence

/-!
# Spaces behind the name of a directive

The payload of a directive begins behind the first space, so that further spaces in front of it are
part of it, and each command drops them on its own or does not. All of them do but one: a definition
takes its name up to the first space, and with a second space that name is empty
(`cut_keptBehind_succ`). Seven of the eight commands therefore do the same with any spacing
(`obey_of_strip`), and a definition does only where it is not obeyed, because text is suppressed, or
where nothing stands behind the spaces (`handleDirective_spaced`).
-/

namespace Hashmark.Pass

open Source (Token)

/-- A directive with so many spaces behind its name. -/
def spaced (command : Command) (count : Nat) (payload : String) : String :=
  String.ofList ('#' :: (command.name.toList ++ (List.replicate count ' ' ++ payload.toList)))

/-- A payload without the blanks at its end, with so many spaces in front of it. -/
def keptBehind (count : Nat) (payload : String) : String :=
  String.ofList (List.replicate count ' ' ++ Text.dropTrailing Text.isBlank payload.toList)

/-- A text has no character but blanks. -/
def IsBlankText (text : String) : Prop :=
  ∀ c ∈ text.toList, Text.isBlank c = true

instance (text : String) : Decidable (IsBlankText text) :=
  inferInstanceAs (Decidable (∀ c ∈ text.toList, Text.isBlank c = true))

section Comment

variable {payload : String}

/-- No more than the blanks at its end are dropped of a text without any other character. -/
theorem dropTrailing_eq_nil_iff :
    Text.dropTrailing Text.isBlank payload.toList = [] ↔ IsBlankText payload := by
  constructor
  · intro hkept
    obtain ⟨rest, hpayload, hrest⟩ := Text.dropTrailing_append Text.isBlank payload.toList
    rw [hkept, List.nil_append] at hpayload
    unfold IsBlankText
    rwa [hpayload]
  · intro hblank
    have hall := Text.dropTrailing_append_of_all hblank []
    rwa [List.nil_append] at hall

/-- Stripping a text that begins with a number sign drops the blanks at its end. -/
theorem strip_sign (cs : List Char) :
    Text.strip (String.ofList ('#' :: cs)) =
      String.ofList (Text.dropTrailing Text.isBlank ('#' :: cs)) := by
  unfold Text.strip Text.trimBoth
  rw [String.toList_ofList, List.dropWhile_cons_of_neg (by decide)]

/-- The number sign and the name of a command end in no blank. -/
theorem getLast?_name (command : Command) :
    ∀ c ∈ ('#' :: command.name.toList).getLast?, Text.isBlank c = false := by
  cases command <;> simp [Command.name, Text.isBlank]

/-- A directive with nothing but blanks behind its name has no payload. -/
theorem ofComment_spaced_of_blank (command : Command) (count : Nat) (h : IsBlankText payload) :
    Directive.ofComment (spaced command count payload) =
      ⟨Text.lower command.name, none⟩ := by
  have hblank : ∀ c ∈ List.replicate count ' ' ++ payload.toList, Text.isBlank c = true := by
    intro c hc
    obtain hc | hc := List.mem_append.1 hc
    · rw [List.eq_of_mem_replicate hc]
      decide
    · exact h c hc
  have hcut : Text.cut ' ' command.name.toList = (command.name.toList, none) := by
    cases command <;> decide
  have hstrip : Text.strip (spaced command count payload) =
      String.ofList ('#' :: command.name.toList) := by
    rw [spaced, strip_sign, ← List.cons_append,
      Text.dropTrailing_append_of_last hblank (getLast?_name command)]
  unfold Directive.ofComment
  rw [hstrip, String.toList_ofList, List.drop_one, List.tail_cons, hcut]
  simp only [String.ofList_toList, Option.map_none]

/-- The payload of a directive keeps all spaces behind the first. -/
theorem ofComment_spaced (command : Command) (count : Nat) (h : ¬IsBlankText payload) :
    Directive.ofComment (spaced command (count + 1) payload) =
      ⟨Text.lower command.name, some (keptBehind count payload)⟩ := by
  have hspace : ' ' ∉ command.name.toList := by cases command <;> decide
  have hkept := mt dropTrailing_eq_nil_iff.1 h
  have hstrip : Text.strip (spaced command (count + 1) payload) =
      String.ofList ('#' :: (command.name.toList ++ (List.replicate (count + 1) ' ' ++
        Text.dropTrailing Text.isBlank payload.toList))) := by
    rw [spaced, strip_sign, ← List.append_assoc, ← List.cons_append,
      Text.dropTrailing_append_of_ne_nil hkept, List.cons_append, List.append_assoc]
  unfold Directive.ofComment
  rw [hstrip, String.toList_ofList, List.drop_one, List.tail_cons, List.replicate_succ,
    List.cons_append, Text.cut_append hspace]
  simp only [String.ofList_toList, Option.map_some, keptBehind]

variable {env : Environment} {emit : State → String → Path → Step} {state : State}

/-- The commands go by their names. -/
theorem ofName?_lower_name (command : Command) :
    Command.ofName? (Text.lower command.name) = some command := by
  cases command <;> decide +kernel

/-- With nothing but blanks behind its name, a directive is obeyed without a payload. -/
theorem handleComment_spaced_of_blank (command : Command) (count : Nat) (h : IsBlankText payload) :
    handleComment env emit state (spaced command count payload) =
      obey env emit state command none := by
  unfold handleComment
  rw [ofComment_spaced_of_blank command count h]
  simp only [Directive.command?, ofName?_lower_name]

/-- A directive is obeyed with a payload that keeps all spaces behind the first. -/
theorem handleComment_spaced (command : Command) (count : Nat) (h : ¬IsBlankText payload) :
    handleComment env emit state (spaced command (count + 1) payload) =
      obey env emit state command (some (keptBehind count payload)) := by
  unfold handleComment
  rw [ofComment_spaced command count h]
  simp only [Directive.command?, ofName?_lower_name]

/-- A comment that begins with a number sign may hold a directive. -/
theorem isCandidate_spaced (command : Command) (count : Nat) (payload : String) (line : Nat) :
    Token.isCandidate ⟨.comment, spaced command count payload, line⟩ = true := by
  have hhead : (Text.strip (spaced command count payload)).toList.head? = some '#' :=
    Text.head?_strip (by decide)
  rw [Token.isCandidate, hhead]
  rfl

/-- The role of a directive that stands in a comment with one space behind its name, or more. -/
theorem role_spaced (command : Command) (count : Nat) (h : ¬IsBlankText payload) (line : Nat) :
    role ⟨.comment, spaced command (count + 1) payload, line⟩ =
      Role.ofCommand command (some (keptBehind count payload)) := by
  rw [role, if_pos (isCandidate_spaced command (count + 1) payload line),
    ofComment_spaced command count h]
  simp only [Directive.command?, ofName?_lower_name]

/-- The role of a directive with nothing but blanks behind its name. -/
theorem role_spaced_of_blank (command : Command) (count : Nat) (h : IsBlankText payload)
    (line : Nat) :
    role ⟨.comment, spaced command count payload, line⟩ = Role.ofCommand command none := by
  rw [role, if_pos (isCandidate_spaced command count payload line),
    ofComment_spaced_of_blank command count h]
  simp only [Directive.command?, ofName?_lower_name]

/-- A token without any character but blanks is text. -/
theorem role_of_isBlankText {token : Token} (h : IsBlankText token.text) : role token = .text := by
  have hcandidate : token.isCandidate = false := by
    rw [Token.isCandidate, Text.strip_eq_empty h]
    exact Bool.and_false _
  rw [role, hcandidate, if_neg Bool.false_ne_true]

end Comment

section Payload

variable {env : Environment} {emit : State → String → Path → Step} {state : State}
  {payload : String}

/-- Spaces in front of a payload are no part of it once it is stripped. -/
theorem strip_keptBehind (count : Nat) (payload : String) :
    Text.strip (keptBehind count payload) = Text.strip (keptBehind 0 payload) := by
  have hspaces : ∀ c ∈ List.replicate count ' ', Text.isBlank c = true := by
    intro c hc
    rw [List.eq_of_mem_replicate hc]
    decide
  unfold Text.strip Text.trimBoth keptBehind
  rw [String.toList_ofList, String.toList_ofList, List.dropWhile_append_of_pos hspaces,
    List.replicate_zero, List.nil_append]

/-- A command that is no definition drops the blanks around its payload. -/
theorem obey_of_strip {command : Command} (h : command ≠ .define) {first second : String}
    (hstrip : Text.strip first = Text.strip second) :
    obey env emit state command (some first) = obey env emit state command (some second) := by
  have htest : test env state first = test env state second := by
    unfold test
    rw [hstrip]
  have hinclude : includeFile env emit state first = includeFile env emit state second := by
    unfold includeFile
    rw [hstrip]
  cases command with
  | define => exact absurd rfl h
  | «include» => simp only [obey, hinclude]
  | whenTrue => simp only [obey, htest]
  | elseWhenTrue => simp only [obey, htest]
  | whenDefined => simp only [obey, hstrip]
  | whenUndefined => simp only [obey, hstrip]
  | otherwise => rfl
  | endBlock => rfl

/-- The name of a payload behind further spaces is empty. -/
theorem cut_keptBehind_succ (count : Nat) (payload : String) :
    (Text.cut ' ' (keptBehind (count + 1) payload).toList).1 = [] := by
  rw [keptBehind, String.toList_ofList, List.replicate_succ, List.cons_append, Text.cut, if_pos rfl]

/-- The name of a payload that does not begin with a space is not empty. -/
theorem cut_keptBehind_zero (hpayload : payload.toList.head? ≠ some ' ')
    (h : ¬IsBlankText payload) : (Text.cut ' ' (keptBehind 0 payload).toList).1 ≠ [] := by
  obtain ⟨rest, hrest, -⟩ := Text.dropTrailing_append Text.isBlank payload.toList
  have hkept := mt dropTrailing_eq_nil_iff.1 h
  rw [keptBehind, String.toList_ofList, List.replicate_zero, List.nil_append]
  cases hcs : Text.dropTrailing Text.isBlank payload.toList with
  | nil => exact absurd hcs hkept
  | cons c cs =>
    rw [hcs, List.cons_append] at hrest
    rw [hrest, List.head?_cons] at hpayload
    rw [Text.cut, if_neg fun hc => hpayload (congrArg some hc)]
    exact List.cons_ne_nil _ _

/-- A name that is defined already cannot be defined. -/
theorem defineMacro_of_contains {name : List Char} (hname : (Text.cut ' ' payload.toList).1 = name)
    (h : state.macros.contains (String.ofList name) = true) :
    defineMacro state payload =
      (state, .error (.at (.redefinition (String.ofList name)) state.location)) := by
  subst hname
  simp only [defineMacro, MacroTable.define, if_pos h]

/-- A name that is not defined yet is defined. -/
theorem defineMacro_of_new {name : List Char} (hname : (Text.cut ' ' payload.toList).1 = name)
    (h : ¬state.macros.contains (String.ofList name) = true) :
    ∃ value, defineMacro state payload =
      ({ state with macros := state.macros.push ⟨String.ofList name, value, state.location, none⟩ },
        .ok true) := by
  subst hname
  refine ⟨stripWrapping (String.ofList ((Text.cut ' ' payload.toList).2.getD [])), ?_⟩
  simp only [defineMacro, MacroTable.define, if_neg h]

/-- Definitions of different names do not do the same. -/
theorem defineMacro_ne {first second : String}
    (h : (Text.cut ' ' first.toList).1 ≠ (Text.cut ' ' second.toList).1) :
    defineMacro state first ≠ defineMacro state second := by
  have hname := mt (fun heq => String.ofList_injective heq) h
  intro heq
  by_cases hfirst : state.macros.contains (String.ofList (Text.cut ' ' first.toList).1) = true
  all_goals
    by_cases hsecond : state.macros.contains (String.ofList (Text.cut ' ' second.toList).1) = true
  · rw [defineMacro_of_contains rfl hfirst, defineMacro_of_contains rfl hsecond] at heq
    have hfailure := Except.error.inj (Prod.mk.inj heq).2
    have hproblem := (Fault.mk.inj (Failure.fault.inj hfailure)).1
    exact hname (Problem.redefinition.inj hproblem)
  · obtain ⟨value, hdefine⟩ := defineMacro_of_new rfl hsecond
    rw [defineMacro_of_contains rfl hfirst, hdefine] at heq
    exact nomatch (Prod.mk.inj heq).2
  · obtain ⟨value, hdefine⟩ := defineMacro_of_new rfl hfirst
    rw [defineMacro_of_contains rfl hsecond, hdefine] at heq
    exact nomatch (Prod.mk.inj heq).2
  · obtain ⟨value, hdefine⟩ := defineMacro_of_new rfl hfirst
    obtain ⟨value', hdefine'⟩ := defineMacro_of_new rfl hsecond
    rw [hdefine, hdefine'] at heq
    simp only [Prod.mk.injEq, State.mk.injEq, MacroTable.push, MacroTable.mk.injEq,
      List.append_cancel_left_eq, List.cons.injEq, Macro.mk.injEq] at heq
    exact hname heq.1.1.1.1

/-- After a definition its name is defined, whether by it or before, and nothing else has changed
that keeps text. -/
theorem defineMacro_defines (state : State) {name : List Char}
    (hname : (Text.cut ' ' payload.toList).1 = name) :
    (defineMacro state payload).1.macros.contains (String.ofList name) = true ∧
      (defineMacro state payload).1.conditions = state.conditions := by
  by_cases h : state.macros.contains (String.ofList name) = true
  · rw [defineMacro_of_contains hname h]
    exact ⟨h, rfl⟩
  · obtain ⟨value, hdefine⟩ := defineMacro_of_new hname h
    rw [hdefine]
    exact ⟨state.macros.contains_push_self ⟨String.ofList name, value, state.location, none⟩, rfl⟩

end Payload

section Directive

variable {env : Environment} {emit : State → String → Path → Step} {state : State}
  {payload : String} {count : Nat}

/-- Spaces behind the name of a directive change nothing if and only if it is no definition, there
is one of them, or the definition is not obeyed. -/
theorem handleComment_spaced_iff (command : Command) (hpayload : payload.toList.head? ≠ some ' ')
    (hcount : 1 ≤ count) :
    handleComment env emit state (spaced command count payload) =
        handleComment env emit state (spaced command 1 payload) ↔
      command ≠ .define ∨ count = 1 ∨ state.suppressed = true ∨ IsBlankText payload := by
  by_cases hblank : IsBlankText payload
  · rw [handleComment_spaced_of_blank command count hblank,
      handleComment_spaced_of_blank command 1 hblank]
    exact iff_of_true rfl (.inr (.inr (.inr hblank)))
  · obtain ⟨more, rfl⟩ : ∃ more, count = more + 1 := ⟨count - 1, by omega⟩
    rw [handleComment_spaced command more hblank, handleComment_spaced command 0 hblank]
    -- All commands but one strip what follows; a definition cuts its name off at the first space.
    by_cases hdefine : command = .define
    · subst hdefine
      rcases more with - | more
      · exact iff_of_true rfl (.inr (.inl rfl))
      cases hsuppressed : state.suppressed with
      | true =>
        simp only [obey, hsuppressed, if_true, true_or, or_true]
      | false =>
        have hne : defineMacro state (keptBehind (more + 1) payload) ≠
            defineMacro state (keptBehind 0 payload) := by
          apply defineMacro_ne
          rw [cut_keptBehind_succ]
          exact Ne.symm (cut_keptBehind_zero hpayload hblank)
        simp only [obey, hsuppressed, Bool.false_eq_true, if_false]
        refine iff_of_false hne ?_
        rintro (h | h | h | h)
        · exact h rfl
        · omega
        · cases h
        · exact hblank h
    · exact iff_of_true (obey_of_strip hdefine (strip_keptBehind more payload)) (.inl hdefine)

variable {name rest : String}

/-- A text that is stripped and not empty has a character that is no blank. -/
theorem not_isBlankText (hne : name ≠ "") (hstrip : Text.strip name = name) :
    ¬IsBlankText name := by
  intro hblank
  have hlist : name.toList ≠ [] := fun hnil => hne (String.toList_injective hnil)
  have hlast := List.getLast?_eq_some_getLast hlist
  have hkept := Text.getLast?_of_strip hstrip _ hlast
  rw [hblank _ (List.getLast_mem hlist)] at hkept
  cases hkept

/-- Nothing is dropped of a text that is stripped, with no space in front of it. -/
theorem keptBehind_zero (hstrip : Text.strip name = name) : keptBehind 0 name = name := by
  have hlast := Text.getLast?_of_strip hstrip
  have hnone : ∀ c ∈ ([] : List Char), Text.isBlank c = true := fun _ h => nomatch h
  have hdrop : Text.dropTrailing Text.isBlank name.toList = name.toList := by
    simpa using Text.dropTrailing_append_of_last hnone hlast
  rw [keptBehind, hdrop, List.replicate_zero, List.nil_append, String.ofList_toList]

/-- A definition with one space takes its name up to the next one, or as a whole. -/
theorem cut_keptBehind_name (hspace : ' ' ∉ name.toList)
    (hstrip : Text.strip name = name) (hrest : rest.toList.head?.all (· == ' ') = true) :
    (Text.cut ' ' (keptBehind 0 (name ++ rest)).toList).1 = name.toList := by
  have hall : Text.cut ' ' name.toList = (name.toList, none) := Text.cut_of_notMem hspace
  rw [keptBehind, String.toList_ofList, List.replicate_zero, List.nil_append, String.toList_append]
  by_cases hblank : IsBlankText rest
  · have hlast := Text.getLast?_of_strip hstrip
    rw [Text.dropTrailing_append_of_last hblank hlast, hall]
  · rw [Text.dropTrailing_append_of_ne_nil (mt dropTrailing_eq_nil_iff.1 hblank)]
    obtain ⟨more, hmore, -⟩ := Text.dropTrailing_append Text.isBlank rest.toList
    cases hcs : Text.dropTrailing Text.isBlank rest.toList with
    | nil => exact absurd (dropTrailing_eq_nil_iff.1 hcs) hblank
    | cons c cs =>
      rw [hmore, hcs] at hrest
      obtain rfl : c = ' ' := by simpa using hrest
      rw [Text.cut_append hspace]

/-- A name that is stripped and not empty is asked for as it is, with any spacing. -/
theorem handleComment_spaced_whenDefined (hne : name ≠ "") (hstrip : Text.strip name = name)
    (hcount : 1 ≤ count) :
    handleComment env emit state (spaced .whenDefined count name) =
      openBlock state (isDefined env state name) := by
  obtain ⟨more, rfl⟩ : ∃ more, count = more + 1 := ⟨count - 1, by omega⟩
  have hkept : Text.strip (keptBehind more name) = name := by
    rw [strip_keptBehind, keptBehind_zero hstrip, hstrip]
  rw [handleComment_spaced .whenDefined more (not_isBlankText hne hstrip)]
  show openBlock state (isDefined env state (Text.strip (keptBehind more name))) = _
  rw [hkept]

/-- After a definition with one space its name is found, with any spacing. -/
theorem handleComment_spaced_define (env : Environment) (emit : State → String → Path → Step)
    (hkept : state.suppressed = false) (hne : name ≠ "") (hspace : ' ' ∉ name.toList)
    (hstrip : Text.strip name = name) (hrest : rest.toList.head?.all (· == ' ') = true) :
    let after := (handleComment env emit state (spaced .define 1 (name ++ rest))).1
    isDefined env after name = true ∧ after.conditions = state.conditions := by
  have hblank : ¬IsBlankText (name ++ rest) := by
    intro h
    refine not_isBlankText hne hstrip fun c hc => h c ?_
    rw [String.toList_append]
    exact List.mem_append_left _ hc
  obtain ⟨hcontains, hconditions⟩ := defineMacro_defines state
    (cut_keptBehind_name hspace hstrip hrest)
  rw [String.ofList_toList] at hcontains
  rw [handleComment_spaced .define 0 hblank]
  simp only [obey, hkept, Bool.false_eq_true, if_false]
  exact ⟨by rw [isDefined, hcontains, Bool.true_or], hconditions⟩

end Directive

/-- A block that is opened where text is kept keeps it if its test is true. -/
theorem suppressed_openBlock {state : State} (h : state.suppressed = false) :
    (openBlock state true).1.suppressed = false := by
  show (state.conditions.openBlock true).suppressed = false
  change state.conditions.suppressed = false at h
  generalize state.conditions = blocks at h
  cases blocks with
  | flat suppressed => rfl
  | «scoped» frames =>
    show (!(!(Conditional.scoped frames).suppressed && true)) = false
    rw [h]
    rfl

/-- Extra spaces behind the name of a directive change nothing, in any state, unless it is a
definition that is obeyed and has something behind the spaces; a name that is defined with one space
in front of it is found with any spacing. -/
theorem handleDirective_spaced (env : Environment) (state : State) :
    (∀ (command : Command) (payload : String) (count : Nat), payload.toList.head? ≠ some ' ' →
      1 ≤ count →
      (handleDirective env state (spaced command count payload) =
          handleDirective env state (spaced command 1 payload) ↔
        command ≠ .define ∨ count = 1 ∨ state.suppressed = true ∨ IsBlankText payload)) ∧
    ∀ (name rest : String) (count : Nat), state.suppressed = false → name ≠ "" →
      ' ' ∉ name.toList → Text.strip name = name → rest.toList.head?.all (· == ' ') = true →
      1 ≤ count → ∀ after result,
      handleDirective env state (spaced .define 1 (name ++ rest)) = (after, result) →
      handleDirective env after (spaced .whenDefined count name) = openBlock after true ∧
        (openBlock after true).1.suppressed = false := by
  unfold handleDirective
  generalize (fun state text path => emit env (depthBound env.files) state text (some path)) = inner
  constructor
  · intro command payload count hpayload hcount
    exact handleComment_spaced_iff command hpayload hcount
  · intro name rest count hkept hne hspace hstrip hrest hcount after result hafter
    obtain ⟨hdefined, hconditions⟩ := handleComment_spaced_define env inner
      hkept hne hspace hstrip hrest
    rw [hafter] at hdefined hconditions
    have hopen : after.suppressed = false :=
      (congrArg Conditional.suppressed hconditions).trans hkept
    rw [handleComment_spaced_whenDefined hne hstrip hcount, hdefined]
    exact ⟨rfl, suppressed_openBlock hopen⟩

/-- A definition with one space, and questions with several. -/
theorem handleDirective_spaced_plain :
    let env : Environment := ⟨{}, ⟨[], ⟨"/", []⟩, 0⟩⟩
    let state := State.start .scoped
    let once := (handleDirective env state (spaced .define 1 "A \"1\"")).1
    handleDirective env state (spaced .whenDefined 2 "A") =
        handleDirective env state (spaced .whenDefined 1 "A") ∧
      handleDirective env once (spaced .whenDefined 3 "A") = openBlock once true ∧
      (openBlock once true).1.suppressed = false := by
  intro env state once
  obtain ⟨hspaces, hdefines⟩ := handleDirective_spaced env state
  have hsame := (hspaces .whenDefined "A" 2 (by decide) (by decide)).2 (.inl (by decide))
  have hstrip : Text.strip "A" = "A" := Text.strip_identifier (by decide)
  exact ⟨hsame, hdefines "A" " \"1\"" 3 rfl (by decide) (by decide) hstrip (by decide) (by decide)
    once _ rfl⟩

/-- A definition with two spaces takes an empty name: the name that stands behind them is not
defined, so that the block that asks for it is suppressed. -/
theorem handleDirective_spaced_define :
    let env : Environment := ⟨{}, ⟨[], ⟨"/", []⟩, 0⟩⟩
    let state := State.start .scoped
    let once := (handleDirective env state (spaced .define 1 "A \"1\"")).1
    let twice := (handleDirective env state (spaced .define 2 "A \"1\"")).1
    once.macros.macros.map Macro.name = ["A"] ∧ twice.macros.macros.map Macro.name = [""] ∧
    (handleDirective env once (spaced .whenDefined 1 "A")).1.suppressed = false ∧
    (handleDirective env twice (spaced .whenDefined 1 "A")).1.suppressed = true := by
  decide +kernel

end Hashmark.Pass

import Hashmark.Proofs.Pass.Correspondence
import Hashmark.Proofs.Pass.Identity
import Hashmark.Proofs.Pass.Output
import Hashmark.Proofs.Source.Rows
import Mathlib.Data.List.Chain

/-!
# Passes over the output of a pass

A pass that includes nothing copies each part of its source or leaves it out (`Passes`): characters
are left out where text is suppressed, and directives everywhere. From line to line, what it copies
has the same string open as the source (`leavesText_of_rowsRead`). So the comments that a second
pass finds are those that the first one copied, and it leaves them as they are
(`preprocess_idempotent`).

The depth of brackets and the open blocks may differ in the second pass, since some of them are left
out together with the text that is suppressed. This matters only where a scan fails. Four things do
matter (`IsRegular`); for each of them there is a source that a second pass changes again
(`preprocess_not_idempotent`).
-/

namespace Hashmark.Pass

open Source (Item Token Tokenized IsLineEnd LineReads Reading RowsRead ScanState WellEnded chars
  items lineItems lines)

/-- A source of which a second pass finds nothing in what a first one leaves of it. -/
structure IsRegular (source : String) : Prop where
  /-- Each carriage return stands before a line feed. -/
  returns : ∀ i < source.toList.length,
    source.toList[i]? = some '\r' → source.toList[i + 1]? = some '\n'
  /-- Each line agrees with a block around it. -/
  unindent : (Source.scan source.toList).fault ≠ some .unindent
  /-- Each string that a backslash continues is closed, so that no stray text spans lines. -/
  strays : ∀ mark ∈ (Source.scan source.toList).marks,
    mark.kind = .stray → mark.start.row = mark.stop.row
  /-- No directive stands right behind a backslash. -/
  directives : (Source.tokenize source).tokens.IsChain fun before token =>
    before.text.toList.getLast? = some '\\' → role token = .text

/-- A part of a source that asks for nothing. -/
def IsText : Item → Prop
  | .char _ => True
  | .comment text => role ⟨.comment, text, 0⟩ = .text

/-- What a pass that includes nothing makes of the parts of a source, beginning with text suppressed
or not. -/
inductive Passes : Bool → List Item → List Char → Prop
  /-- There are no parts left. -/
  | nil {suppressed : Bool} : Passes suppressed [] []
  /-- A character is copied. -/
  | kept {c : Char} {items : List Item} {output : List Char} (h : Passes false items output) :
      Passes false (.char c :: items) (c :: output)
  /-- A character is suppressed. -/
  | dropped {c : Char} {items : List Item} {output : List Char} (h : Passes true items output) :
      Passes true (.char c :: items) output
  /-- A comment that is text is copied. -/
  | copied {text : String} {items : List Item} {output : List Char} (htext : IsText (.comment text))
      (h : Passes false items output) :
      Passes false (.comment text :: items) (text.toList ++ output)
  /-- A comment is left out, a directive in any case. Text may be suppressed behind it or not. -/
  | consumed {suppressed next : Bool} {text : String} {items : List Item} {output : List Char}
      (hrole : IsText (.comment text) → suppressed = true) (h : Passes next items output) :
      Passes suppressed (.comment text :: items) output

section Token

variable {env : Environment} {emit : State → String → Path → Step} {state : State} {token : Token}

/-- A token that reads no file includes none. -/
theorem includedName?_of_reads (hemit : Returns emit)
    (h : (processToken env emit state token).1.reads = state.reads) :
    includedName? state token = none := by
  cases hname : includedName? state token with
  | none => rfl
  | some name =>
    obtain ⟨hkept, payload, hrole, -⟩ := includedName?_eq_some hname
    rw [processToken_inclusion hrole, hkept, if_neg Bool.false_ne_true] at h
    have htarget : Continues _ (includeFile env emit (state.reach token) payload).1 :=
      includeFile_continues_target hemit (state.reach token) payload
    have hreads := (settle_continues htarget token.text).reads
    rw [h] at hreads
    exact absurd hreads.length_le (Nat.not_succ_le_self _)

/-- A directive that includes no file adds nothing to the output. -/
theorem processToken_output (hrole : role token ≠ .text)
    (h : includedName? state token = none) :
    (processToken env emit state token).1.output = state.output := by
  have hblocks : ∀ text result,
      (settle text (changeBlocks (state.reach token) result)).1.output = state.output := by
    intro text result
    cases result <;> rfl
  cases hr : role token with
  | text => exact absurd hr hrole
  | definition payload =>
    rw [processToken_definition hr]
    split
    · rfl
    · simp only [defineMacro]
      generalize MacroTable.define _ _ _ _ = result
      cases result <;> rfl
  | inclusion payload =>
    rw [processToken_inclusion hr, if_pos (suppressed_of_includedName? hr h)]
    rfl
  | opening b =>
    rw [processToken_opening hr]
    rfl
  | branch b =>
    rw [processToken_branchBlocks hr]
    split
    · rfl
    · exact hblocks _ _
  | ending =>
    rw [processToken_ending hr]
    exact hblocks _ _

/-- The role of a comment does not depend on its line. -/
theorem role_comment (h : token.kind = .comment) :
    role token = role ⟨.comment, token.text, 0⟩ := by
  simp only [role, Token.isCandidate, h]

/-- A token that is no comment is text. -/
theorem role_of_kind (h : token.kind ≠ .comment) : role token = .text := by
  refine (role_eq_text_iff token).2 fun hcandidate => ?_
  simp [Token.isCandidate, h] at hcandidate

end Token

section Passes

variable {output : List Char} {rest : List Item}

/-- Characters that are copied. -/
theorem Passes.chars_kept (h : Passes false rest output) (text : List Char) :
    Passes false (chars text ++ rest) (text ++ output) := by
  induction text with
  | nil => exact h
  | cons c cs ih => exact .kept ih

/-- Characters that are suppressed. -/
theorem Passes.chars_dropped (h : Passes true rest output) (text : List Char) :
    Passes true (chars text ++ rest) output := by
  induction text with
  | nil => exact h
  | cons c cs ih => exact .dropped ih

/-- Characters are copied unless text is suppressed. -/
theorem Passes.of_chars_kept {text : List Char} (h : Passes false (chars text ++ rest) output) :
    ∃ behind, output = text ++ behind ∧ Passes false rest behind := by
  induction text generalizing output with
  | nil => exact ⟨output, rfl, h⟩
  | cons c cs ih =>
    cases h with
    | kept h =>
      obtain ⟨behind, rfl, hbehind⟩ := ih h
      exact ⟨behind, rfl, hbehind⟩

/-- Characters are left out while text is suppressed. -/
theorem Passes.of_chars_dropped {text : List Char} (h : Passes true (chars text ++ rest) output) :
    Passes true rest output := by
  induction text with
  | nil => exact h
  | cons c cs ih =>
    cases h with
    | dropped h => exact ih h

/-- A comment with the line end behind it is copied, or is left out, and the line end with it if
text is suppressed then. -/
theorem Passes.of_comment {suppressed : Bool} {text : String} {ending : List Char}
    (h : Passes suppressed (.comment text :: (chars ending ++ rest)) output) :
    (suppressed = false ∧ IsText (.comment text) ∧
      ∃ behind, output = text.toList ++ (ending ++ behind) ∧ Passes false rest behind) ∨
      (IsText (.comment text) → suppressed = true) ∧
        ((∃ behind, output = ending ++ behind ∧ Passes false rest behind) ∨
          Passes true rest output) := by
  cases h with
  | copied htext h =>
    obtain ⟨behind, rfl, hbehind⟩ := h.of_chars_kept
    exact .inl ⟨rfl, htext, behind, rfl, hbehind⟩
  | @consumed _ next _ _ _ hrole h =>
    refine .inr ⟨hrole, ?_⟩
    cases next with
    | false => exact .inl h.of_chars_kept
    | true => exact .inr h.of_chars_dropped

variable {env : Environment} {emit : State → String → Path → Step} {state : State}

/-- A token that reads no file is copied or left out. -/
theorem passes_processToken (hemit : Returns emit) {token : Token} {next : State}
    (hstep : processToken env emit state token = (next, none)) (hreads : next.reads = state.reads)
    (h : Passes next.suppressed rest output) :
    ∃ front, next.output = state.output ++ String.ofList front ∧
      Passes state.suppressed (token.items ++ rest) (front ++ output) := by
  have hnothing : state.output = state.output ++ String.ofList [] := String.append_empty.symm
  by_cases hrole : role token = .text
  · rw [processToken_text hrole, copy] at hstep
    have hreach : (state.reach token).suppressed = state.suppressed := rfl
    rw [hreach] at hstep
    cases hsuppressed : state.suppressed with
    | true =>
      rw [if_pos hsuppressed] at hstep
      cases hstep
      rw [hreach, hsuppressed] at h
      refine ⟨[], hnothing, ?_⟩
      -- Of suppressed text nothing is left, and comments are consumed in it.
      rw [Token.items]
      split
      · exact .consumed (fun _ => rfl) h
      · exact h.chars_dropped _
    | false =>
      rw [if_neg (Bool.eq_false_iff.1 hsuppressed)] at hstep
      cases hstep
      have hafter : ((state.reach token).append token.text).suppressed = false := hsuppressed
      rw [hafter] at h
      refine ⟨token.text.toList, ?_, ?_⟩
      · rw [String.ofList_toList]
        rfl
      -- A comment that is copied is text, so that another pass copies it as well.
      rw [Token.items]
      split
      case isTrue hkind => exact .copied ((role_comment hkind).symm.trans hrole) h
      case isFalse => exact h.chars_kept _
  · -- A directive that reads no file adds nothing, whether text is suppressed or not.
    have hstate := congrArg Prod.fst hstep
    simp only at hstate
    have hname : includedName? state token = none :=
      includedName?_of_reads hemit (hstate.symm ▸ hreads)
    have houtput : (processToken env emit state token).1.output = state.output :=
      processToken_output hrole hname
    have hkind : token.kind = .comment := by
      by_contra hkind
      exact hrole (role_of_kind hkind)
    refine ⟨[], ?_, ?_⟩
    · rw [← hstate, houtput]
      exact hnothing
    · rw [Token.items, if_pos hkind]
      exact .consumed (fun htext => absurd ((role_comment hkind).trans htext) hrole) h

/-- Between states before and behind which the same files were read, the same ones were. -/
theorem Continues.reads_eq {first second third : State} (h : Continues first second)
    (h' : Continues second third) (hreads : third.reads = first.reads) :
    second.reads = first.reads := by
  have hle := h'.reads.length_le
  rw [hreads] at hle
  exact (h.reads.eq_of_length_le hle).symm

/-- Tokens that read no file are copied or left out, one after another. -/
theorem passes_processTokens (hemit : Returns emit) {tokens : List Token} {after : State}
    (hstep : processTokens env emit state tokens = (after, none))
    (hreads : after.reads = state.reads) (h : Passes after.suppressed rest output) :
    ∃ front, after.output = state.output ++ String.ofList front ∧
      Passes state.suppressed (items tokens ++ rest) (front ++ output) := by
  induction tokens generalizing state with
  | nil =>
    cases hstep
    exact ⟨[], String.append_empty.symm, h⟩
  | cons token tokens ih =>
    have hcontinues := processToken_continues env hemit state token
    rw [processTokens] at hstep
    generalize hnext : processToken env emit state token = step at hstep hcontinues
    obtain ⟨next, _ | e⟩ := step
    · have hrest := processTokens_continues env hemit next tokens
      simp only at hstep
      rw [hstep] at hrest
      -- Neither the token nor the others have read a file, since they have not all together.
      have hsame := hcontinues.reads_eq hrest hreads
      obtain ⟨behind, hbehind, hpasses⟩ := ih hstep (hreads.trans hsame.symm)
      obtain ⟨front, hfront, hpasses⟩ := passes_processToken hemit hnext hsame hpasses
      refine ⟨front ++ behind, ?_, ?_⟩
      · rw [hbehind, hfront, String.ofList_append, String.append_assoc]
      · rw [List.append_assoc, items, List.flatMap_cons, List.append_assoc]
        exact hpasses
    · cases hstep

/-- The pieces of a source that read no file are copied or left out, whether or not a warning stands
between them. -/
theorem passes_processPieces (hemit : Returns emit) {pieces : Tokenized} {after : State}
    (hstep : processPieces env emit state pieces = (after, none))
    (hreads : after.reads = state.reads) :
    ∃ text, after.output = state.output ++ String.ofList text ∧
      Passes state.suppressed (items pieces.tokens) text := by
  have hscanned := processTokens_continues env hemit state pieces.scanned
  rw [processPieces] at hstep
  generalize hmid : processTokens env emit state pieces.scanned = step at hstep hscanned
  obtain ⟨mid, _ | e⟩ := step
  · simp only at hstep
    have hrest := processTokens_continues env hemit { mid with
      warnings := pieces.warning.toList.map (warningText mid.location.path) ++ mid.warnings }
      pieces.rest.toList
    rw [hstep] at hrest
    -- Files that are read are never forgotten, so that none was read on the way.
    have hsame : mid.reads = state.reads := hscanned.reads_eq ⟨hrest.1, hrest.2, hrest.3⟩ hreads
    obtain ⟨behind, hbehind, hpasses⟩ :=
      passes_processTokens hemit hstep (hreads.trans hsame.symm) .nil
    obtain ⟨front, hfront, hpasses⟩ := passes_processTokens hemit hmid hsame hpasses
    refine ⟨front ++ behind, ?_, ?_⟩
    · rw [hbehind]
      show mid.output ++ _ = _
      rw [hfront, String.ofList_append, String.append_assoc]
    · rw [Tokenized.tokens, Source.items_append]
      rwa [List.append_nil, List.append_nil] at hpasses
  · cases hstep

end Passes

section Again

variable {opened : Option (Char × Bool)} {line rest : List Char} {reading : Reading}

/-- Whatever scan comes to the beginning of a text, if it has this string open, finds no comment in
the text but such as are text. -/
def HasOnlyText (opened : Option (Char × Bool)) (text : List Char) : Prop :=
  ∀ (state : ScanState) (row : Nat), state.Opens opened →
    ∀ item ∈ lineItems state row (lines text), IsText item

/-- Characters are text. -/
theorem isText_chars (text : List Char) : ∀ item ∈ chars text, IsText item := by
  intro item hitem
  obtain ⟨c, -, rfl⟩ := List.mem_map.1 hitem
  trivial

/-- Text in front of which there is a line in which only text is found. -/
theorem hasOnlyText_line (hreads : LineReads opened line reading) (hends : WellEnded line)
    (hlast : rest = [] ∨ line.getLast? = some '\n')
    (hitems : ∀ item ∈ reading.items line, IsText item) (hrest : HasOnlyText reading.opens rest) :
    HasOnlyText opened (line ++ rest) := by
  intro state row hstate
  by_cases hne : line = []
  · obtain rfl : rest = [] := hlast.resolve_right (by simp [hne])
    rw [hne]
    exact List.forall_mem_nil _
  rw [hends.lines_append hne hlast]
  obtain ⟨state', hopens, heq⟩ | heq :=
    Source.lineItems_of_reads hreads hends row hstate (lines rest)
  · rw [heq]
    intro item hitem
    obtain hline | hbehind := List.mem_append.1 hitem
    · exact hitems item hline
    · exact hrest state' (row + 1) hopens item hbehind
  · rw [heq]
    exact isText_chars _

/-- The beginning of a line in which nothing is found where a line end is put behind it. -/
structure BreaksOff (opened : Option (Char × Bool)) (front : List Char) : Prop where
  /-- It has no line end. -/
  ends : ∀ c ∈ front, c ≠ '\r' ∧ c ≠ '\n'
  /-- Nothing is found. -/
  reads : ∀ ending, IsLineEnd ending → LineReads opened (front ++ ending) .plain

/-- What stands before a comment is such a beginning, unless it ends in a backslash. -/
theorem breaksOff_of_comment {before text ending : List Char}
    (hreads : LineReads opened line (.comment before text ending)) (hends : WellEnded line)
    (hopened : ∀ string ∈ opened, string.1 = '\'' ∨ string.1 = '"')
    (hslash : before.getLast? ≠ some '\\') : BreaksOff opened before where
  ends := by
    obtain ⟨rfl, htext, -⟩ := hreads.eq_of_comment rfl
    rw [List.append_assoc] at hends
    exact hends.ends_of_append (htext.head?_append ending)
  reads _ hending := hreads.truncate rfl hends hopened hslash hending

/-- Text in front of which there is such a beginning of a line with its line end. -/
theorem BreaksOff.hasOnlyText {front ending : List Char} (h : BreaksOff opened front)
    (hending : IsLineEnd ending) (hlast : rest = [] ∨ ending.getLast? = some '\n')
    (hrest : HasOnlyText none rest) : HasOnlyText opened (front ++ (ending ++ rest)) := by
  rw [← List.append_assoc]
  refine hasOnlyText_line (h.reads ending hending) (hending.wellEnded_append h.ends) ?_
    (isText_chars _) hrest
  refine hlast.imp_right fun heq => ?_
  rw [List.getLast?_append, heq]
  rfl

/-- Where no lines are left, there are no parts, and nothing is made of them. -/
theorem eq_nil_of_rowsRead {rows : List (List Char)} {parts : List Item}
    (h : RowsRead opened rows parts) (hrows : rows = []) {suppressed : Bool}
    {output : List Char} (hpasses : Passes suppressed parts output) : output = [] := by
  cases h with
  | nil =>
    cases hpasses
    rfl
  | cons => cases hrows

/-- A part that may stand before another one: a directive is not right behind a backslash. -/
def MayPrecede (before item : Item) : Prop :=
  before = .char '\\' → IsText item

/-- A comment in a line is text if it is right behind a backslash. -/
theorem isText_of_getLast? {before text ending : List Char}
    (h : (Reading.items line (.comment before text ending)).IsChain MayPrecede)
    (hback : before.getLast? = some '\\') : IsText (.comment (String.ofList text)) := by
  obtain ⟨front, rfl⟩ := List.getLast?_eq_some_iff.1 hback
  rw [Reading.items, Source.chars_append, List.append_assoc] at h
  exact (List.isChain_cons_cons.1 (List.isChain_append.1 h).2.1).1 rfl

/-- Characters may stand before one another. -/
theorem isChain_chars (text : List Char) : (chars text).IsChain MayPrecede := by
  induction text with
  | nil => exact .nil
  | cons c cs ih =>
    cases cs with
    | nil => exact .singleton _
    | cons d ds => exact .cons_cons (fun _ => trivial) ih

/-- The last part of a token is a backslash only if its text ends in one. -/
theorem getLast?_of_items {token : Token} (h : token.items.getLast? = some (.char '\\')) :
    token.text.toList.getLast? = some '\\' := by
  rw [Token.items] at h
  split at h
  · cases h
  · rw [List.getLast?_map] at h
    obtain ⟨c, hc, hchar⟩ := Option.map_eq_some_iff.1 h
    exact Item.char.inj hchar ▸ hc

/-- The first part of tokens is text if the first token is, and is not empty. -/
theorem isText_of_head? {token : Token} {tokens : List Token} (hne : token.text ≠ "")
    (hrole : role token = .text) {item : Item}
    (h : (items (token :: tokens)).head? = some item) : IsText item := by
  rw [items, List.flatMap_cons, Token.items] at h
  split at h
  case isTrue hkind =>
    obtain rfl := Option.some.inj h
    exact (role_comment hkind).symm.trans hrole
  case isFalse =>
    cases htext : token.text.toList with
    | nil => exact absurd (String.toList_eq_nil_iff.1 htext) hne
    | cons c cs =>
      rw [htext] at h
      obtain rfl := Option.some.inj h
      trivial

/-- Where no directive is right behind a backslash, the parts of tokens may stand before one
another. -/
theorem isChain_items {tokens : List Token} (hne : ∀ token ∈ tokens, token.text ≠ "")
    (h : tokens.IsChain fun before token =>
      before.text.toList.getLast? = some '\\' → role token = .text) :
    (items tokens).IsChain MayPrecede := by
  induction tokens with
  | nil => exact .nil
  | cons token tokens ih =>
    obtain ⟨-, hne⟩ := List.forall_mem_cons.1 hne
    have htoken : token.items.IsChain MayPrecede := by
      rw [Token.items]
      split
      · exact .singleton _
      · exact isChain_chars _
    refine List.isChain_append.2 ⟨htoken, ih hne h.tail, ?_⟩
    rintro before hbefore item hitem rfl
    cases tokens with
    | nil => cases hitem
    | cons next tokens =>
      have hrole := (List.isChain_cons_cons.1 h).1 (getLast?_of_items hbefore)
      exact isText_of_head? (hne next (.head _)) hrole hitem

/-- What a pass makes of parts has only text, from a string on that may be open. While text is
suppressed, the beginning of a line stands in front of it: what was left of the line with the
directive behind which text was suppressed. -/
structure LeavesText (opened : Option (Char × Bool)) (parts : List Item) : Prop where
  /-- No text is suppressed at the beginning. -/
  kept : ∀ output, Passes false parts output → HasOnlyText opened output
  /-- Text is suppressed at the beginning, and this was left before. -/
  dropped : ∀ before front output, BreaksOff before front → Passes true parts output →
    HasOnlyText before (front ++ output)

section Step

variable {parts : List Item}
  (hlast : ∀ output, Passes false parts output → output = [] ∨ line.getLast? = some '\n')
include hlast

/-- A line without a comment in front. -/
theorem LeavesText.behind_line (h : LeavesText reading.opens parts)
    (hreads : LineReads opened line reading) (hends : WellEnded line)
    (hplain : reading.items line = chars line) :
    LeavesText opened (reading.items line ++ parts) where
  kept output hpasses := by
    rw [hplain] at hpasses
    obtain ⟨behind, rfl, hbehind⟩ := hpasses.of_chars_kept
    exact hasOnlyText_line hreads hends (hlast _ hbehind) (hplain ▸ isText_chars _)
      (h.kept _ hbehind)
  dropped before front output hfront hpasses := by
    rw [hplain] at hpasses
    exact h.dropped _ _ _ hfront hpasses.of_chars_dropped

/-- A line with a comment in front: the comment is copied with the line, or the line breaks off
there, either before its line end or with all that follows until text is copied again. -/
theorem LeavesText.behind_comment (h : LeavesText none parts) {before text ending : List Char}
    (hreads : LineReads opened line (.comment before text ending)) (hends : WellEnded line)
    (hopened : ∀ string ∈ opened, string.1 = '\'' ∨ string.1 = '"')
    (hslash : (Reading.items line (.comment before text ending)).IsChain MayPrecede) :
    LeavesText opened (Reading.items line (.comment before text ending) ++ parts) := by
  obtain ⟨heq, -, hending⟩ := hreads.eq_of_comment rfl
  have hends' := fun output hpasses => (hlast output hpasses).imp_right hreads.getLast?_ending
  have hitems : Reading.items line (.comment before text ending) ++ parts =
      chars before ++ .comment (String.ofList text) :: (chars ending ++ parts) := by
    rw [Reading.items, List.append_assoc, List.cons_append]
  rw [hitems]
  constructor
  · intro output hpasses
    obtain ⟨output, rfl, hcomment⟩ := hpasses.of_chars_kept
    obtain ⟨-, htext, behind, rfl, hbehind⟩ | ⟨hrole, hcomment⟩ := hcomment.of_comment
    · -- The comment is copied: the line stands in the output as it does in the source.
      rw [String.toList_ofList, ← List.append_assoc, ← List.append_assoc, ← heq]
      refine hasOnlyText_line hreads hends (hlast _ hbehind) ?_ (h.kept _ hbehind)
      intro item hitem
      obtain hitem | hitem := List.mem_append.1 hitem
      · exact isText_chars _ _ hitem
      · obtain rfl | hitem := List.mem_cons.1 hitem
        · exact htext
        · exact isText_chars _ _ hitem
    · -- The comment is a directive: the line breaks off where no backslash can join it to the next.
      have hfront : BreaksOff opened before := by
        refine breaksOff_of_comment hreads hends hopened fun hback => ?_
        exact Bool.false_ne_true (hrole (isText_of_getLast? hslash hback))
      obtain ⟨behind, rfl, hbehind⟩ | hbehind := hcomment
      · exact hfront.hasOnlyText hending (hends' _ hbehind) (h.kept _ hbehind)
      · exact h.dropped _ _ _ hfront hbehind
  · intro opened' front output hfront hpasses
    obtain ⟨hkept, -⟩ | ⟨-, ⟨behind, rfl, hbehind⟩ | hbehind⟩ :=
      hpasses.of_chars_dropped.of_comment
    · cases hkept
    · exact hfront.hasOnlyText hending (hends' _ hbehind) (h.kept _ hbehind)
    · exact h.dropped _ _ _ hfront hbehind

end Step

/-- What a pass makes of lines has only text, if no directive is right behind a backslash. -/
theorem leavesText_of_rowsRead {rows : List (List Char)} {parts : List Item}
    (h : RowsRead opened rows parts) (hslash : parts.IsChain MayPrecede) :
    LeavesText opened parts := by
  have hnil : ∀ opened, HasOnlyText opened [] := fun _ _ _ _ => List.forall_mem_nil _
  induction h with
  | nil =>
    constructor
    · intro output hpasses
      cases hpasses
      exact hnil _
    · intro before front output hfront hpasses
      cases hpasses
      exact hfront.hasOnlyText (.inl rfl) (.inl rfl) (hnil _)
  | @cons opened line reading rows parts hopened hends hlast hreads hrest ih =>
    obtain ⟨hline, hparts, -⟩ := List.isChain_append.1 hslash
    have hlast' : ∀ output, Passes false parts output →
        output = [] ∨ line.getLast? = some '\n' := fun output hpasses =>
      hlast.imp_left fun hrows => eq_nil_of_rowsRead hrest hrows hpasses
    cases reading with
    | comment before text ending =>
      exact (ih hparts).behind_comment hlast' hreads hends hopened hline
    | plain => exact (ih hparts).behind_line hlast' hreads hends rfl
    | opened quote triple => exact (ih hparts).behind_line hlast' hreads hends rfl

end Again

/-- What a pass makes of a regular source that includes nothing has only text. -/
theorem IsRegular.isIdle {source : String} (hregular : IsRegular source) {text : List Char}
    (h : Passes false (items (Source.tokenize source).tokens) text) :
    (Source.tokenize (String.ofList text)).IsIdle := by
  have hrows := Source.rowsRead_tokenize hregular.returns hregular.unindent hregular.strays
  have hslash := isChain_items (Source.tokens_cover.2 source).text_ne hregular.directives
  have htext := (leavesText_of_rowsRead hrows hslash).kept text h .start 1 ⟨rfl, rfl, nofun⟩
  intro token htoken
  refine (role_eq_text_iff token).1 ?_
  by_cases hkind : token.kind = .comment
  · rw [role_comment hkind]
    refine htext (.comment token.text) ?_
    have hitems := Source.items_tokenize (String.ofList text)
    rw [String.toList_ofList] at hitems
    rw [← hitems]
    refine List.mem_flatMap.2 ⟨token, htoken, ?_⟩
    rw [Token.items, if_pos hkind]
    exact List.mem_singleton.2 rfl
  · exact role_of_kind hkind

/-- A pass over a regular source that ends well and includes nothing gives a text that a second pass
leaves as it is. -/
theorem preprocess_idempotent (env : Environment) {source text : String}
    (hregular : IsRegular source)
    (hreads : (processText env (State.start env.config.mode) source).1.reads = [])
    (h : preprocess env source = .ok text) : preprocess env text = .ok text := by
  have houtput := output_of_result h
  rw [preprocess] at h
  rw [processText, run_eq_runPieces, runPieces_eq] at h houtput hreads
  have hreturns : Returns (included env) := emit_returns env _
  have hsuppressed := (enter_conditions env (State.start env.config.mode) none).1
  generalize hstep : processPieces env (included env)
    ((State.start env.config.mode).enter env none) (Source.tokenize source) = step
    at h houtput hreads
  simp only [finish_fst] at houtput hreads
  obtain ⟨after, _ | e⟩ := step
  · obtain ⟨output, heq, hpasses⟩ := passes_processPieces hreturns hstep hreads
    have htext : text = String.ofList output := by
      rw [← houtput]
      exact heq.trans String.empty_append
    rw [hsuppressed] at hpasses
    rw [htext]
    exact (run_identity env _ _).2 (hregular.isIdle hpasses)
  · cases h

/-- A bracket that is suppressed, a comment behind a backslash, a stray character, and a triple
quote that is never closed. -/
theorem preprocess_idempotent_prose :
    preprocess ⟨{}, ⟨[], ⟨"/", []⟩, 0⟩⟩
        "#if 0\n(\n#else\nf(a, # note\r\n  '#if ')\n#endif\n'x\\\ny' ? \\#if\n'''#endif" =
      .ok "\nf(a, # note\r\n  '#if ')\n\n'x\\\ny' ? \\#if\n'''#endif" ∧
    preprocess ⟨{}, ⟨[], ⟨"/", []⟩, 0⟩⟩
        "\nf(a, # note\r\n  '#if ')\n\n'x\\\ny' ? \\#if\n'''#endif" =
      .ok "\nf(a, # note\r\n  '#if ')\n\n'x\\\ny' ? \\#if\n'''#endif" := by
  have hfirst : preprocess ⟨{}, ⟨[], ⟨"/", []⟩, 0⟩⟩
      "#if 0\n(\n#else\nf(a, # note\r\n  '#if ')\n#endif\n'x\\\ny' ? \\#if\n'''#endif" =
      .ok "\nf(a, # note\r\n  '#if ')\n\n'x\\\ny' ? \\#if\n'''#endif" := by decide +kernel
  exact ⟨hfirst, preprocess_idempotent _ ⟨by decide +kernel, by decide +kernel, by decide +kernel,
    by decide +kernel⟩ (by decide +kernel) hfirst⟩

/-- With no options and no files, a source includes nothing and gives a text that a second pass
changes once more. -/
def ChangesAgain (source text again : String) : Prop :=
  (processText ⟨{}, ⟨[], ⟨"/", []⟩, 0⟩⟩ (State.start .scoped) source).1.reads = [] ∧
    preprocess ⟨{}, ⟨[], ⟨"/", []⟩, 0⟩⟩ source = .ok text ∧
    preprocess ⟨{}, ⟨[], ⟨"/", []⟩, 0⟩⟩ text = .ok again ∧ text ≠ again

instance (source text again : String) : Decidable (ChangesAgain source text again) :=
  inferInstanceAs (Decidable (_ ∧ _ ∧ _ ∧ _))

/-- A second pass finds a definition where the scan of a source fails at a line that agrees with no
block around it, where a directive stands behind a backslash and within what is no string before,
where a string that is suppressed breaks off behind a backslash, and where a carriage return
begins a line. Each of these sources is regular but for that. -/
theorem preprocess_not_idempotent :
    ChangesAgain "#if 0\n  a\n#endif\n b\n#define A 1\n" "\n b\n#define A 1\n" "\n b\n\n" ∧
      ChangesAgain "'\\#define A 1\n'#define B 2'" "'\\\n'#define B 2'" "'\\\n'" ∧
      ChangesAgain "#if 0\n'\\\nb\n#endif\n'''\nx\n'''\n#define A 1\n"
        "\n'''\nx\n'''\n#define A 1\n" "\n'''\nx\n'''\n\n" ∧
      ChangesAgain "(#if 0\n)#endif\n\r#define A 1" "(\n\r#define A 1" "(\n\r" := by
  decide +kernel

end Hashmark.Pass

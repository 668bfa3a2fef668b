import Hashmark.Conditional
import Mathlib.Data.List.Basic

/-!
# The frames of open blocks

Whether text is suppressed is read off the innermost frame alone. That this is enough rests on how
neighbouring frames fit each other (`Fit`): a block that is opened where text is suppressed keeps
none of its branches. `Moves` says all that a call of the scoped model can do to its frames, and
each fact about histories of calls has one case for each of these moves.

A block keeps at most one of its branches. What its frame remembers of the branches that have begun
is told by `Tally`: whether the text around it is kept, and whether one of the branches was.
-/

namespace Hashmark.Conditional

variable {ε : Type}

/-- What is asked of conditional blocks. The test of a branch, if it is made, has a result or fails
in a way of its own. -/
inductive Call (ε : Type) where
  /-- Open a block whose test is `active`. -/
  | openBlock (active : Bool)
  /-- Begin another branch with a test. -/
  | alternative (test : Except ε Bool)
  /-- Begin the branch that is kept if none before was. -/
  | otherwise
  /-- Close the innermost block. -/
  | closeBlock
  /-- Look for blocks that are open at the end of a source. -/
  | finish
  /-- Begin anew. -/
  | reset

/-- Why a call fails. -/
inductive Refusal (ε : Type) where
  /-- The blocks do not match. -/
  | imbalance (e : Imbalance)
  /-- The test of a branch has failed. -/
  | test (e : ε)

/-- The blocks after a change, which leaves them as they are if it fails. -/
def settle (blocks : Conditional) :
    Except Imbalance Conditional → Conditional × Option (Refusal ε)
  | .ok after => (after, none)
  | .error e => (blocks, some (.imbalance e))

/-- The blocks after a call, and why it fails if it does. The test of a branch is made only where
it decides anything. -/
def Call.perform (blocks : Conditional) : Call ε → Conditional × Option (Refusal ε)
  | .openBlock active => (blocks.openBlock active, none)
  | .alternative test =>
    if blocks.needsTest then
      match test with
      | .ok active => blocks.settle (blocks.alternative active)
      | .error e => (blocks, some (.test e))
    else blocks.settle (blocks.alternative false)
  | .otherwise => blocks.settle blocks.otherwise
  | .closeBlock => blocks.settle blocks.closeBlock
  | .finish => (blocks, blocks.finish.map .imbalance)
  | .reset => (blocks.reset, none)

/-- The blocks after calls, each of which may have failed. -/
def afterAll (blocks : Conditional) (history : List (Call ε)) : Conditional :=
  history.foldl (fun blocks call => (call.perform blocks).1) blocks

/-- A branch of a block. -/
structure Branch where
  /-- Whether it is one that is kept if none before was. -/
  isOtherwise : Bool
  /-- Whether it is kept. -/
  kept : Bool
  deriving DecidableEq, Repr

/-- The branch of the innermost block that a call begins. One that fails begins none. -/
def Call.branch? (blocks : Conditional) (call : Call ε) : Option Branch :=
  match call, call.perform blocks with
  | .alternative _, (after, none) => some ⟨false, !after.suppressed⟩
  | .otherwise, (after, none) => some ⟨true, !after.suppressed⟩
  | _, _ => none

/-- The branches that calls begin of the block with `depth` blocks around it, as long as it is
open. -/
def branchesBehind (depth : Nat) : Conditional → List (Call ε) → List Branch
  | _, [] => []
  | blocks, call :: calls =>
    if blocks.frames.length ≤ depth then []
    else
      (if blocks.frames.length = depth + 1 then (call.branch? blocks).toList else []) ++
        branchesBehind depth (call.perform blocks).1 calls

/-- The branches of a block from its opening on, as long as it is open. -/
def branches (blocks : Conditional) (active : Bool) (calls : List (Call ε)) : List Branch :=
  ⟨false, !(blocks.openBlock active).suppressed⟩ ::
    branchesBehind blocks.frames.length (blocks.openBlock active) calls

/-- The block with `depth` blocks around it stays open through calls and is the innermost one in the
end. -/
def EndsInnermost (depth : Nat) : Conditional → List (Call ε) → Prop
  | blocks, [] => blocks.frames.length = depth + 1
  | blocks, call :: calls =>
    depth < blocks.frames.length ∧ EndsInnermost depth (call.perform blocks).1 calls

/-- Frames, the innermost first, that fit each other. -/
structure Fit (frames : List Frame) : Prop where
  /-- The text around the outermost block is kept. -/
  outermost : ∀ frame ∈ frames.getLast?, frame.parentActive = true
  /-- The text around any other block is kept if the branch is kept in which the block stands. -/
  neighbours : frames.IsChain fun inner outer => inner.parentActive = outer.active
  /-- Where a branch is kept, the text around the block is kept, and no further branch can be. -/
  active : ∀ frame ∈ frames, frame.active = true → frame.parentActive = true ∧ frame.taken = true

section Fit

/-- Without open blocks there is nothing to fit. -/
theorem fit_nil : Fit [] where
  outermost := fun _ h => nomatch h
  neighbours := .nil
  active := fun _ h => nomatch h

/-- A frame fits those around it if it knows whether the text around its block is kept. -/
theorem fit_cons_iff {frame : Frame} {outer : List Frame} :
    Fit (frame :: outer) ↔ frame.parentActive = !(Conditional.scoped outer).suppressed ∧
      (frame.active = true → frame.parentActive = true ∧ frame.taken = true) ∧ Fit outer := by
  constructor
  · intro h
    refine ⟨?_, h.active frame List.mem_cons_self, ?_⟩
    · cases outer with
      | nil => exact h.outermost frame rfl
      | cons next outer =>
        have hnext : frame.parentActive = next.active := (List.isChain_cons_cons.1 h.neighbours).1
        simp only [suppressed, Bool.not_not, hnext]
    · refine ⟨fun other hother => ?_, ?_, fun other hother => ?_⟩
      · cases outer with
        | nil => cases hother
        | cons next outer =>
          apply h.outermost other
          rwa [List.getLast?_cons_cons]
      · exact List.isChain_of_isChain_cons h.neighbours
      · exact h.active other (List.mem_cons_of_mem _ hother)
  -- The new frame is the outermost one if there is no other.
  · rintro ⟨hparent, hactive, h⟩
    refine ⟨fun other hother => ?_, ?_, ?_⟩
    · cases outer with
      | nil =>
        obtain rfl : frame = other := Option.some.inj hother
        exact hparent
      | cons next outer =>
        rw [List.getLast?_cons_cons] at hother
        exact h.outermost other hother
    · cases outer with
      | nil => exact .singleton _
      | cons next outer =>
        refine List.isChain_cons_cons.2 ⟨?_, h.neighbours⟩
        rwa [suppressed, Bool.not_not] at hparent
    · exact List.forall_mem_cons.2 ⟨hactive, h.active⟩

/-- Text is suppressed exactly if some open block does not keep its present branch. -/
theorem Fit.suppressed_iff {frames : List Frame} (h : Fit frames) :
    (Conditional.scoped frames).suppressed = true ↔ ∃ frame ∈ frames, frame.active = false := by
  induction frames with
  | nil => simp [suppressed]
  | cons frame outer ih =>
    obtain ⟨hparent, hactive, houter⟩ := fit_cons_iff.1 h
    -- Where a block around it does not keep its branch, the innermost one does not either.
    have hinner : (Conditional.scoped outer).suppressed = true → frame.active = false := by
      intro hsuppressed
      rw [hsuppressed] at hparent
      refine Bool.eq_false_iff.2 fun hkept => ?_
      rw [(hactive hkept).1] at hparent
      cases hparent
    rw [List.exists_mem_cons_iff, ← ih houter, suppressed, Bool.not_eq_true']
    exact ⟨.inl, fun hor => hor.elim id hinner⟩

end Fit

/-- The frame of a block when another branch of it begins. -/
inductive Begins (frame : Frame) : Branch → Frame → Prop
  /-- The text around the block is suppressed, or a branch has been kept: this one is not. -/
  | spent (isOtherwise : Bool) (h : frame.taken = true ∨ frame.parentActive = false) :
      Begins frame ⟨isOtherwise, false⟩
        { frame with active := false, taken := frame.taken || isOtherwise }
  /-- The branch is the first that may be kept, and it is if its test is true. -/
  | waiting {isOtherwise holds : Bool} (htaken : frame.taken = false)
      (hparent : frame.parentActive = true) (h : isOtherwise = true → holds = true) :
      Begins frame ⟨isOtherwise, holds⟩ { frame with active := holds, taken := holds }

/-- What a call does to the frames, and the branch of the innermost block that it begins. -/
inductive Moves : List Frame → Option Branch → List Frame → Prop
  /-- The frames stay as they are. -/
  | stay (frames : List Frame) : Moves frames none frames
  /-- A block is opened. -/
  | opened (frames : List Frame) (active : Bool) :
      Moves frames none
        (⟨!(Conditional.scoped frames).suppressed,
          !(Conditional.scoped frames).suppressed && active,
          !(Conditional.scoped frames).suppressed && active⟩ :: frames)
  /-- Another branch of the innermost block begins. -/
  | begun {frame next : Frame} {branch : Branch} (h : Begins frame branch next)
      (outer : List Frame) : Moves (frame :: outer) (some branch) (next :: outer)
  /-- The innermost block is closed. -/
  | closed (frame : Frame) (outer : List Frame) : Moves (frame :: outer) none outer
  /-- All blocks are forgotten. -/
  | forgotten (frames : List Frame) : Moves frames none []

section Moves

/-- A call makes one of these moves. -/
theorem perform_moves (call : Call ε) (frames : List Frame) :
    ∃ after, (call.perform (.scoped frames)).1 = .scoped after ∧
      Moves frames (call.branch? (.scoped frames)) after := by
  cases call with
  | openBlock active => exact ⟨_, rfl, .opened frames active⟩
  | alternative test =>
    cases frames with
    | nil => exact ⟨_, rfl, .stay []⟩
    | cons frame outer =>
      obtain ⟨parentActive, taken, active⟩ := frame
      cases parentActive with
      | false =>
        have hbegins : Begins ⟨false, taken, active⟩ ⟨false, false⟩ _ := .spent false (.inr rfl)
        cases taken <;> exact ⟨_, rfl, .begun hbegins outer⟩
      | true =>
        cases taken with
        | true => exact ⟨_, rfl, .begun (.spent false (.inl rfl)) outer⟩
        | false =>
          -- Only here the test is made.
          cases test with
          | ok holds =>
            have hbegins : Begins ⟨true, false, active⟩ ⟨false, holds⟩ _ := .waiting rfl rfl nofun
            cases holds <;> exact ⟨_, rfl, .begun hbegins outer⟩
          | error e => exact ⟨_, rfl, .stay _⟩
  | otherwise =>
    cases frames with
    | nil => exact ⟨_, rfl, .stay []⟩
    | cons frame outer =>
      obtain ⟨parentActive, taken, active⟩ := frame
      cases parentActive with
      | false =>
        have hbegins : Begins ⟨false, taken, active⟩ ⟨true, false⟩ _ := .spent true (.inr rfl)
        cases taken <;> exact ⟨_, rfl, .begun hbegins outer⟩
      | true =>
        cases taken with
        | true => exact ⟨_, rfl, .begun (.spent true (.inl rfl)) outer⟩
        | false => exact ⟨_, rfl, .begun (.waiting rfl rfl fun _ => rfl) outer⟩
  | closeBlock =>
    cases frames with
    | nil => exact ⟨_, rfl, .stay []⟩
    | cons frame outer => exact ⟨_, rfl, .closed frame outer⟩
  | finish => exact ⟨_, rfl, .stay frames⟩
  | reset => exact ⟨_, rfl, .forgotten frames⟩

/-- A call that fails leaves the blocks as they are. -/
theorem perform_of_refusal {blocks : Conditional} {call : Call ε}
    (h : (call.perform blocks).2 ≠ none) : (call.perform blocks).1 = blocks := by
  have hsettle : ∀ result, (blocks.settle result : _ × Option (Refusal ε)).2 ≠ none →
      (blocks.settle result : _ × Option (Refusal ε)).1 = blocks := by
    intro result hresult
    cases result with
    | ok after => exact absurd rfl hresult
    | error e => rfl
  cases call with
  | openBlock active => exact absurd rfl h
  | alternative test =>
    cases hneeds : blocks.needsTest with
    | true =>
      simp only [Call.perform, hneeds, if_true] at h ⊢
      cases test with
      | ok active => exact hsettle _ h
      | error e => rfl
    | false =>
      simp only [Call.perform, hneeds, Bool.false_eq_true, if_false] at h ⊢
      exact hsettle _ h
  | otherwise => exact hsettle _ h
  | closeBlock => exact hsettle _ h
  | finish => rfl
  | reset => exact absurd rfl h

/-- A test is made, so that its failure is seen, exactly where the text around the innermost block
is kept and no branch has been. -/
theorem perform_test_iff (frames : List Frame) (e : ε) :
    ((Call.alternative (.error e)).perform (.scoped frames)).2 = some (.test e) ↔
      ∃ frame outer, frames = frame :: outer ∧ frame.parentActive = true ∧
        frame.taken = false := by
  cases frames with
  | nil => exact ⟨nofun, nofun⟩
  | cons frame outer =>
    obtain ⟨parentActive, taken, active⟩ := frame
    cases parentActive <;> cases taken <;>
      simp [Call.perform, needsTest, settle, alternative]

/-- Frames that fit each other fit after a call. -/
theorem Moves.fit {frames after : List Frame} {begun? : Option Branch}
    (h : Moves frames begun? after) (hfit : Fit frames) : Fit after := by
  cases h with
  | stay => exact hfit
  | opened _ active =>
    refine fit_cons_iff.2 ⟨rfl, fun hactive => ⟨?_, hactive⟩, hfit⟩
    exact (Bool.and_eq_true_iff.1 hactive).1
  | begun h outer =>
    -- The text around the block is what it was.
    obtain ⟨hparent, -, houter⟩ := fit_cons_iff.1 hfit
    cases h with
    | spent => exact fit_cons_iff.2 ⟨hparent, nofun, houter⟩
    | waiting _ hkept => exact fit_cons_iff.2 ⟨hparent, fun hholds => ⟨hkept, hholds⟩, houter⟩
  | closed => exact (fit_cons_iff.1 hfit).2.2
  | forgotten => exact fit_nil

/-- Whatever is asked of scoped blocks, their frames fit each other. -/
theorem afterAll_fit (history : List (Call ε)) {frames : List Frame} (h : Fit frames) :
    ∃ after, afterAll (.scoped frames) history = .scoped after ∧ Fit after := by
  induction history generalizing frames with
  | nil => exact ⟨frames, rfl, h⟩
  | cons call history ih =>
    obtain ⟨after, hafter, hmoves⟩ := perform_moves call frames
    rw [afterAll, List.foldl_cons, hafter]
    exact ih (hmoves.fit h)

end Moves

/-- What the frame of a block tells of the branches that have begun. -/
structure Tally (frame : Frame) (branches : List Branch) : Prop where
  /-- One of them is kept exactly if the text around the block is kept and no further one can be. -/
  count : branches.countP Branch.kept = (frame.parentActive && frame.taken).toNat
  /-- Behind one that is kept if none before was, no further one can be. -/
  taken : (∃ branch ∈ branches, branch.isOtherwise = true) → frame.taken = true

section Tally

/-- The frame of a block still tells of its branches when another one begins. -/
theorem Begins.tally {frame next : Frame} {branch : Branch} {branches : List Branch}
    (h : Begins frame branch next) (htally : Tally frame branches) :
    Tally next (branches ++ [branch]) ∧ next.parentActive = frame.parentActive := by
  obtain ⟨hcount, htaken⟩ := htally
  have hothers : (∃ other ∈ branches ++ [branch], other.isOtherwise = true) →
      frame.taken = true ∨ branch.isOtherwise = true := by
    rintro ⟨other, hother, hotherwise⟩
    obtain hother | hother := List.mem_append.1 hother
    · exact .inl (htaken ⟨other, hother, hotherwise⟩)
    · rw [List.mem_singleton.1 hother] at hotherwise
      exact .inr hotherwise
  cases h with
  | spent isOtherwise hspent =>
    refine ⟨⟨?_, fun hmem => Bool.or_eq_true_iff.2 (hothers hmem)⟩, rfl⟩
    rw [List.countP_append, hcount]
    obtain hspent | hspent := hspent <;> simp [hspent]
  | @waiting isOtherwise holds htaken' hparent hholds =>
    refine ⟨⟨?_, fun hmem => hholds ((hothers hmem).resolve_left ?_)⟩, rfl⟩
    · rw [List.countP_append, hcount, htaken', hparent]
      cases holds <;> rfl
    · rw [htaken']
      exact Bool.false_ne_true

/-- Where the text around a block is kept, a further branch of it can be kept exactly if none has
been. -/
theorem Tally.taken_eq_false_iff {frame : Frame} {branches : List Branch} (h : Tally frame branches)
    (hparent : frame.parentActive = true) :
    frame.taken = false ↔ ∀ branch ∈ branches, branch.kept = false := by
  have hnone : branches.countP Branch.kept = 0 ↔ ∀ branch ∈ branches, branch.kept = false := by
    simp only [List.countP_eq_zero, Bool.not_eq_true]
  rw [← hnone, h.count, hparent]
  cases frame.taken <;> decide

/-- The frame of a block that is opened tells of its first branch. -/
theorem tally_opened (frames : List Frame) (active : Bool) :
    Tally ⟨!(Conditional.scoped frames).suppressed,
        !(Conditional.scoped frames).suppressed && active,
        !(Conditional.scoped frames).suppressed && active⟩
      [⟨false, !((Conditional.scoped frames).openBlock active).suppressed⟩] where
  count := by
    have hkept : ∀ parent : Bool,
        List.countP Branch.kept [⟨false, !!(parent && active)⟩] =
          (parent && (parent && active)).toNat := by
      intro parent
      cases parent <;> cases active <;> rfl
    exact hkept _
  taken := by
    rintro ⟨branch, hbranch, hotherwise⟩
    rw [List.mem_singleton.1 hbranch] at hotherwise
    cases hotherwise

/-- A call ends a block, or the frame of the block tells of the branches, the one that the call
begins if the block is the innermost one among them. -/
theorem Moves.tally {inner outer after : List Frame} {frame : Frame} {begun? : Option Branch}
    {begun : List Branch} (h : Moves (inner ++ frame :: outer) begun? after)
    (htally : Tally frame begun) :
    (begun? = none ∧ after.length ≤ outer.length) ∨
      ∃ inner' next, after = inner' ++ next :: outer ∧ next.parentActive = frame.parentActive ∧
        Tally next (begun ++
          if (inner ++ frame :: outer).length = outer.length + 1 then begun?.toList else []) := by
  cases inner with
  | nil =>
    rw [List.nil_append] at h ⊢
    rw [if_pos List.length_cons]
    cases h with
    | stay => exact .inr ⟨[], frame, rfl, rfl, by rwa [Option.toList_none, List.append_nil]⟩
    | opened _ active =>
      exact .inr ⟨[_], frame, rfl, rfl, by rwa [Option.toList_none, List.append_nil]⟩
    | begun hbegins =>
      obtain ⟨hnext, hparent⟩ := hbegins.tally htally
      exact .inr ⟨[], _, rfl, hparent, hnext⟩
    | closed => exact .inl ⟨rfl, Nat.le_refl _⟩
    | forgotten => exact .inl ⟨rfl, Nat.zero_le _⟩
  | cons top inner =>
    -- Further blocks are open within the block, so that a call does not come to its frame.
    have hinner : ¬(top :: inner ++ frame :: outer).length = outer.length + 1 := by
      rw [List.length_append, List.length_cons, List.length_cons]
      omega
    rw [if_neg hinner, List.append_nil]
    cases h with
    | stay => exact .inr ⟨top :: inner, frame, rfl, rfl, htally⟩
    | opened _ active => exact .inr ⟨_ :: top :: inner, frame, rfl, rfl, htally⟩
    | @begun _ next => exact .inr ⟨next :: inner, frame, rfl, rfl, htally⟩
    | closed => exact .inr ⟨inner, frame, rfl, rfl, htally⟩
    | forgotten => exact .inl ⟨rfl, Nat.zero_le _⟩

/-- A block that has been closed has no further branches. -/
theorem branchesBehind_closed {depth : Nat} {blocks : Conditional}
    (h : blocks.frames.length ≤ depth) (calls : List (Call ε)) :
    branchesBehind depth blocks calls = [] := by
  cases calls with
  | nil => rfl
  | cons call calls => rw [branchesBehind, if_pos h]

/-- A block that has been closed is not the innermost one. -/
theorem not_endsInnermost_closed {depth : Nat} {blocks : Conditional}
    (h : blocks.frames.length ≤ depth) (calls : List (Call ε)) :
    ¬EndsInnermost depth blocks calls := by
  cases calls with
  | nil =>
    intro hends
    rw [EndsInnermost] at hends
    omega
  | cons call calls => exact fun hends => Nat.not_lt.2 h hends.1

/-- As long as a block is open, its frame tells of the branches that have begun. -/
theorem tally_branchesBehind (calls : List (Call ε)) (inner : List Frame) {frame : Frame}
    {outer : List Frame} {begun : List Branch} (h : Tally frame begun) :
    ∃ last, last.parentActive = frame.parentActive ∧
      Tally last (begun ++
        branchesBehind outer.length (.scoped (inner ++ frame :: outer)) calls) ∧
      (EndsInnermost outer.length (.scoped (inner ++ frame :: outer)) calls →
        afterAll (.scoped (inner ++ frame :: outer)) calls = .scoped (last :: outer)) := by
  induction calls generalizing inner frame begun with
  | nil =>
    refine ⟨frame, rfl, ?_, fun hends => ?_⟩
    · rw [branchesBehind, List.append_nil]
      exact h
    · have hlength : (inner ++ frame :: outer).length = outer.length + 1 := hends
      rw [List.length_append, List.length_cons] at hlength
      rw [List.eq_nil_of_length_eq_zero (by omega : inner.length = 0)]
      rfl
  | cons call calls ih =>
    obtain ⟨after, hafter, hmoves⟩ := perform_moves call (inner ++ frame :: outer)
    -- The block is open as long as it is among the frames.
    have hopen : ¬(Conditional.scoped (inner ++ frame :: outer)).frames.length ≤ outer.length := by
      rw [frames, List.length_append, List.length_cons]
      omega
    rw [branchesBehind, if_neg hopen, EndsInnermost, afterAll, List.foldl_cons, hafter, frames,
      ← List.append_assoc]
    obtain ⟨hnone, hclosed⟩ | ⟨inner', next, rfl, hparent, hnext⟩ := hmoves.tally h
    · refine ⟨frame, rfl, ?_, fun hends => absurd hends.2 (not_endsInnermost_closed hclosed calls)⟩
      rw [hnone, Option.toList_none, ite_self, branchesBehind_closed hclosed, List.append_nil,
        List.append_nil]
      exact h
    · obtain ⟨last, hlast, htally, hends⟩ := ih inner' hnext
      exact ⟨last, hlast.trans hparent, htally, fun h => hends h.2⟩

end Tally

/-- Whatever is asked of scoped blocks, calls that fail included, their frames say what they should:

* they fit each other, so that text is suppressed exactly if some open block does not keep its
  present branch;
* a call that fails leaves them as they are;
* the test of a branch is made exactly where the text around the block is kept and no branch has
  been;
* of the branches of a block, from its opening on, at most one is kept, and exactly one if the text
  around the block is kept and one of them is for the case that none before was; where the text
  around it is kept, the test of a further branch is made exactly as long as none has been. -/
theorem scoped_represented (history : List (Call ε)) :
    ∃ frames, afterAll (start .scoped) history = .scoped frames ∧ Fit frames ∧
      ((Conditional.scoped frames).suppressed = true ↔ ∃ frame ∈ frames, frame.active = false) ∧
      (∀ call : Call ε, (call.perform (.scoped frames)).2 ≠ none →
        (call.perform (.scoped frames)).1 = .scoped frames) ∧
      (∀ e : ε, ((Call.alternative (.error e)).perform (.scoped frames)).2 = some (.test e) ↔
        ∃ frame outer, frames = frame :: outer ∧ frame.parentActive = true ∧
          frame.taken = false) ∧
      ∀ (active : Bool) (calls : List (Call ε)),
        let begun := branches (.scoped frames) active calls
        begun.countP Branch.kept ≤ 1 ∧
        ((Conditional.scoped frames).suppressed = false →
          (∃ branch ∈ begun, branch.isOtherwise = true) → begun.countP Branch.kept = 1) ∧
        (EndsInnermost frames.length ((Conditional.scoped frames).openBlock active) calls → ∀ e : ε,
          (((Call.alternative (.error e)).perform
              (afterAll ((Conditional.scoped frames).openBlock active) calls)).2 =
            some (.test e) ↔
          (Conditional.scoped frames).suppressed = false ∧
            ∀ branch ∈ begun, branch.kept = false)) := by
  obtain ⟨frames, hafter, hfit⟩ := afterAll_fit history fit_nil
  refine ⟨frames, hafter, hfit, hfit.suppressed_iff, fun call => perform_of_refusal,
    perform_test_iff frames, fun active calls => ?_⟩
  obtain ⟨last, hparent, htally, hends⟩ :=
    tally_branchesBehind calls [] (tally_opened frames active)
  intro begun
  have hcount : begun.countP Branch.kept = (last.parentActive && last.taken).toNat := htally.count
  have htaken : (∃ branch ∈ begun, branch.isOtherwise = true) → last.taken = true := htally.taken
  have hlast : last.parentActive = !(Conditional.scoped frames).suppressed := hparent
  refine ⟨hcount ▸ Bool.toNat_le _, fun hkept hotherwise => ?_, fun hinnermost e => ?_⟩
  · rw [hcount, hlast, hkept, htaken hotherwise]
    rfl
  · have hstate : afterAll ((Conditional.scoped frames).openBlock active) calls =
        .scoped (last :: frames) := hends hinnermost
    rw [hstate, perform_test_iff]
    constructor
    · rintro ⟨frame, outer, heq, hkept, hnone⟩
      obtain ⟨rfl, -⟩ := List.cons.inj heq
      refine ⟨?_, (htally.taken_eq_false_iff hkept).1 hnone⟩
      rwa [hlast, Bool.not_eq_true'] at hkept
    · rintro ⟨hkept, hnone⟩
      rw [hkept] at hlast
      exact ⟨last, frames, rfl, hlast, (htally.taken_eq_false_iff hlast).2 hnone⟩

/-- A block whose directives come in no regular order, after a call that has failed: only the first
of its branches that may be kept is, and it is the only one. -/
theorem scoped_represented_disorder :
    let history : List (Call String) := [.closeBlock, .openBlock false, .otherwise]
    let calls : List (Call String) := [.alternative (.ok false), .openBlock true, .otherwise,
      .closeBlock, .otherwise, .alternative (.error "not made"), .otherwise]
    let frames : List Frame := [⟨true, true, true⟩]
    afterAll (start .scoped) history = .scoped frames ∧ Fit frames ∧
      branches (.scoped frames) false calls =
        [⟨false, false⟩, ⟨false, false⟩, ⟨true, true⟩, ⟨false, false⟩, ⟨true, false⟩] ∧
      (branches (.scoped frames) false calls).countP Branch.kept = 1 := by
  intro history calls frames
  obtain ⟨frames', hafter, hfit, -, -, -, hblock⟩ := scoped_represented history
  obtain rfl : frames = frames' := scoped.inj hafter
  exact ⟨rfl, hfit, rfl, (hblock false calls).2.1 rfl ⟨⟨true, true⟩, by decide, rfl⟩⟩

end Hashmark.Conditional

import Hashmark.Finder
import Mathlib.Data.List.Induction

/-!
# The finders that are registered

Finders of this library are put into a list that holds others as well, and are taken out of it
again. The place for a new one is looked for each time, and what is taken out is told by which
finder it is. Whatever is done, the list is the one at the start with a block of finders put into it,
right before the first standard finder or at the end (`Stands`), because that is where the search
ends up when the block is passed over (`install_block`). Each change keeps this shape and does to
the block what it does to a list of numbers (`Stands.change`).

The numbers are given one after another, so that the order in the block is that of installing, and
each finder stands there once. A finder is in the block exactly if it has been installed and not been
uninstalled since (`mem_block_concat`); all of this is `changes_finders`.
-/

namespace Hashmark

namespace FinderList

/-- The finders of this library with these numbers. -/
def block (numbers : List Nat) : FinderList :=
  numbers.map .ours

section Lists

variable {front back : FinderList}

/-- A finder is not put in before the first standard one is found. -/
theorem install_append (h : .standard ∉ front) (number : Nat) (rest : FinderList) :
    install number (front ++ rest) = front ++ install number rest := by
  induction front with
  | nil => rfl
  | cons entry front ih =>
    obtain ⟨hentry, hfront⟩ := not_or.1 (List.mem_cons.not.1 h)
    cases entry with
    | standard => exact absurd rfl hentry
    | ours n => exact congrArg (FinderEntry.ours n :: ·) (ih hfront)
    | other n => exact congrArg (FinderEntry.other n :: ·) (ih hfront)

/-- A finder is put right before a standard one, or at the end. -/
theorem install_of_head (h : back = [] ∨ ∃ rest, back = .standard :: rest) (number : Nat) :
    install number back = .ours number :: back := by
  obtain rfl | ⟨rest, rfl⟩ := h
  · rfl
  · rfl

/-- A finder is put behind the block of those that stand there. -/
theorem install_block (hbefore : .standard ∉ front)
    (hbehind : back = [] ∨ ∃ rest, back = .standard :: rest) (number : Nat) (numbers : List Nat) :
    install number (front ++ block numbers ++ back) = front ++ block (numbers ++ [number]) ++ back := by
  have hblock : FinderEntry.standard ∉ front ++ block numbers := by
    simp [hbefore, block]
  rw [install_append hblock, install_of_head hbehind]
  simp [block]

/-- Where no finder of this library is, none is removed. -/
theorem uninstall_eq_self {finders : FinderList} (h : finders.ours = []) (number : Option Nat) :
    finders.uninstall number = finders := by
  refine List.filter_eq_self.2 fun entry hentry => ?_
  cases entry with
  | ours n =>
    have hnone := List.filterMap_eq_nil_iff.1 h (.ours n) hentry
    cases hnone
  | standard => rfl
  | other n => rfl

/-- Of a block, the finder with the given number is removed. -/
theorem uninstall_some_block (number : Nat) (numbers : List Nat) :
    uninstall (some number) (block numbers) = block (numbers.filter (· != number)) := by
  rw [block, uninstall, List.filter_map]
  rfl

/-- All of a block is removed. -/
theorem uninstall_none_block (numbers : List Nat) : uninstall none (block numbers) = [] := by
  refine List.filter_eq_nil_iff.2 fun entry hentry => ?_
  obtain ⟨n, -, rfl⟩ := List.mem_map.1 hentry
  exact Bool.false_ne_true

/-- The finders of this library in each part of a list. -/
theorem ours_append (finders others : FinderList) :
    ours (finders ++ others) = ours finders ++ ours others :=
  List.filterMap_append

/-- A block holds finders of this library. -/
theorem ours_block (numbers : List Nat) : ours (block numbers) = numbers := by
  rw [block, ours, List.filterMap_map]
  exact List.filterMap_some

/-- Finders are removed from each part of a list. -/
theorem uninstall_append (number : Option Nat) (finders others : FinderList) :
    uninstall number (finders ++ others) = uninstall number finders ++ uninstall number others :=
  List.filter_append _ _

/-- A list is cut before its first standard finder. -/
theorem exists_cut (finders : FinderList) :
    ∃ front back : FinderList, finders = front ++ back ∧ .standard ∉ front ∧
      (back = [] ∨ ∃ rest, back = .standard :: rest) := by
  induction finders with
  | nil => exact ⟨[], [], rfl, List.not_mem_nil, .inl rfl⟩
  | cons entry finders ih =>
    by_cases hentry : entry = .standard
    · exact ⟨[], entry :: finders, rfl, List.not_mem_nil, .inr ⟨finders, by rw [hentry]⟩⟩
    · obtain ⟨front, back, rfl, hbefore, hbehind⟩ := ih
      exact ⟨entry :: front, back, rfl, List.mem_cons.not.2 (not_or.2 ⟨Ne.symm hentry, hbefore⟩),
        hbehind⟩

end Lists

/-- The two parts of a list around the place where finders of this library are put: none of them is
in either part, and the second begins with the first standard finder, if there is one. -/
structure Around (front back : FinderList) : Prop where
  /-- The first part has no finders of this library. -/
  front_ours : front.ours = []
  /-- The second part has none either. -/
  back_ours : back.ours = []
  /-- The first part has no standard finder. -/
  before : .standard ∉ front
  /-- The second part begins with one, or the list ends before it. -/
  behind : back = [] ∨ ∃ rest, back = .standard :: rest

/-- A list without finders of this library consists of two such parts. -/
theorem exists_around {finders : FinderList} (h : finders.ours = []) :
    ∃ front back : FinderList, finders = front ++ back ∧ Around front back := by
  obtain ⟨front, back, rfl, hbefore, hbehind⟩ := exists_cut finders
  rw [ours_append, List.append_eq_nil_iff] at h
  exact ⟨front, back, rfl, h.1, h.2, hbefore, hbehind⟩

end FinderList

/-- The list of finders, and the number that the next one of this library gets. -/
structure Registry where
  /-- The finders that are asked for modules. -/
  finders : FinderList
  /-- The number of the finder that is installed next. -/
  next : Nat

namespace Registry

open FinderList (block Around)

/-- What is done to the list of finders. -/
inductive Change where
  /-- A new finder is registered. -/
  | install
  /-- The finder with this number is removed, if it is registered. -/
  | uninstall (number : Nat)
  /-- All finders of this library are removed. -/
  | uninstallAll
  deriving DecidableEq

/-- The list after a change, and the number for the next finder. -/
def change (registry : Registry) : Change → Registry
  | .install => ⟨registry.finders.install registry.next, registry.next + 1⟩
  | .uninstall number => ⟨registry.finders.uninstall (some number), registry.next⟩
  | .uninstallAll => ⟨registry.finders.uninstall none, registry.next⟩

/-- The list after changes, one after another. -/
def changes (registry : Registry) (steps : List Change) : Registry :=
  steps.foldl change registry

/-- One more change. -/
theorem changes_concat (registry : Registry) (steps : List Change) (step : Change) :
    registry.changes (steps ++ [step]) = (registry.changes steps).change step := by
  rw [changes, List.foldl_append]
  rfl

/-- Numbers are given one after another. -/
theorem next_changes (registry : Registry) (steps : List Change) :
    (registry.changes steps).next = registry.next + steps.count .install := by
  induction steps using List.reverseRecOn with
  | nil => rfl
  | append_singleton steps step ih =>
    rw [changes_concat, List.count_append, ← Nat.add_assoc, ← ih]
    cases step <;> rfl

/-- The numbers of a block after a change; the first argument is the number of a new finder. -/
def numbersAfter (next : Nat) (numbers : List Nat) : Change → List Nat
  | .install => numbers ++ [next]
  | .uninstall number => numbers.filter (· != number)
  | .uninstallAll => []

/-- The list is that of other finders with a block put between two parts of it, in which the numbers
go up and are all below the next one. -/
structure Stands (front back : FinderList) (registry : Registry) (numbers : List Nat) : Prop where
  /-- The block stands between the two parts. -/
  finders : registry.finders = front ++ block numbers ++ back
  /-- The numbers go up. -/
  ascending : numbers.Pairwise (· < ·)
  /-- They have been given. -/
  given : ∀ n ∈ numbers, n < registry.next

section Changes

variable {front back : FinderList} {registry : Registry} {numbers : List Nat}

/-- A change keeps the parts on either side of the block. -/
theorem Stands.change (h : Stands front back registry numbers) (haround : Around front back)
    (step : Change) :
    Stands front back (registry.change step) (numbersAfter registry.next numbers step) := by
  -- Around the block there are other finders, which stay.
  have huninstall : ∀ number, registry.finders.uninstall number =
      front ++ (block numbers).uninstall number ++ back := by
    intro number
    rw [h.finders, FinderList.uninstall_append, FinderList.uninstall_append,
      FinderList.uninstall_eq_self haround.front_ours,
      FinderList.uninstall_eq_self haround.back_ours]
  cases step with
  | install =>
    refine ⟨?_, ?_, ?_⟩
    · simp only [Registry.change, numbersAfter]
      rw [h.finders, FinderList.install_block haround.before haround.behind]
    · -- The new number is above all that have been given.
      refine List.pairwise_append.2 ⟨h.ascending, List.pairwise_singleton _ _, ?_⟩
      intro n hn m hm
      rw [List.mem_singleton.1 hm]
      exact h.given n hn
    · intro n hn
      simp only [numbersAfter, List.mem_append, List.mem_singleton] at hn
      simp only [Registry.change]
      obtain hn | rfl := hn
      · exact Nat.lt_succ_of_lt (h.given n hn)
      · exact Nat.lt_succ_self _
  | uninstall number =>
    refine ⟨?_, h.ascending.filter _, fun n hn => h.given n (List.mem_filter.1 hn).1⟩
    simp only [Registry.change, numbersAfter]
    rw [huninstall, FinderList.uninstall_some_block]
  | uninstallAll =>
    refine ⟨?_, List.Pairwise.nil, fun n hn => absurd hn List.not_mem_nil⟩
    simp only [Registry.change, numbersAfter]
    rw [huninstall, FinderList.uninstall_none_block]
    rfl

/-- The finder with this number is installed by one of these changes, where the first number to be
given is `first`, and neither it nor all finders are uninstalled by a later one. -/
def Keeps (first : Nat) (steps : List Change) (number : Nat) : Prop :=
  ∃ before after, steps = before ++ .install :: after ∧ number = first + before.count .install ∧
    .uninstall number ∉ after ∧ .uninstallAll ∉ after

/-- What is kept after one more change was kept before and is not uninstalled by it, or is
installed by it. -/
theorem keeps_concat {first number : Nat} {steps : List Change} {step : Change} :
    Keeps first (steps ++ [step]) number ↔
      (step = .install ∧ number = first + steps.count .install) ∨
      (Keeps first steps number ∧ step ≠ .uninstall number ∧ step ≠ .uninstallAll) := by
  constructor
  · rintro ⟨before, after, hsteps, hnumber, hone, hall⟩
    cases after using List.reverseRecOn with
    | nil =>
      obtain ⟨rfl, hstep⟩ := List.append_inj' hsteps rfl
      exact .inl ⟨List.head_eq_of_cons_eq hstep, hnumber⟩
    | append_singleton after last =>
      rw [← List.cons_append, ← List.append_assoc] at hsteps
      obtain ⟨rfl, hstep⟩ := List.append_inj' hsteps rfl
      obtain rfl := List.head_eq_of_cons_eq hstep
      simp only [List.mem_append, List.mem_singleton, not_or] at hone hall
      exact .inr ⟨⟨before, after, rfl, hnumber, hone.1, hall.1⟩, Ne.symm hone.2, Ne.symm hall.2⟩
  · rintro (⟨rfl, hnumber⟩ | ⟨⟨before, after, rfl, hnumber, hone, hall⟩, hone', hall'⟩)
    · exact ⟨steps, [], rfl, hnumber, List.not_mem_nil, List.not_mem_nil⟩
    · refine ⟨before, after ++ [step], by simp, hnumber, ?_, ?_⟩
      · simp only [List.mem_append, List.mem_singleton, not_or]
        exact ⟨hone, Ne.symm hone'⟩
      · simp only [List.mem_append, List.mem_singleton, not_or]
        exact ⟨hall, Ne.symm hall'⟩

/-- The numbers in a block after a change. -/
theorem mem_numbersAfter {next number : Nat} {step : Change} :
    number ∈ numbersAfter next numbers step ↔
      (step = .install ∧ number = next) ∨
      (number ∈ numbers ∧ step ≠ .uninstall number ∧ step ≠ .uninstallAll) := by
  cases step with
  | install => simp [numbersAfter, or_comm]
  | uninstall other =>
    rw [numbersAfter, List.mem_filter, bne_iff_ne]
    simp [@eq_comm _ other]
  | uninstallAll => simp [numbersAfter]

/-- Whatever is done to a list without finders of this library, a block of them stands in it, which
holds those that were installed and not uninstalled since. -/
theorem exists_stands (start : Registry) (hstart : start.finders = front ++ back)
    (haround : Around front back) (steps : List Change) :
    ∃ numbers, Stands front back (start.changes steps) numbers ∧
      ∀ n, n ∈ numbers ↔ Keeps start.next steps n := by
  induction steps using List.reverseRecOn with
  | nil =>
    refine ⟨[], ⟨by simp [changes, block, hstart], List.Pairwise.nil, by simp⟩, fun n => ?_⟩
    refine ⟨fun hn => absurd hn List.not_mem_nil, ?_⟩
    rintro ⟨before, after, hsteps, -⟩
    simp at hsteps
  | append_singleton steps step ih =>
    obtain ⟨numbers, hstands, hmem⟩ := ih
    rw [changes_concat]
    refine ⟨_, hstands.change haround step, fun n => ?_⟩
    rw [mem_numbersAfter, keeps_concat, hmem, next_changes]

/-- The finders of this library in the list are those of the block. -/
theorem Stands.ours_eq (h : Stands front back registry numbers) (haround : Around front back) :
    registry.finders.ours = numbers := by
  rw [h.finders, FinderList.ours_append, FinderList.ours_append, haround.front_ours,
    haround.back_ours, FinderList.ours_block, List.nil_append, List.append_nil]

/-- To uninstall a finder right after it was installed gives the list as it was. -/
theorem Stands.change_change (h : Stands front back registry numbers)
    (haround : Around front back) :
    ((registry.change .install).change (.uninstall registry.next)).finders = registry.finders := by
  have hstands := (h.change haround .install).change haround (.uninstall registry.next)
  have hnumbers : (numbers ++ [registry.next]).filter (· != registry.next) = numbers := by
    rw [List.filter_append,
      List.filter_eq_self.2 fun n hn => bne_iff_ne.2 (Nat.ne_of_lt (h.given n hn))]
    simp
  rw [hstands.finders, h.finders]
  simp only [numbersAfter, hnumbers]

end Changes

/-- The bookkeeping of finders. However finders of this library are installed and uninstalled, from
a list without any on: the other finders are all there, in their order; those of this library stand
together right before the first standard finder, or at the end if there is none; they are the ones
that were installed and not uninstalled since, each once and in the order of installing; and to
uninstall a finder right after it was installed gives the list as it was. -/
theorem changes_finders (start : Registry) (h : start.finders.ours = []) (steps : List Change) :
    let registry := start.changes steps
    ∃ front back numbers, start.finders = front ++ back ∧ .standard ∉ front ∧
      (back = [] ∨ ∃ rest, back = .standard :: rest) ∧
      registry.finders = front ++ block numbers ++ back ∧ registry.finders.ours = numbers ∧
      numbers.Pairwise (· < ·) ∧ (∀ n, n ∈ numbers ↔ Keeps start.next steps n) ∧
      ((registry.change .install).change (.uninstall registry.next)).finders = registry.finders := by
  intro registry
  obtain ⟨front, back, hstart, haround⟩ := FinderList.exists_around h
  obtain ⟨numbers, hstands, hmem⟩ := exists_stands start hstart haround steps
  exact ⟨front, back, numbers, hstart, haround.before, haround.behind, hstands.finders,
    hstands.ours_eq haround, hstands.ascending, hmem, hstands.change_change haround⟩

/-- With two standard finders in the list, a finder is installed and all are uninstalled; then three
are installed, and the second of these is uninstalled. -/
theorem changes_finders_mixed :
    let start : Registry := ⟨[.other 0, .standard, .other 1, .standard], 0⟩
    let steps : List Change :=
      [.install, .uninstallAll, .install, .install, .install, .uninstall 2]
    start.finders.ours = [] ∧
      (start.changes steps).finders =
        [.other 0, .ours 1, .ours 3, .standard, .other 1, .standard] ∧
      ∀ n, n ∈ [1, 3] ↔ Keeps start.next steps n := by
  intro start steps
  have hnone : start.finders.ours = [] := rfl
  obtain ⟨front, back, numbers, -, -, -, -, hours, -, hmem, -⟩ := changes_finders start hnone steps
  have hnumbers : numbers = [1, 3] := hours.symm
  rw [hnumbers] at hmem
  exact ⟨hnone, rfl, hmem⟩

end Registry

end Hashmark

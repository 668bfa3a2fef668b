import Hashmark.Proofs.Literal
import Hashmark.Proofs.Pass.Presence

/-!
# What a name leads to

A name leads to nothing if and only if it is not defined, and to a value otherwise: a constant to
its own, a macro to its text read as a literal, or to the text itself where that is no literal. That
fails for one kind of texts, those that write a literal beyond computation
(`Literal.WritesTooLarge`), for which neither is at hand (`lookup_settled`).
-/

namespace Hashmark.Pass

open Condition (Lookup Sharing)
open Literal (WritesTooLarge)

/-- The value that the text of a macro stands for, and which object it is: a new one if the text is
a literal, and otherwise the text itself. -/
def StandsFor (m : Macro) (v : Value) (sharing : Sharing) : Prop :=
  Literal.parse m.value = .ok v ∧ sharing = .fresh ∨
    Literal.parse m.value = .error .malformed ∧ v = .text m.value ∧ sharing = .ofObject m.object

/-- A macro leads to the value that its text stands for, and to too large a number if it writes
one. -/
theorem macro_lookup_cases (m : Macro) :
    (m.lookup = .overflow ∧ m.literal = none ∧ WritesTooLarge m.value) ∨
      ∃ v sharing, m.lookup = .found v sharing ∧ m.literal = some v ∧ StandsFor m v sharing ∧
        ¬WritesTooLarge m.value := by
  rw [← Literal.parse_eq_overflow_iff]
  unfold Macro.lookup Macro.literal Macro.literalOf StandsFor
  cases Literal.parse m.value with
  | ok v => exact .inr ⟨v, .fresh, by simp⟩
  | error fault =>
    cases fault with
    | malformed => exact .inr ⟨.text m.value, .ofObject m.object, by simp⟩
    | overflow => exact .inl (by simp)

/-- A name leads to nothing if and only if it is not defined; otherwise it leads to a value, the one
that the text of its macro stands for or that of a constant, and only a macro whose text writes a
literal beyond computation keeps it from doing so. The literal of a macro is the value of its text
or the text itself under the same condition. -/
theorem lookup_settled (env : Environment) (state : State) (name : String) :
    (lookup env state name = .undefined ↔ isDefined env state name = false) ∧
    (isDefined env state name = true →
      (∀ m, state.macros.find? name = some m → ¬WritesTooLarge m.value) →
      ∃ v sharing, lookup env state name = .found v sharing ∧
        match state.macros.find? name with
        | some m => m.literal = some v ∧ StandsFor m v sharing
        | none => env.config.ambient.find? name = some v ∧
            sharing = .ofObject (env.config.constantObject name)) ∧
    ∀ m : Macro, m.literal = none ↔ WritesTooLarge m.value := by
  refine ⟨?_, fun hdefined hsmall => ?_, fun m => ?_⟩
  · rw [isDefined_eq]
    cases lookup env state name <;> simp
  · unfold isDefined MacroTable.contains Constants.contains at hdefined
    unfold lookup
    cases hfind : state.macros.find? name with
    | some m =>
      obtain ⟨-, -, hlarge⟩ | ⟨v, sharing, hlookup, hliteral, hstands, -⟩ := macro_lookup_cases m
      · exact absurd hlarge (hsmall m hfind)
      · exact ⟨v, sharing, hlookup, hliteral, hstands⟩
    | none =>
      rw [hfind] at hdefined
      obtain ⟨v, hv⟩ := Option.isSome_iff_exists.1 hdefined
      exact ⟨v, _, by simp only [hv], hv, rfl⟩
  · obtain ⟨-, hliteral, hlarge⟩ | ⟨v, sharing, -, hliteral, -, hsmall⟩ := macro_lookup_cases m
    · exact iff_of_true hliteral hlarge
    · exact iff_of_false (fun hnone => by rw [hliteral] at hnone; cases hnone) hsmall

/-- A text whose characters write no literal beyond computation. -/
theorem not_writesTooLarge {cs : List Char} (h : isBeyond (literalOf cs) = false) :
    ¬WritesTooLarge (String.ofList cs) := by
  rw [← Literal.parse_eq_overflow_iff, parse_ofList]
  intro hoverflow
  rw [hoverflow] at h
  cases h

/-- A macro whose text is no literal leads to the text, and one whose text is a literal to its
value. -/
theorem lookup_settled_plain :
    let word := String.ofList ['y', 'e', 's']
    let number := String.ofList ['-', '1']
    let env : Environment := ⟨{ defines := [("A", word), ("B", number)] }, ⟨[], ⟨"/", []⟩, 0⟩⟩
    let state := begin env.config (State.start .scoped) none
    isDefined env state "A" = true ∧ isDefined env state "B" = true ∧
    ¬WritesTooLarge word ∧ ¬WritesTooLarge number ∧
    (∃ v sharing, lookup env state "A" = .found v sharing ∧
      StandsFor ⟨"A", word, .unknown, none⟩ v sharing) ∧
    ∃ v sharing, lookup env state "B" = .found v sharing ∧
      StandsFor ⟨"B", number, .unknown, none⟩ v sharing := by
  intro word number env state
  have hword : ¬WritesTooLarge word := not_writesTooLarge (by decide +kernel)
  have hnumber : ¬WritesTooLarge number := not_writesTooLarge (by decide +kernel)
  have hfind : state.macros.find? "A" = some ⟨"A", word, .unknown, none⟩ := rfl
  have hfind' : state.macros.find? "B" = some ⟨"B", number, .unknown, none⟩ := rfl
  obtain ⟨v, sharing, hlookup, hstands⟩ := (lookup_settled env state "A").2.1 rfl fun m hm => by
    rw [hfind] at hm
    rwa [← Option.some.inj hm]
  obtain ⟨v', sharing', hlookup', hstands'⟩ := (lookup_settled env state "B").2.1 rfl fun m hm => by
    rw [hfind'] at hm
    rwa [← Option.some.inj hm]
  rw [hfind] at hstands
  rw [hfind'] at hstands'
  exact ⟨rfl, rfl, hword, hnumber, ⟨v, sharing, hlookup, hstands.2⟩, v', sharing', hlookup',
    hstands'.2⟩

/-- A text whose characters write a literal beyond computation. -/
theorem writesTooLarge {cs : List Char} (h : isBeyond (literalOf cs) = true) :
    WritesTooLarge (String.ofList cs) := by
  rw [← Literal.parse_eq_overflow_iff, parse_ofList]
  generalize literalOf cs = value at h
  match value, h with
  | .error .overflow, _ => rfl

/-- A macro whose text adds an imaginary number to an integer of 401 digits is defined and leads to
no value: it has no literal, and its text does not take the place of one. -/
theorem lookup_settled_beyond :
    let text := String.ofList ('1' :: List.replicate 400 '0' ++ ['+', '1', 'j'])
    let env : Environment := ⟨{ defines := [("A", text)] }, ⟨[], ⟨"/", []⟩, 0⟩⟩
    let state := begin env.config (State.start .scoped) none
    isDefined env state "A" = true ∧ WritesTooLarge text ∧
      (∀ m, state.macros.find? "A" = some m → m.literal = none) ∧
      ∀ v sharing, lookup env state "A" ≠ .found v sharing := by
  intro text env state
  have hlarge : WritesTooLarge text := writesTooLarge (by decide +kernel)
  have hfind : state.macros.find? "A" = some ⟨"A", text, .unknown, none⟩ := rfl
  obtain ⟨hoverflow, hliteral, -⟩ | ⟨_, _, -, -, -, hsmall⟩ :=
    macro_lookup_cases ⟨"A", text, .unknown, none⟩
  · refine ⟨rfl, hlarge, fun m hm => ?_, fun v sharing h => ?_⟩
    · rw [hfind] at hm
      rw [← Option.some.inj hm]
      exact hliteral
    · unfold lookup at h
      rw [hfind] at h
      exact nomatch hoverflow.symm.trans h
  · exact absurd hlarge hsmall

end Hashmark.Pass

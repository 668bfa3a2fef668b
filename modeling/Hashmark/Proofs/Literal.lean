import Hashmark.Literal
import Hashmark.Proofs.Condition.Parts
import Hashmark.Proofs.Number.Rounding

/-!
# Literals beyond computation

Reading a literal fails in one way that is not being a literal at all: where a real number is to be
brought to a complex one and is beyond floating point. Only an integer can be
(`complexNumber_eq_overflow_iff`). Members of displays are read from left to right, and the first one
that fails decides, so that such a sum stands behind members that are literals (`TooLarge`). With
that, the texts that are beyond computation are told by what they write
(`parse_eq_overflow_iff`).
-/

namespace Hashmark.Literal

open Condition (Expr)

/-- An integer is beyond the largest number of double precision, by half a unit or more. -/
def BeyondFloat (n : ℤ) : Prop :=
  (2 ^ 54 - 1) * 2 ^ 970 ≤ n.natAbs

section Sum

variable {left right e : Expr} {v : Value}

/-- A number without sign is an integer, or in floating point, or complex. -/
theorem number?_cases (h : number? e = some v) :
    (∃ n, v = .int n) ∨ (∃ x, v = .float x) ∨ ∃ z, v = .complex z := by
  unfold number? at h
  split at h
  case h_1 n => exact .inl ⟨n, (Option.some.inj h).symm⟩
  case h_2 x => exact .inr (.inl ⟨x, (Option.some.inj h).symm⟩)
  case h_3 z => exact .inr (.inr ⟨z, (Option.some.inj h).symm⟩)
  case h_4 => cases h

/-- A number with a sign or without is an integer, or in floating point, or complex. -/
theorem signedNumber?_cases (h : signedNumber? e = some v) :
    (∃ n, v = .int n) ∨ (∃ x, v = .float x) ∨ ∃ z, v = .complex z := by
  unfold signedNumber? at h
  split at h
  · exact number?_cases h
  · split at h
    case h_1 u hnumber =>
      -- The opposite of a number is one of the same kind.
      obtain ⟨n, rfl⟩ | ⟨x, rfl⟩ | ⟨z, rfl⟩ := number?_cases hnumber
      · exact .inl ⟨-n, (Option.some.inj h).symm⟩
      · exact .inr (.inl ⟨-x, (Option.some.inj h).symm⟩)
      · exact .inr (.inr ⟨_, (Option.some.inj h).symm⟩)
    case h_2 => cases h
  · exact number?_cases h

/-- An operation that brings real numbers to complex ones fails for integers beyond floating
point only. -/
structure BringsToComplex (operation : Value → Value → Except Value.OperationFault Value) : Prop where
  /-- An integer is rounded. -/
  int : ∀ n z, (operation (.int n) (.complex z)).toOption.isNone = true ↔ BeyondFloat n
  /-- A number in floating point is taken as it is. -/
  float : ∀ x z, ∃ v, operation (.float x) (.complex z) = .ok v

/-- Bringing an integer to floating point for an operation that is defined everywhere fails beyond
floating point only. -/
theorem toFloat_bind_isNone (n : ℤ) (f : Float → Value) :
    ((Value.toFloat n).bind fun x => .ok (f x)).toOption.isNone = true ↔ BeyondFloat n := by
  rw [BeyondFloat, ← Number.ofInt?_eq_none_iff]
  unfold Value.toFloat
  cases Number.ofInt? n with
  | none => exact iff_of_true rfl rfl
  | some x => exact iff_of_false Bool.false_ne_true (Option.some_ne_none x)

/-- The sum brings real numbers to complex ones. -/
theorem bringsToComplex_add : BringsToComplex Value.add where
  int n z := toFloat_bind_isNone n fun x => .complex (.add (.ofReal x) z)
  float _ _ := ⟨_, rfl⟩

/-- The difference brings real numbers to complex ones. -/
theorem bringsToComplex_subtract : BringsToComplex Value.subtract where
  int n z := toFloat_bind_isNone n fun x => .complex (.sub (.ofReal x) z)
  float _ _ := ⟨_, rfl⟩

/-- A complex number is beyond computation if its real part is an integer beyond floating point. -/
theorem complexNumber_eq_overflow_iff
    {operation : Value → Value → Except Value.OperationFault Value}
    (h : BringsToComplex operation) :
    complexNumber operation left right = .error .overflow ↔
      ∃ n z, signedNumber? left = some (.int n) ∧ number? right = some (.complex z) ∧
        BeyondFloat n := by
  unfold complexNumber
  cases hleft : signedNumber? left with
  | none => simp
  | some real =>
    cases hright : number? right with
    | none =>
      obtain ⟨n, rfl⟩ | ⟨x, rfl⟩ | ⟨z, rfl⟩ := signedNumber?_cases hleft <;> simp
    | some imaginary =>
      obtain ⟨n, rfl⟩ | ⟨x, rfl⟩ | ⟨w, rfl⟩ := signedNumber?_cases hleft
      · obtain ⟨m, rfl⟩ | ⟨y, rfl⟩ | ⟨z, rfl⟩ := number?_cases hright
        · simp
        · simp
        · have hbeyond := h.int n z
          cases hoperation : operation (.int n) (.complex z) with
          | ok v => simp_all [Except.toOption]
          | error fault => simp_all [Except.toOption]
      · obtain ⟨m, rfl⟩ | ⟨y, rfl⟩ | ⟨z, rfl⟩ := number?_cases hright
        · simp
        · simp
        · obtain ⟨v, hv⟩ := h.float x z
          simp [hv]
      · simp

end Sum

section Display

/-- An expression is a literal. -/
def IsLiteral (e : Expr) : Prop :=
  ∃ v, ofExpr e = .ok v

/-- An expression is a literal whose value can be a key. -/
def IsKeyLiteral (e : Expr) : Prop :=
  ∃ v, ofExpr e = .ok v ∧ v.isKey = true

/-- An entry of a dictionary is one of literals, the first of which can be a key. -/
def IsEntryLiteral (entry : Option Expr × Expr) : Prop :=
  ∃ key, entry.1 = some key ∧ IsKeyLiteral key ∧ IsLiteral entry.2

/-- An expression is beyond computation as a literal: the first part of it that is no literal, from
left to right, is an integer beyond floating point plus or minus an imaginary number. -/
inductive TooLarge : Expr → Prop
  /-- The number itself. -/
  | complex {operator : Value.BinaryOperator} {left right : Expr} {n : ℤ} {z : Number.Complex}
      (hoperator : operator = .add ∨ operator = .subtract)
      (hleft : signedNumber? left = some (.int n)) (hright : number? right = some (.complex z))
      (hlarge : BeyondFloat n) : TooLarge (.binary operator left right)
  /-- A member between parentheses. -/
  | tuple {before after : List Expr} {e : Expr} (hbefore : ∀ b ∈ before, IsLiteral b)
      (h : TooLarge e) : TooLarge (.tuple (before ++ e :: after))
  /-- A member between square brackets. -/
  | list {before after : List Expr} {e : Expr} (hbefore : ∀ b ∈ before, IsLiteral b)
      (h : TooLarge e) : TooLarge (.list (before ++ e :: after))
  /-- A member of a set. -/
  | set {before after : List Expr} {e : Expr} (hbefore : ∀ b ∈ before, IsKeyLiteral b)
      (h : TooLarge e) : TooLarge (.set (before ++ e :: after))
  /-- A key of a dictionary. -/
  | key {before after : List (Option Expr × Expr)} {key value : Expr}
      (hbefore : ∀ entry ∈ before, IsEntryLiteral entry)
      (h : TooLarge key) : TooLarge (.dict (before ++ (some key, value) :: after))
  /-- A value of a dictionary. -/
  | value {before after : List (Option Expr × Expr)} {key value : Expr}
      (hbefore : ∀ entry ∈ before, IsEntryLiteral entry) (hkey : IsLiteral key)
      (h : TooLarge value) : TooLarge (.dict (before ++ (some key, value) :: after))

/-- A reading from left to right that goes on behind what is good fails at the first thing that is
not, if that is of the kind that fails. -/
theorem exists_first_iff {σ α : Type} (reads : σ → List α → Prop) {good fails : α → Prop}
    (hnil : ∀ s, ¬reads s [])
    (hcons : ∀ s a as, ∃ s', reads s (a :: as) ↔ fails a ∨ good a ∧ reads s' as) (as : List α)
    (s : σ) :
    reads s as ↔ ∃ before a after, as = before ++ a :: after ∧ (∀ b ∈ before, good b) ∧ fails a := by
  induction as generalizing s with
  | nil => exact iff_of_false (hnil s) (by simp)
  | cons a as ih =>
    obtain ⟨s', hstep⟩ := hcons s a as
    rw [hstep, ih s']
    constructor
    · rintro (hfails | ⟨hgood, before, b, after, rfl, hbefore, hb⟩)
      · exact ⟨[], a, as, rfl, by simp, hfails⟩
      · exact ⟨a :: before, b, after, rfl, List.forall_mem_cons.2 ⟨hgood, hbefore⟩, hb⟩
    · rintro ⟨before, b, after, hsplit, hbefore, hb⟩
      cases before with
      | nil =>
        obtain ⟨rfl, rfl⟩ := List.cons.inj hsplit
        exact .inl hb
      | cons c before =>
        obtain ⟨rfl, rfl⟩ := List.cons.inj hsplit
        obtain ⟨hgood, hbefore⟩ := List.forall_mem_cons.1 hbefore
        exact .inr ⟨hgood, before, b, after, rfl, hbefore, hb⟩

/-- Members are beyond computation if the first that is no literal is. -/
theorem ofItems_eq_overflow_iff (es : List Expr) :
    ofItems es = .error .overflow ↔ ∃ before e after, es = before ++ e :: after ∧
      (∀ b ∈ before, IsLiteral b) ∧ ofExpr e = .error .overflow := by
  refine exists_first_iff (fun (_ : Unit) es => ofItems es = .error .overflow)
    (fun _ h => nomatch h) (fun _ e es => ⟨(), ?_⟩) es ()
  rw [ofItems]
  cases he : ofExpr e with
  | error fault => simp [IsLiteral, he]
  | ok v => cases ofItems es <;> simp [IsLiteral, he]

/-- The members of a set are beyond computation if the first that is no literal that can be a key
is. -/
theorem ofMembers_eq_overflow_iff (done : List Value) (es : List Expr) :
    ofMembers done es = .error .overflow ↔ ∃ before e after, es = before ++ e :: after ∧
      (∀ b ∈ before, IsKeyLiteral b) ∧ ofExpr e = .error .overflow := by
  refine exists_first_iff (fun done es => ofMembers done es = .error .overflow)
    (fun _ h => nomatch h) (fun done e es => ?_) es done
  rw [ofMembers]
  cases he : ofExpr e with
  | error fault => exact ⟨done, by simp [IsKeyLiteral, he]⟩
  | ok v =>
    refine ⟨Value.insertItem done v, ?_⟩
    by_cases hkey : v.isKey = true <;> simp [IsKeyLiteral, he, asKey, hkey]

/-- An entry of a dictionary is beyond computation if its key is, or its value behind a key that is a
literal. -/
def IsLargeEntry (entry : Option Expr × Expr) : Prop :=
  ∃ key, entry.1 = some key ∧
    (ofExpr key = .error .overflow ∨ IsLiteral key ∧ ofExpr entry.2 = .error .overflow)

/-- The entries of a dictionary are beyond computation if the first that is not one of literals
is. -/
theorem ofEntries_eq_overflow_iff (done : List (Value × Value))
    (entries : List (Option Expr × Expr)) :
    ofEntries done entries = .error .overflow ↔ ∃ before entry after,
      entries = before ++ entry :: after ∧ (∀ b ∈ before, IsEntryLiteral b) ∧
        IsLargeEntry entry := by
  refine exists_first_iff (fun done entries => ofEntries done entries = .error .overflow)
    (fun _ h => nomatch h) (fun done entry entries => ?_) entries done
  obtain ⟨key | key, value⟩ := entry
  · exact ⟨done, by simp [ofEntries, IsLargeEntry, IsEntryLiteral]⟩
  · rw [ofEntries]
    cases hk : ofExpr key with
    | error fault =>
      exact ⟨done, by simp [IsLargeEntry, IsEntryLiteral, IsKeyLiteral, IsLiteral, hk]⟩
    | ok k =>
      cases hv : ofExpr value with
      | error fault =>
        exact ⟨done, by simp [IsLargeEntry, IsEntryLiteral, IsKeyLiteral, IsLiteral, hk, hv]⟩
      | ok v =>
        refine ⟨Value.insertEntry done k v, ?_⟩
        by_cases hkey : k.isKey = true <;>
          simp [IsLargeEntry, IsEntryLiteral, IsKeyLiteral, IsLiteral, hk, hv, asKey, hkey]

/-- What comes of the members of a display is a value or the fault of the members. -/
theorem eq_overflow_of_display {make : List Value → Value} {es : List Expr}
    (h : (match ofItems es with
      | .error fault => .error fault
      | .ok vs => .ok (make vs)) = (.error .overflow : Except Fault Value)) :
    ofItems es = .error .overflow := by
  cases hitems : ofItems es with
  | error fault =>
    rw [hitems] at h
    exact congrArg Except.error (Except.error.inj h)
  | ok vs =>
    rw [hitems] at h
    cases h

/-- An expression that is beyond computation as a literal is too large. -/
theorem tooLarge_of_ofExpr {e : Expr} (h : ofExpr e = .error .overflow) : TooLarge e := by
  induction hsize : e.size using Nat.strongRecOn generalizing e with
  | ind n ih =>
    subst hsize
    -- The induction is on the size of the expression, and its parts are smaller.
    have hpart : ∀ d ∈ e.parts, ofExpr d = .error .overflow → TooLarge d := fun d hd h =>
      ih d.size (Expr.size_lt_of_mem_parts hd) h rfl
    rw [ofExpr.eq_def] at h
    split at h
    · cases h
    case h_2 items =>
      obtain ⟨before, d, after, rfl, hbefore, hd⟩ :=
        (ofItems_eq_overflow_iff items).1 (eq_overflow_of_display h)
      exact .tuple hbefore (hpart d (by simp [Expr.parts]) hd)
    case h_3 items =>
      obtain ⟨before, d, after, rfl, hbefore, hd⟩ :=
        (ofItems_eq_overflow_iff items).1 (eq_overflow_of_display h)
      exact .list hbefore (hpart d (by simp [Expr.parts]) hd)
    case h_4 items =>
      obtain ⟨before, d, after, rfl, hbefore, hd⟩ := (ofMembers_eq_overflow_iff [] items).1 h
      exact .set hbefore (hpart d (by simp [Expr.parts]) hd)
    case h_5 entries =>
      obtain ⟨before, ⟨_, value⟩, after, rfl, hbefore, key, rfl, hd⟩ :=
        (ofEntries_eq_overflow_iff [] entries).1 h
      obtain hd | ⟨hkey, hd⟩ := hd
      · exact .key hbefore (hpart key (by simp [Expr.parts]) hd)
      · exact .value hbefore hkey (hpart value (by simp [Expr.parts]) hd)
    · cases h
    case h_7 left right =>
      obtain ⟨n, z, hleft, hright, hlarge⟩ :=
        (complexNumber_eq_overflow_iff bringsToComplex_add).1 h
      exact .complex (.inl rfl) hleft hright hlarge
    case h_8 left right =>
      obtain ⟨n, z, hleft, hright, hlarge⟩ :=
        (complexNumber_eq_overflow_iff bringsToComplex_subtract).1 h
      exact .complex (.inr rfl) hleft hright hlarge
    case h_9 =>
      split at h <;> cases h

/-- An expression has no value as a literal for being beyond computation if and only if it is too
large. -/
theorem ofExpr_eq_overflow_iff (e : Expr) : ofExpr e = .error .overflow ↔ TooLarge e := by
  refine ⟨tooLarge_of_ofExpr, fun h => ?_⟩
  induction h with
  | @complex operator left right n z hoperator hleft hright hlarge =>
    obtain rfl | rfl := hoperator
    · rw [ofExpr]
      exact (complexNumber_eq_overflow_iff bringsToComplex_add).2 ⟨n, z, hleft, hright, hlarge⟩
    · rw [ofExpr]
      exact (complexNumber_eq_overflow_iff bringsToComplex_subtract).2 ⟨n, z, hleft, hright, hlarge⟩
  | @tuple before after e hbefore h ih =>
    rw [ofExpr, (ofItems_eq_overflow_iff _).2 ⟨before, e, after, rfl, hbefore, ih⟩]
  | @list before after e hbefore h ih =>
    rw [ofExpr, (ofItems_eq_overflow_iff _).2 ⟨before, e, after, rfl, hbefore, ih⟩]
  | @set before after e hbefore h ih =>
    rw [ofExpr]
    exact (ofMembers_eq_overflow_iff _ _).2 ⟨before, e, after, rfl, hbefore, ih⟩
  | @key before after key value hbefore h ih =>
    rw [ofExpr]
    exact (ofEntries_eq_overflow_iff _ _).2 ⟨before, _, after, rfl, hbefore, key, rfl, .inl ih⟩
  | @value before after key value hbefore hkey h ih =>
    rw [ofExpr]
    exact (ofEntries_eq_overflow_iff _ _).2
      ⟨before, _, after, rfl, hbefore, key, rfl, .inr ⟨hkey, ih⟩⟩

end Display

/-- A text writes a literal that is beyond computation. -/
def WritesTooLarge (text : String) : Prop :=
  ∃ e, Condition.parse? (text.toList.dropWhile fun c => c = ' ' || c = '\t') = some e ∧ TooLarge e

/-- A text is beyond computation as a literal if and only if it writes one that is. -/
theorem parse_eq_overflow_iff (text : String) :
    parse text = .error .overflow ↔ WritesTooLarge text := by
  unfold parse WritesTooLarge
  cases Condition.parse? (text.toList.dropWhile fun c => c = ' ' || c = '\t') with
  | none => simp
  | some e => simpa using ofExpr_eq_overflow_iff e

end Hashmark.Literal

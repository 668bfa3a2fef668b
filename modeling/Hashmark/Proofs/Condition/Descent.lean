import Hashmark.Condition.Grammar

/-!
# The bound of a descent

Every function of the grammar answers the same with a larger bound, and leaves line ends behind the
words where they are (`descent`). So an expression that words make up is the one that they make up
with line ends behind them (`ofWords?_append`): neither the number of words nor what is behind them
has a part in it.
-/

namespace Hashmark.Condition

/-- What one reading answers, the other one answers with this change. -/
def Carries {α β : Type} (change : α → β) (one : Option α) (other : Option β) : Prop :=
  ∀ answer, one = some answer → other = some (change answer)

section Carries

variable {α β γ δ : Type} {change : α → β} {change' : γ → δ}

/-- No answer asks for nothing. -/
theorem Carries.none (other : Option β) : Carries change none other := nofun

/-- An answer and its change. -/
theorem Carries.some (answer : α) : Carries change (some answer) (some (change answer)) := by
  rintro _ ⟨rfl⟩
  rfl

/-- Readings that go on from corresponding answers. -/
theorem Carries.bind {one : Option α} {other : Option β} (h : Carries change one other)
    {next : α → Option γ} {next' : β → Option δ}
    (hnext : ∀ answer, Carries change' (next answer) (next' (change answer))) :
    Carries change' (one >>= next) (other >>= next') := by
  intro answer hanswer
  obtain ⟨first, hfirst, hsecond⟩ := Option.bind_eq_some_iff.1 hanswer
  exact Option.bind_eq_some_iff.2 ⟨_, h first hfirst, hnext first answer hsecond⟩

/-- Readings that go the same way. -/
theorem Carries.ite {condition : Prop} [Decidable condition] {one one' : Option α}
    {other other' : Option β} (hthen : condition → Carries change one other)
    (helse : ¬condition → Carries change one' other') :
    Carries change (if condition then one else one') (if condition then other else other') := by
  by_cases h : condition
  · rw [if_pos h, if_pos h]
    exact hthen h
  · rw [if_neg h, if_neg h]
    exact helse h

/-- Readings of which only the rest matters. -/
theorem Carries.map {one : Option α} {other : Option β} (h : Carries change one other)
    {get : α → γ} {get' : β → δ}
    (hget : ∀ answer, get' (change answer) = change' (get answer)) :
    Carries change' (one.map get) (other.map get') := by
  intro answer hanswer
  obtain ⟨first, hfirst, rfl⟩ := Option.map_eq_some_iff.1 hanswer
  exact Option.map_eq_some_iff.2 ⟨_, h first hfirst, hget first⟩

end Carries

/-- Words behind the rest of an answer. -/
def behind {α : Type} (z : Words) (answer : α × Words) : α × Words :=
  (answer.1, answer.2 ++ z)

/-- Line ends that may stand behind words. -/
def AreNewlines (z : Words) : Prop :=
  z = [] ∨ ∃ rest, z = .newline :: rest

section Words

variable {z : Words} (hz : AreNewlines z)

include hz

/-- Line ends behind words are no symbol at their beginning. -/
theorem atSymbol_append (s : String) (ts : Words) : atSymbol s (ts ++ z) = atSymbol s ts := by
  cases ts with
  | cons t ts => cases t <;> rfl
  | nil => obtain rfl | ⟨rest, rfl⟩ := hz <;> rfl

/-- Line ends behind words are no keyword at their beginning. -/
theorem atKeyword_append (s : String) (ts : Words) : atKeyword s (ts ++ z) = atKeyword s ts := by
  cases ts with
  | cons t ts => cases t <;> rfl
  | nil => obtain rfl | ⟨rest, rfl⟩ := hz <;> rfl

/-- Line ends behind words begin no loop. -/
theorem atLoop_append (ts : Words) : atLoop (ts ++ z) = atLoop ts := by
  rw [atLoop, atLoop, atKeyword_append hz, atKeyword_append hz]

/-- Line ends behind words are no symbol behind a name. -/
theorem atNameThen_append (s : String) (ts : Words) : atNameThen s (ts ++ z) = atNameThen s ts := by
  match ts with
  | [] => obtain rfl | ⟨rest, rfl⟩ := hz <;> rfl
  | [t] => obtain rfl | ⟨rest, rfl⟩ := hz <;> cases t <;> rfl
  | t :: u :: ts => cases t <;> cases u <;> rfl

/-- The words behind a symbol, with line ends behind them. -/
theorem expectSymbol_append (s : String) (ts : Words) :
    expectSymbol s (ts ++ z) = (expectSymbol s ts).map (· ++ z) := by
  cases ts with
  | nil => obtain rfl | ⟨rest, rfl⟩ := hz <;> rfl
  | cons t ts =>
    cases t with
    | symbol t =>
      simp only [List.cons_append, expectSymbol]
      split <;> rfl
    | _ => rfl

/-- The words behind a keyword, with line ends behind them. -/
theorem expectKeyword_append (s : String) (ts : Words) :
    expectKeyword s (ts ++ z) = (expectKeyword s ts).map (· ++ z) := by
  cases ts with
  | nil => obtain rfl | ⟨rest, rfl⟩ := hz <;> rfl
  | cons t ts =>
    cases t with
    | keyword t =>
      simp only [List.cons_append, expectKeyword]
      split <;> rfl
    | _ => rfl

/-- What is told by the first word, with line ends behind the words. -/
theorem head_append {α : Type} {f : Token → Option α} (hf : f .newline = none) (ts : Words) :
    (ts ++ z).head?.bind f = ts.head?.bind f := by
  cases ts with
  | cons t ts => rfl
  | nil =>
    obtain rfl | ⟨rest, rfl⟩ := hz
    · rfl
    · exact hf

/-- A word with line ends behind it that is no line end is one of the words in front. -/
theorem cons_of_append {ts us : Words} {t : Token} (h : ts ++ z = t :: us) (ht : t ≠ .newline) :
    ∃ rest, ts = t :: rest ∧ us = rest ++ z := by
  cases ts with
  | cons u ts =>
    obtain ⟨rfl, rfl⟩ := List.cons.inj h
    exact ⟨ts, rfl, rfl⟩
  | nil =>
    obtain rfl | ⟨rest, rfl⟩ := hz
    · cases h
    · exact absurd (List.cons.inj h).1.symm ht

/-- The comparison at the start, with line ends behind the words. -/
theorem comparison?_append (ts : Words) :
    comparison? (ts ++ z) = (comparison? ts).map (behind z) := by
  fun_cases comparison? ts with
  | case10 ts hnot =>
    have hbehind : ∀ us, ts ++ z = .keyword "not" :: us → False := by
      intro us h
      obtain ⟨rest, rfl, -⟩ := cons_of_append hz h nofun
      exact hnot _ rfl
    rw [List.cons_append]
    unfold comparison?
    split <;> simp_all [behind]
  | case11 =>
    -- A comparison of two words has its first one, and then its second one, in front.
    unfold comparison?
    split
    all_goals first
      | rfl
      | rename_i h
        obtain ⟨rest, rfl, hrest⟩ := cons_of_append hz h nofun
        first
          | simp_all; done
          | obtain ⟨rest, rfl, -⟩ := cons_of_append hz hrest.symm nofun
            simp_all
  | _ => rfl

/-- The quotations at the start, with line ends behind the words. -/
theorem quotations_append (ts : Words) : quotations (ts ++ z) = behind z (quotations ts) := by
  induction ts with
  | nil => obtain rfl | ⟨rest, rfl⟩ := hz <;> rfl
  | cons t ts ih =>
    cases t with
    | quotation q =>
      rw [List.cons_append, quotations, quotations, ih]
      rfl
    | _ => rfl

omit hz

/-- Behind the first word there are the others, with line ends behind them. -/
theorem drop_append {ts : Words} (h : ts ≠ []) (z : Words) :
    (ts ++ z).drop 1 = ts.drop 1 ++ z := by
  cases ts with
  | nil => exact absurd rfl h
  | cons t ts => rfl

/-- Behind a symbol there are the other words, with line ends behind them. -/
theorem drop_of_atSymbol {s : String} {ts : Words} (h : atSymbol s ts = true) (z : Words) :
    (ts ++ z).drop 1 = ts.drop 1 ++ z := by
  refine drop_append ?_ z
  rintro rfl
  cases h

/-- Behind a keyword there are the other words, with line ends behind them. -/
theorem drop_of_atKeyword {s : String} {ts : Words} (h : atKeyword s ts = true) (z : Words) :
    (ts ++ z).drop 1 = ts.drop 1 ++ z := by
  refine drop_append ?_ z
  rintro rfl
  cases h

/-- Behind a name and a symbol there are the other words, with line ends behind them. -/
theorem drop_of_atNameThen {s : String} {ts : Words} (h : atNameThen s ts = true) (z : Words) :
    (ts ++ z).drop 2 = ts.drop 2 ++ z := by
  match ts with
  | [] => cases h
  | [t] => cases t <;> cases h
  | t :: u :: ts => rfl

/-- Behind a word that tells something there are the other words, with line ends behind them. -/
theorem drop_of_head {α : Type} {f : Token → Option α} {ts : Words} {a : α}
    (h : ts.head?.bind f = some a) (z : Words) : (ts ++ z).drop 1 = ts.drop 1 ++ z := by
  refine drop_append ?_ z
  rintro rfl
  cases h

end Words

/-- Readings of which the second answers what the first does, with these words behind. -/
def Follows {α β : Type} (change : α → β) (z : Words) (read : Words → Option α)
    (read' : Words → Option β) : Prop :=
  ∀ ts, Carries change (read ts) (read' (ts ++ z))

/-- A symbol is read in front of line ends as it is without them. -/
theorem expectSymbol_follows {z : Words} (hz : AreNewlines z) (s : String) :
    Follows (· ++ z) z (expectSymbol s) (expectSymbol s) := by
  intro ts
  rw [expectSymbol_append hz]
  exact fun answer h => by rw [h, Option.map_some]

/-- A keyword is read in front of line ends as it is without them. -/
theorem expectKeyword_follows {z : Words} (hz : AreNewlines z) (s : String) :
    Follows (· ++ z) z (expectKeyword s) (expectKeyword s) := by
  intro ts
  rw [expectKeyword_append hz]
  exact fun answer h => by rw [h, Option.map_some]

/-- Readings look for a symbol and go on from there, or read something else without it. -/
theorem expectSymbol_carries {z : Words} (hz : AreNewlines z) {α β : Type} {change : α → β}
    (s : String) (ts : Words) {found : Words → Option α} {found' : Words → Option β}
    {other : Option α} {other' : Option β}
    (hfound : ∀ ts, Carries change (found ts) (found' (ts ++ z)))
    (hother : Carries change other other') :
    Carries change (match expectSymbol s ts with | some ts => found ts | none => other)
      (match expectSymbol s (ts ++ z) with | some ts => found' ts | none => other') := by
  rw [expectSymbol_append hz]
  cases expectSymbol s ts with
  | some ts => exact hfound ts
  | none => exact hother

/-- What stands behind the base of a power: an exponent, or nothing. -/
def powerBehind (n : Nat) (base : Expr) (ts : Words) : Option (Expr × Words) :=
  if atSymbol "**" ts then do
    let (exponent, ts) ← signed n (ts.drop 1)
    some (.binary .power base exponent, ts)
  else some (base, ts)

/-- Signs stand in front of a power. -/
theorem signed_eq (n : Nat) (ts : Words) :
    signed (n + 1) ts =
      match ts.head?.bind sign? with
      | some operator => do
        let (e, ts) ← signed n (ts.drop 1)
        some (.unary operator e, ts)
      | none =>
        if atKeyword "await" ts then
          primary n (ts.drop 1) >>= fun answer => powerBehind n (.other .await) answer.2
        else primary n ts >>= fun answer => powerBehind n answer.1 answer.2 := by
  rw [signed]
  cases ts.head?.bind sign? with
  | some operator => rfl
  | none =>
    simp only
    split
    · cases primary n (ts.drop 1) <;> rfl
    · cases primary n ts <;> rfl

/-- What stands behind a part: the closing bracket, or a comma and further parts. -/
def slicesBehind (n : Nat) (ts : Words) : Option Words :=
  match expectSymbol "]" ts with
  | some ts => some ts
  | none => do
    let ts ← expectSymbol "," ts
    match expectSymbol "]" ts with
    | some ts => some ts
    | none => slices n ts

/-- Parts begin with the first one. -/
theorem slices_eq (n : Nat) (ts : Words) :
    slices (n + 1) ts =
      if atSymbol "*" ts then (expression n (ts.drop 1)).map Prod.snd >>= slicesBehind n
      else slice n ts >>= slicesBehind n := by
  rw [slices]
  split <;> rfl

/-- A further expression behind a comma, and those behind it. -/
def furtherExpressions (steps bound : Nat) (ts : Words) : Option (List Expr × Words) := do
  let (e, ts) ← expression steps ts
  let (es, ts) ← expressionsRest steps bound ts
  some (e :: es, ts)

/-- With the first bound, the functions of the grammar answer no more than they do with the second
one and these words behind. -/
structure Descends (z : Words) (n m : Nat) : Prop where
  expression : Follows (behind z) z (Condition.expression n) (Condition.expression m)
  namedExpression : Follows (behind z) z (Condition.namedExpression n) (Condition.namedExpression m)
  displayItem : Follows (behind z) z (Condition.displayItem n) (Condition.displayItem m)
  displayRest : ∀ close, Follows (behind z) z (Condition.displayRest n close)
    (Condition.displayRest m close)
  disjunction : Follows (behind z) z (Condition.disjunction n) (Condition.disjunction m)
  disjunctionRest : Follows (behind z) z (Condition.disjunctionRest n) (Condition.disjunctionRest m)
  conjunction : Follows (behind z) z (Condition.conjunction n) (Condition.conjunction m)
  conjunctionRest : Follows (behind z) z (Condition.conjunctionRest n) (Condition.conjunctionRest m)
  inversion : Follows (behind z) z (Condition.inversion n) (Condition.inversion m)
  links : Follows (behind z) z (Condition.links n) (Condition.links m)
  operation : ∀ level, Follows (behind z) z (Condition.operation n level)
    (Condition.operation m level)
  operationRest : ∀ level left, Follows (behind z) z (Condition.operationRest n level left)
    (Condition.operationRest m level left)
  signed : Follows (behind z) z (Condition.signed n) (Condition.signed m)
  primary : Follows (behind z) z (Condition.primary n) (Condition.primary m)
  trailers : ∀ e, Follows (behind z) z (Condition.trailers n e) (Condition.trailers m e)
  atom : Follows (behind z) z (Condition.atom n) (Condition.atom m)
  group : Follows (behind z) z (Condition.group n) (Condition.group m)
  yielding : Follows (behind z) z (Condition.yielding n) (Condition.yielding m)
  yieldedRest : Follows (behind z) z (Condition.yieldedRest n) (Condition.yieldedRest m)
  listDisplay : Follows (behind z) z (Condition.listDisplay n) (Condition.listDisplay m)
  braces : Follows (behind z) z (Condition.braces n) (Condition.braces m)
  dictEntry : Follows (behind z) z (Condition.dictEntry n) (Condition.dictEntry m)
  dictRest : Follows (behind z) z (Condition.dictRest n) (Condition.dictRest m)
  loops : Follows (· ++ z) z (Condition.loops n) (Condition.loops m)
  loopConditions : Follows (· ++ z) z (Condition.loopConditions n) (Condition.loopConditions m)
  targets : Follows (· ++ z) z (Condition.targets n) (Condition.targets m)
  arguments : ∀ phase, Follows (behind z) z (Condition.arguments n phase)
    (Condition.arguments m phase)
  argumentsRest : ∀ phase, Follows (behind z) z (Condition.argumentsRest n phase)
    (Condition.argumentsRest m phase)
  slices : Follows (· ++ z) z (Condition.slices n) (Condition.slices m)
  slice : Follows (· ++ z) z (Condition.slice n) (Condition.slice m)
  bound : Follows (· ++ z) z (Condition.bound n) (Condition.bound m)
  parameters : ∀ state, Follows (· ++ z) z (Condition.parameters n state)
    (Condition.parameters m state)
  parametersRest : ∀ state, Follows (· ++ z) z (Condition.parametersRest n state)
    (Condition.parametersRest m state)

section Step

variable {z : Words} {n m : Nat} (h : Descends z n m)

include h

/-- A step of operands under `or`. -/
theorem disjunction_step : Follows (behind z) z (disjunction (n + 1)) (disjunction (m + 1)) := by
  intro ts
  simp only [disjunction]
  refine (h.conjunction ts).bind fun (e, ts) => ?_
  exact (h.disjunctionRest ts).bind fun _ => .some _

/-- A step of operands under `and`. -/
theorem conjunction_step : Follows (behind z) z (conjunction (n + 1)) (conjunction (m + 1)) := by
  intro ts
  simp only [conjunction]
  refine (h.inversion ts).bind fun (e, ts) => ?_
  exact (h.conjunctionRest ts).bind fun _ => .some _

/-- A step of operands under operators. -/
theorem operation_step (level : Nat) :
    Follows (behind z) z (operation (n + 1) level) (operation (m + 1) level) := by
  intro ts
  simp only [operation]
  refine .ite (fun _ => h.signed ts) fun _ => ?_
  exact (h.operation (level + 1) ts).bind fun (left, ts) => h.operationRest level left ts

/-- A step of an atom with what is behind it. -/
theorem primary_step : Follows (behind z) z (primary (n + 1)) (primary (m + 1)) := by
  intro ts
  simp only [primary]
  exact (h.atom ts).bind fun (e, ts) => h.trailers e ts

variable (hz : AreNewlines z)

include hz

/-- A step of an expression. -/
theorem expression_step : Follows (behind z) z (expression (n + 1)) (expression (m + 1)) := by
  intro ts
  simp only [expression, atKeyword_append hz]
  refine .ite (fun hlambda => ?_) fun _ => ?_
  · rw [drop_of_atKeyword hlambda]
    refine (h.parameters _ _).bind fun ts => ?_
    exact (expectSymbol_follows hz ":" ts).bind fun ts => (h.expression ts).bind fun _ => .some _
  · refine (h.disjunction ts).bind fun (whenTrue, ts) => ?_
    simp only [behind, atKeyword_append hz]
    refine .ite (fun hif => ?_) fun _ => .some _
    rw [drop_of_atKeyword hif]
    refine (h.disjunction _).bind fun (test, ts) => ?_
    refine (expectKeyword_follows hz "else" ts).bind fun ts => ?_
    exact (h.expression ts).bind fun _ => .some _

/-- A step of an expression that may be named. -/
theorem namedExpression_step :
    Follows (behind z) z (namedExpression (n + 1)) (namedExpression (m + 1)) := by
  intro ts
  simp only [namedExpression, atNameThen_append hz]
  refine .ite (fun hname => ?_) fun _ => h.expression ts
  rw [drop_of_atNameThen hname]
  exact (h.expression _).bind fun _ => .some _

/-- A step of a member of a display. -/
theorem displayItem_step : Follows (behind z) z (displayItem (n + 1)) (displayItem (m + 1)) := by
  intro ts
  simp only [displayItem, atSymbol_append hz]
  refine .ite (fun hstar => ?_) fun _ => h.namedExpression ts
  rw [drop_of_atSymbol hstar]
  exact (h.operation 0 _).bind fun _ => .some _

/-- A step of the further members of a display. -/
theorem displayRest_step (close : String) :
    Follows (behind z) z (displayRest (n + 1) close) (displayRest (m + 1) close) := by
  intro ts
  simp only [displayRest]
  refine expectSymbol_carries hz close ts (fun _ => .some _) ?_
  refine (expectSymbol_follows hz "," ts).bind fun ts => ?_
  refine expectSymbol_carries hz close ts (fun _ => .some _) ?_
  refine (h.displayItem ts).bind fun (e, ts) => ?_
  exact (h.displayRest close ts).bind fun _ => .some _

/-- A step of the further operands under `or`. -/
theorem disjunctionRest_step :
    Follows (behind z) z (disjunctionRest (n + 1)) (disjunctionRest (m + 1)) := by
  intro ts
  simp only [disjunctionRest, atKeyword_append hz]
  refine .ite (fun hor => ?_) fun _ => .some _
  rw [drop_of_atKeyword hor]
  refine (h.conjunction _).bind fun (e, ts) => ?_
  exact (h.disjunctionRest ts).bind fun _ => .some _

/-- A step of the further operands under `and`. -/
theorem conjunctionRest_step :
    Follows (behind z) z (conjunctionRest (n + 1)) (conjunctionRest (m + 1)) := by
  intro ts
  simp only [conjunctionRest, atKeyword_append hz]
  refine .ite (fun hand => ?_) fun _ => .some _
  rw [drop_of_atKeyword hand]
  refine (h.inversion _).bind fun (e, ts) => ?_
  exact (h.conjunctionRest ts).bind fun _ => .some _

/-- A step of a comparison. -/
theorem inversion_step : Follows (behind z) z (inversion (n + 1)) (inversion (m + 1)) := by
  intro ts
  simp only [inversion, atKeyword_append hz]
  refine .ite (fun hnot => ?_) fun _ => ?_
  · rw [drop_of_atKeyword hnot]
    exact (h.inversion _).bind fun _ => .some _
  · refine (h.operation 0 ts).bind fun (first, ts) => ?_
    exact (h.links ts).bind fun _ => .some _

/-- A step of the links of a chain. -/
theorem links_step : Follows (behind z) z (links (n + 1)) (links (m + 1)) := by
  intro ts
  simp only [links, comparison?_append hz]
  cases comparison? ts with
  | none => exact .some _
  | some link =>
    obtain ⟨c, ts⟩ := link
    refine (h.operation 0 ts).bind fun (e, ts) => ?_
    exact (h.links ts).bind fun _ => .some _

/-- A step of the further operands under operators. -/
theorem operationRest_step (level : Nat) (left : Expr) :
    Follows (behind z) z (operationRest (n + 1) level left) (operationRest (m + 1) level left) := by
  intro ts
  have hnewline : operatorAt? level .newline = none := by
    unfold operatorAt?
    split <;> simp_all
  simp only [operationRest, head_append hz hnewline]
  cases hoperator : ts.head?.bind (operatorAt? level) with
  | none => exact .some _
  | some operator =>
    simp only [drop_of_head hoperator]
    exact (h.operation (level + 1) _).bind fun (right, ts) => h.operationRest level _ ts

/-- A step of what stands behind the base of a power. -/
theorem powerBehind_step (base : Expr) :
    Follows (behind z) z (powerBehind n base) (powerBehind m base) := by
  intro ts
  simp only [powerBehind, atSymbol_append hz]
  refine .ite (fun hpower => ?_) fun _ => .some _
  rw [drop_of_atSymbol hpower]
  exact (h.signed _).bind fun _ => .some _

/-- A step of a power behind signs. -/
theorem signed_step : Follows (behind z) z (signed (n + 1)) (signed (m + 1)) := by
  intro ts
  have hnewline : sign? .newline = none := rfl
  simp only [signed_eq, head_append hz hnewline, atKeyword_append hz]
  cases hsign : ts.head?.bind sign? with
  | some operator =>
    simp only [drop_of_head hsign]
    exact (h.signed _).bind fun _ => .some _
  | none =>
    refine .ite (fun hawait => ?_) fun _ => ?_
    · rw [drop_of_atKeyword hawait]
      exact (h.primary _).bind fun answer => powerBehind_step h hz (.other .await) answer.2
    · exact (h.primary ts).bind fun answer => powerBehind_step h hz answer.1 answer.2

/-- A step of the members, calls and parts behind an expression. -/
theorem trailers_step (e : Expr) :
    Follows (behind z) z (trailers (n + 1) e) (trailers (m + 1) e) := by
  intro ts
  generalize hbound : n + 1 = bound
  fun_cases trailers bound e ts with
  | case1 => exact .none _
  | case2 =>
    obtain rfl := Nat.succ.inj hbound
    exact h.trailers _ _
  | case3 => exact .none _
  | case4 =>
    obtain rfl := Nat.succ.inj hbound
    exact (h.arguments _ _).bind fun (_, ts) => h.trailers _ ts
  | case5 =>
    obtain rfl := Nat.succ.inj hbound
    exact (h.slices _).bind fun ts => h.trailers _ ts
  -- None of the words behind belongs to the expression, and a line end does not either.
  | case6 _ _ hmember hdot hcall hpart =>
    have hnone : trailers (m + 1) e (ts ++ z) = some (e, ts ++ z) := by
      unfold trailers
      split
      case h_5 => rfl
      all_goals
        rename_i heq
        obtain ⟨rest, rfl, -⟩ := cons_of_append hz heq nofun
        simp_all
    rw [hnone]
    exact .some _

/-- A step of what may stand on its own. -/
theorem atom_step : Follows (behind z) z (atom (n + 1)) (atom (m + 1)) := by
  intro ts
  generalize hbound : n + 1 = bound
  fun_cases atom bound ts with
  | case8 =>
    obtain rfl := Nat.succ.inj hbound
    exact h.group _
  | case9 =>
    obtain rfl := Nat.succ.inj hbound
    exact h.listDisplay _
  | case10 =>
    obtain rfl := Nat.succ.inj hbound
    exact h.braces _
  | case11 _ q ts =>
    simp only [List.cons_append, atom, quotations, quotations_append hz, behind]
    cases joinQuotations? (q :: (quotations ts).1) with
    | none => exact .none _
    | some e => exact .some _
  | case1 | case12 => exact .none _
  | _ => exact .some _

/-- A step of what is between parentheses. -/
theorem group_step : Follows (behind z) z (group (n + 1)) (group (m + 1)) := by
  intro ts
  simp only [group, atKeyword_append hz]
  refine expectSymbol_carries hz ")" ts (fun _ => .some _) ?_
  refine .ite (fun hyield => ?_) fun _ => ?_
  · rw [drop_of_atKeyword hyield]
    exact h.yielding _
  · refine (h.displayItem ts).bind fun (first, ts) => ?_
    simp only [behind, atLoop_append hz, atSymbol_append hz]
    -- What follows the first member makes a generator, a tuple, or an expression in parentheses.
    refine .ite (fun _ => .ite (fun _ => .none _) fun _ => ?_) fun _ =>
      .ite (fun _ => ?_) fun _ => .ite (fun _ => .none _) fun _ => ?_
    · refine (h.loops ts).bind fun ts => ?_
      exact (expectSymbol_follows hz ")" ts).bind fun _ => .some _
    · exact (h.displayRest ")" ts).bind fun _ => .some _
    · exact (expectSymbol_follows hz ")" ts).bind fun _ => .some _

/-- A step of what is handed out. -/
theorem yielding_step : Follows (behind z) z (yielding (n + 1)) (yielding (m + 1)) := by
  intro ts
  simp only [yielding, expectKeyword_append hz, atNameThen_append hz]
  refine expectSymbol_carries hz ")" ts (fun _ => .some _) ?_
  cases expectKeyword "from" ts with
  | some ts =>
    refine (h.expression ts).bind fun (_, ts) => ?_
    exact (expectSymbol_follows hz ")" ts).bind fun _ => .some _
  | none =>
    refine .ite (fun _ => .none _) fun _ => ?_
    exact (h.displayItem ts).bind fun (_, ts) => h.yieldedRest ts

/-- A step of the further values that are handed out. -/
theorem yieldedRest_step :
    Follows (behind z) z (yieldedRest (n + 1)) (yieldedRest (m + 1)) := by
  intro ts
  simp only [yieldedRest]
  refine expectSymbol_carries hz ")" ts (fun _ => .some _) ?_
  refine (expectSymbol_follows hz "," ts).bind fun ts => ?_
  refine expectSymbol_carries hz ")" ts (fun _ => .some _) ?_
  rw [atNameThen_append hz]
  refine .ite (fun _ => .none _) fun _ => ?_
  exact (h.displayItem ts).bind fun (_, ts) => h.yieldedRest ts

/-- A step of what is between square brackets. -/
theorem listDisplay_step :
    Follows (behind z) z (listDisplay (n + 1)) (listDisplay (m + 1)) := by
  intro ts
  simp only [listDisplay]
  refine expectSymbol_carries hz "]" ts (fun _ => .some _) ?_
  refine (h.displayItem ts).bind fun (first, ts) => ?_
  simp only [behind, atLoop_append hz]
  refine .ite (fun _ => ?_) fun _ => (h.displayRest "]" ts).bind fun _ => .some _
  split
  · exact .none _
  · refine (h.loops ts).bind fun ts => ?_
    exact (expectSymbol_follows hz "]" ts).bind fun _ => .some _

/-- A step of what is between braces. -/
theorem braces_step : Follows (behind z) z (braces (n + 1)) (braces (m + 1)) := by
  intro ts
  simp only [braces, atSymbol_append hz, atNameThen_append hz]
  refine expectSymbol_carries hz "\x7d" ts (fun _ => .some _) ?_
  refine .ite (fun _ => ?_) fun _ => ?_
  · refine (h.dictEntry ts).bind fun (entry, ts) => ?_
    exact (h.dictRest ts).bind fun _ => .some _
  · refine (h.displayItem ts).bind fun (first, ts) => ?_
    simp only [behind, atLoop_append hz, atSymbol_append hz]
    -- What follows the first member makes a dictionary, a comprehension, or a set.
    refine .ite (fun hpair => ?_) fun _ => .ite (fun _ => .ite (fun _ => .none _) fun _ => ?_)
      fun _ => (h.displayRest _ ts).bind fun _ => .some _
    · have hcolon : atSymbol ":" ts = true := by
        simp only [Bool.and_eq_true] at hpair
        exact hpair.1.1
      rw [drop_of_atSymbol hcolon]
      refine (h.expression _).bind fun (value, ts) => ?_
      simp only [behind, atLoop_append hz]
      refine .ite (fun _ => ?_) fun _ => (h.dictRest ts).bind fun _ => .some _
      refine (h.loops ts).bind fun ts => ?_
      exact (expectSymbol_follows hz "\x7d" ts).bind fun _ => .some _
    · refine (h.loops ts).bind fun ts => ?_
      exact (expectSymbol_follows hz "\x7d" ts).bind fun _ => .some _

/-- A step of an entry of a dictionary. -/
theorem dictEntry_step : Follows (behind z) z (dictEntry (n + 1)) (dictEntry (m + 1)) := by
  intro ts
  simp only [dictEntry, atSymbol_append hz]
  refine .ite (fun hstars => ?_) fun _ => ?_
  · rw [drop_of_atSymbol hstars]
    exact (h.operation 0 _).bind fun _ => .some _
  · refine (h.expression ts).bind fun (key, ts) => ?_
    exact (expectSymbol_follows hz ":" ts).bind fun ts => (h.expression ts).bind fun _ => .some _

/-- A step of the further entries of a dictionary. -/
theorem dictRest_step : Follows (behind z) z (dictRest (n + 1)) (dictRest (m + 1)) := by
  intro ts
  simp only [dictRest]
  refine expectSymbol_carries hz "\x7d" ts (fun _ => .some _) ?_
  refine (expectSymbol_follows hz "," ts).bind fun ts => ?_
  refine expectSymbol_carries hz "\x7d" ts (fun _ => .some _) ?_
  refine (h.dictEntry ts).bind fun (entry, ts) => ?_
  exact (h.dictRest ts).bind fun _ => .some _

/-- A step of the loops of a comprehension. -/
theorem loops_step : Follows (· ++ z) z (loops (n + 1)) (loops (m + 1)) := by
  intro ts
  have hasync : (if atKeyword "async" (ts ++ z) then (ts ++ z).drop 1 else ts ++ z) =
      (if atKeyword "async" ts then ts.drop 1 else ts) ++ z := by
    rw [atKeyword_append hz]
    split
    case isTrue h => rw [drop_of_atKeyword h]
    case isFalse => rfl
  simp only [loops, hasync]
  refine (expectKeyword_follows hz "for" _).bind fun ts => ?_
  refine (h.targets ts).bind fun ts => ?_
  refine (expectKeyword_follows hz "in" ts).bind fun ts => ?_
  refine (h.disjunction ts).bind fun (_, ts) => ?_
  refine (h.loopConditions ts).bind fun ts => ?_
  rw [atLoop_append hz]
  exact .ite (fun _ => h.loops ts) fun _ => .some _

/-- A step of the conditions of a loop. -/
theorem loopConditions_step :
    Follows (· ++ z) z (loopConditions (n + 1)) (loopConditions (m + 1)) := by
  intro ts
  simp only [loopConditions, atKeyword_append hz]
  refine .ite (fun hif => ?_) fun _ => .some _
  rw [drop_of_atKeyword hif]
  exact (h.disjunction _).bind fun (_, ts) => h.loopConditions ts

/-- A step of the targets of a loop. -/
theorem targets_step : Follows (· ++ z) z (targets (n + 1)) (targets (m + 1)) := by
  intro ts
  have hstar : (if atSymbol "*" (ts ++ z) then (ts ++ z).drop 1 else ts ++ z) =
      (if atSymbol "*" ts then ts.drop 1 else ts) ++ z := by
    rw [atSymbol_append hz]
    split
    case isTrue h => rw [drop_of_atSymbol h]
    case isFalse => rfl
  simp only [targets, hstar]
  refine (h.primary _).bind fun (e, ts) => .ite (fun _ => .none _) fun _ => ?_
  simp only [behind, expectSymbol_append hz]
  cases expectSymbol "," ts with
  | none => exact .some _
  | some ts =>
    simp only [Option.map_some, atKeyword_append hz]
    exact .ite (fun _ => .some _) fun _ => h.targets ts

/-- A step of the arguments of a call. -/
theorem arguments_step (phase : ArgumentPhase) :
    Follows (behind z) z (arguments (n + 1) phase) (arguments (m + 1) phase) := by
  intro ts
  simp only [arguments, atSymbol_append hz, atNameThen_append hz]
  refine expectSymbol_carries hz ")" ts (fun _ => .some _) ?_
  -- An argument is unpacked, as a sequence or as a dictionary, or it is named, or given by place.
  refine .ite (fun hstar => .ite (fun _ => .none _) fun _ => ?_) fun _ =>
    .ite (fun hstars => ?_) fun _ => .ite (fun hname => ?_) fun _ =>
      .ite (fun _ => .none _) fun _ => ?_
  · rw [drop_of_atSymbol hstar]
    refine (h.expression _).bind fun (e, ts) => ?_
    exact (h.argumentsRest _ ts).bind fun _ => .some _
  · rw [drop_of_atSymbol hstars]
    refine (h.expression _).bind fun (_, ts) => ?_
    exact (h.argumentsRest _ ts).bind fun _ => .some _
  · rw [drop_of_atNameThen hname]
    refine (h.expression _).bind fun (_, ts) => ?_
    exact (h.argumentsRest _ ts).bind fun _ => .some _
  · refine (h.namedExpression ts).bind fun (e, ts) => ?_
    simp only [behind, atLoop_append hz]
    refine .ite (fun _ => .ite (fun _ => ?_) fun _ => .none _) fun _ =>
      (h.argumentsRest _ ts).bind fun _ => .some _
    refine (h.loops ts).bind fun ts => ?_
    exact (expectSymbol_follows hz ")" ts).bind fun _ => .some _

/-- A step of what follows an argument. -/
theorem argumentsRest_step (phase : ArgumentPhase) :
    Follows (behind z) z (argumentsRest (n + 1) phase) (argumentsRest (m + 1) phase) := by
  intro ts
  simp only [argumentsRest]
  refine expectSymbol_carries hz ")" ts (fun _ => .some _) ?_
  exact (expectSymbol_follows hz "," ts).bind fun ts => h.arguments phase ts

/-- A step of what stands behind a part. -/
theorem slicesBehind_step : Follows (· ++ z) z (slicesBehind n) (slicesBehind m) := by
  intro ts
  refine expectSymbol_carries hz "]" ts (fun _ => .some _) ?_
  refine (expectSymbol_follows hz "," ts).bind fun ts => ?_
  exact expectSymbol_carries hz "]" ts (fun _ => .some _) (h.slices ts)

/-- A step of the parts between square brackets. -/
theorem slices_step : Follows (· ++ z) z (slices (n + 1)) (slices (m + 1)) := by
  intro ts
  simp only [slices_eq, atSymbol_append hz]
  refine .ite (fun hstar => ?_) fun _ => (h.slice ts).bind (slicesBehind_step h hz)
  rw [drop_of_atSymbol hstar]
  have hpart : Carries (· ++ z) ((expression n (ts.drop 1)).map Prod.snd)
      ((expression m (ts.drop 1 ++ z)).map Prod.snd) := (h.expression _).map fun _ => rfl
  exact hpart.bind (slicesBehind_step h hz)

/-- A step of one part. -/
theorem slice_step : Follows (· ++ z) z (slice (n + 1)) (slice (m + 1)) := by
  intro ts
  -- Behind the first bound there may be two more.
  have hend : ∀ named ts, Carries (· ++ z)
      (if (atSymbol ":" ts && !named) = true then
          bound n (ts.drop 1) >>= fun ts =>
            if atSymbol ":" ts then bound n (ts.drop 1) else some ts
        else some ts)
      (if (atSymbol ":" (ts ++ z) && !named) = true then
          bound m ((ts ++ z).drop 1) >>= fun ts =>
            if atSymbol ":" ts then bound m (ts.drop 1) else some ts
        else some (ts ++ z)) := by
    intro named ts
    simp only [atSymbol_append hz]
    refine .ite (fun hcolon => ?_) fun _ => .some _
    rw [Bool.and_eq_true] at hcolon
    rw [drop_of_atSymbol hcolon.1]
    refine (h.bound _).bind fun ts => ?_
    simp only [atSymbol_append hz]
    refine .ite (fun hcolon => ?_) fun _ => .some _
    rw [drop_of_atSymbol hcolon]
    exact h.bound _
  simp only [slice, atSymbol_append hz, atNameThen_append hz]
  refine .ite (fun _ => hend _ ts) fun _ => ?_
  have hbound : Carries (· ++ z) ((namedExpression n ts).map Prod.snd)
      ((namedExpression m (ts ++ z)).map Prod.snd) := (h.namedExpression ts).map fun _ => rfl
  exact hbound.bind (hend _)

/-- A step of a bound. -/
theorem bound_step : Follows (· ++ z) z (bound (n + 1)) (bound (m + 1)) := by
  intro ts
  simp only [bound, atSymbol_append hz]
  refine .ite (fun _ => .some _) fun _ => ?_
  exact (h.expression ts).map fun _ => rfl

/-- A step of the parameters of a function. -/
theorem parameters_step (state : Parameters) :
    Follows (· ++ z) z (parameters (n + 1) state) (parameters (m + 1) state) := by
  intro ts
  generalize hbound : n + 1 = bound
  -- Parameters may end, a slash or stars may stand among them, and names may have defaults.
  fun_cases parameters bound state ts with
  | case1 | case4 | case5 | case7 | case10 | case12 | case14 | case16 => exact .none _
  | case2 => exact .some _
  | case3 _ _ ts hslash =>
    obtain rfl := Nat.succ.inj hbound
    simp only [List.cons_append, parameters, hslash, if_true]
    exact h.parametersRest _ ts
  | case6 _ _ s ts hstar =>
    obtain rfl := Nat.succ.inj hbound
    simp only [List.cons_append, parameters, hstar]
    exact h.parameters _ (.name s :: ts)
  | case8 _ _ _ ts hstar =>
    obtain rfl := Nat.succ.inj hbound
    simp only [List.cons_append, parameters, hstar]
    exact h.parametersRest _ ts
  | case9 _ _ _ ts rest hcomma hcolon =>
    simp only [List.cons_append, parameters, expectSymbol_append hz, hcomma, Option.map_some,
      atSymbol_append hz, hcolon, if_true]
    exact .some _
  | case11 _ _ _ ts hcomma hcolon =>
    simp only [List.cons_append, parameters, expectSymbol_append hz, hcomma, Option.map_none,
      atSymbol_append hz, hcolon, if_true]
    exact .some _
  | case13 =>
    obtain rfl := Nat.succ.inj hbound
    exact (h.expression _).bind fun (_, ts) => h.parametersRest _ ts
  | case15 _ _ s ts hequal hdefault =>
    obtain rfl := Nat.succ.inj hbound
    -- No equals sign follows the name, with line ends behind it or without.
    have hplain : parameters (m + 1) state (.name s :: (ts ++ z)) =
        parametersRest m { state with slashAllowed := !state.starred && !state.slashed }
          (ts ++ z) := by
      unfold parameters
      split
      case h_6 heq =>
        obtain ⟨-, hrest⟩ := List.cons.inj heq
        obtain ⟨rest, rfl, -⟩ := cons_of_append hz hrest nofun
        exact absurd rfl (hequal rest)
      case h_7 heq =>
        obtain ⟨-, rfl⟩ := List.cons.inj heq
        rw [if_neg hdefault]
      all_goals simp_all
    rw [List.cons_append, hplain]
    exact h.parametersRest _ ts

/-- A step of what follows a parameter. -/
theorem parametersRest_step (state : Parameters) :
    Follows (· ++ z) z (parametersRest (n + 1) state) (parametersRest (m + 1) state) := by
  intro ts
  simp only [parametersRest, atSymbol_append hz]
  refine expectSymbol_carries hz "," ts (fun ts => h.parameters state ts) ?_
  exact .ite (fun _ => .some _) fun _ => .none _

omit h

/-- A larger bound, and line ends behind the words, change nothing of what is read. -/
theorem descends (hle : n ≤ m) : Descends z n m := by
  induction n generalizing m with
  | zero => constructor <;> intros <;> intro ts <;> exact .none _
  | succ n ih =>
    obtain ⟨m, rfl⟩ : ∃ k, m = k + 1 := ⟨m - 1, by omega⟩
    have h := ih (Nat.le_of_succ_le_succ hle)
    exact {
      expression := expression_step h hz
      namedExpression := namedExpression_step h hz
      displayItem := displayItem_step h hz
      displayRest := displayRest_step h hz
      disjunction := disjunction_step h
      disjunctionRest := disjunctionRest_step h hz
      conjunction := conjunction_step h
      conjunctionRest := conjunctionRest_step h hz
      inversion := inversion_step h hz
      links := links_step h hz
      operation := operation_step h
      operationRest := operationRest_step h hz
      signed := signed_step h hz
      primary := primary_step h
      trailers := trailers_step h hz
      atom := atom_step h hz
      group := group_step h hz
      yielding := yielding_step h hz
      yieldedRest := yieldedRest_step h hz
      listDisplay := listDisplay_step h hz
      braces := braces_step h hz
      dictEntry := dictEntry_step h hz
      dictRest := dictRest_step h hz
      loops := loops_step h hz
      loopConditions := loopConditions_step h hz
      targets := targets_step h hz
      arguments := arguments_step h hz
      argumentsRest := argumentsRest_step h hz
      slices := slices_step h hz
      slice := slice_step h hz
      bound := bound_step h hz
      parameters := parameters_step h hz
      parametersRest := parametersRest_step h hz }

end Step

section Text

variable {ts : List Token} {e : Expr}

/-- Only line ends. -/
theorem areNewlines_replicate (k : Nat) : AreNewlines (List.replicate k .newline) := by
  cases k with
  | zero => exact .inl rfl
  | succ k => exact .inr ⟨_, rfl⟩

/-- Larger bounds, and line ends behind the words, change nothing of the expressions behind a
comma. -/
theorem expressionsRest_follows {z : Words} (hz : AreNewlines z) {steps steps' bound bound' : Nat}
    (hsteps : steps ≤ steps') (hbound : bound ≤ bound') :
    Follows (behind z) z (expressionsRest steps bound) (expressionsRest steps' bound') := by
  have hdescends := descends hz hsteps
  induction bound generalizing bound' with
  | zero => exact fun ts => .none _
  | succ bound ih =>
    obtain ⟨bound', rfl⟩ : ∃ k, bound' = k + 1 := ⟨bound' - 1, by omega⟩
    have hrest := ih (Nat.le_of_succ_le_succ hbound)
    intro ts
    simp only [expressionsRest, expectSymbol_append hz]
    cases expectSymbol "," ts with
    | none => exact .some _
    | some ts =>
      cases ts with
      | nil => obtain rfl | ⟨rest, rfl⟩ := hz <;> exact .some _
      | cons t ts =>
        have hmore : Carries (behind z) (furtherExpressions steps bound (t :: ts))
            (furtherExpressions steps' bound' (t :: ts ++ z)) :=
          (hdescends.expression _).bind fun answer => (hrest answer.2).bind fun _ => .some _
        cases t with
        | newline => exact .some _
        | _ => exact hmore

/-- The expression that words make up is the one that they make up with line ends behind them. -/
theorem ofWords?_append (h : ofWords? ts = some e) (k : Nat) :
    ofWords? (ts ++ List.replicate k .newline) = some e := by
  have hz := areNewlines_replicate k
  have hsteps : stepsPerWord * (ts.length + 1) ≤
      stepsPerWord * ((ts ++ List.replicate k Token.newline).length + 1) :=
    Nat.mul_le_mul_left _ (by rw [List.length_append]; omega)
  unfold ofWords? at h ⊢
  generalize stepsPerWord * (ts.length + 1) = steps at h hsteps
  generalize stepsPerWord * ((ts ++ List.replicate k Token.newline).length + 1) = steps'
    at hsteps ⊢
  simp only [Option.bind_eq_bind, Option.bind_eq_some_iff] at h ⊢
  obtain ⟨⟨first, behind⟩, hfirst, ⟨es, rest⟩, hrest, hend⟩ := h
  have hfirst' := (descends hz hsteps).expression _ _ hfirst
  have hrest' := expressionsRest_follows hz hsteps hsteps _ _ hrest
  refine ⟨_, hfirst', _, hrest', ?_⟩
  -- Line ends may stand behind the expression, however many.
  have hall : ∀ isEnd : Token → Bool, isEnd .newline = true →
      (rest ++ List.replicate k Token.newline).all isEnd = rest.all isEnd := by
    intro isEnd hnewline
    rw [List.all_append, List.all_replicate, hnewline, Bool.if_true_right, Bool.or_true,
      Bool.and_true]
  simp only [Condition.behind, atSymbol_append hz]
  rw [hall _ rfl]
  exact hend

/-- The expression that a text writes is made up of the words of the text. -/
theorem ofWords?_of_parse? {text : List Char} (h : parse? text = some e) :
    ∃ ts, words? text = some ts ∧ ofWords? ts = some e := by
  rw [parse?, parseWithin] at h
  simp only [Option.bind_eq_bind, Option.bind_eq_some_iff] at h
  obtain ⟨ts, hwords, e', hexpr, hfields⟩ := h
  split at hfields
  · obtain rfl := Option.some.inj hfields
    exact ⟨ts, hwords, hexpr⟩
  · cases hfields

/-- Texts whose words are the same but for line ends at the end write the same expression, if each
writes one. -/
theorem parse?_unique {one other : List Char} {k : Nat} {e' : Expr}
    (hwords : words? one = some ts)
    (hwords' : words? other = some (ts ++ List.replicate k .newline))
    (h : parse? one = some e) (h' : parse? other = some e') : e = e' := by
  obtain ⟨us, hus, hexpr⟩ := ofWords?_of_parse? h
  obtain ⟨us', hus', hexpr'⟩ := ofWords?_of_parse? h'
  obtain rfl := Option.some.inj (hwords.symm.trans hus)
  obtain rfl := Option.some.inj (hwords'.symm.trans hus')
  exact Option.some.inj ((ofWords?_append hexpr k).symm.trans hexpr')

/-- The expression that a text writes is found with any larger bound. -/
theorem parseWithin_mono {depth depth' : Nat} (hle : depth ≤ depth') {text : List Char}
    (h : parseWithin depth text = some e) : parseWithin depth' text = some e := by
  induction depth generalizing depth' text e with
  | zero => cases h
  | succ depth ih =>
    obtain ⟨depth', rfl⟩ : ∃ k, depth' = k + 1 := ⟨depth' - 1, by omega⟩
    have hdepth := Nat.le_of_succ_le_succ hle
    rw [parseWithin] at h ⊢
    simp only [Option.bind_eq_bind, Option.bind_eq_some_iff] at h ⊢
    obtain ⟨ts, hwords, e', hexpr, hfields⟩ := h
    refine ⟨ts, hwords, e', hexpr, ?_⟩
    split at hfields
    case isTrue hall =>
      have hall' : ((fieldsOf ts).all fun field =>
          (parseWithin depth' ('(' :: field ++ [')'])).isSome) = true := by
        rw [List.all_eq_true] at hall ⊢
        intro field hfield
        obtain ⟨inner, hinner⟩ := Option.isSome_iff_exists.1 (hall field hfield)
        exact Option.isSome_iff_exists.2 ⟨inner, ih hdepth hinner⟩
      rw [if_pos hall']
      exact hfields
    case isFalse => cases hfields

end Text

end Hashmark.Condition

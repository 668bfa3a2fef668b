import Hashmark.Proofs.Pass.Nesting

/-!
# The moment behind a token

A pass comes back from every token, but what has it done in between? At no two moments of a pass
there is as much left of the texts in progress, since each moment takes something of the innermost
text, or leaves it (`Advances.remaining_lt`). So a pass cannot come twice to the same place of the
same texts, and behind a token it is where processing the token as a whole leads to
(`Nested.eq_of_behind`). What is proved of a token with all that it includes is thereby proved of
the moments of a pass.
-/

namespace Hashmark.Pass.Moment

open Source (Token Tokenized Piece)

/-- How much is left of each text in progress, the outermost first. -/
def remaining (m : Moment) : List ℕ :=
  (m.levels.map fun level => level.left.length).reverse

variable {env : Environment} {path : Option Path}

/-- From one moment to the next there is less left, where the outer texts count before the inner
ones. -/
theorem Advances.remaining_lt {m m' : Moment} (h : Advances env m m') :
    m'.remaining < m.remaining := by
  have hleave : ∀ (outer : List ℕ) (count : ℕ), outer < outer ++ [count] := by
    intro outer count
    have happend : outer ++ [] < outer ++ [count] := List.append_left_lt .nil
    rwa [List.append_nil] at happend
  have htake : ∀ (outer inner : List ℕ) (count : ℕ),
      outer ++ count :: inner < outer ++ [count + 1] := by
    intro outer inner count
    exact List.append_left_lt (.rel (Nat.lt_succ_self count))
  cases h with
  | leave =>
    simp only [remaining, List.map_cons, List.reverse_cons]
    exact hleave _ _
  | warn | process | «repeat» =>
    simp only [remaining, List.map_cons, List.reverse_cons, List.length_cons]
    exact htake _ [] _
  | enter =>
    simp only [remaining, List.map_cons, List.reverse_cons, List.length_cons, List.append_assoc]
    exact htake _ _ _

/-- A pass does not come back to as many texts with as much left of them. -/
theorem eq_of_remaining_eq {m m' : Moment} (h : Reaches env m m')
    (heq : m'.remaining = m.remaining) : m' = m := by
  obtain hsame | hlater := Relation.reflTransGen_iff_eq_or_transGen.1 h
  · exact hsame
  have hlt : m'.remaining < m.remaining := by
    clear heq h
    induction hlater with
    | single hnext => exact (advances_of_next? hnext).remaining_lt
    | tail _ hnext ih => exact List.lt_trans (advances_of_next? hnext).remaining_lt ih
  rw [heq] at hlt
  exact absurd hlt (List.lt_irrefl _)

/-- The moment behind a token comes after the one before it. -/
theorem Behind.reaches {m m' : Moment} (h : Behind env m m') : Reaches env m m' := by
  obtain ⟨first, hfirst, hreaches, -⟩ := h
  refine .head hfirst ?_
  exact Relation.ReflTransGen.mono (fun _ _ hnext => And.left hnext) _ _ hreaches

/-- The files in progress at a moment of a pass leave room for all that can be included within
them. -/
theorem Nested.fits {m : Moment} (h : Nested env path m) :
    Fits env.files (depthBound env.files) m.state.including where
  nodup := h.nodup
  root file hmem := (h.readable file hmem).1
  listed file hmem := List.mem_dedup.1 (List.mem_filter.1 (h.readable file hmem).2).1
  room := by
    rw [depthBound]
    omega

/-- The moment behind a token is that to which processing the token leads, with the file that it
includes and all that this includes. -/
theorem Nested.eq_of_behind {state : State} {token : Token} {rest : List Piece} {back : Location}
    {outer : List Level} {m' : Moment}
    (hm : Nested env path ⟨state, ⟨.token token :: rest, back⟩ :: outer, none⟩)
    (h : Behind env ⟨state, ⟨.token token :: rest, back⟩ :: outer, none⟩ m') :
    m' = ⟨(processToken env (included env) state token).1, ⟨rest, back⟩ :: outer,
      (processToken env (included env) state token).2⟩ := by
  have hprocessed := reaches_processToken
    (entersAndLeaves_emit env (env.files.nodes.length + 1)) hm.fits token rest back outer
  have hlater := h.reaches
  obtain ⟨after, failure, rfl, -⟩ := h.outside
  -- Both moments are in one line, and as much is left of their texts.
  obtain hforward | hbackward := StateTransition.reaches_total hlater hprocessed
  · exact (eq_of_remaining_eq hforward rfl).symm
  · exact eq_of_remaining_eq hbackward rfl

/-- Behind a token a pass is in the state that processing the token leads to, and has failed if that
fails. -/
theorem Nested.behind {m m' : Moment} (hm : Nested env path m) {token : Token}
    (htoken : m.token? = some token) (h : Behind env m m') :
    m'.state = (processToken env (included env) m.state token).1 ∧
      m'.failure = (processToken env (included env) m.state token).2 := by
  obtain ⟨rest, back, outer, heq⟩ := token?_eq_some htoken
  rw [heq] at hm h
  rw [hm.eq_of_behind h]
  exact ⟨rfl, rfl⟩

end Hashmark.Pass.Moment

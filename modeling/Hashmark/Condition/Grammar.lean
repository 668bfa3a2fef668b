import Hashmark.Condition.Expr
import Hashmark.Condition.Token

/-!
# Grammar of expressions

Reading an expression from its words by recursive descent, one function for each level of
precedence: a choice, then `or`, `and`, `not`, comparisons, the six levels of operators with two
operands, signs, powers, and what may stand on its own. Every function answers what it has read and
the words behind it, or nothing. Its first argument bounds the depth of the descent; a descent from
one word to the next takes fewer than `stepsPerWord` steps, so that the bound is never reached.
-/

namespace Hashmark.Condition

/-- The words that have not been read yet. -/
abbrev Words := List Token

/-- Whether the first word is a symbol. -/
def atSymbol (s : String) : Words → Bool
  | .symbol t :: _ => t == s
  | _ => false

/-- Whether the first word is a keyword. -/
def atKeyword (s : String) : Words → Bool
  | .keyword t :: _ => t == s
  | _ => false

/-- The words behind a symbol. -/
def expectSymbol (s : String) : Words → Option Words
  | .symbol t :: ts => if t = s then some ts else none
  | _ => none

/-- The words behind a keyword. -/
def expectKeyword (s : String) : Words → Option Words
  | .keyword t :: ts => if t = s then some ts else none
  | _ => none

/-- Whether a name and a symbol begin the words. -/
def atNameThen (s : String) : Words → Bool
  | .name _ :: .symbol t :: _ => t == s
  | _ => false

/-- Whether a loop begins. -/
def atLoop (ts : List Token) : Bool :=
  atKeyword "for" ts || atKeyword "async" ts

/-- The operators of each level of precedence, from zero for the loosest. -/
def operatorAt? : Nat → Token → Option Value.BinaryOperator
  | 0, .symbol "|" => some .bitOr
  | 1, .symbol "^" => some .bitXor
  | 2, .symbol "&" => some .bitAnd
  | 3, .symbol "<<" => some .shiftLeft
  | 3, .symbol ">>" => some .shiftRight
  | 4, .symbol "+" => some .add
  | 4, .symbol "-" => some .subtract
  | 5, .symbol "*" => some .multiply
  | 5, .symbol "/" => some .divide
  | 5, .symbol "//" => some .floorDivide
  | 5, .symbol "%" => some .remainder
  | 5, .symbol "@" => some .matrixMultiply
  | _, _ => none

/-- The number of levels of operators with two operands. -/
def operatorLevels : Nat := 6

/-- The comparison at the start, and the words behind it. -/
def comparison? : Words → Option (Comparison × Words)
  | .symbol "==" :: ts => some (.equal, ts)
  | .symbol "!=" :: ts => some (.notEqual, ts)
  | .symbol "<" :: ts => some (.order .less, ts)
  | .symbol "<=" :: ts => some (.order .lessEqual, ts)
  | .symbol ">" :: ts => some (.order .greater, ts)
  | .symbol ">=" :: ts => some (.order .greaterEqual, ts)
  | .keyword "in" :: ts => some (.member, ts)
  | .keyword "not" :: .keyword "in" :: ts => some (.notMember, ts)
  | .keyword "is" :: .keyword "not" :: ts => some (.notIdentical, ts)
  | .keyword "is" :: ts => some (.identical, ts)
  | _ => none

/-- The sign at the start. -/
def sign? : Token → Option Value.UnaryOperator
  | .symbol "-" => some .minus
  | .symbol "+" => some .plus
  | .symbol "~" => some .invert
  | _ => none

mutual

/-- Whether an expression may stand where a loop puts its values: a name, a part of something, or
such targets between brackets, where each may be starred. -/
def isTarget : Expr → Bool
  | .name _ => true
  | .other .attribute => true
  | .other .subscript => true
  | .tuple items => areTargets items
  | .list items => areTargets items
  | _ => false

/-- Whether all expressions are targets or starred targets. -/
def areTargets : List Expr → Bool
  | [] => true
  | .starred e :: es => isTarget e && areTargets es
  | e :: es => isTarget e && areTargets es

end

/-- One operand, or several under a connective. -/
def connectedOf (connective : Connective) : List Expr → Expr
  | [e] => e
  | es => .connected connective es

/-- The quotations at the start. -/
def quotations : Words → List Quotation × List Token
  | .quotation q :: ts =>
    let (qs, rest) := quotations ts
    (q :: qs, rest)
  | ts => ([], ts)

/-- What quotations one behind the other stand for: bytes only go with bytes. -/
def joinQuotations? (qs : List Quotation) : Option Expr :=
  let bytes := qs.filterMap fun
    | .bytes bs => some bs
    | _ => none
  let texts := qs.filterMap fun
    | .text s => some s
    | _ => none
  if bytes.length = qs.length then some (.constant (.bytes bytes.flatten))
  else if !bytes.isEmpty then none
  else if texts.length = qs.length then some (.constant (.text (String.join texts)))
  else some (.other .formattedText)

/-- Where the parameters of a function have got to. -/
structure Parameters where
  /-- Whether a star has been passed. -/
  starred : Bool
  /-- Whether a parameter with a default has been passed. -/
  defaulted : Bool
  /-- Whether a slash may follow: there are parameters, and no slash and no star yet. -/
  slashAllowed : Bool
  /-- Whether a slash has been passed. -/
  slashed : Bool

/-- Where the arguments of a call have got to: none yet, only arguments by place, some by name, or
an unpacked dictionary. -/
inductive ArgumentPhase where
  /-- Before the first argument. -/
  | first
  /-- Arguments by place. -/
  | placed
  /-- Behind an argument by name. -/
  | named
  /-- Behind an unpacked dictionary. -/
  | unpacked
  deriving DecidableEq

mutual

/-- An expression: a choice, a disjunction, or a function. -/
def expression : Nat → Words → Option (Expr × Words)
  | 0, _ => none
  | n + 1, ts =>
    if atKeyword "lambda" ts then do
      let ts ← parameters n ⟨false, false, false, false⟩ (ts.drop 1)
      let ts ← expectSymbol ":" ts
      let (_, ts) ← expression n ts
      some (.other .function, ts)
    else do
      let (whenTrue, ts) ← disjunction n ts
      if atKeyword "if" ts then
        let (test, ts) ← disjunction n (ts.drop 1)
        let ts ← expectKeyword "else" ts
        let (whenFalse, ts) ← expression n ts
        some (.choice test whenTrue whenFalse, ts)
      else some (whenTrue, ts)

/-- An expression, or one that is given a name. -/
def namedExpression : Nat → Words → Option (Expr × Words)
  | 0, _ => none
  | n + 1, ts =>
    if atNameThen ":=" ts then do
      let (_, ts) ← expression n (ts.drop 2)
      some (.other .namedExpression, ts)
    else expression n ts

/-- A member of a display: an expression that may be named, or a starred operand. -/
def displayItem : Nat → Words → Option (Expr × Words)
  | 0, _ => none
  | n + 1, ts =>
    if atSymbol "*" ts then do
      let (e, ts) ← operation n 0 (ts.drop 1)
      some (.starred e, ts)
    else namedExpression n ts

/-- The further members of a display, each behind a comma; the last comma may stand alone before
`close`. -/
def displayRest : Nat → String → Words → Option (List Expr × Words)
  | 0, _, _ => none
  | n + 1, close, ts =>
    match expectSymbol close ts with
    | some ts => some ([], ts)
    | none => do
      let ts ← expectSymbol "," ts
      match expectSymbol close ts with
      | some ts => some ([], ts)
      | none =>
        let (e, ts) ← displayItem n ts
        let (es, ts) ← displayRest n close ts
        some (e :: es, ts)

/-- Operands under `or`. -/
def disjunction : Nat → Words → Option (Expr × Words)
  | 0, _ => none
  | n + 1, ts => do
    let (e, ts) ← conjunction n ts
    let (es, ts) ← disjunctionRest n ts
    some (connectedOf .or (e :: es), ts)

/-- The further operands under `or`. -/
def disjunctionRest : Nat → Words → Option (List Expr × Words)
  | 0, _ => none
  | n + 1, ts =>
    if atKeyword "or" ts then do
      let (e, ts) ← conjunction n (ts.drop 1)
      let (es, ts) ← disjunctionRest n ts
      some (e :: es, ts)
    else some ([], ts)

/-- Operands under `and`. -/
def conjunction : Nat → Words → Option (Expr × Words)
  | 0, _ => none
  | n + 1, ts => do
    let (e, ts) ← inversion n ts
    let (es, ts) ← conjunctionRest n ts
    some (connectedOf .and (e :: es), ts)

/-- The further operands under `and`. -/
def conjunctionRest : Nat → Words → Option (List Expr × Words)
  | 0, _ => none
  | n + 1, ts =>
    if atKeyword "and" ts then do
      let (e, ts) ← inversion n (ts.drop 1)
      let (es, ts) ← conjunctionRest n ts
      some (e :: es, ts)
    else some ([], ts)

/-- A comparison, negated or not. -/
def inversion : Nat → Words → Option (Expr × Words)
  | 0, _ => none
  | n + 1, ts =>
    if atKeyword "not" ts then do
      let (e, ts) ← inversion n (ts.drop 1)
      some (.unary .not e, ts)
    else do
      let (first, ts) ← operation n 0 ts
      let (links, ts) ← links n ts
      some (if links.isEmpty then first else .comparison first links, ts)

/-- The links of a chain of comparisons. -/
def links : Nat → Words → Option (List (Comparison × Expr) × Words)
  | 0, _ => none
  | n + 1, ts =>
    match comparison? ts with
    | none => some ([], ts)
    | some (c, ts) => do
      let (e, ts) ← operation n 0 ts
      let (rest, ts) ← links n ts
      some ((c, e) :: rest, ts)

/-- Operands under the operators of a level of precedence. -/
def operation : Nat → Nat → Words → Option (Expr × Words)
  | 0, _, _ => none
  | n + 1, level, ts =>
    if level = operatorLevels then signed n ts
    else do
      let (left, ts) ← operation n (level + 1) ts
      operationRest n level left ts

/-- The further operands under the operators of a level, taken from the left. -/
def operationRest : Nat → Nat → Expr → Words → Option (Expr × Words)
  | 0, _, _, _ => none
  | n + 1, level, left, ts =>
    match ts.head?.bind (operatorAt? level) with
    | none => some (left, ts)
    | some operator => do
      let (right, ts) ← operation n (level + 1) (ts.drop 1)
      operationRest n level (.binary operator left right) ts

/-- A power behind signs. -/
def signed : Nat → Words → Option (Expr × Words)
  | 0, _ => none
  | n + 1, ts =>
    match ts.head?.bind sign? with
    | some operator => do
      let (e, ts) ← signed n (ts.drop 1)
      some (.unary operator e, ts)
    | none => do
      let (base, ts) ← if atKeyword "await" ts then do
          let (_, ts) ← primary n (ts.drop 1)
          some (Expr.other .await, ts)
        else primary n ts
      if atSymbol "**" ts then
        -- A power binds more tightly than a sign on its left, but not than one on its right.
        let (exponent, ts) ← signed n (ts.drop 1)
        some (.binary .power base exponent, ts)
      else some (base, ts)

/-- An atom with its members, calls and parts. -/
def primary : Nat → Words → Option (Expr × Words)
  | 0, _ => none
  | n + 1, ts => do
    let (e, ts) ← atom n ts
    trailers n e ts

/-- The members, calls and parts behind an expression. -/
def trailers : Nat → Expr → Words → Option (Expr × Words)
  | 0, _, _ => none
  | n + 1, e, ts =>
    match ts with
    | .symbol "." :: .name _ :: ts => trailers n (.other .attribute) ts
    | .symbol "." :: _ => none
    | .symbol "(" :: ts => do
      let ((positional, hasNamed), ts) ← arguments n .first ts
      trailers n (.call e positional hasNamed) ts
    | .symbol "[" :: ts => do
      let ts ← slices n ts
      trailers n (.other .subscript) ts
    | _ => some (e, ts)

/-- What may stand on its own: names, values, and what is between brackets. -/
def atom : Nat → Words → Option (Expr × Words)
  | 0, _ => none
  | n + 1, ts =>
    match ts with
    | .name s :: ts => some (.name s, ts)
    | .number v :: ts => some (.constant v, ts)
    | .keyword "True" :: ts => some (.constant (.bool true), ts)
    | .keyword "False" :: ts => some (.constant (.bool false), ts)
    | .keyword "None" :: ts => some (.constant .none, ts)
    | .symbol "..." :: ts => some (.constant .ellipsis, ts)
    | .symbol "(" :: ts => group n ts
    | .symbol "[" :: ts => listDisplay n ts
    | .symbol "\x7b" :: ts => braces n ts
    | .quotation _ :: _ => do
      let (qs, rest) := quotations ts
      let e ← joinQuotations? qs
      some (e, rest)
    | _ => none

/-- What is between parentheses, from behind the opening one on. -/
def group : Nat → Words → Option (Expr × Words)
  | 0, _ => none
  | n + 1, ts =>
    match expectSymbol ")" ts with
    | some ts => some (.tuple [], ts)
    | none =>
      if atKeyword "yield" ts then yielding n (ts.drop 1)
      else do
        let (first, ts) ← displayItem n ts
        let starred := match first with
          | .starred _ => true
          | _ => false
        if atLoop ts then
          if starred then none
          else
            let ts ← loops n ts
            let ts ← expectSymbol ")" ts
            some (.other .generator, ts)
        else if atSymbol "," ts then
          let (rest, ts) ← displayRest n ")" ts
          some (.tuple (first :: rest), ts)
        -- A starred operand stands only among the members of a tuple.
        else if starred then none
        else
          let ts ← expectSymbol ")" ts
          some (first, ts)

/-- What follows `yield` between parentheses, up to the closing one. -/
def yielding : Nat → Words → Option (Expr × Words)
  | 0, _ => none
  | n + 1, ts =>
    match expectSymbol ")" ts with
    | some ts => some (.other .yield, ts)
    | none =>
      match expectKeyword "from" ts with
      | some ts => do
        let (_, ts) ← expression n ts
        let ts ← expectSymbol ")" ts
        some (.other .yieldFrom, ts)
      | none =>
        if atNameThen ":=" ts then none
        else do
          let (_, ts) ← displayItem n ts
          yieldedRest n ts

/-- The further values that are handed out, none of which may be named. -/
def yieldedRest : Nat → Words → Option (Expr × Words)
  | 0, _ => none
  | n + 1, ts =>
    match expectSymbol ")" ts with
    | some ts => some (.other .yield, ts)
    | none => do
      let ts ← expectSymbol "," ts
      match expectSymbol ")" ts with
      | some ts => some (.other .yield, ts)
      | none =>
        if atNameThen ":=" ts then none
        else
          let (_, ts) ← displayItem n ts
          yieldedRest n ts

/-- What is between square brackets, from behind the opening one on. -/
def listDisplay : Nat → Words → Option (Expr × Words)
  | 0, _ => none
  | n + 1, ts =>
    match expectSymbol "]" ts with
    | some ts => some (.list [], ts)
    | none => do
      let (first, ts) ← displayItem n ts
      if atLoop ts then
        match first with
        | .starred _ => none
        | _ =>
          let ts ← loops n ts
          let ts ← expectSymbol "]" ts
          some (.other .listComprehension, ts)
      else
        let (rest, ts) ← displayRest n "]" ts
        some (.list (first :: rest), ts)

/-- What is between braces, from behind the opening one on. -/
def braces : Nat → Words → Option (Expr × Words)
  | 0, _ => none
  | n + 1, ts =>
    match expectSymbol "\x7d" ts with
    | some ts => some (.dict [], ts)
    | none =>
      if atSymbol "**" ts then do
        let (entry, ts) ← dictEntry n ts
        let (rest, ts) ← dictRest n ts
        some (.dict (entry :: rest), ts)
      else do
        let named := atNameThen ":=" ts
        let (first, ts) ← displayItem n ts
        let starred := match first with
          | .starred _ => true
          | _ => false
        -- Behind a key stands its value; the first member of a set may be named or starred.
        if atSymbol ":" ts && !named && !starred then
          let (value, ts) ← expression n (ts.drop 1)
          if atLoop ts then
            let ts ← loops n ts
            let ts ← expectSymbol "\x7d" ts
            some (.other .dictComprehension, ts)
          else
            let (rest, ts) ← dictRest n ts
            some (.dict ((some first, value) :: rest), ts)
        else if atLoop ts then
          if starred then none
          else
            let ts ← loops n ts
            let ts ← expectSymbol "\x7d" ts
            some (.other .setComprehension, ts)
        else
          let (rest, ts) ← displayRest n "\x7d" ts
          some (.set (first :: rest), ts)

/-- An entry of a dictionary. -/
def dictEntry : Nat → Words → Option ((Option Expr × Expr) × Words)
  | 0, _ => none
  | n + 1, ts =>
    if atSymbol "**" ts then do
      let (e, ts) ← operation n 0 (ts.drop 1)
      some ((none, e), ts)
    else do
      let (key, ts) ← expression n ts
      let ts ← expectSymbol ":" ts
      let (value, ts) ← expression n ts
      some ((some key, value), ts)

/-- The further entries of a dictionary, up to the closing brace. -/
def dictRest : Nat → Words → Option (List (Option Expr × Expr) × Words)
  | 0, _ => none
  | n + 1, ts =>
    match expectSymbol "\x7d" ts with
    | some ts => some ([], ts)
    | none => do
      let ts ← expectSymbol "," ts
      match expectSymbol "\x7d" ts with
      | some ts => some ([], ts)
      | none =>
        let (entry, ts) ← dictEntry n ts
        let (rest, ts) ← dictRest n ts
        some (entry :: rest, ts)

/-- The loops of a comprehension, with their conditions: the words behind them. -/
def loops : Nat → Words → Option Words
  | 0, _ => none
  | n + 1, ts => do
    let ts := if atKeyword "async" ts then ts.drop 1 else ts
    let ts ← expectKeyword "for" ts
    let ts ← targets n ts
    let ts ← expectKeyword "in" ts
    let (_, ts) ← disjunction n ts
    let ts ← loopConditions n ts
    if atLoop ts then loops n ts else some ts

/-- The conditions of a loop: the words behind them. -/
def loopConditions : Nat → Words → Option Words
  | 0, _ => none
  | n + 1, ts =>
    if atKeyword "if" ts then do
      let (_, ts) ← disjunction n (ts.drop 1)
      loopConditions n ts
    else some ts

/-- The targets of a loop: the words behind them. -/
def targets : Nat → Words → Option Words
  | 0, _ => none
  | n + 1, ts => do
    let ts := if atSymbol "*" ts then ts.drop 1 else ts
    let (e, ts) ← primary n ts
    if !isTarget e then none
    else match expectSymbol "," ts with
      | none => some ts
      -- The last comma may stand alone.
      | some ts => if atKeyword "in" ts then some ts else targets n ts

/-- The arguments of a call, up to the closing parenthesis: those by place, and whether there are
others. -/
def arguments : Nat → ArgumentPhase → Words → Option ((List Expr × Bool) × Words)
  | 0, _, _ => none
  | n + 1, phase, ts =>
    match expectSymbol ")" ts with
    | some ts => some (([], false), ts)
    | none =>
      if atSymbol "*" ts then
        if phase = .unpacked then none
        else do
          let (e, ts) ← expression n (ts.drop 1)
          let ((es, named), ts) ← argumentsRest n (if phase = .first then .placed else phase) ts
          some ((.starred e :: es, named), ts)
      else if atSymbol "**" ts then do
        let (_, ts) ← expression n (ts.drop 1)
        let ((es, _), ts) ← argumentsRest n .unpacked ts
        some ((es, true), ts)
      else if atNameThen "=" ts then do
        let (_, ts) ← expression n (ts.drop 2)
        let ((es, _), ts) ← argumentsRest n (if phase = .unpacked then phase else .named) ts
        some ((es, true), ts)
      -- Arguments by place come before all others.
      else if phase = .named || phase = .unpacked then none
      else do
        let (e, ts) ← namedExpression n ts
        if atLoop ts then
          -- A loop without brackets of its own makes the only argument.
          if phase = .first then
            let ts ← loops n ts
            let ts ← expectSymbol ")" ts
            some (([.other .generator], false), ts)
          else none
        else
          let ((es, named), ts) ← argumentsRest n .placed ts
          some ((e :: es, named), ts)

/-- What follows an argument: the closing parenthesis, or a comma and further arguments. -/
def argumentsRest : Nat → ArgumentPhase → Words → Option ((List Expr × Bool) × Words)
  | 0, _, _ => none
  | n + 1, phase, ts =>
    match expectSymbol ")" ts with
    | some ts => some (([], false), ts)
    | none => do
      let ts ← expectSymbol "," ts
      arguments n phase ts

/-- The parts between square brackets behind an expression: the words behind them. -/
def slices : Nat → Words → Option Words
  | 0, _ => none
  | n + 1, ts => do
    let ts ← if atSymbol "*" ts then (expression n (ts.drop 1)).map Prod.snd else slice n ts
    match expectSymbol "]" ts with
    | some ts => some ts
    | none =>
      let ts ← expectSymbol "," ts
      match expectSymbol "]" ts with
      | some ts => some ts
      | none => slices n ts

/-- One part: an expression that may be named, or two or three bounds between colons, each of which
may be left out. -/
def slice : Nat → Words → Option Words
  | 0, _ => none
  | n + 1, ts => do
    let named := atNameThen ":=" ts
    let ts ← if atSymbol ":" ts then some ts else (namedExpression n ts).map Prod.snd
    if atSymbol ":" ts && !named then
      let ts ← bound n (ts.drop 1)
      if atSymbol ":" ts then bound n (ts.drop 1) else some ts
    else some ts

/-- A bound that may be left out. -/
def bound : Nat → Words → Option Words
  | 0, _ => none
  | n + 1, ts =>
    if atSymbol ":" ts || atSymbol "," ts || atSymbol "]" ts then some ts
    else (expression n ts).map Prod.snd

/-- The parameters of a function, up to the colon. -/
def parameters : Nat → Parameters → Words → Option Words
  | 0, _, _ => none
  | n + 1, state, ts =>
    match ts with
    | .symbol ":" :: _ => some ts
    | .symbol "/" :: ts =>
      if state.slashAllowed then
        parametersRest n { state with slashAllowed := false, slashed := true } ts
      else none
    | .symbol "*" :: .symbol "," :: .name s :: ts =>
      if state.starred then none
      else parameters n { state with starred := true, slashAllowed := false } (.name s :: ts)
    | .symbol "*" :: .name _ :: ts =>
      if state.starred then none
      else parametersRest n { state with starred := true, slashAllowed := false } ts
    | .symbol "**" :: .name _ :: ts =>
      match expectSymbol "," ts with
      | some ts => if atSymbol ":" ts then some ts else none
      | none => if atSymbol ":" ts then some ts else none
    | .name _ :: .symbol "=" :: ts => do
      let (_, ts) ← expression n ts
      parametersRest n { state with
        defaulted := true, slashAllowed := !state.starred && !state.slashed } ts
    | .name _ :: ts =>
      if state.defaulted && !state.starred then none
      else parametersRest n { state with slashAllowed := !state.starred && !state.slashed } ts
    | _ => none

/-- What follows a parameter: the colon, or a comma and further parameters. -/
def parametersRest : Nat → Parameters → Words → Option Words
  | 0, _, _ => none
  | n + 1, state, ts =>
    match expectSymbol "," ts with
    | some ts => parameters n state ts
    | none => if atSymbol ":" ts then some ts else none

end

/-- Expressions with commas between them, the last of which may stand alone. -/
def expressionsRest (steps : Nat) : Nat → Words → Option (List Expr × Words)
  | 0, _ => none
  | bound + 1, ts =>
    match expectSymbol "," ts with
    | none => some ([], ts)
    | some ts =>
      match ts with
      | [] => some ([], ts)
      | .newline :: _ => some ([], ts)
      | _ => do
        let (e, ts) ← expression steps ts
        let (es, ts) ← expressionsRest steps bound ts
        some (e :: es, ts)

/-- More steps than a descent takes from one word to the next. -/
def stepsPerWord : Nat := 32

/-- The expression that words make up, line ends behind it being passed over. -/
def ofWords? (ts : List Token) : Option Expr := do
  let steps := stepsPerWord * (ts.length + 1)
  let (e, rest) ← expression steps ts
  let tuple := atSymbol "," rest
  let (es, rest) ← expressionsRest steps steps rest
  if rest.all (fun | .newline => true | _ => false) then
    some (if tuple then .tuple (e :: es) else e)
  else none

/-- The expressions in the fields of formatted texts. -/
def fieldsOf (ts : List Token) : List (List Char) :=
  ts.flatMap fun
    | .quotation (.formatted fields) => fields
    | _ => []

/-- The expression that a text writes, where formatted texts are nested to less than `depth`. -/
def parseWithin : Nat → List Char → Option Expr
  | 0, _ => none
  | depth + 1, text => do
    let ts ← words? text
    let e ← ofWords? ts
    if (fieldsOf ts).all fun field => (parseWithin depth ('(' :: field ++ [')'])).isSome then
      some e
    else none

/-- The expression that a text writes; nothing if it writes none. -/
def parse? (text : List Char) : Option Expr :=
  parseWithin (text.length + 1) text

end Hashmark.Condition

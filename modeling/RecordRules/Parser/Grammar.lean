import RecordRules.Parser.Token

namespace RecordRules.Parser

/-- The parsers for parts that are nested in a part of the rule. -/
structure Deeper where
  expression : Parser Expr
  signed : Parser Expr
  negated : Parser Expr

def maxHeight : Nat := 128

/-- The expression, unless it has too many levels. -/
def bounded (e : Expr) : Parser Expr := fun cursor =>
  if maxHeight < e.height then .cut [.lessHeight] cursor else .ok e cursor

def joined (lhs rhs : Expr) : Span :=
  ⟨lhs.span.start, rhs.span.stop⟩

def comma : Parser Unit := do
  space
  character ','

def closing (c : Char) : Parser Unit := do
  space
  expecting (.character c) (cut (character c))

def lambda (expression : Parser Expr) : Parser Expr := do
  let ((param, body), span) ← spanned do
    space
    let param ← identifier
    space
    word ['=', '>']
    let body ← expecting .lambdaBody (cut expression)
    pure (param, body)
  pure (.lambda (.over span [body]) param body)

def arguments (expression : Parser Expr) : Parser (List Expr) := do
  character '('
  space
  match ← opt (character ')') with
  | some () => pure []
  | none =>
    let args ← expecting .arguments <| cut <|
      orElse (do return [← lambda expression]) (separated1 expression comma)
    closing ')'
    pure args

/-- A name that is not reserved. -/
def freeName : Parser (String × Span) := fun cursor =>
  match spanned identifier cursor with
  | .ok (name, span) after =>
    if reserved.contains name then .backtrack [] cursor else .ok (name, span) after
  | reply => reply

/-- A truth value, a call, or a name alone. -/
def named (expression : Parser Expr) : Parser Expr := do
  let (name, span) ← freeName
  if name == "true" then pure (.literal (.over span []) (.bool true))
  else if name == "false" then pure (.literal (.over span []) (.bool false))
  else
    match ← opt (spanned do space; arguments expression) with
    | some (args, argsSpan) => pure (.call (.over ⟨span.start, argsSpan.stop⟩ args) name args)
    | none => pure (.ident (.over span []) name)

def group (expression : Parser Expr) : Parser Expr := do
  character '('
  let e ← expression
  closing ')'
  pure e

def literal {α : Type} (p : Parser α) (toLiteral : α → Literal) : Parser Expr := do
  let (value, span) ← spanned p
  pure (.literal (.over span []) (toLiteral value))

def primary (expression : Parser Expr) : Parser Expr := do
  space
  expecting .expression <|
    orElse (group expression) <|
    orElse (literal stringLiteral .string) <|
    orElse (literal number id) (named expression)

/-- The next member access or method call on an expression. -/
def suffix (expression : Parser Expr) (target : Expr) : Parser Expr := do
  space
  character '.'
  space
  let ((name, args), span) ← spanned do
    let name ← expecting .memberName (cut identifier)
    let args ← opt do
      space
      arguments expression
    pure (name, args)
  let span := ⟨target.span.start, span.stop⟩
  match args with
  | some args => bounded (.method (.over span (target :: args)) target name args)
  | none => bounded (.member (.over span [target]) target name)

def suffixed (expression : Parser Expr) : Parser Expr := do
  let target ← primary expression
  iterate (suffix expression) target

def signed (deeper : Deeper) : Parser Expr := do
  space
  match ← opt (spanned do character '-'; cut (nested deeper.signed)) with
  | some (operand, span) => pure (.neg (.over span [operand]) operand)
  | none => suffixed deeper.expression

/-- A chain of operations of one rank, grouped from the left. -/
def chained (first : Expr) : List (ArithOp × Expr) → Parser Expr
  | [] => pure first
  | (op, operand) :: rest => do
    let e ← bounded (.arith (.over (joined first operand) [first, operand]) op first operand)
    chained e rest

def product (deeper : Deeper) : Parser Expr := do
  let first ← signed deeper
  let rest ← many do
    space
    let op ← multiplicativeOp
    let operand ← cut (signed deeper)
    pure (op, operand)
  chained first rest

def sum (deeper : Deeper) : Parser Expr := do
  let first ← product deeper
  let rest ← many do
    space
    let op ← additiveOp
    let operand ← cut (product deeper)
    pure (op, operand)
  chained first rest

def listOfValues (expression : Parser Expr) : Parser (List Expr) := do
  space
  character '['
  let values ← separated1 expression comma
  space
  character ']'
  pure values

def comparison (deeper : Deeper) : Parser Expr := do
  let lhs ← sum deeper
  match ← opt (do space; compareOp) with
  | some op =>
    let rhs ← expecting .value (cut (sum deeper))
    pure (.compare (.over (joined lhs rhs) [lhs, rhs]) op lhs rhs)
  | none =>
    match ← opt (do space; orElse (keyword ['i', 'n']) (keyword ['I', 'N'])) with
    | some () =>
      let (set, span) ← spanned (expecting .listOfValues (cut (listOfValues deeper.expression)))
      pure (.within (.over ⟨lhs.span.start, span.stop⟩ (lhs :: set)) lhs set)
    | none => pure lhs

def negated (deeper : Deeper) : Parser Expr := do
  space
  let sign := orElse (character '!') <|
    orElse (keyword ['n', 'o', 't']) (keyword ['N', 'O', 'T'])
  match ← opt (spanned do sign; cut (nested deeper.negated)) with
  | some (operand, span) => pure (.not (.over span [operand]) operand)
  | none => comparison deeper

/-- The operands of a chain as one flat expression. -/
def connected (make : Mark → List Expr → Expr) (first : Expr) (rest : List Expr) : Expr :=
  match rest.getLast? with
  | some last => make (.over (joined first last) (first :: rest)) (first :: rest)
  | none => first

def conjunction (deeper : Deeper) : Parser Expr := do
  let first ← negated deeper
  let sign := orElse (word ['&', '&']) <|
    orElse (keyword ['a', 'n', 'd']) (keyword ['A', 'N', 'D'])
  let rest ← many do
    space
    sign
    cut (negated deeper)
  pure (connected .and first rest)

def disjunction (deeper : Deeper) : Parser Expr := do
  let first ← conjunction deeper
  let sign := orElse (word ['|', '|']) <|
    orElse (keyword ['o', 'r']) (keyword ['O', 'R'])
  let rest ← many do
    space
    sign
    cut (conjunction deeper)
  pure (connected .or first rest)

def expression (deeper : Deeper) : Parser Expr :=
  nested do
    space
    let e ← disjunction deeper
    bounded e

/-- The parsers for nested parts, where so many levels of nesting are left. -/
def deeper : Nat → Deeper
  | 0 => ⟨fail, fail, fail⟩
  | levels + 1 =>
    let below := deeper levels
    ⟨expression below, signed below, negated below⟩

def rule : Parser Expr := do
  let e ← expression (deeper maxNesting)
  space
  expecting .endOfRule (cut endOfText)
  pure e

end RecordRules.Parser

import RecordRules.Parse

namespace RecordRules

/-- The mark of an expression that stands nowhere. -/
def Mark.none : Mark :=
  ⟨⟨0, 0⟩, 0⟩

mutual

/-- The expression without its marks. -/
def Expr.unmarked : Expr → Expr
  | .literal _ value => .literal .none value
  | .ident _ name => .ident .none name
  | .member _ target name => .member .none target.unmarked name
  | .call _ name args => .call .none name (unmarkedEach args)
  | .method _ target name args => .method .none target.unmarked name (unmarkedEach args)
  | .lambda _ param body => .lambda .none param body.unmarked
  | .not _ operand => .not .none operand.unmarked
  | .neg _ operand => .neg .none operand.unmarked
  | .and _ operands => .and .none (unmarkedEach operands)
  | .or _ operands => .or .none (unmarkedEach operands)
  | .compare _ op lhs rhs => .compare .none op lhs.unmarked rhs.unmarked
  | .arith _ op lhs rhs => .arith .none op lhs.unmarked rhs.unmarked
  | .within _ needle set => .within .none needle.unmarked (unmarkedEach set)

def unmarkedEach : List Expr → List Expr
  | [] => []
  | e :: rest => e.unmarked :: unmarkedEach rest

end

/-- The text after the white space at its beginning. -/
def Text.skip (cs : List Char) : List Char :=
  cs.dropWhile isBlank

namespace Grammar

open RecordRules.Parser (isIdentifierStart isIdentifierPart digitsValue reserved)

/-- The text goes on with these characters, after white space. -/
def Symbol (symbol cs rest : List Char) : Prop :=
  Text.skip cs = symbol ++ rest

/-- The text does not go on with a character of the class. -/
def Ends (accepts : Char → Bool) (rest : List Char) : Prop :=
  ∀ c ∈ rest.head?, accepts c = false

/-- A word that is not the beginning of an identifier. -/
def Keyword (word cs rest : List Char) : Prop :=
  Symbol word cs rest ∧ Ends isIdentifierPart rest

def IsIdentifier : List Char → Prop
  | [] => False
  | first :: others => isIdentifierStart first ∧ others.all isIdentifierPart

instance : DecidablePred IsIdentifier
  | [] => inferInstanceAs (Decidable False)
  | first :: others =>
    inferInstanceAs (Decidable (isIdentifierStart first ∧ others.all isIdentifierPart))

/-- An identifier, as long as it goes. -/
structure Name (name : String) (cs rest : List Char) : Prop where
  identifier : IsIdentifier name.toList
  symbol : Symbol name.toList cs rest
  ends : Ends isIdentifierPart rest

def truthValues : List (String × Bool) :=
  [("true", true), ("false", false)]

/-- A name that may stand alone. -/
def IsFree (name : String) : Prop :=
  name ∉ reserved ∧ name ∉ truthValues.map Prod.fst

def Digits (digits : List Char) : Prop :=
  digits ≠ [] ∧ ∀ c ∈ digits, c.isDigit

/-- A point and a digit after it. -/
def Fraction (rest : List Char) : Prop :=
  ∃ digit others, rest = '.' :: digit :: others ∧ digit.isDigit

/-- Digits without a fraction, as long as they go. -/
structure Whole (digits cs rest : List Char) : Prop where
  all : Digits digits
  symbol : Symbol digits cs rest
  ends : Ends Char.isDigit rest
  noFraction : ¬ Fraction rest

/-- Digits with a fraction, as long as they go. -/
structure Decimal (whole fraction cs rest : List Char) : Prop where
  before : Digits whole
  after : Digits fraction
  symbol : Symbol (whole ++ '.' :: fraction) cs rest
  ends : Ends Char.isDigit rest

/-- The characters that may follow a backslash, and what both stand for. -/
def escapes : List (Char × Char) :=
  [('"', '"'), ('\\', '\\'), ('n', '\n'), ('t', '\t')]

/-- The text goes on with the inside of a string and the quote that ends it. -/
inductive Quoted : List Char → List Char → List Char → Prop
  | close {rest} : Quoted ('"' :: rest) [] rest
  | plain {c cs value rest} : c ≠ '"' → c ≠ '\\' → Quoted cs value rest →
    Quoted (c :: cs) (c :: value) rest
  | escape {c meaning cs value rest} : (c, meaning) ∈ escapes → Quoted cs value rest →
    Quoted ('\\' :: c :: cs) (meaning :: value) rest
  | noEscape {c cs value rest} : c ∉ escapes.map Prod.fst → Quoted cs value rest →
    Quoted ('\\' :: c :: cs) ('\\' :: c :: value) rest

/-- One of the symbols or of the words. -/
def Sign (symbols words : List (List Char)) (cs rest : List Char) : Prop :=
  (∃ symbol ∈ symbols, Symbol symbol cs rest) ∨ ∃ word ∈ words, Keyword word cs rest

def OrSign : List Char → List Char → Prop :=
  Sign [['|', '|']] [['o', 'r'], ['O', 'R']]

def AndSign : List Char → List Char → Prop :=
  Sign [['&', '&']] [['a', 'n', 'd'], ['A', 'N', 'D']]

def NotSign : List Char → List Char → Prop :=
  Sign [['!']] [['n', 'o', 't'], ['N', 'O', 'T']]

def InSign : List Char → List Char → Prop :=
  Sign [] [['i', 'n'], ['I', 'N']]

def compareSigns : List (CompareOp × List Char) :=
  [(.eq, ['=', '=']), (.ne, ['!', '=']), (.le, ['<', '=']), (.lt, ['<']), (.ge, ['>', '=']),
    (.gt, ['>'])]

def additiveSigns : List (ArithOp × List Char) :=
  [(.add, ['+']), (.sub, ['-'])]

def multiplicativeSigns : List (ArithOp × List Char) :=
  [(.mul, ['*']), (.div, ['/']), (.rem, ['%'])]

/-- A member access, or a call of a method with its arguments. -/
structure Suffix where
  name : String
  args : Option (List Expr)

def Suffix.on (target : Expr) (suffix : Suffix) : Expr :=
  match suffix.args with
  | some args => .method .none target suffix.name args
  | none => .member .none target suffix.name

/-- The operations of a chain, grouped from the left. -/
def grouped (first : Expr) (others : List (ArithOp × Expr)) : Expr :=
  others.foldl (fun lhs (op, rhs) => .arith .none op lhs rhs) first

/-- The operands of a chain as one flat expression, or the only one of them. -/
def flat (make : Mark → List Expr → Expr) (first : Expr) (others : List Expr) : Expr :=
  if others.isEmpty then first else make .none (first :: others)

inductive Nonterminal where
  | expression
  | disjunction
  | disjuncts
  | conjunction
  | conjuncts
  | negated
  | comparison
  | sum
  | summands
  | product
  | factors
  | signed
  | suffixed
  | suffixes
  | primary
  | arguments
  | expressions

abbrev Nonterminal.Tree : Nonterminal → Type
  | disjuncts | conjuncts | arguments | expressions => List Expr
  | summands | factors => List (ArithOp × Expr)
  | suffixes => List Suffix
  | _ => Expr

/-- The text begins with a phrase of the kind, which has the tree, and the rest comes after it.
The room is the number of nested parts that may be open in it. -/
inductive Derives : Nat → (p : Nonterminal) → List Char → p.Tree → List Char → Prop
  | expression {room cs e rest} : Derives room .disjunction cs e rest →
    Derives (room + 1) .expression cs e rest
  | disjunction {room cs first mid others rest} : Derives room .conjunction cs first mid →
    Derives room .disjuncts mid others rest →
    Derives room .disjunction cs (flat .or first others) rest
  | noDisjunct {room cs} : Derives room .disjuncts cs [] cs
  | disjunct {room cs start e mid others rest} : OrSign cs start →
    Derives room .conjunction start e mid → Derives room .disjuncts mid others rest →
    Derives room .disjuncts cs (e :: others) rest
  | conjunction {room cs first mid others rest} : Derives room .negated cs first mid →
    Derives room .conjuncts mid others rest →
    Derives room .conjunction cs (flat .and first others) rest
  | noConjunct {room cs} : Derives room .conjuncts cs [] cs
  | conjunct {room cs start e mid others rest} : AndSign cs start →
    Derives room .negated start e mid → Derives room .conjuncts mid others rest →
    Derives room .conjuncts cs (e :: others) rest
  | negation {room cs start e rest} : NotSign cs start → Derives room .negated start e rest →
    Derives (room + 1) .negated cs (.not .none e) rest
  | unnegated {room cs e rest} : Derives room .comparison cs e rest →
    Derives room .negated cs e rest
  | compare {room cs lhs mid op sign start rhs rest} : Derives room .sum cs lhs mid →
    (op, sign) ∈ compareSigns → Symbol sign mid start → Derives room .sum start rhs rest →
    Derives room .comparison cs (.compare .none op lhs rhs) rest
  | within {room cs needle mid list start set stop rest} : Derives room .sum cs needle mid →
    InSign mid list → Symbol ['['] list start → Derives room .expressions start set stop →
    Symbol [']'] stop rest → Derives room .comparison cs (.within .none needle set) rest
  | uncompared {room cs e rest} : Derives room .sum cs e rest → Derives room .comparison cs e rest
  | sum {room cs first mid others rest} : Derives room .product cs first mid →
    Derives room .summands mid others rest → Derives room .sum cs (grouped first others) rest
  | noSummand {room cs} : Derives room .summands cs [] cs
  | summand {room cs op sign start e mid others rest} : (op, sign) ∈ additiveSigns →
    Symbol sign cs start → Derives room .product start e mid →
    Derives room .summands mid others rest → Derives room .summands cs ((op, e) :: others) rest
  | product {room cs first mid others rest} : Derives room .signed cs first mid →
    Derives room .factors mid others rest → Derives room .product cs (grouped first others) rest
  | noFactor {room cs} : Derives room .factors cs [] cs
  | factor {room cs op sign start e mid others rest} : (op, sign) ∈ multiplicativeSigns →
    Symbol sign cs start → Derives room .signed start e mid →
    Derives room .factors mid others rest → Derives room .factors cs ((op, e) :: others) rest
  | negative {room cs start e rest} : Symbol ['-'] cs start → Derives room .signed start e rest →
    Derives (room + 1) .signed cs (.neg .none e) rest
  | unsigned {room cs e rest} : Derives room .suffixed cs e rest → Derives room .signed cs e rest
  | suffixed {room cs target mid suffixes rest} : Derives room .primary cs target mid →
    Derives room .suffixes mid suffixes rest →
    Derives room .suffixed cs (suffixes.foldl Suffix.on target) rest
  | noSuffix {room cs} : Derives room .suffixes cs [] cs
  | member {room cs start name mid others rest} : Symbol ['.'] cs start → Name name start mid →
    Derives room .suffixes mid others rest →
    Derives room .suffixes cs (⟨name, none⟩ :: others) rest
  | method {room cs start name list args mid others rest} : Symbol ['.'] cs start →
    Name name start list → Derives room .arguments list args mid →
    Derives room .suffixes mid others rest →
    Derives room .suffixes cs (⟨name, some args⟩ :: others) rest
  | group {room cs start e stop rest} : Symbol ['('] cs start →
    Derives room .expression start e stop → Symbol [')'] stop rest →
    Derives room .primary cs e rest
  | string {room cs start value rest} : Symbol ['"'] cs start → Quoted start value rest →
    Derives room .primary cs (.literal .none (.string (String.ofList value))) rest
  | int {room cs digits rest value} : Whole digits cs rest → value.toInt = (digitsValue digits : Int) →
    Derives room .primary cs (.literal .none (.int value)) rest
  | float {room cs whole fraction rest} : Decimal whole fraction cs rest →
    Derives room .primary cs (.literal .none (.float
      (Float.ofScientific (digitsValue (whole ++ fraction)) true fraction.length))) rest
  | bool {room cs name value rest} : (name, value) ∈ truthValues → Name name cs rest →
    Derives room .primary cs (.literal .none (.bool value)) rest
  | ident {room cs name rest} : Name name cs rest → IsFree name →
    Derives room .primary cs (.ident .none name) rest
  | call {room cs name list args rest} : Name name cs list → IsFree name →
    Derives room .arguments list args rest → Derives room .primary cs (.call .none name args) rest
  | noArguments {room cs stop rest} : Symbol ['('] cs stop → Symbol [')'] stop rest →
    Derives room .arguments cs [] rest
  | lambda {room cs start param arrow body e stop rest} : Symbol ['('] cs start →
    Name param start arrow → Symbol ['=', '>'] arrow body →
    Derives room .expression body e stop → Symbol [')'] stop rest →
    Derives room .arguments cs [.lambda .none param e] rest
  | arguments {room cs start args stop rest} : Symbol ['('] cs start →
    Derives room .expressions start args stop → Symbol [')'] stop rest →
    Derives room .arguments cs args rest
  | lastExpression {room cs e rest} : Derives room .expression cs e rest →
    Derives room .expressions cs [e] rest
  | moreExpressions {room cs e comma start others rest} : Derives room .expression cs e comma →
    Symbol [','] comma start → Derives room .expressions start others rest →
    Derives room .expressions cs (e :: others) rest

/-- The whole text is an expression. -/
def IsText (text : String) (e : Expr) : Prop :=
  ∃ rest, Derives Parser.maxNesting .expression text.toList e rest ∧ Text.skip rest = []

end Grammar

end RecordRules

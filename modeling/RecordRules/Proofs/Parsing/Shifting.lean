import RecordRules.Proofs.Parsing.Places

namespace RecordRules

def Span.shifted (bytes : Nat) (span : Span) : Span :=
  ⟨span.start + bytes, span.stop + bytes⟩

def Mark.shifted (bytes : Nat) (mark : Mark) : Mark :=
  ⟨mark.span.shifted bytes, mark.height⟩

namespace Expr

mutual

/-- The expression where it stands after so many bytes more. -/
def shifted (bytes : Nat) : Expr → Expr
  | literal mark value => literal (mark.shifted bytes) value
  | ident mark name => ident (mark.shifted bytes) name
  | member mark target name => member (mark.shifted bytes) (target.shifted bytes) name
  | call mark name args => call (mark.shifted bytes) name (shiftedEach bytes args)
  | method mark target name args =>
    method (mark.shifted bytes) (target.shifted bytes) name (shiftedEach bytes args)
  | lambda mark param body => lambda (mark.shifted bytes) param (body.shifted bytes)
  | not mark operand => not (mark.shifted bytes) (operand.shifted bytes)
  | neg mark operand => neg (mark.shifted bytes) (operand.shifted bytes)
  | and mark operands => and (mark.shifted bytes) (shiftedEach bytes operands)
  | or mark operands => or (mark.shifted bytes) (shiftedEach bytes operands)
  | compare mark op lhs rhs =>
    compare (mark.shifted bytes) op (lhs.shifted bytes) (rhs.shifted bytes)
  | arith mark op lhs rhs => arith (mark.shifted bytes) op (lhs.shifted bytes) (rhs.shifted bytes)
  | within mark needle set =>
    within (mark.shifted bytes) (needle.shifted bytes) (shiftedEach bytes set)

def shiftedEach (bytes : Nat) : List Expr → List Expr
  | [] => []
  | e :: rest => e.shifted bytes :: shiftedEach bytes rest

end

variable (bytes : Nat)

theorem shiftedEach_eq_map (es : List Expr) : shiftedEach bytes es = es.map (shifted bytes) := by
  induction es with
  | nil => rfl
  | cons e rest ih => rw [shiftedEach, ih, List.map_cons]

theorem mark_shifted (e : Expr) : (e.shifted bytes).mark = e.mark.shifted bytes := by
  cases e <;> rfl

theorem span_shifted (e : Expr) : (e.shifted bytes).span = e.span.shifted bytes := by
  rw [span, mark_shifted]
  rfl

/-- From where the expression starts up to where something else stops. -/
theorem upTo_shifted (e : Expr) (span : Span) :
    Span.mk (e.shifted bytes).span.start (span.shifted bytes).stop =
      (Span.mk e.span.start span.stop).shifted bytes := by
  rw [span_shifted]
  rfl

theorem height_shifted (e : Expr) : (e.shifted bytes).height = e.height := by
  rw [height, mark_shifted]
  rfl

end Expr

theorem Mark.over_shifted (bytes : Nat) (span : Span) (parts : List Expr) :
    Mark.over (span.shifted bytes) (parts.map (Expr.shifted bytes)) =
      (Mark.over span parts).shifted bytes := by
  have heights : (parts.map (Expr.shifted bytes)).map Expr.height = parts.map Expr.height := by
    rw [List.map_map]
    exact List.map_congr_left fun e _ => e.height_shifted bytes
  rw [Mark.over, heights]
  rfl

theorem Parser.joined_shifted (bytes : Nat) (lhs rhs : Expr) :
    joined (lhs.shifted bytes) (rhs.shifted bytes) = (joined lhs rhs).shifted bytes := by
  rw [joined, lhs.span_shifted, rhs.span_shifted]
  rfl

def Cursor.shifted (bytes : Nat) (cursor : Cursor) : Cursor :=
  { cursor with offset := cursor.offset + bytes }

namespace Reply

variable {α : Type}

/-- Where the parser stands, however it ended. -/
def cursor : Reply α → Cursor
  | ok _ cursor | backtrack _ cursor | cut _ cursor => cursor

def value? : Reply α → Option α
  | ok value _ => some value
  | _ => none

theorem eq_ok_of_value? {reply : Reply α} {a : α} (h : reply.value? = some a) :
    reply = ok a reply.cursor := by
  cases reply with
  | ok value cursor =>
    cases h
    rfl
  | _ => cases h

/-- The reply at a place so many bytes later, with the value that stands there. -/
def shifted (bytes : Nat) (move : α → α) : Reply α → Reply α
  | ok value cursor => ok (move value) (cursor.shifted bytes)
  | backtrack expected cursor => backtrack expected (cursor.shifted bytes)
  | cut expected cursor => cut expected (cursor.shifted bytes)

end Reply

theorem Parser.offsetAfter_add (cs : List Char) (offset bytes : Nat) :
    offsetAfter cs (offset + bytes) = offsetAfter cs offset + bytes := by
  rw [offsetAfter_eq_add, offsetAfter_eq_add, Nat.add_right_comm]

namespace Parser

variable {α β : Type} {bytes n : Nat}

/-! What the loops of the grammar repeat. -/

/-- One value more, the last one first. -/
def collecting (p : Parser α) (found : List α) : Parser (List α) := do
  return (← p) :: found

theorem many_eq (p : Parser α) : many p = (do
    let found ← iterate (collecting p) []
    pure found.reverse) :=
  rfl

/-- A further expression of a list. -/
def element (expression : Parser Expr) : Parser Expr := do
  comma
  expression

theorem expressions_eq (expression : Parser Expr) : separated1 expression comma = (do
    let first ← expression
    let others ← many (element expression)
    pure (first :: others)) :=
  rfl

/-- The sign of an operation of some rank, with its second operand. -/
def operation (op : Parser ArithOp) (lower : Parser Expr) : Parser (ArithOp × Expr) := do
  space
  let op ← op
  let operand ← cut lower
  pure (op, operand)

/-- The sign of a connective, with the operand after it. -/
def operand (sign : Parser Unit) (lower : Parser Expr) : Parser Expr := do
  space
  sign
  cut lower

def andSign : Parser Unit :=
  orElse (word ['&', '&']) (orElse (keyword ['a', 'n', 'd']) (keyword ['A', 'N', 'D']))

def orSign : Parser Unit :=
  orElse (word ['|', '|']) (orElse (keyword ['o', 'r']) (keyword ['O', 'R']))

def notSign : Parser Unit :=
  orElse (character '!') (orElse (keyword ['n', 'o', 't']) (keyword ['N', 'O', 'T']))

theorem product_eq (deeper : Deeper) : product deeper = (do
    let first ← signed deeper
    let rest ← many (operation multiplicativeOp (signed deeper))
    chained first rest) :=
  rfl

theorem sum_eq (deeper : Deeper) : sum deeper = (do
    let first ← product deeper
    let rest ← many (operation additiveOp (product deeper))
    chained first rest) :=
  rfl

theorem conjunction_eq (deeper : Deeper) : conjunction deeper = (do
    let first ← negated deeper
    let rest ← many (operand andSign (negated deeper))
    pure (connected .and first rest)) :=
  rfl

theorem disjunction_eq (deeper : Deeper) : disjunction deeper = (do
    let first ← conjunction deeper
    let rest ← many (operand orSign (conjunction deeper))
    pure (connected .or first rest)) :=
  rfl

/-- With so many parts open, the second parser does at a place so many bytes later what the first
one does. However they end, they close the parts that they open, so that to go back from an attempt
that failed is to go back in the text alone. -/
def Alike (bytes n : Nat) (move : α → α) (p q : Parser α) : Prop :=
  ∀ ⦃cursor : Cursor⦄, cursor.nesting = n → (p cursor).cursor.nesting = n ∧
    q (cursor.shifted bytes) = (p cursor).shifted bytes move

namespace Alike

variable {move : α → α} {move' : β → β} {p q p' q' : Parser α}

theorem pure {a b : α} (same : b = move a) : Alike bytes n move (Pure.pure a) (Pure.pure b) := by
  intro cursor hn
  rw [same]
  exact ⟨hn, rfl⟩

theorem fail : Alike bytes n move fail fail :=
  fun _ hn => ⟨hn, rfl⟩

theorem bind {f g : α → Parser β} (h : Alike bytes n move p q)
    (hf : ∀ a, Alike bytes n move' (f a) (g (move a))) :
    Alike bytes n move' (p >>= f) (q >>= g) := by
  intro cursor hn
  obtain ⟨kept, same⟩ := h hn
  change ((p cursor).bind f).cursor.nesting = n ∧
    (q (cursor.shifted bytes)).bind g = ((p cursor).bind f).shifted bytes move'
  rw [same]
  cases reply : p cursor with
  | ok a after =>
    rw [reply] at kept
    exact hf a kept
  | backtrack expected after | cut expected after =>
    rw [reply] at kept
    exact ⟨kept, rfl⟩

theorem cut (h : Alike bytes n move p q) : Alike bytes n move (cut p) (cut q) := by
  intro cursor hn
  obtain ⟨kept, same⟩ := h hn
  unfold Parser.cut
  rw [same]
  cases reply : p cursor with
  | ok | backtrack | cut =>
    rw [reply] at kept
    exact ⟨kept, rfl⟩

theorem expecting (what : Expectation) (h : Alike bytes n move p q) :
    Alike bytes n move (expecting what p) (expecting what q) := by
  intro cursor hn
  obtain ⟨kept, same⟩ := h hn
  unfold Parser.expecting
  rw [same]
  cases reply : p cursor with
  | ok | backtrack | cut =>
    rw [reply] at kept
    exact ⟨kept, rfl⟩

theorem opt (h : Alike bytes n move p q) : Alike bytes n (Option.map move) (opt p) (opt q) := by
  intro cursor hn
  obtain ⟨kept, same⟩ := h hn
  unfold Parser.opt
  rw [same]
  cases reply : p cursor with
  | ok | cut =>
    rw [reply] at kept
    exact ⟨kept, rfl⟩
  | backtrack => exact ⟨hn, rfl⟩

theorem orElse (h : Alike bytes n move p q) (h' : Alike bytes n move p' q') :
    Alike bytes n move (orElse p p') (orElse q q') := by
  intro cursor hn
  obtain ⟨kept, same⟩ := h hn
  unfold Parser.orElse
  rw [same]
  cases reply : p cursor with
  | ok | cut =>
    rw [reply] at kept
    exact ⟨kept, rfl⟩
  | backtrack => exact h' hn

theorem spanned (h : Alike bytes n move p q) :
    Alike bytes n (Prod.map move (Span.shifted bytes)) (spanned p) (spanned q) := by
  intro cursor hn
  obtain ⟨kept, same⟩ := h hn
  unfold Parser.spanned
  rw [same]
  cases reply : p cursor with
  | ok | backtrack | cut =>
    rw [reply] at kept
    exact ⟨kept, rfl⟩

/-- A part is nested only where not too many are, and the part is closed again. -/
theorem nested (h : n < maxNesting → Alike bytes (n + 1) move p q) :
    Alike bytes n move (nested p) (nested q) := by
  intro cursor hn
  subst hn
  unfold Parser.nested
  by_cases full : maxNesting ≤ cursor.nesting
  · have same : maxNesting ≤ (cursor.shifted bytes).nesting := full
    rw [if_pos full, if_pos same]
    exact ⟨rfl, rfl⟩
  · have same : ¬ maxNesting ≤ (cursor.shifted bytes).nesting := full
    rw [if_neg full, if_neg same]
    obtain ⟨kept, same⟩ :=
      @h (Nat.lt_of_not_le full) { cursor with nesting := cursor.nesting + 1 } rfl
    -- the part is opened in the later place as it is in the first one
    have inside : q { cursor.shifted bytes with nesting := cursor.nesting + 1 } = _ := same
    change _ ∧ (q { cursor.shifted bytes with nesting := cursor.nesting + 1 }).moved _ = _
    rw [inside]
    cases reply : p { cursor with nesting := cursor.nesting + 1 } with
    | ok a after | backtrack expected after | cut expected after =>
      rw [reply] at kept
      exact ⟨congrArg (· - 1) kept, rfl⟩

section Repeated

variable {step step' : α → Parser α} (h : ∀ a, Alike bytes n move (step a) (step' (move a)))

include h

theorem iterateUpTo (count : Nat) (a : α) :
    Alike bytes n move (iterateUpTo step count a) (iterateUpTo step' count (move a)) := by
  induction count generalizing a with
  | zero => exact pure rfl
  | succ count ih =>
    intro cursor hn
    obtain ⟨kept, same⟩ := h a hn
    unfold Parser.iterateUpTo
    rw [same]
    cases reply : step a cursor with
    | ok next after =>
      rw [reply] at kept
      exact ih next kept
    | backtrack => exact ⟨hn, rfl⟩
    | cut =>
      rw [reply] at kept
      exact ⟨kept, rfl⟩

/-- As much text is left in both places, so that the bound on the steps is the same. -/
theorem iterate (a : α) :
    Alike bytes n move (iterate step a) (iterate step' (move a)) :=
  fun cursor hn => iterateUpTo h (cursor.rest.length + 1) a hn

end Repeated

theorem collecting (h : Alike bytes n move p q) (found : List α) :
    Alike bytes n (List.map move) (collecting p found) (collecting q (found.map move)) :=
  bind h fun _ => pure rfl

theorem many (h : Alike bytes n move p q) : Alike bytes n (List.map move) (many p) (many q) := by
  rw [many_eq, many_eq]
  exact bind (iterate (collecting h) []) fun _ => pure List.map_reverse.symm

/-! Tokens are read the same everywhere. -/

section Tokens

theorem satisfy (accepts : Char → Bool) :
    Alike bytes n id (satisfy accepts) (satisfy accepts) := by
  rintro ⟨rest, offset, nesting⟩ hn
  unfold Parser.satisfy
  cases rest with
  | nil => exact ⟨hn, rfl⟩
  | cons c rest =>
    by_cases accepted : accepts c
    · simp only [Cursor.shifted, accepted, if_true, Reply.shifted, id_eq, Nat.add_right_comm,
        and_true]
      exact hn
    · simp only [Cursor.shifted, accepted]
      exact ⟨hn, rfl⟩

theorem character (c : Char) : Alike bytes n id (character c) (character c) :=
  bind (satisfy _) fun _ => pure rfl

theorem word (cs : List Char) : Alike bytes n id (word cs) (word cs) := by
  intro cursor hn
  unfold Parser.word
  by_cases isPrefix : cs.isPrefixOf cursor.rest
  · have same : cs.isPrefixOf (cursor.shifted bytes).rest := isPrefix
    rw [if_pos isPrefix, if_pos same]
    refine ⟨hn, ?_⟩
    simp only [Cursor.shifted, offsetAfter_add, Reply.shifted, id_eq]
  · have same : ¬ cs.isPrefixOf (cursor.shifted bytes).rest := isPrefix
    rw [if_neg isPrefix, if_neg same]
    exact ⟨hn, rfl⟩

theorem takeWhile (accepts : Char → Bool) :
    Alike bytes n id (takeWhile accepts) (takeWhile accepts) := by
  intro cursor hn
  refine ⟨hn, ?_⟩
  simp only [Parser.takeWhile, Cursor.shifted, offsetAfter_add, Reply.shifted, id_eq]

theorem takeWhile1 (accepts : Char → Bool) :
    Alike bytes n id (takeWhile1 accepts) (takeWhile1 accepts) :=
  bind (satisfy _) fun _ => bind (takeWhile _) fun _ => pure rfl

theorem notFollowedBy (accepts : Char → Bool) :
    Alike bytes n id (notFollowedBy accepts) (notFollowedBy accepts) := by
  rintro ⟨rest, offset, nesting⟩ hn
  unfold Parser.notFollowedBy
  cases rest with
  | nil => exact ⟨hn, rfl⟩
  | cons c rest =>
    by_cases accepted : accepts c
    · simp only [Cursor.shifted, accepted]
      exact ⟨hn, rfl⟩
    · simp only [Cursor.shifted, accepted]
      exact ⟨hn, rfl⟩

theorem space : Alike bytes n id space space :=
  bind (takeWhile _) fun _ => pure rfl

theorem identifier : Alike bytes n id identifier identifier :=
  bind (satisfy _) fun _ => bind (takeWhile _) fun _ => pure rfl

theorem keyword (cs : List Char) : Alike bytes n id (keyword cs) (keyword cs) :=
  bind (word _) fun _ => notFollowedBy _

theorem stringPiece : Alike bytes n id stringPiece stringPiece := by
  have plain {c : Char} (quote : c ≠ '"') (backslash : c ≠ '\\') (rest : List Char)
      (offset nesting : Nat) : Parser.stringPiece ⟨c :: rest, offset, nesting⟩ =
        .ok [c] ⟨rest, offset + c.utf8Size, nesting⟩ := by
    unfold Parser.stringPiece
    simp [backslash]
  rintro ⟨rest, offset, nesting⟩ hn
  cases rest with
  | nil => exact ⟨hn, rfl⟩
  | cons c rest =>
    by_cases quote : c = '"'
    · subst quote
      exact ⟨hn, rfl⟩
    by_cases backslash : c = '\\'
    · subst backslash
      cases rest with
      | nil =>
        refine ⟨hn, ?_⟩
        simp only [Parser.stringPiece, Cursor.shifted, Reply.shifted, Nat.add_right_comm]
      | cons d rest =>
        refine ⟨hn, ?_⟩
        simp only [Parser.stringPiece, Cursor.shifted, Reply.shifted, Nat.add_right_comm, id_eq]
    · rw [Cursor.shifted, plain quote backslash, plain quote backslash]
      refine ⟨hn, ?_⟩
      simp only [Cursor.shifted, Reply.shifted, Nat.add_right_comm, id_eq]

theorem stringLiteral : Alike bytes n id stringLiteral stringLiteral := by
  refine bind (character _) fun _ => bind (many stringPiece) fun pieces =>
    bind (character _) fun _ => pure ?_
  rw [List.map_id]
  rfl

theorem fitting (found : Option Int64) : Alike bytes n id (fitting found) (fitting found) := by
  cases found with
  | some value => exact pure rfl
  | none => exact cut fail

theorem number : Alike bytes n id number number := by
  refine bind (takeWhile1 _) fun whole =>
    bind (opt (bind (character _) fun _ => takeWhile1 _)) fun fraction => ?_
  cases fraction with
  | some digits => exact pure rfl
  | none => exact fitting _

/-- A sign stands for the same in both places. -/
theorem sign {p : Parser Unit} (h : Alike bytes n id p p) (a : α) :
    Alike bytes n id (do p; return a) (do p; return a) :=
  bind h fun _ => pure rfl

theorem compareOp : Alike bytes n id compareOp compareOp :=
  orElse (sign (word _) _) <| orElse (sign (word _) _) <| orElse (sign (word _) _) <|
    orElse (sign (word _) _) <| orElse (sign (word _) _) (sign (word _) _)

theorem additiveOp : Alike bytes n id additiveOp additiveOp :=
  orElse (sign (character _) _) (sign (character _) _)

theorem multiplicativeOp : Alike bytes n id multiplicativeOp multiplicativeOp :=
  orElse (sign (character _) _) <| orElse (sign (character _) _) (sign (character _) _)

/-- A word in small or in capital letters. -/
theorem words (small capital : List Char) :
    Alike bytes n id (Parser.orElse (Parser.keyword small) (Parser.keyword capital))
      (Parser.orElse (Parser.keyword small) (Parser.keyword capital)) :=
  orElse (keyword _) (keyword _)

theorem andSign : Alike bytes n id andSign andSign :=
  orElse (word _) (words _ _)

theorem orSign : Alike bytes n id orSign orSign :=
  orElse (word _) (words _ _)

theorem notSign : Alike bytes n id notSign notSign :=
  orElse (character _) (words _ _)

theorem comma : Alike bytes n id comma comma :=
  bind space fun _ => character _

theorem closing (c : Char) : Alike bytes n id (closing c) (closing c) :=
  bind space fun _ => expecting _ (cut (character c))

theorem freeName :
    Alike bytes n (Prod.map id (Span.shifted bytes)) freeName freeName := by
  intro cursor hn
  have spanned : Alike bytes n (Prod.map id (Span.shifted bytes)) _ _ := spanned identifier
  obtain ⟨kept, same⟩ := spanned hn
  unfold Parser.freeName
  rw [same]
  rcases reply : Parser.spanned Parser.identifier cursor with ⟨⟨name, span⟩, after⟩ | _ | _
  · rw [reply] at kept
    change (ite _ _ _ : Reply _).cursor.nesting = n ∧ ite _ _ _ = (ite _ _ _ : Reply _).shifted _ _
    by_cases taken : reserved.contains name
    · rw [if_pos taken]
      exact ⟨hn, if_pos taken⟩
    · rw [if_neg taken]
      exact ⟨kept, if_neg taken⟩
  · rw [reply] at kept
    exact ⟨kept, rfl⟩
  · rw [reply] at kept
    exact ⟨kept, rfl⟩

end Tokens

/-! A parser of expressions is passed on to the parsers of what is around them. -/

section Expressions

theorem bounded {e e' : Expr} (same : e' = e.shifted bytes) :
    Alike bytes n (Expr.shifted bytes) (bounded e) (bounded e') := by
  intro cursor hn
  unfold Parser.bounded
  rw [same, e.height_shifted]
  by_cases high : maxHeight < e.height
  · rw [if_pos high]
    exact ⟨hn, if_pos high⟩
  · rw [if_neg high]
    exact ⟨hn, if_neg high⟩

theorem literal {p : Parser α} (toLiteral : α → Literal) (h : Alike bytes n id p p) :
    Alike bytes n (Expr.shifted bytes) (literal p toLiteral) (literal p toLiteral) := by
  refine bind (spanned h) fun x => ?_
  obtain ⟨value, span⟩ := x
  exact pure rfl

variable {expr expr' : Parser Expr} (h : Alike bytes n (Expr.shifted bytes) expr expr')

include h

theorem lambda : Alike bytes n (Expr.shifted bytes) (lambda expr) (lambda expr') := by
  have pair (param : String) (body : Expr) : Alike bytes n (Prod.map id (Expr.shifted bytes))
      (Pure.pure (param, body)) (Pure.pure (param, body.shifted bytes)) := pure rfl
  refine bind (spanned (bind space fun _ => bind identifier fun param => bind space fun _ =>
    bind (word _) fun _ => bind (expecting _ (cut h)) fun body => pair param body)) fun x => ?_
  obtain ⟨⟨param, body⟩, span⟩ := x
  refine pure ?_
  exact congrArg (Expr.lambda · param _) (Mark.over_shifted bytes span [body])

theorem element : Alike bytes n (Expr.shifted bytes) (element expr) (element expr') :=
  bind comma fun _ => h

theorem expressions : Alike bytes n (List.map (Expr.shifted bytes))
    (Parser.separated1 expr Parser.comma) (Parser.separated1 expr' Parser.comma) := by
  rw [expressions_eq, expressions_eq]
  exact bind h fun _ => bind (many (element h)) fun _ => pure rfl

theorem onlyLambda : Alike bytes n (List.map (Expr.shifted bytes))
    (do return [← Parser.lambda expr]) (do return [← Parser.lambda expr']) :=
  bind (lambda h) fun _ => pure rfl

theorem arguments :
    Alike bytes n (List.map (Expr.shifted bytes)) (arguments expr) (arguments expr') := by
  refine bind (character _) fun _ => bind space fun _ => bind (opt (character _)) fun closed => ?_
  cases closed with
  | some => exact pure rfl
  | none =>
    exact bind (expecting _ (cut (orElse (onlyLambda h) (expressions h)))) fun args =>
      bind (closing _) fun _ => pure rfl

/-- The arguments of a call may stand apart from its name. -/
theorem callArguments : Alike bytes n (List.map (Expr.shifted bytes))
    (do Parser.space; Parser.arguments expr) (do Parser.space; Parser.arguments expr') :=
  bind space fun _ => arguments h

theorem group : Alike bytes n (Expr.shifted bytes) (group expr) (group expr') :=
  bind (character _) fun _ => bind h fun _ => bind (closing _) fun _ => pure rfl

theorem named : Alike bytes n (Expr.shifted bytes) (named expr) (named expr') := by
  refine bind freeName fun x => ?_
  obtain ⟨name, span⟩ := x
  change Alike _ _ _ (ite _ _ _) (ite _ _ _)
  by_cases isTrue : name == "true"
  · rw [if_pos isTrue, id_eq, if_pos isTrue]
    exact pure rfl
  rw [if_neg isTrue, id_eq, if_neg isTrue]
  by_cases isFalse : name == "false"
  · rw [if_pos isFalse, if_pos isFalse]
    exact pure rfl
  rw [if_neg isFalse, if_neg isFalse]
  refine bind (opt (spanned (callArguments h))) fun found => ?_
  rcases found with _ | ⟨args, argsSpan⟩
  · exact pure rfl
  · refine pure ?_
    rw [Expr.shifted, Expr.shiftedEach_eq_map, ← Mark.over_shifted]
    rfl

theorem primary : Alike bytes n (Expr.shifted bytes) (primary expr) (primary expr') :=
  bind space fun _ => expecting _ <| orElse (group h) <|
    orElse (literal _ stringLiteral) <| orElse (literal _ number) (named h)

theorem suffix (target : Expr) : Alike bytes n (Expr.shifted bytes) (suffix expr target)
    (suffix expr' (target.shifted bytes)) := by
  have pair (name : String) (args : Option (List Expr)) :
      Alike bytes n (Prod.map id (Option.map (List.map (Expr.shifted bytes))))
        (Pure.pure (name, args)) (Pure.pure (name, args.map (List.map (Expr.shifted bytes)))) :=
    pure rfl
  refine bind space fun _ => bind (character _) fun _ => bind space fun _ =>
    bind (spanned (bind (expecting _ (cut identifier)) fun name =>
      bind (opt (callArguments h)) fun args => pair name args)) fun x => ?_
  obtain ⟨⟨name, args⟩, span⟩ := x
  cases args with
  | none =>
    refine bounded ?_
    rw [Expr.shifted, ← Mark.over_shifted, ← target.upTo_shifted]
    rfl
  | some args =>
    refine bounded ?_
    rw [Expr.shifted, Expr.shiftedEach_eq_map, ← Mark.over_shifted, ← target.upTo_shifted]
    rfl

theorem suffixed : Alike bytes n (Expr.shifted bytes) (suffixed expr) (suffixed expr') :=
  bind (primary h) fun target => iterate (suffix h) target

theorem listOfValues :
    Alike bytes n (List.map (Expr.shifted bytes)) (listOfValues expr) (listOfValues expr') :=
  bind space fun _ => bind (character _) fun _ => bind (expressions h) fun _ =>
    bind space fun _ => bind (character _) fun _ => pure rfl

end Expressions

section Operators

variable {lower lower' : Parser Expr} (h : Alike bytes n (Expr.shifted bytes) lower lower')

theorem chained (first : Expr) (others : List (ArithOp × Expr)) :
    Alike bytes n (Expr.shifted bytes) (chained first others)
      (chained (first.shifted bytes) (others.map (Prod.map id (Expr.shifted bytes)))) := by
  induction others generalizing first with
  | nil => exact pure rfl
  | cons operation rest ih =>
    obtain ⟨op, operand⟩ := operation
    refine bind (bounded ?_) fun e => ih e
    rw [Expr.shifted, ← Mark.over_shifted, ← joined_shifted]
    rfl

include h

theorem operation {op : Parser ArithOp} (hop : Alike bytes n id op op) :
    Alike bytes n (Prod.map id (Expr.shifted bytes)) (operation op lower)
      (operation op lower') :=
  bind space fun _ => bind hop fun _ => bind (cut h) fun _ => pure rfl

theorem operand {sign : Parser Unit} (hs : Alike bytes n id sign sign) :
    Alike bytes n (Expr.shifted bytes) (operand sign lower) (operand sign lower') :=
  bind space fun _ => bind hs fun _ => cut h

/-- A chain of operations of one rank. -/
theorem operations {op : Parser ArithOp} (hop : Alike bytes n id op op) :
    Alike bytes n (Expr.shifted bytes)
      (do
        let first ← lower
        let rest ← Parser.many (Parser.operation op lower)
        Parser.chained first rest)
      (do
        let first ← lower'
        let rest ← Parser.many (Parser.operation op lower')
        Parser.chained first rest) :=
  bind h fun first => bind (many (operation h hop)) fun others => chained first others

/-- A chain of operands of one connective. -/
theorem operands {make : Mark → List Expr → Expr}
    (hmake : ∀ mark es, (make mark es).shifted bytes =
      make (mark.shifted bytes) (es.map (Expr.shifted bytes)))
    {sign : Parser Unit} (hs : Alike bytes n id sign sign) :
    Alike bytes n (Expr.shifted bytes)
      (do
        let first ← lower
        let rest ← Parser.many (Parser.operand sign lower)
        Pure.pure (connected make first rest))
      (do
        let first ← lower'
        let rest ← Parser.many (Parser.operand sign lower')
        Pure.pure (connected make first rest)) := by
  refine bind h fun first => bind (many (operand h hs)) fun others => pure ?_
  unfold connected
  rw [List.getLast?_map]
  cases others.getLast? with
  | none => rfl
  | some last =>
    rw [Option.map_some, hmake, ← Mark.over_shifted, ← joined_shifted]
    rfl

/-- A sign with an operand after it, which is nested, or another expression. -/
theorem prefixed {operand operand' : Parser Expr} (make : Mark → Expr → Expr)
    (ho : n < maxNesting → Alike bytes (n + 1) (Expr.shifted bytes) operand operand')
    (hmake : ∀ mark e, (make mark e).shifted bytes = make (mark.shifted bytes) (e.shifted bytes))
    {sign : Parser Unit} (hs : Alike bytes n id sign sign) :
    Alike bytes n (Expr.shifted bytes)
      (do
        Parser.space
        match ← Parser.opt (Parser.spanned do sign; Parser.cut (Parser.nested operand)) with
        | some (e, span) => Pure.pure (make (.over span [e]) e)
        | none => lower)
      (do
        Parser.space
        match ← Parser.opt (Parser.spanned do sign; Parser.cut (Parser.nested operand')) with
        | some (e, span) => Pure.pure (make (.over span [e]) e)
        | none => lower') := by
  refine bind space fun _ => bind (opt (spanned (bind hs fun _ => cut (nested ho))))
    fun found => ?_
  rcases found with _ | ⟨e, span⟩
  · exact h
  · refine pure ?_
    rw [hmake, ← Mark.over_shifted]
    rfl

end Operators

end Alike

/-- With so many parts open, the parsers for nested parts do the same so many bytes later. -/
structure Deeper.Alike (bytes n : Nat) (deeper deeper' : Deeper) : Prop where
  expression : Parser.Alike bytes n (Expr.shifted bytes) deeper.expression deeper'.expression
  signed : n < maxNesting →
    Parser.Alike bytes (n + 1) (Expr.shifted bytes) deeper.signed deeper'.signed
  negated : n < maxNesting →
    Parser.Alike bytes (n + 1) (Expr.shifted bytes) deeper.negated deeper'.negated

namespace Deeper.Alike

variable {deeper deeper' : Deeper} (h : deeper.Alike bytes n deeper')

include h

theorem signed_alike : Parser.Alike bytes n (Expr.shifted bytes) (Parser.signed deeper)
    (Parser.signed deeper') :=
  .prefixed (.suffixed h.expression) .neg h.signed (fun _ _ => rfl) (.character _)

theorem product_alike : Parser.Alike bytes n (Expr.shifted bytes) (product deeper)
    (product deeper') := by
  rw [product_eq, product_eq]
  exact .operations h.signed_alike .multiplicativeOp

theorem sum_alike : Parser.Alike bytes n (Expr.shifted bytes) (sum deeper) (sum deeper') := by
  rw [sum_eq, sum_eq]
  exact .operations h.product_alike .additiveOp

theorem comparison_alike : Parser.Alike bytes n (Expr.shifted bytes) (comparison deeper)
    (comparison deeper') := by
  refine .bind h.sum_alike fun lhs => ?_
  refine .bind (.opt (.bind .space fun _ => .compareOp)) fun op => ?_
  cases op with
  | some op =>
    refine .bind (.expecting _ (.cut h.sum_alike)) fun rhs => .pure ?_
    rw [Expr.shifted, ← Mark.over_shifted, ← joined_shifted]
    rfl
  | none =>
    refine .bind (.opt (.bind .space fun _ => .words _ _)) fun found => ?_
    cases found with
    | some =>
      refine .bind (.spanned (.expecting _ (.cut (.listOfValues h.expression)))) fun x => ?_
      obtain ⟨set, span⟩ := x
      refine .pure ?_
      rw [Expr.shifted, Expr.shiftedEach_eq_map, ← Mark.over_shifted, ← lhs.upTo_shifted]
      rfl
    | none => exact .pure rfl

theorem negated_alike : Parser.Alike bytes n (Expr.shifted bytes) (Parser.negated deeper)
    (Parser.negated deeper') :=
  .prefixed h.comparison_alike .not h.negated (fun _ _ => rfl) .notSign

theorem conjunction_alike : Parser.Alike bytes n (Expr.shifted bytes) (conjunction deeper)
    (conjunction deeper') := by
  rw [conjunction_eq, conjunction_eq]
  refine .operands h.negated_alike (fun mark es => ?_) .andSign
  rw [Expr.shifted, Expr.shiftedEach_eq_map]

theorem disjunction_alike : Parser.Alike bytes n (Expr.shifted bytes) (disjunction deeper)
    (disjunction deeper') := by
  rw [disjunction_eq, disjunction_eq]
  refine .operands h.conjunction_alike (fun mark es => ?_) .orSign
  rw [Expr.shifted, Expr.shiftedEach_eq_map]

end Deeper.Alike

/-- The parser for an expression opens a part itself. -/
theorem Alike.expression {deeper deeper' : Deeper}
    (h : n < maxNesting → deeper.Alike bytes (n + 1) deeper') :
    Alike bytes n (Expr.shifted bytes) (expression deeper) (expression deeper') :=
  .nested fun room => .bind .space fun _ => .bind (h room).disjunction_alike fun _ => .bounded rfl

/-- So many levels of nesting are left that the parser comes to the limit before it comes to the
last one. -/
structure Suffices (levels n : Nat) : Prop where
  pos : 0 < levels
  room : maxNesting < levels + n

theorem Suffices.deeper {levels : Nat} (h : Suffices (levels + 1) n) (room : n < maxNesting) :
    Suffices levels (n + 1) := by
  have enough := h.room
  exact ⟨by omega, by omega⟩

/-- How many levels are left makes no difference if they suffice. -/
theorem deeper_alike {levels levels' : Nat} (h : Suffices levels n) (h' : Suffices levels' n) :
    (deeper levels).Alike bytes n (deeper levels') := by
  induction levels generalizing levels' n with
  | zero => exact absurd h.pos (Nat.lt_irrefl 0)
  | succ levels ih => cases levels' with
    | zero => exact absurd h'.pos (Nat.lt_irrefl 0)
    | succ levels' =>
      have below (room : n < maxNesting) : (deeper levels).Alike bytes (n + 1) (deeper levels') :=
        ih (h.deeper room) (h'.deeper room)
      exact ⟨.expression below, fun room => (below room).signed_alike,
        fun room => (below room).negated_alike⟩

end Parser

end RecordRules

import RecordRules.Proofs.Parsing.Exactness
import RecordRules.Proofs.Parsing.Written

namespace RecordRules

open Grammar

/-- Before any text where names and numbers end, the written expression is a phrase for the
expression, and the suffixes that come next belong to it. -/
def Expr.Reads (room : Nat) (e : Expr) : Prop :=
  ∀ ⦃rest suffixes final⦄, Boundary rest → Derives room .suffixes rest suffixes final →
    Derives room .suffixed (e.written ++ rest) (suffixes.foldl Suffix.on e.unmarked) final

namespace Expr.Reads

variable {room : Nat} {rest : List Char} {e : Expr} {es : List Expr}

theorem signed (h : e.Reads room) (boundary : Boundary rest) :
    Derives room .signed (e.written ++ rest) e.unmarked rest :=
  .unsigned (h boundary .noSuffix)

theorem product (h : e.Reads room) (boundary : Boundary rest) :
    Derives room .product (e.written ++ rest) e.unmarked rest :=
  (h.signed boundary).product_of_signed

theorem sum (h : e.Reads room) (boundary : Boundary rest) :
    Derives room .sum (e.written ++ rest) e.unmarked rest :=
  (h.product boundary).sum_of_product

theorem negated (h : e.Reads room) (boundary : Boundary rest) :
    Derives room .negated (e.written ++ rest) e.unmarked rest :=
  (h.sum boundary).negated_of_sum

theorem expression (h : e.Reads room) (boundary : Boundary rest) :
    Derives (room + 1) .expression (e.written ++ rest) e.unmarked rest :=
  .expression (h.negated boundary).disjunction_of_negated

theorem of_primary (h : ∀ rest, Boundary rest →
    Derives room .primary (e.written ++ rest) e.unmarked rest) : e.Reads room :=
  fun rest _ _ boundary later => .suffixed (h rest boundary) later

/-- An operation is written between parentheses. -/
theorem of_operation (h : ∀ rest, ∃ inside, e.written ++ rest = '(' :: inside ∧
    Derives room .disjunction inside e.unmarked (')' :: rest)) : e.Reads (room + 1) := by
  refine of_primary fun rest _ => ?_
  obtain ⟨inside, written, derived⟩ := h rest
  rw [written]
  exact .group (symbol_append (by decide) inside) (.expression derived)
    (symbol_append (by decide) rest)

/-- After an operand of a chain comes a blank, or what comes after the chain. -/
theorem boundary_writtenMore (boundary : Boundary rest) (word : List Char) (es : List Expr) :
    Boundary (writtenMore (' ' :: word) es ++ rest) := by
  cases es with
  | nil => exact boundary
  | cons e es => exact boundary_cons (by decide) (by decide) _

/-- The expressions of a list, with commas between them. -/
theorem expressions (reads : ∀ e ∈ es, e.Reads room) (some : es ≠ []) (boundary : Boundary rest) :
    Derives (room + 1) .expressions (writtenList [',', ' '] es ++ rest) (unmarkedEach es) rest := by
  cases es with
  | nil => exact absurd rfl some
  | cons e es =>
    induction es generalizing e with
    | nil =>
      have first := reads e List.mem_cons_self
      rw [writtenList_cons, writtenMore_nil, List.append_nil]
      exact .lastExpression (first.expression boundary)
    | cons second es ih =>
      obtain ⟨first, others⟩ := List.forall_mem_cons.mp reads
      have later := ih second others (List.cons_ne_nil _ _)
      have text : writtenList [',', ' '] (e :: second :: es) ++ rest =
          e.written ++ ([','] ++ ' ' :: (writtenList [',', ' '] (second :: es) ++ rest)) := by
        simp
      rw [text]
      refine .moreExpressions (first.expression ?_) (symbol_append (by decide) _)
        (later.spaced trivial)
      exact boundary_cons (by decide) (by decide) _

/-- The operands of a chain after the first, with the word before each of them. -/
theorem connected {word : List Char} (derives : List Char → List Expr → List Char → Prop)
    (nil : ∀ cs, derives cs [] cs)
    (cons : ∀ {cs start e mid others rest}, Keyword word cs start →
      Derives room .negated start e mid → derives mid others rest → derives cs (e :: others) rest)
    (head : word.head?.any (!Text.isBlank ·)) (reads : ∀ e ∈ es, e.Reads room)
    (boundary : Boundary rest) :
    derives (writtenMore (' ' :: word ++ [' ']) es ++ rest) (unmarkedEach es) rest := by
  induction es with
  | nil => exact nil rest
  | cons e es ih =>
    obtain ⟨first, others⟩ := List.forall_mem_cons.mp reads
    have after : Boundary (writtenMore (' ' :: word ++ [' ']) es ++ rest) :=
      boundary_writtenMore boundary _ es
    have text : writtenMore (' ' :: word ++ [' ']) (e :: es) ++ rest =
        ' ' :: (word ++ ' ' :: (e.written ++ (writtenMore (' ' :: word ++ [' ']) es ++ rest))) := by
      simp
    rw [text]
    have blank : Boundary (' ' :: (e.written ++ (writtenMore (' ' :: word ++ [' ']) es ++ rest))) :=
      boundary_cons (by decide) (by decide) _
    exact cons ⟨(symbol_append head _).spaced, blank.ends⟩ ((first.negated after).spaced trivial)
      (ih others)

/-- The operands of an operation that joins two or more of them. -/
theorem chain {word : List Char} (derives : List Char → List Expr → List Char → Prop)
    (nil : ∀ cs, derives cs [] cs)
    (cons : ∀ {cs start e mid others rest}, Keyword word cs start →
      Derives room .negated start e mid → derives mid others rest → derives cs (e :: others) rest)
    (head : word.head?.any (!Text.isBlank ·)) (two : 2 ≤ es.length)
    (reads : ∀ e ∈ es, e.Reads room) (rest : List Char) :
    ∃ first second others mid, unmarkedEach es = first :: second :: others ∧
      Derives room .negated (writtenList (' ' :: word ++ [' ']) es ++ ')' :: rest) first mid ∧
      derives mid (second :: others) (')' :: rest) := by
  have paren := boundary_cons (c := ')') (by decide) (by decide) rest
  cases es with
  | nil => exact absurd two (by decide)
  | cons e es =>
    obtain ⟨first, others⟩ := List.forall_mem_cons.mp reads
    cases es with
    | nil => exact absurd two (Nat.lt_irrefl 1)
    | cons second es =>
      have later := connected derives nil cons head others paren
      refine ⟨_, _, _, _, rfl, ?_, later⟩
      rw [writtenList_cons, List.append_assoc]
      exact first.negated (boundary_writtenMore paren _ _)

theorem arguments (reads : ∀ arg ∈ es, arg.Reads room) (rest : List Char) :
    Derives (room + 1) .arguments ('(' :: (writtenList [',', ' '] es ++ ')' :: rest))
      (unmarkedEach es) rest := by
  have opening : Symbol ['('] ('(' :: (writtenList [',', ' '] es ++ ')' :: rest))
      (writtenList [',', ' '] es ++ ')' :: rest) := symbol_cons (by decide) _
  have closing : Symbol [')'] (')' :: rest) rest := symbol_cons (by decide) rest
  cases es with
  | nil => exact .noArguments opening closing
  | cons e es =>
    have inside := expressions reads (List.cons_ne_nil e es)
      (boundary_cons (c := ')') (by decide) (by decide) rest)
    exact .arguments opening inside closing

theorem lambdaArgument {mark : Mark} {param : String} {body : Expr} (h : body.Reads room)
    (identifier : IsIdentifier param.toList) (rest : List Char) :
    Derives (room + 1) .arguments
      ('(' :: (writtenList [',', ' '] [.lambda mark param body] ++ ')' :: rest))
      (unmarkedEach [.lambda mark param body]) rest := by
  have text : writtenList [',', ' '] [.lambda mark param body] ++ ')' :: rest =
      param.toList ++ ' ' :: (['=', '>'] ++ ' ' :: (body.written ++ ')' :: rest)) := by
    simp
  rw [text]
  have inside := h.expression (boundary_cons (c := ')') (by decide) (by decide) rest)
  have blank : Boundary (' ' :: (['=', '>'] ++ ' ' :: (body.written ++ ')' :: rest))) :=
    boundary_cons (by decide) (by decide) _
  exact .lambda (symbol_append (by decide) _) (name_append identifier blank.ends)
    (symbol_append (by decide) _).spaced (inside.spaced trivial) (symbol_append (by decide) rest)

theorem member {mark : Mark} {name : String} (h : e.Reads room)
    (identifier : IsIdentifier name.toList) : (Expr.member mark e name).Reads room := by
  intro rest suffixes final boundary later
  have text : (Expr.member mark e name).written ++ rest =
      e.written ++ '.' :: (name.toList ++ rest) := by
    simp
  rw [text]
  exact h (boundary_point identifier) (.member (symbol_append (by decide) _)
    (name_append identifier boundary.ends) later)

theorem call {mark : Mark} {name : String} (identifier : IsIdentifier name.toList)
    (free : IsFree name) (args : ∀ rest, Derives room .arguments
      ('(' :: (writtenList [',', ' '] es ++ ')' :: rest)) (unmarkedEach es) rest) :
    (Expr.call mark name es).Reads room := by
  refine of_primary fun rest _ => ?_
  have text : (Expr.call mark name es).written ++ rest =
      name.toList ++ '(' :: (writtenList [',', ' '] es ++ ')' :: rest) := by
    simp
  rw [text]
  have paren : Boundary ('(' :: (writtenList [',', ' '] es ++ ')' :: rest)) :=
    boundary_cons (by decide) (by decide) _
  exact .call (name_append identifier paren.ends) free (args rest)

theorem method {mark : Mark} {name : String} (h : e.Reads room)
    (identifier : IsIdentifier name.toList) (args : ∀ rest, Derives room .arguments
      ('(' :: (writtenList [',', ' '] es ++ ')' :: rest)) (unmarkedEach es) rest) :
    (Expr.method mark e name es).Reads room := by
  intro rest suffixes final boundary later
  have text : (Expr.method mark e name es).written ++ rest =
      e.written ++ '.' :: (name.toList ++ '(' :: (writtenList [',', ' '] es ++ ')' :: rest)) := by
    simp
  rw [text]
  have paren : Boundary ('(' :: (writtenList [',', ' '] es ++ ')' :: rest)) :=
    boundary_cons (by decide) (by decide) _
  exact h (boundary_point identifier) (.method (symbol_append (by decide) _)
    (name_append identifier paren.ends) (args rest) later)

theorem not {mark : Mark} (h : e.Reads room) : (Expr.not mark e).Reads (room + 2) := by
  refine of_operation fun rest => ⟨['N', 'O', 'T'] ++ ' ' :: (e.written ++ ')' :: rest), ?_, ?_⟩
  · simp
  · have operand := h.negated (boundary_cons (c := ')') (by decide) (by decide) rest)
    have blank : Boundary (' ' :: (e.written ++ ')' :: rest)) :=
      boundary_cons (by decide) (by decide) _
    have sign : NotSign (['N', 'O', 'T'] ++ ' ' :: (e.written ++ ')' :: rest))
        (' ' :: (e.written ++ ')' :: rest)) :=
      .inr ⟨['N', 'O', 'T'], by decide, symbol_append (by decide) _, blank.ends⟩
    have negation := Derives.negation sign (operand.spaced trivial)
    exact negation.disjunction_of_negated

theorem neg {mark : Mark} (h : e.Reads room) : (Expr.neg mark e).Reads (room + 2) := by
  refine of_operation fun rest => ⟨['-'] ++ (e.written ++ ')' :: rest), ?_, ?_⟩
  · simp
  · have operand := h.signed (boundary_cons (c := ')') (by decide) (by decide) rest)
    have negative := Derives.negative (symbol_append (by decide) _) operand
    exact negative.product_of_signed.sum_of_product.negated_of_sum.disjunction_of_negated

theorem compare {mark : Mark} {op : CompareOp} {lhs rhs : Expr} (hlhs : lhs.Reads room)
    (hrhs : rhs.Reads room) : (Expr.compare mark op lhs rhs).Reads (room + 1) := by
  have mem : (op, op.symbol.toList) ∈ compareSigns := by cases op <;> decide
  have head : op.symbol.toList.head?.any (!Text.isBlank ·) := by cases op <;> decide
  refine of_operation fun rest => ⟨lhs.written ++
    ' ' :: (op.symbol.toList ++ ' ' :: (rhs.written ++ ')' :: rest)), ?_, ?_⟩
  · simp
  · have left := hlhs.sum (boundary_cons (c := ' ') (by decide) (by decide)
      (op.symbol.toList ++ ' ' :: (rhs.written ++ ')' :: rest)))
    have right := hrhs.sum (boundary_cons (c := ')') (by decide) (by decide) rest)
    have compared := Derives.compare left mem (symbol_append head _).spaced (right.spaced trivial)
    exact (Derives.unnegated compared).disjunction_of_negated

theorem arith {mark : Mark} {op : ArithOp} {lhs rhs : Expr} (hlhs : lhs.Reads room)
    (hrhs : rhs.Reads room) : (Expr.arith mark op lhs rhs).Reads (room + 1) := by
  have mem : (op, op.symbol.toList) ∈ additiveSigns ∨
      (op, op.symbol.toList) ∈ multiplicativeSigns := by
    cases op <;> decide
  have head : op.symbol.toList.head?.any (!Text.isBlank ·) := by cases op <;> decide
  refine of_operation fun rest => ⟨lhs.written ++
    ' ' :: (op.symbol.toList ++ ' ' :: (rhs.written ++ ')' :: rest)), ?_, ?_⟩
  · simp
  · have blank := boundary_cons (c := ' ') (by decide) (by decide)
      (op.symbol.toList ++ ' ' :: (rhs.written ++ ')' :: rest))
    have paren := boundary_cons (c := ')') (by decide) (by decide) rest
    have sign := (symbol_append head (' ' :: (rhs.written ++ ')' :: rest))).spaced
    refine (Derives.negated_of_sum ?_).disjunction_of_negated
    rcases mem with additive | multiplicative
    · exact .sum (hlhs.product blank)
        (.summand additive sign ((hrhs.product paren).spaced trivial) .noSummand)
    · refine Derives.sum_of_product ?_
      exact .product (hlhs.signed blank)
        (.factor multiplicative sign ((hrhs.signed paren).spaced trivial) .noFactor)

theorem within {mark : Mark} (h : e.Reads (room + 1)) (some : es ≠ [])
    (reads : ∀ e ∈ es, e.Reads room) : (Expr.within mark e es).Reads (room + 2) := by
  refine of_operation fun rest => ⟨e.written ++ ' ' :: (['I', 'N'] ++ ' ' :: (['['] ++
    (writtenList [',', ' '] es ++ ([']'] ++ ')' :: rest)))), ?_, ?_⟩
  · simp
  · have blank (tail : List Char) : Boundary (' ' :: tail) :=
      boundary_cons (by decide) (by decide) tail
    have needle := h.sum (blank (['I', 'N'] ++ ' ' :: (['['] ++
      (writtenList [',', ' '] es ++ ([']'] ++ ')' :: rest)))))
    have sign : InSign (' ' :: (['I', 'N'] ++ ' ' :: (['['] ++
        (writtenList [',', ' '] es ++ ([']'] ++ ')' :: rest)))))
        (' ' :: (['['] ++ (writtenList [',', ' '] es ++ ([']'] ++ ')' :: rest)))) :=
      .inr ⟨['I', 'N'], by decide, (symbol_append (by decide) _).spaced, (blank _).ends⟩
    have set := expressions reads some (boundary_cons (c := ']') (by decide) (by decide)
      (')' :: rest))
    have inside := Derives.within needle sign (symbol_append (by decide) _).spaced set
      (symbol_append (by decide) _)
    exact (Derives.unnegated inside).disjunction_of_negated

theorem and {mark : Mark} (two : 2 ≤ es.length) (reads : ∀ e ∈ es, e.Reads room) :
    (Expr.and mark es).Reads (room + 1) := by
  refine of_operation fun rest =>
    ⟨writtenList (' ' :: ['A', 'N', 'D'] ++ [' ']) es ++ ')' :: rest, ?_, ?_⟩
  · simp
  · obtain ⟨first, second, others, mid, trees, operand, conjuncts⟩ :=
      chain (Derives room .conjuncts) (fun _ => .noConjunct)
        (fun word => .conjunct (.inr ⟨['A', 'N', 'D'], by decide, word⟩)) (by decide) two reads rest
    rw [unmarked, trees]
    have conjunction := Derives.conjunction operand conjuncts
    exact conjunction.disjunction_of_conjunction

theorem or {mark : Mark} (two : 2 ≤ es.length) (reads : ∀ e ∈ es, e.Reads room) :
    (Expr.or mark es).Reads (room + 1) := by
  refine of_operation fun rest =>
    ⟨writtenList (' ' :: ['O', 'R'] ++ [' ']) es ++ ')' :: rest, ?_, ?_⟩
  · simp
  · obtain ⟨first, second, others, mid, trees, operand, disjuncts⟩ :=
      chain (Derives room .disjuncts) (fun _ => .noDisjunct)
        (fun word e => .disjunct (.inr ⟨['O', 'R'], by decide, word⟩) e.conjunction_of_negated)
        (by decide) two reads rest
    rw [unmarked, trees]
    have disjunction := Derives.disjunction operand.conjunction_of_negated disjuncts
    exact disjunction

end Expr.Reads

/-- Where there is room for two nested parts on each level, the text of a well-formed expression is
a phrase for it. -/
theorem Expr.WellFormed.reads {e : Expr} (h : e.WellFormed Literal.Readable) {room : Nat}
    (enough : 2 * e.depth ≤ room) : e.Reads room := by
  have each {es : List Expr} {levels : Nat}
      (ih : ∀ e ∈ es, ∀ {room : Nat}, 2 * e.depth ≤ room → e.Reads room)
      (enough : 2 * greatestDepth es ≤ levels) : ∀ e ∈ es, e.Reads levels := by
    intro e mem
    have le := depth_le_greatestDepth mem
    exact ih e mem (by omega)
  -- an operation in its parentheses opens one nested part, and a second one if it is NOT or minus
  induction h generalizing room with
  | literal readable => exact .of_primary fun rest boundary => readable.derives boundary
  | ident identifier free =>
    exact .of_primary fun rest boundary => .ident (name_append identifier boundary.ends) free
  | member _ identifier ih =>
    rw [depth] at enough
    exact .member (ih (by omega)) identifier
  | call identifier free _ ih =>
    rw [depth] at enough
    obtain ⟨room, rfl⟩ : ∃ r, room = r + 1 := ⟨room - 1, by omega⟩
    exact .call identifier free (Reads.arguments (each ih (by omega)))
  | callLambda identifier free param _ ih =>
    rw [depth, greatestDepth, greatestDepth, depth] at enough
    obtain ⟨room, rfl⟩ : ∃ r, room = r + 1 := ⟨room - 1, by omega⟩
    exact .call identifier free (Reads.lambdaArgument (ih (by omega)) param)
  | method _ identifier _ ih ihs =>
    rw [depth] at enough
    obtain ⟨room, rfl⟩ : ∃ r, room = r + 1 := ⟨room - 1, by omega⟩
    exact .method (ih (by omega)) identifier (Reads.arguments (each ihs (by omega)))
  | methodLambda _ identifier param _ ih ih' =>
    rw [depth, greatestDepth, greatestDepth, depth] at enough
    obtain ⟨room, rfl⟩ : ∃ r, room = r + 1 := ⟨room - 1, by omega⟩
    exact .method (ih (by omega)) identifier (Reads.lambdaArgument (ih' (by omega)) param)
  | not _ ih =>
    rw [depth] at enough
    obtain ⟨room, rfl⟩ : ∃ r, room = r + 2 := ⟨room - 2, by omega⟩
    exact .not (ih (by omega))
  | neg _ ih =>
    rw [depth] at enough
    obtain ⟨room, rfl⟩ : ∃ r, room = r + 2 := ⟨room - 2, by omega⟩
    exact .neg (ih (by omega))
  | and two _ ih =>
    rw [depth] at enough
    obtain ⟨room, rfl⟩ : ∃ r, room = r + 1 := ⟨room - 1, by omega⟩
    exact .and two (each ih (by omega))
  | or two _ ih =>
    rw [depth] at enough
    obtain ⟨room, rfl⟩ : ∃ r, room = r + 1 := ⟨room - 1, by omega⟩
    exact .or two (each ih (by omega))
  | compare _ _ ih ih' =>
    rw [depth] at enough
    obtain ⟨room, rfl⟩ : ∃ r, room = r + 1 := ⟨room - 1, by omega⟩
    exact .compare (ih (by omega)) (ih' (by omega))
  | arith _ _ ih ih' =>
    rw [depth] at enough
    obtain ⟨room, rfl⟩ : ∃ r, room = r + 1 := ⟨room - 1, by omega⟩
    exact .arith (ih (by omega)) (ih' (by omega))
  | within _ some _ ih ihs =>
    rw [depth] at enough
    obtain ⟨room, rfl⟩ : ∃ r, room = r + 2 := ⟨room - 2, by omega⟩
    exact .within (ih (by omega)) some (each ihs (by omega))

/-- The text of an expression is parsed to the expression again, whatever its marks, or it nests too
deep; and what is parsed is well-formed, but for what its strings and floats may be. -/
theorem parse_render :
    (∀ e : Expr, e.WellFormed Literal.Readable → e.depth ≤ Parser.maxHeight →
      (∃ parsed, parse e.render = .ok parsed ∧ parsed.unmarked = e.unmarked ∧ parsed.Measured) ∨
        ∃ error, parse e.render = .error error ∧ .lessNesting ∈ error.expected) ∧
    ∀ text e, parse text = .ok e →
      e.WellFormed Literal.NotNegative ∧ e.depth ≤ Parser.maxHeight := by
  constructor
  · intro e wellFormed fits
    have derived := (wellFormed.reads (Nat.le_refl _)).expression boundary_nil
    rw [List.append_nil] at derived
    rw [← e.depth_unmarked] at fits
    have text : e.render.toList = e.written := String.toList_ofList
    rw [← text] at derived
    have nesting : Expectation.lessNesting ∈ [.lessNesting] := List.mem_cons_self
    rcases parse_within derived rfl (.inr nesting) (.inl fits) with
      ⟨parsed, ok, same⟩ | ⟨error, failed, limit, mem, named⟩
    · exact .inl ⟨parsed, ok, same.unmarked, same.measured⟩
    · obtain rfl := List.mem_singleton.mp mem
      exact .inr ⟨error, failed, named⟩
  · intro text e ok
    obtain ⟨stop, taken⟩ := parse_eq_ok.mp ok
    obtain ⟨⟨⟨tree, rest, derived, -, same⟩, fits⟩, -⟩ := Parser.rule_gives rfl taken
    rw [same.measured.height] at fits
    exact ⟨.of_unmarked derived.wellFormed same.unmarked, fits⟩

/-- A question about a list, with names that are reserved elsewhere and a string that has quotes in
it. -/
def Expr.listQuestion : Expr :=
  .method .none (.ident .none "mods") "any" [.lambda .none "or" (.and .none
    [.compare .none .ge (.member .none (.ident .none "mod") "in")
        (.neg .none (.literal .none (.int 3))),
      .compare .none .ne (.ident .none "base") (.literal .none (.string "a \"b\""))])]

theorem parse_render_listQuestion :
    Expr.listQuestion.render =
        "mods.any(or => ((mod.in >= (-3)) AND (base != \"a \\\"b\\\"\")))" ∧
      Expr.listQuestion.WellFormed Literal.Readable ∧
      Expr.listQuestion.depth ≤ Parser.maxHeight ∧
      ∃ parsed, parse Expr.listQuestion.render = .ok parsed ∧
        parsed.unmarked = Expr.listQuestion.unmarked ∧ parsed.Measured ∧
        parsed.WellFormed Literal.NotNegative ∧ parsed.depth ≤ Parser.maxHeight := by
  have quoted : Literal.Readable (.string "a \"b\"") := by
    have each : "a \"b\"".toList.all fun c => Text.escaped c == [c] || c == '"' := by decide
    intro c mem
    rcases (Bool.or_eq_true _ _).mp (List.all_eq_true.mp each c mem) with plain | quote
    · exact .inl (eq_of_beq plain)
    · obtain rfl : c = '"' := eq_of_beq quote
      exact .inr ⟨'"', by decide, rfl⟩
  have wellFormed : Expr.listQuestion.WellFormed Literal.Readable := by
    refine .methodLambda (.ident (by decide) ⟨by decide, by decide⟩) (by decide) (by decide) ?_
    refine .and (by decide) ?_
    intro e mem
    rcases List.mem_pair.mp mem with rfl | rfl
    · have mod : (Expr.ident .none "mod").WellFormed Literal.Readable :=
        .ident (by decide) ⟨by decide, by decide⟩
      have three : Literal.Readable (.int 3) := by
        change 0 ≤ Int64.toInt 3
        decide
      exact .compare (.member mod (by decide)) (.neg (.literal three))
    · exact .compare (.ident (by decide) ⟨by decide, by decide⟩) (.literal quoted)
  have fits : Expr.listQuestion.depth ≤ Parser.maxHeight := by decide
  have accepted : (parse Expr.listQuestion.render).isOk = true := by decide +kernel
  refine ⟨by decide +kernel, wellFormed, fits, ?_⟩
  rcases parse_render.1 _ wellFormed fits with ⟨parsed, ok, same, measured⟩ | ⟨error, failed, -⟩
  · exact ⟨parsed, ok, same, measured, parse_render.2 _ _ ok⟩
  · rw [failed] at accepted
    cases accepted

end RecordRules

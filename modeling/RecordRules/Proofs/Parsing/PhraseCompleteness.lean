import RecordRules.Proofs.Parsing.Following
import RecordRules.Proofs.Parsing.Marks
import RecordRules.Proofs.Parsing.SignCompleteness

namespace RecordRules.Parser

open Grammar
open RecordRules.Expr (HasTree)

variable {α β : Type} {n : Nat} {cs mid rest : List Char} {limits : List Expectation}

/-- The expression has not too many levels, unless that is one of the limits. -/
def Low (limits : List Expectation) (e : Expr) : Prop :=
  e.depth ≤ maxHeight ∨ .lessHeight ∈ limits

theorem Low.mono {e part : Expr} (h : Low limits e) (le : part.depth ≤ e.depth) :
    Low limits part :=
  h.imp_left le.trans

/-- Neither a group nor a string begins with a digit. -/
theorem declines_of_isDigit (expr : Parser Expr) {c : Char} {after : List Char}
    (head : Text.skip cs = c :: after) (digit : c.isDigit) :
    Declines (group expr) n (Text.skip cs) ∧
      Declines (literal stringLiteral .string) n (Text.skip cs) := by
  have other {d : Char} (noDigit : d.isDigit = false) : (Text.skip cs).head? ≠ some d := by
    rw [head]
    rintro ⟨⟩
    rw [digit] at noDigit
    cases noDigit
  exact ⟨.bind (.character (other (by decide))),
    .bind (.spanned (.stringLiteral (other (by decide))))⟩

namespace Yields

theorem bounded {tree e : Expr} (same : HasTree tree e) (low : Low limits tree) :
    Yields limits (bounded e) n cs (HasTree tree) cs := by
  intro offset
  rw [Parser.bounded, same.height]
  by_cases fits : tree.depth ≤ maxHeight
  · rw [if_neg (Nat.not_lt_of_le fits)]
    exact .inl ⟨e, offset, rfl, same⟩
  · rw [if_pos (Nat.lt_of_not_le fits)]
    exact .inr ⟨[.lessHeight], _, rfl, .lessHeight, low.resolve_left fits,
      List.mem_singleton_self _⟩

theorem chained {tree e : Expr} {trees operations : List (ArithOp × Expr)} (hfirst : HasTree tree e)
    (hothers : List.Forall₂ HasOperand trees operations)
    (low : Low limits (grouped tree trees)) :
    Yields limits (chained e operations) n cs (HasTree (grouped tree trees)) cs := by
  induction hothers generalizing tree e with
  | nil => exact pure hfirst
  | @cons operation made trees operations same _ ih =>
    obtain ⟨op, operand⟩ := operation
    obtain ⟨op', e'⟩ := made
    obtain ⟨eq, hoperand⟩ := same
    change op' = op at eq
    subst eq
    have arith : HasTree (.arith .none op' tree operand)
        (.arith (.over (joined e e') [e, e']) op' e e') := hfirst.arith hoperand op'
    exact (bounded arith (low.mono (depth_le_grouped _ trees))).bind fun made same => ih same low

/-- A chain of operations of one rank. -/
theorem operations {q : Parser Expr} {step : Parser (ArithOp × Expr)} {tree : Expr}
    {trees : List (ArithOp × Expr)} (hfirst : Yields limits q n cs (HasTree tree) mid)
    (hothers : Repeated limits step n HasOperand mid trees rest)
    (low : Low limits (grouped tree trees)) : Yields limits (do
      let first ← q
      let others ← Parser.many step
      Parser.chained first others) n cs (HasTree (grouped tree trees)) rest :=
  hfirst.bind fun _ same => (many hothers).bind fun _ sames => chained same sames low

/-- Operands that are connected by one sign. -/
theorem operands {q step : Parser Expr} {make : Mark → List Expr → Expr}
    (build : ∀ {trees es span}, List.Forall₂ HasTree trees es →
      HasTree (make .none trees) (make (.over span es) es))
    {tree : Expr} {trees : List Expr} (hfirst : Yields limits q n cs (HasTree tree) mid)
    (hothers : Repeated limits step n HasTree mid trees rest) : Yields limits (do
      let first ← q
      let others ← Parser.many step
      Pure.pure (connected make first others)) n cs (HasTree (flat make tree trees)) rest :=
  hfirst.bind fun _ same => (many hothers).bind fun _ sames => pure (same.connected build sames)

/-- One more operation of a chain. -/
theorem operation {p : Parser ArithOp} {q : Parser Expr} {op : ArithOp} {sign start : List Char}
    {tree : Expr} (symbol : Symbol sign cs start) (hp : Yields limits p n (sign ++ start) (· = op) start)
    (hq : Yields limits q n start (HasTree tree) rest) : Yields limits (do
      Parser.space
      let op ← p
      let operand ← Parser.cut q
      Pure.pure (op, operand)) n cs (HasOperand (op, tree)) rest := by
  refine spaced ?_
  rw [symbol]
  exact hp.bind fun _ eq => hq.cut.bind fun _ same => pure ⟨eq, same⟩

/-- One more operand after a sign. -/
theorem operand {p : Parser Unit} {q : Parser Expr} {start : List Char} {tree : Expr}
    (hp : Yields limits p n (Text.skip cs) (fun _ => True) start)
    (hq : Yields limits q n start (HasTree tree) rest) : Yields limits (do
      Parser.space
      p
      Parser.cut q) n cs (HasTree tree) rest :=
  spaced (hp.bind fun _ _ => hq.cut)

section Prefixed

variable {sign : Parser Unit} {p q : Parser Expr} {make : Mark → Expr → Expr} {tree : Expr}

/-- A sign with an operand after it. -/
theorem prefixed
    (build : ∀ {tree e span}, HasTree tree e → HasTree (make .none tree) (make (.over span [e]) e))
    (hs : Yields limits sign n (Text.skip cs) (fun _ => True) mid)
    (hp : Yields limits p n mid (HasTree tree) rest) : Yields limits (do
      Parser.space
      match ← Parser.opt (Parser.spanned do sign; Parser.cut p) with
      | some (operand, span) => Pure.pure (make (.over span [operand]) operand)
      | none => q) n cs (HasTree (make .none tree)) rest := by
  refine spaced ((opt (spanned (hs.bind fun _ _ => hp.cut))).bind fun _ found => ?_)
  obtain ⟨⟨operand, span⟩, rfl, same⟩ := found
  exact pure (build same)

/-- A phrase that no sign comes before. -/
theorem unprefixed (hs : Declines sign n (Text.skip cs))
    (hq : Yields limits q n (Text.skip cs) (HasTree tree) rest) : Yields limits (do
      Parser.space
      match ← Parser.opt (Parser.spanned do sign; Parser.cut p) with
      | some (operand, span) => Pure.pure (make (.over span [operand]) operand)
      | none => q) n cs (HasTree tree) rest := by
  refine spaced ((opt_none (.spanned (.bind hs))).bind fun _ found => ?_)
  rw [found]
  exact hq

end Prefixed

theorem separated1 {p : Parser α} {separator : Parser Unit} {Q : β → α → Prop} {b : β} {bs : List β}
    (hfirst : Yields limits p n cs (Q b) mid)
    (hothers : Repeated limits (do separator; p) n Q mid bs rest) :
    Yields limits (separated1 p separator) n cs (List.Forall₂ Q (b :: bs)) rest :=
  hfirst.bind fun _ same => (many hothers).bind fun _ sames => pure (.cons same sames)

section Expressions

variable {expr : Parser Expr} {name : String} {start stop : List Char} {tree : Expr}
  {trees : List Expr}

theorem identifier_of_name (h : Name name cs rest) :
    Yields limits Parser.identifier n (Text.skip cs) (· = name) rest := by
  rw [h.symbol]
  exact identifier h.identifier h.ends

theorem lambda {arrow body : List Char} (param : Name name cs arrow)
    (sign : Symbol ['=', '>'] arrow body) (h : Yields limits expr n body (HasTree tree) rest) :
    Yields limits (lambda expr) n cs (HasTree (.lambda .none name tree)) rest := by
  have afterSign : Yields limits (Parser.word ['=', '>']) n (Text.skip arrow) (fun _ => True) body := by
    rw [sign]
    exact word _ body
  have parts : Yields limits (do
      Parser.space
      let param ← Parser.identifier
      Parser.space
      Parser.word ['=', '>']
      let body ← Parser.expecting .lambdaBody (Parser.cut expr)
      Pure.pure (param, body)) n cs (fun x => x.1 = name ∧ HasTree tree x.2) rest :=
    spaced <| (identifier_of_name param).bind fun _ eq => (space arrow).bind fun _ _ =>
      afterSign.bind fun _ _ => (h.cut.expecting _).bind fun _ same => pure ⟨eq, same⟩
  refine parts.spanned.bind fun x same => ?_
  obtain ⟨⟨_, body⟩, span⟩ := x
  obtain ⟨rfl, same⟩ := same
  exact pure (same.lambda _)

theorem arguments_nil (closed : Symbol [')'] start rest) :
    Yields limits (arguments expr) n ('(' :: start) (List.Forall₂ HasTree []) rest := by
  have close : Yields limits (Parser.character ')') n (Text.skip start) (fun _ => True) rest := by
    rw [closed]
    exact character ')' rest
  refine (character '(' start).bind fun _ _ => (space start).bind fun _ _ =>
    close.opt.bind fun _ found => ?_
  obtain ⟨_, rfl, -⟩ := found
  exact pure .nil

theorem arguments (noClose : (Text.skip start).head? ≠ some ')')
    (h : Yields limits (Parser.orElse (do return [← Parser.lambda expr])
      (Parser.separated1 expr Parser.comma)) n (Text.skip start) (List.Forall₂ HasTree trees) stop)
    (closed : Symbol [')'] stop rest) :
    Yields limits (arguments expr) n ('(' :: start) (List.Forall₂ HasTree trees) rest := by
  refine (character '(' start).bind fun _ _ => (space start).bind fun _ _ =>
    (opt_none (.character noClose)).bind fun _ found => ?_
  rw [found]
  exact (h.cut.expecting _).bind fun _ same => (closing closed).bind fun _ _ => pure same

/-- The arguments are one lambda. -/
theorem arguments_lambda {arrow body : List Char} (param : Name name start arrow)
    (sign : Symbol ['=', '>'] arrow body) (h : Yields limits expr n body (HasTree tree) stop)
    (closed : Symbol [')'] stop rest) :
    Yields limits (Parser.arguments expr) n ('(' :: start) (List.Forall₂ HasTree [.lambda .none name tree])
      rest := by
  obtain ⟨c, after, head, isStart⟩ := param.head
  have noClose : (Text.skip start).head? ≠ some ')' := by
    rw [head]
    rintro ⟨⟩
    cases isStart
  have inside : Yields limits (Parser.lambda expr) n (Text.skip start)
      (HasTree (.lambda .none name tree)) stop := lambda (param.of_skip (Text.skip_skip start)) sign h
  exact arguments noClose (.first (inside.bind fun _ same => pure (.cons same .nil))) closed

theorem freeName (h : Name name cs rest) (free : name ∉ reserved) :
    Yields limits freeName n (Text.skip cs) (fun x => x.1 = name) rest := by
  refine of_ok fun offset => ?_
  obtain ⟨⟨word, span⟩, stop, ok, rfl⟩ := (identifier_of_name (n := n) h).spanned.ok offset
  have notReserved : ¬ reserved.contains word := by simpa using free
  refine ⟨(word, span), stop, ?_, rfl⟩
  unfold Parser.freeName
  rw [ok]
  exact if_neg notReserved

theorem named_bool {value : Bool} (mem : (name, value) ∈ truthValues) (h : Name name cs rest) :
    Yields limits (named expr) n (Text.skip cs) (HasTree (.literal .none (.bool value))) rest := by
  have free : ∀ p ∈ truthValues, p.1 ∉ reserved := by decide
  refine (freeName h (free _ mem)).bind fun x eq => ?_
  obtain ⟨_, span⟩ := x
  change _ = name at eq
  subst eq
  simp only [truthValues, List.mem_cons, Prod.mk.injEq, List.not_mem_nil, or_false] at mem
  rcases mem with ⟨rfl, rfl⟩ | ⟨rfl, rfl⟩
  · exact pure (.literal _)
  · exact pure (.literal _)

/-- After a name that may stand alone comes a call, or nothing. -/
theorem named_free {Q : Expr → Prop} (h : Name name cs mid) (free : IsFree name)
    (after : ∀ span : Span, Yields limits (do
      match ← Parser.opt (Parser.spanned do Parser.space; Parser.arguments expr) with
      | some (args, argsSpan) =>
        Pure.pure (Expr.call (.over ⟨span.start, argsSpan.stop⟩ args) name args)
      | none => Pure.pure (Expr.ident (.over span []) name)) n mid Q rest) :
    Yields limits (named expr) n (Text.skip cs) Q rest := by
  obtain ⟨notReserved, word⟩ := free
  simp only [truthValues, List.map_cons, List.map_nil, List.mem_cons, List.not_mem_nil, or_false,
    not_or] at word
  refine (freeName h notReserved).bind fun x eq => ?_
  obtain ⟨_, span⟩ := x
  change _ = name at eq
  subst eq
  change Yields limits (if _ then _ else if _ then _ else _) n mid Q rest
  rw [if_neg (mt beq_iff_eq.mp word.1), if_neg (mt beq_iff_eq.mp word.2)]
  exact after span

theorem named_ident (h : Name name cs rest) (free : IsFree name)
    (noCall : (Text.skip rest).head? ≠ some '(') :
    Yields limits (named expr) n (Text.skip cs) (HasTree (.ident .none name)) rest := by
  refine named_free h free fun span => ?_
  have noArguments : Declines (Parser.arguments expr) n (Text.skip rest) :=
    .bind (.character noCall)
  refine (opt_none (.spanned (.spaced noArguments))).bind fun _ found => ?_
  rw [found]
  exact pure (.ident name)

theorem named_call {list : List Char} (h : Name name cs list) (free : IsFree name)
    (args : Yields limits (Parser.arguments expr) n (Text.skip list) (List.Forall₂ HasTree trees) rest) :
    Yields limits (named expr) n (Text.skip cs) (HasTree (.call .none name trees)) rest := by
  refine named_free h free fun span => (spaced args).spanned.opt.bind fun _ found => ?_
  obtain ⟨⟨args, argsSpan⟩, rfl, same⟩ := found
  exact pure (.call same name)

theorem group (opening : Symbol ['('] cs start) (h : Yields limits expr n start (HasTree tree) stop)
    (closed : Symbol [')'] stop rest) :
    Yields limits (group expr) n (Text.skip cs) (HasTree tree) rest := by
  rw [opening]
  exact (character '(' start).bind fun _ _ => h.bind fun _ same => (closing closed).bind
    fun _ _ => pure same

theorem literal {p : Parser α} {value : α} {toLiteral : α → Literal}
    (h : Yields limits p n cs (· = value) rest) :
    Yields limits (literal p toLiteral) n cs (HasTree (.literal .none (toLiteral value))) rest := by
  refine h.spanned.bind fun x eq => ?_
  obtain ⟨_, span⟩ := x
  change _ = value at eq
  subst eq
  exact pure (.literal _)

theorem primary_group (opening : Symbol ['('] cs start)
    (h : Yields limits expr n start (HasTree tree) stop) (closed : Symbol [')'] stop rest) :
    Yields limits (primary expr) n cs (HasTree tree) rest :=
  spaced (expecting _ (first (group opening h closed)))

theorem primary_string {value : List Char} (opening : Symbol ['"'] cs start)
    (quoted : Quoted start value rest) : Yields limits (primary expr) n cs
      (HasTree (.literal .none (.string (String.ofList value)))) rest := by
  refine spaced (expecting _ (second (.bind (.character ?_)) (first (literal ?_))))
  · rw [opening]
    simp
  · rw [opening]
    exact stringLiteral quoted

theorem primary_number {value : Literal} {c : Char} {after : List Char}
    (head : Text.skip cs = c :: after) (digit : c.isDigit)
    (h : Yields limits number n (Text.skip cs) (· = value) rest) :
    Yields limits (primary expr) n cs (HasTree (.literal .none value)) rest := by
  obtain ⟨noGroup, noString⟩ := declines_of_isDigit (n := n) expr head digit
  exact spaced (expecting _ (second noGroup (second noString (first (literal h)))))

theorem primary_named {Q : Expr → Prop} (h : Name name cs mid)
    (made : Yields limits (named expr) n (Text.skip cs) Q rest) :
    Yields limits (primary expr) n cs Q rest := by
  obtain ⟨c, after, head, start⟩ := h.head
  have other {d : Char} (noStart : isIdentifierStart d = false) : (Text.skip cs).head? ≠ some d := by
    rw [head]
    rintro ⟨⟩
    rw [start] at noStart
    cases noStart
  have noDigit : Ends Char.isDigit (Text.skip cs) := by
    intro d hd
    by_contra digit
    exact other (isIdentifierStart_of_isDigit (by simpa using digit)) hd
  exact spaced (expecting _ (second (.bind (.character (other (by decide))))
    (second (.bind (.spanned (.stringLiteral (other (by decide)))))
      (second (.bind (.spanned (.number noDigit))) made))))

/-- What is made of the name of a member and the arguments of a method, if there are any. -/
theorem suffix {target : Expr} {found : Suffix} (point : Symbol ['.'] cs start)
    (word : Name found.name start mid)
    (args : Yields limits (Parser.opt do Parser.space; Parser.arguments expr) n mid
      (Option.Rel (List.Forall₂ HasTree) found.args) rest)
    (same : HasTree tree target) (low : Low limits (found.on tree)) :
    Yields limits (suffix expr target) n cs (HasTree (found.on tree)) rest := by
  obtain ⟨member, list⟩ := found
  have parts : Yields limits (do
      let name ← Parser.expecting .memberName (Parser.cut Parser.identifier)
      let args ← Parser.opt do
        Parser.space
        Parser.arguments expr
      Pure.pure (name, args)) n (Text.skip start) (HasSuffix ⟨member, list⟩) rest :=
    ((identifier_of_name word).cut.expecting _).bind fun _ eq => args.bind fun _ rel =>
      pure ⟨eq.symm, rel⟩
  have opened : Yields limits (Parser.character '.') n (Text.skip cs) (fun _ => True) start := by
    rw [point]
    exact character '.' start
  refine spaced (opened.bind fun _ _ => (space start).bind fun _ _ =>
    parts.spanned.bind fun x has => ?_)
  obtain ⟨⟨_, args⟩, span⟩ := x
  obtain ⟨rfl, rel⟩ := has
  cases rel with
  | none =>
    have made : HasTree (.member .none tree member)
        (.member (.over ⟨target.span.start, span.stop⟩ [target]) target member) := same.member member
    exact bounded made low
  | @some trees given sames =>
    have made : HasTree (.method .none tree member trees)
        (.method (.over ⟨target.span.start, span.stop⟩ (target :: given)) target member given) :=
      same.method sames member
    exact bounded made low

theorem listOfValues (opening : Symbol ['['] cs start)
    (h : Yields limits (Parser.separated1 expr Parser.comma) n start (List.Forall₂ HasTree trees) stop)
    (closing : Symbol [']'] stop rest) :
    Yields limits (listOfValues expr) n cs (List.Forall₂ HasTree trees) rest := by
  refine spaced ?_
  rw [opening]
  refine (character '[' start).bind fun _ _ => h.bind fun _ same => (space stop).bind fun _ _ => ?_
  rw [closing]
  exact (character ']' rest).bind fun _ _ => pure same

end Expressions

section Comparison

variable {deeper : Deeper} {left : Expr}

theorem comparison_compare {op : CompareOp} {sign start : List Char} {right : Expr}
    (lhs : Yields limits (sum deeper) n cs (HasTree left) mid) (mem : (op, sign) ∈ compareSigns)
    (symbol : Symbol sign mid start) (noEqual : start.head? ≠ some '=')
    (rhs : Yields limits (sum deeper) n start (HasTree right) rest) :
    Yields limits (comparison deeper) n cs (HasTree (.compare .none op left right)) rest := by
  have compared : Yields limits (do Parser.space; Parser.compareOp) n mid (· = op) start := by
    refine spaced ?_
    rw [symbol]
    exact compareOp mem noEqual
  refine lhs.bind fun _ hleft => compared.opt.bind fun _ found => ?_
  obtain ⟨_, rfl, rfl⟩ := found
  exact (rhs.cut.expecting _).bind fun _ hright => pure (hleft.compare hright _)

theorem comparison_other {Q : Expr → Prop} (lhs : Yields limits (sum deeper) n cs (HasTree left) mid)
    (noSign : ∀ c ∈ ['>', '<', '=', '!'], (Text.skip mid).head? ≠ some c)
    (after : ∀ lhs, HasTree left lhs → Yields limits (do
      match ← Parser.opt (do
        Parser.space
        Parser.orElse (Parser.keyword ['i', 'n']) (Parser.keyword ['I', 'N'])) with
      | some () =>
        let (set, span) ← Parser.spanned
          (Parser.expecting .listOfValues (Parser.cut (Parser.listOfValues deeper.expression)))
        Pure.pure (.within (.over ⟨lhs.span.start, span.stop⟩ (lhs :: set)) lhs set)
      | none => Pure.pure lhs) n mid Q rest) : Yields limits (comparison deeper) n cs Q rest := by
  refine lhs.bind fun lhs hleft => (opt_none (.spaced (.compareOp noSign))).bind fun _ found => ?_
  rw [found]
  exact after lhs hleft

theorem comparison_within {list : List Char} {trees : List Expr}
    (lhs : Yields limits (sum deeper) n cs (HasTree left) mid) (sign : InSign mid list)
    (noSign : ∀ c ∈ ['>', '<', '=', '!'], (Text.skip mid).head? ≠ some c)
    (values : Yields limits (Parser.listOfValues deeper.expression) n list
      (List.Forall₂ HasTree trees) rest) :
    Yields limits (comparison deeper) n cs (HasTree (.within .none left trees)) rest := by
  refine comparison_other lhs noSign fun lhs hleft =>
    (spaced (words (by decide) sign)).opt.bind fun _ found => ?_
  obtain ⟨_, rfl, -⟩ := found
  refine (values.cut.expecting _).spanned.bind fun x same => ?_
  obtain ⟨set, span⟩ := x
  exact pure (hleft.within same)

theorem comparison_sum (lhs : Yields limits (sum deeper) n cs (HasTree left) rest)
    (noSign : ∀ c ∈ ['>', '<', '=', '!', 'i', 'I'], (Text.skip rest).head? ≠ some c) :
    Yields limits (comparison deeper) n cs (HasTree left) rest := by
  have noCompare : ∀ c ∈ ['>', '<', '=', '!'], (Text.skip rest).head? ≠ some c :=
    fun c mem => noSign c (List.mem_append_left ['i', 'I'] mem)
  have noWord : ∀ c ∈ ['i', 'I'], (Text.skip rest).head? ≠ some c :=
    fun c mem => noSign c (List.mem_append_right ['>', '<', '=', '!'] mem)
  refine comparison_other lhs noCompare fun lhs hleft =>
    (opt_none (.spaced (.words noWord))).bind fun _ found => ?_
  rw [found]
  exact pure hleft

end Comparison

theorem expression {deeper : Deeper} {tree : Expr} (room : n < maxNesting ∨ .lessNesting ∈ limits)
    (h : n < maxNesting →
      Yields limits (disjunction deeper) (n + 1) (Text.skip cs) (HasTree tree) rest)
    (low : Low limits tree) : Yields limits (expression deeper) n cs (HasTree tree) rest :=
  nested room fun open' => spaced ((h open').bind fun _ same => bounded same low)

end Yields

namespace Declines

theorem suffix {expr : Parser Expr} {target : Expr} (other : (Text.skip cs).head? ≠ some '.') :
    Declines (suffix expr target) n cs :=
  spaced (bind (character other))

/-- The symbol does not come, and neither does one of the words. -/
theorem sign {p : Parser Unit} {lower upper : List Char} (hp : Declines p n cs)
    (noWord : ∀ w ∈ [lower, upper], ∀ rest, cs = w ++ rest → ¬ Ends isIdentifierPart rest) :
    Declines (Parser.orElse p (Parser.orElse (Parser.keyword lower) (Parser.keyword upper))) n cs :=
  hp.orElse ((keyword (noWord lower (by simp))).orElse (keyword (noWord upper (by simp))))

/-- No lambda begins where no arrow comes after a name. -/
theorem lambda {expr : Parser Expr} (noArrow : ∀ name mid, Name name cs mid → ¬ Arrow mid) :
    Declines (lambda expr) n cs := by
  refine bind (spanned (spaced ?_))
  by_cases start : Ends isIdentifierStart (Text.skip cs)
  · exact bind (identifier start)
  · obtain ⟨name, mid, h⟩ := exists_name start
    refine bind_later (.identifier_of_name h) fun _ _ => bind_later (.space mid) fun _ _ =>
      bind (word fun isPrefix => ?_)
    obtain ⟨body, eq⟩ := isPrefix
    exact noArrow name mid h ⟨body, eq.symm⟩

end Declines

end RecordRules.Parser

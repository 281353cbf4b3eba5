import RecordRules.Proofs.Parsing.PhraseCompleteness

namespace RecordRules.Parser

open Grammar
open RecordRules.Expr (HasTree)

variable {limits : List Expectation} {n : Nat}

/-- The parser finds the phrase after any white space, unless one of the limits is in its way. -/
def Finds (limits : List Expectation) (p : Parser Expr) (n : Nat) (cs : List Char) (tree : Expr)
    (rest : List Char) : Prop :=
  Low limits tree → ∀ ⦃start⦄, Text.skip start = Text.skip cs →
    p.Yields limits n start (HasTree tree) rest

/-- The parser finds the phrases one after the other. -/
def FindsEach (limits : List Expectation) (p : Parser Expr) (n : Nat) (cs : List Char)
    (trees : List Expr) (rest : List Char) : Prop :=
  (∀ e ∈ trees, Low limits e) → Repeated limits p n HasTree cs trees rest

def FindsOperations (limits : List Expectation) (p : Parser (ArithOp × Expr)) (n : Nat)
    (cs : List Char) (trees : List (ArithOp × Expr)) (rest : List Char) : Prop :=
  (∀ operation ∈ trees, Low limits operation.2) → Repeated limits p n HasOperand cs trees rest

section Finds

variable {cs start mid rest : List Char} {tree : Expr}

theorem FindsEach.nil {step : Parser Expr} (h : Declines step n cs) :
    FindsEach limits step n cs [] cs :=
  fun _ => .stop h

theorem FindsEach.cons {p : Parser Unit} {q : Parser Expr} {trees : List Expr}
    (hp : Yields limits p n (Text.skip cs) (fun _ => True) start)
    (hq : Finds limits q n start tree mid) (shorter : mid.length < cs.length)
    (others : FindsEach limits (do space; p; cut q) n mid trees rest) :
    FindsEach limits (do space; p; cut q) n cs (tree :: trees) rest := by
  intro low
  obtain ⟨first, low⟩ := List.forall_mem_cons.mp low
  exact .more (.operand hp (hq first rfl)) shorter (others low)

theorem Finds.operands {q step : Parser Expr} {make : Mark → List Expr → Expr} {trees : List Expr}
    (build : ∀ {trees es span}, List.Forall₂ HasTree trees es →
      HasTree (make .none trees) (make (.over span es) es))
    (depth : ∀ mark es, (make mark es).depth = 1 + Expr.greatestDepth es)
    (hq : Finds limits q n cs tree mid) (others : FindsEach limits step n mid trees rest) : Finds limits (do
      let first ← q
      let others ← many step
      pure (connected make first others)) n cs (flat make tree trees) rest := by
  intro low start same
  obtain ⟨first, le⟩ := depth_le_flat depth tree trees
  exact .operands build (hq (low.mono first) same) (others fun e mem => low.mono (le e mem))

theorem FindsOperations.nil {step : Parser (ArithOp × Expr)} (h : Declines step n cs) :
    FindsOperations limits step n cs [] cs :=
  fun _ => .stop h

theorem FindsOperations.cons {p : Parser ArithOp} {q : Parser Expr} {op : ArithOp}
    {sign : List Char} {trees : List (ArithOp × Expr)}
    (symbol : Symbol sign cs start) (hp : Yields limits p n (sign ++ start) (· = op) start)
    (hq : Finds limits q n start tree mid) (shorter : mid.length < cs.length)
    (others : FindsOperations limits (do space; let op ← p; let e ← cut q; pure (op, e)) n mid trees
      rest) :
    FindsOperations limits (do space; let op ← p; let e ← cut q; pure (op, e)) n cs
      ((op, tree) :: trees) rest := by
  intro low
  obtain ⟨first, low⟩ := List.forall_mem_cons.mp low
  exact .more (.operation symbol hp (hq first rfl)) shorter (others low)

theorem Finds.operations {q : Parser Expr} {step : Parser (ArithOp × Expr)}
    {trees : List (ArithOp × Expr)} (hq : Finds limits q n cs tree mid)
    (others : FindsOperations limits step n mid trees rest) : Finds limits (do
      let first ← q
      let others ← many step
      chained first others) n cs (grouped tree trees) rest := by
  intro low start same
  exact .operations (hq (low.mono (depth_le_grouped tree trees)) same)
    (others fun operation mem => low.mono (depth_le_grouped_of_mem tree mem)) low

theorem Finds.prefixed {sign : Parser Unit} {p q : Parser Expr} {make : Mark → Expr → Expr}
    (build : ∀ {tree e span}, HasTree tree e → HasTree (make .none tree) (make (.over span [e]) e))
    (depth : tree.depth ≤ (make .none tree).depth)
    (room : n < maxNesting ∨ .lessNesting ∈ limits)
    (hs : Yields limits sign n (Text.skip cs) (fun _ => True) mid)
    (hp : n < maxNesting → Finds limits p (n + 1) mid tree rest) : Finds limits (do
      space
      match ← opt (spanned do sign; cut (nested p)) with
      | some (operand, span) => pure (make (.over span [operand]) operand)
      | none => q) n cs (make .none tree) rest := by
  intro low start same
  rw [← same] at hs
  exact .prefixed build hs (.nested room fun open' => hp open' (low.mono depth) rfl)

theorem Finds.unprefixed {sign : Parser Unit} {p q : Parser Expr} {make : Mark → Expr → Expr}
    (hs : Declines sign n (Text.skip cs)) (hq : Finds limits q n cs tree rest) : Finds limits (do
      space
      match ← opt (spanned do sign; cut (nested p)) with
      | some (operand, span) => pure (make (.over span [operand]) operand)
      | none => q) n cs tree rest := by
  intro low start same
  have found := hq low (Text.skip_skip cs)
  rw [← same] at hs found
  exact .unprefixed hs found

/-- One more suffix, and then the others. -/
theorem suffixes_cons {expr : Parser Expr} {suffix : Suffix} {suffixes : List Suffix}
    {stop : List Char} {target : Expr} (point : Symbol ['.'] cs start)
    (word : Name suffix.name start mid)
    (args : Yields limits (opt do space; arguments expr) n mid
      (Option.Rel (List.Forall₂ HasTree) suffix.args) stop)
    (le : stop.length ≤ mid.length)
    (low : Low limits ((suffix :: suffixes).foldl Suffix.on target))
    (others : Iterated limits (Parser.suffix expr) n HasTree (suffix.on target) stop
      (suffixes.foldl Suffix.on (suffix.on target)) rest) :
    Iterated limits (Parser.suffix expr) n HasTree target cs
      ((suffix :: suffixes).foldl Suffix.on target) rest := by
  have made := low.mono (depth_le_foldl_on (suffix.on target) suffixes)
  have lt := word.length_lt
  have le' := point.length_le
  exact .more (fun _ same => .suffix point word args same made) (by omega) others

end Finds

/-- The parsers for so many levels of nesting find such a phrase with so many nested parts open. -/
def Found (limits : List Expectation) (p : Nonterminal) (levels n : Nat) :
    List Char → p.Tree → List Char → Prop :=
  match p with
  | .expression => Finds limits (expression (deeper levels)) n
  | .disjunction => Finds limits (disjunction (deeper (levels + 1))) n
  | .disjuncts => FindsEach limits (do
    space
    orElse (word ['|', '|']) <| orElse (keyword ['o', 'r']) (keyword ['O', 'R'])
    cut (conjunction (deeper (levels + 1)))) n
  | .conjunction => Finds limits (conjunction (deeper (levels + 1))) n
  | .conjuncts => FindsEach limits (do
    space
    orElse (word ['&', '&']) <| orElse (keyword ['a', 'n', 'd']) (keyword ['A', 'N', 'D'])
    cut (negated (deeper (levels + 1)))) n
  | .negated => Finds limits (negated (deeper (levels + 1))) n
  | .comparison => Finds limits (comparison (deeper (levels + 1))) n
  | .sum => Finds limits (sum (deeper (levels + 1))) n
  | .summands => FindsOperations limits (do
    space
    let op ← additiveOp
    let operand ← cut (product (deeper (levels + 1)))
    pure (op, operand)) n
  | .product => Finds limits (product (deeper (levels + 1))) n
  | .factors => FindsOperations limits (do
    space
    let op ← multiplicativeOp
    let operand ← cut (signed (deeper (levels + 1)))
    pure (op, operand)) n
  | .signed => Finds limits (signed (deeper (levels + 1))) n
  | .suffixed => Finds limits (suffixed (expression (deeper levels))) n
  | .suffixes => fun cs suffixes rest => ∀ ⦃target⦄,
    Low limits (suffixes.foldl Suffix.on target) →
      Iterated limits (suffix (expression (deeper levels))) n HasTree target cs
        (suffixes.foldl Suffix.on target) rest
  | .primary => Finds limits (primary (expression (deeper levels))) n
  | .arguments => fun cs trees rest => (∀ e ∈ trees, Low limits e) →
    Yields limits (arguments (expression (deeper levels))) n (Text.skip cs)
      (List.Forall₂ HasTree trees) rest
  | .expressions => fun cs trees rest => (∀ e ∈ trees, Low limits e) →
    ∃ first mid others, trees = first :: others ∧ mid.length ≤ cs.length ∧
      (∀ ⦃start⦄, Text.skip start = Text.skip cs →
        Yields limits (expression (deeper levels)) n start (HasTree first) mid) ∧
      Repeated limits (do comma; expression (deeper levels)) n HasTree mid others rest

theorem levels_below {levels : Nat} (enough : n + levels = maxNesting) (open' : n < maxNesting) :
    ∃ below, levels = below + 1 ∧ n + 1 + below = maxNesting :=
  ⟨levels - 1, by omega, by omega⟩

/-- No negation begins where a comparison does. -/
theorem declines_notSign {room : Nat} {cs rest : List Char} {tree : Expr}
    (e : Derives room .comparison cs tree rest) :
    Declines (orElse (character '!') (orElse (keyword ['n', 'o', 't']) (keyword ['N', 'O', 'T']))) n
      (Text.skip cs) := by
  have noMark := (e.begins trivial).head_ne (c := '!') (by decide) (by decide) (by decide)
  refine .sign (.character noMark) fun w mem rest eq ends => ?_
  -- an operand that began with the word would have the reserved word as its first name
  have identifiers : ∀ w ∈ [['n', 'o', 't'], ['N', 'O', 'T']],
      IsIdentifier w ∧ String.ofList w ∈ reserved := by decide
  obtain ⟨identifier, isReserved⟩ := identifiers w mem
  exact (e.namesFirst _ _ (Keyword.isName ⟨eq, ends⟩ identifier)).1 isReserved

/-- What the grammar derives with no more room than there are levels is found by the parsers. -/
theorem found_of_derives {room : Nat} {p : Nonterminal} {cs rest : List Char} {tree : p.Tree}
    (h : Derives room p cs tree rest) {levels : Nat} (enough : n + levels = maxNesting)
    (roomy : room ≤ levels ∨ .lessNesting ∈ limits) (stops : Stops p rest) :
    Found limits p levels n cs tree rest := by
  induction h generalizing n levels with
  | @expression room cs e rest _ ih =>
    intro low start same
    refine .expression (roomy.imp_left fun le => by omega) (fun open' => ?_) low
    obtain ⟨below, rfl, deep⟩ := levels_below enough open'
    have found := ih deep (roomy.imp_left Nat.le_of_lt_succ) stops low (Text.skip_skip cs)
    rwa [← same] at found
  | disjunction _ others ih ih' =>
    exact .operands .or (fun _ _ => rfl) (ih enough roomy (stops_of_disjuncts others stops))
      (ih' enough roomy stops)
  | noDisjunct =>
    exact .nil (.spaced (.bind ((Declines.word_of_head (stops.head_ne (by decide))).orElse
      (.words (stops.heads_ne (by decide))))))
  | disjunct sign e others ih ih' =>
    have lt := sign.length_lt (by decide)
    refine .cons (.sign (fun rest => .word _ rest) .word_of_head (by decide) sign)
      (ih enough roomy (stops_of_disjuncts others stops)) (e.length_le.trans_lt lt)
      (ih' enough roomy stops)
  | conjunction _ others ih ih' =>
    exact .operands .and (fun _ _ => rfl) (ih enough roomy (stops_of_conjuncts others stops))
      (ih' enough roomy stops)
  | noConjunct =>
    exact .nil (.spaced (.bind ((Declines.word_of_head (stops.head_ne (by decide))).orElse
      (.words (stops.heads_ne (by decide))))))
  | conjunct sign e others ih ih' =>
    have lt := sign.length_lt (by decide)
    exact .cons (.sign (fun rest => .word _ rest) .word_of_head (by decide) sign)
      (ih enough roomy (stops_of_conjuncts others stops)) (e.length_le.trans_lt lt)
      (ih' enough roomy stops)
  | negation sign _ ih =>
    have mark (rest : List Char) :
        Yields limits (character '!') n (['!'] ++ rest) (fun _ => True) rest :=
      Yields.character '!' rest
    refine .prefixed .not (by rw [Expr.depth]; omega) (roomy.imp_left fun le => by omega)
      (.sign mark .character (by decide) sign) fun open' => ?_
    obtain ⟨below, rfl, deep⟩ := levels_below enough open'
    exact ih deep (roomy.imp_left Nat.le_of_lt_succ) stops
  | unnegated e ih => exact .unprefixed (declines_notSign e) (ih enough roomy stops)
  | compare lhs mem sign rhs ih ih' =>
    intro low start same
    -- otherwise the sign could be the beginning of a longer one
    have noEqual := (rhs.begins trivial).head_ne_of_notBlank (c := '=') (by decide) (by decide)
      (by decide) (by decide)
    have left := ih enough roomy (stops_of_mem (by decide) mem sign)
      (low.mono (by rw [Expr.depth]; omega)) same
    have right := ih' enough roomy (stops.mono (by decide))
      (low.mono (by rw [Expr.depth]; omega)) rfl
    exact .comparison_compare left mem sign noEqual right
  | within _ sign opening _ closing ih ih' =>
    intro low start same
    have left := ih enough roomy (sign.stops (by decide)) (low.mono (by rw [Expr.depth]; omega)) same
    obtain ⟨first, mid, others, rfl, -, hfirst, hothers⟩ := ih' enough roomy
      (stops_of_symbol closing (by decide)) fun e mem => low.mono (by
        have le := Expr.depth_le_greatestDepth mem
        rw [Expr.depth]
        omega)
    exact .comparison_within left sign (sign.heads_ne (by decide))
      (.listOfValues opening (.separated1 (hfirst rfl) hothers) closing)
  | uncompared _ ih =>
    intro low start same
    exact .comparison_sum (ih enough roomy (stops.mono (by decide)) low same)
      (stops.heads_ne (by decide))
  | sum _ others ih ih' =>
    exact .operations (ih enough roomy (stops_of_summands others stops)) (ih' enough roomy stops)
  | noSummand => exact .nil (.spaced (.bind (.additiveOp (stops.heads_ne (by decide)))))
  | summand mem sign e others ih ih' =>
    have some : ∀ s ∈ additiveSigns, s.2 ≠ [] := by decide
    have lt := sign.length_lt (some _ mem)
    exact .cons sign (.additiveOp mem) (ih enough roomy (stops_of_summands others stops))
      (e.length_le.trans_lt lt) (ih' enough roomy stops)
  | product _ others ih ih' =>
    exact .operations (ih enough roomy (stops_of_factors others stops)) (ih' enough roomy stops)
  | noFactor => exact .nil (.spaced (.bind (.multiplicativeOp (stops.heads_ne (by decide)))))
  | factor mem sign e others ih ih' =>
    have some : ∀ s ∈ multiplicativeSigns, s.2 ≠ [] := by decide
    have lt := sign.length_lt (some _ mem)
    exact .cons sign (.multiplicativeOp mem) (ih enough roomy (stops_of_factors others stops))
      (e.length_le.trans_lt lt) (ih' enough roomy stops)
  | @negative room cs start e rest sign _ ih =>
    have minus : Yields limits (character '-') n (Text.skip cs) (fun _ => True) start := by
      rw [sign]
      exact Yields.character '-' start
    refine .prefixed .neg (by rw [Expr.depth]; omega) (roomy.imp_left fun le => by omega) minus
      fun open' => ?_
    obtain ⟨below, rfl, deep⟩ := levels_below enough open'
    exact ih deep (roomy.imp_left Nat.le_of_lt_succ) stops
  | unsigned e ih =>
    have noMinus := (e.begins trivial).head_ne (c := '-') (by decide) (by decide) (by decide)
    exact .unprefixed (.character noMinus) (ih enough roomy stops)
  | suffixed _ suffixes ih ih' =>
    intro low start same
    have first := low.mono (depth_le_foldl_on _ _)
    exact (ih enough roomy (stops_of_suffixes suffixes stops) first same).bind fun _ hasTree =>
      .iterate (ih' enough roomy stops low) hasTree
  | noSuffix =>
    intro target _
    exact .stop fun _ _ => .suffix (stops.head_ne (by decide))
  | @member room cs start name mid others rest point word later ih =>
    intro target low
    have noCall := (stops_of_suffixes later stops).head_ne (c := '(') (by decide)
    have args : Yields limits (opt do space; arguments (expression (deeper levels))) n mid
        (Option.Rel (List.Forall₂ HasTree) none) mid := by
      refine (Yields.opt_none (.spaced (.bind (.character noCall)))).imp fun _ eq => ?_
      rw [eq]
      exact .none
    exact suffixes_cons point word args (Nat.le_refl _) low (ih enough roomy stops low)
  | @method room cs start name list args mid others rest point word hargs later ih ih' =>
    intro target low
    have call := low.mono (depth_le_foldl_on (Suffix.on target ⟨name, some args⟩) others)
    have found := ih enough roomy (fun _ _ mem => by cases mem) fun e mem => call.mono (by
      have le := Expr.depth_le_greatestDepth mem
      rw [Suffix.on, Expr.depth]
      omega)
    have args : Yields limits (opt do space; arguments (expression (deeper levels))) n list
        (Option.Rel (List.Forall₂ HasTree) (some args)) mid := by
      refine found.spaced.opt.imp ?_
      rintro _ ⟨_, rfl, same⟩
      exact .some same
    exact suffixes_cons point word args hargs.length_le low (ih' enough roomy stops low)
  | group opening _ closing ih =>
    intro low start same
    exact .primary_group (same.trans opening)
      (ih enough roomy (stops_of_symbol closing (by decide)) low rfl) closing
  | string opening quoted =>
    intro _ start same
    exact .primary_string (same.trans opening) quoted
  | int digits value =>
    intro _ start same
    obtain ⟨c, after, head, digit⟩ := digits.head
    refine .primary_number (same.trans head) digit ?_
    rw [same, digits.symbol]
    exact .number_whole digits.all digits.ends digits.noFraction value
  | float digits =>
    intro _ start same
    obtain ⟨c, after, head, digit⟩ := digits.head
    refine .primary_number (same.trans head) digit ?_
    rw [same, digits.symbol]
    exact .number_decimal digits.before digits.after digits.ends
  | bool mem word =>
    intro _ start same
    exact .primary_named (word.of_skip same) (.named_bool mem (word.of_skip same))
  | ident word free =>
    intro _ start same
    exact .primary_named (word.of_skip same)
      (.named_ident (word.of_skip same) free (stops.head_ne (by decide)))
  | call word free _ ih =>
    intro low start same
    have found := ih enough roomy (fun _ _ mem => by cases mem) fun e mem => low.mono (by
      have le := Expr.depth_le_greatestDepth mem
      rw [Expr.depth]
      omega)
    exact .primary_named (word.of_skip same) (.named_call (word.of_skip same) free found)
  | noArguments opening closing =>
    intro _
    rw [opening]
    exact .arguments_nil closing
  | @lambda room cs start param arrow body e stop rest opening word sign _ closing ih =>
    intro low
    have inside : Low limits e := (low _ List.mem_cons_self).mono (by rw [Expr.depth]; omega)
    rw [opening]
    exact .arguments_lambda word sign
      (ih enough roomy (stops_of_symbol closing (by decide)) inside rfl) closing
  | @arguments room cs start trees stop rest opening args closing ih =>
    intro low
    obtain ⟨first, mid, others, rfl, -, hfirst, hothers⟩ :=
      ih enough roomy (stops_of_symbol closing (by decide)) low
    have noClose := (args.begins trivial).head_ne (c := ')') (by decide) (by decide) (by decide)
    have noArrow : ∀ name mid, Name name (Text.skip start) mid → ¬ Arrow mid := fun name mid word =>
      args.namesFirst name mid (word.of_skip (Text.skip_skip start).symm)
        (not_arrow_of_symbol closing (by decide))
    rw [opening]
    exact .arguments noClose (.second (.bind (.lambda noArrow))
      (.separated1 (hfirst (Text.skip_skip start)) hothers)) closing
  | lastExpression e ih =>
    intro low
    have found := ih enough roomy (stops.mono (by decide)) (low _ List.mem_cons_self)
    exact ⟨_, _, [], rfl, e.length_le, found,
      .stop (.bind (.spaced (.character (stops.head_ne (by decide)))))⟩
  | moreExpressions e separator _ ih ih' =>
    intro low
    obtain ⟨here, low⟩ := List.forall_mem_cons.mp low
    obtain ⟨first, mid, others, rfl, le, hfirst, hothers⟩ := ih' enough roomy stops low
    have lt := separator.length_lt (by decide)
    have found := ih enough roomy (stops_of_symbol separator (by decide)) here
    refine ⟨_, _, _, rfl, e.length_le, found, ?_⟩
    exact .more ((Yields.spaced_character separator).bind fun _ _ => hfirst rfl) (by omega) hothers

end RecordRules.Parser

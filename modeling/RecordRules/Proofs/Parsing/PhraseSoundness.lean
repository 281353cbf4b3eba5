import RecordRules.Proofs.Parsing.Lookahead
import RecordRules.Proofs.Parsing.Marks
import RecordRules.Proofs.Parsing.SignSoundness

namespace RecordRules.Parser

open Grammar
open RecordRules.Expr (HasTree)

variable {α β : Type} {n room : Nat} {expr : Parser Expr}

/-- The value is that of some phrase at the beginning of the text. -/
def Reads (P : List Char → β → List Char → Prop) (Q : β → α → Prop)
    (cs : List Char) (a : α) (rest : List Char) : Prop :=
  ∃ b, P cs b rest ∧ Q b a

/-- The phrases of a chain are read if each one makes a chain of the chain after it. -/
theorem reads_of_star {P : List Char → α → List Char → Prop}
    {R : List Char → List β → List Char → Prop} {Q : β → α → Prop} {cs rest : List Char}
    {as : List α} (star : Star P cs as rest) (nil : R rest [] rest)
    (cons : ∀ {cs a mid}, P cs a mid →
      ∃ b, (∀ {bs rest}, R mid bs rest → R cs (b :: bs) rest) ∧ Q b a) :
    Reads R (List.Forall₂ Q) cs as rest := by
  induction star with
  | nil => exact ⟨[], nil, .nil⟩
  | cons first _ ih =>
    obtain ⟨b, more, hb⟩ := cons first
    obtain ⟨bs, others, hbs⟩ := ih nil
    exact ⟨b :: bs, more others, .cons hb hbs⟩

namespace Gives

theorem bounded (e : Expr) :
    Gives (bounded e) n fun cs e' rest => e' = e ∧ rest = cs ∧ e.height ≤ maxHeight := by
  intro cursor e' after hn ok
  unfold Parser.bounded at ok
  split at ok
  next => cases ok
  next fits =>
    cases ok
    exact ⟨⟨rfl, rfl, Nat.le_of_not_lt fits⟩, hn⟩

theorem separated1 {p : Parser α} {separator : Parser Unit} {P : List Char → α → List Char → Prop}
    {S : List Char → List Char → Prop} (hp : Gives p n P)
    (hs : Gives separator n fun cs _ rest => S cs rest) :
    Gives (separated1 p separator) n fun cs as rest => ∃ first mid others, as = first :: others ∧
      P cs first mid ∧ Star (fun cs a rest => ∃ start, S cs start ∧ P start a rest) mid others rest := by
  have next : Gives (do separator; p) n fun cs a rest => ∃ start, S cs start ∧ P start a rest := by
    refine (hs.bind fun _ => hp).imp ?_
    rintro cs a rest ⟨_, start, separated, item⟩
    exact ⟨start, separated, item⟩
  refine (hp.bind fun first => (many next).bind fun others => pure (first :: others)).imp ?_
  rintro cs as rest ⟨first, mid, item, others, stop, star, rfl, rfl⟩
  exact ⟨first, mid, others, rfl, item, star⟩

theorem freeName : Gives freeName n fun cs (x : String × Span) rest =>
    (∀ start, Text.skip start = cs → Name x.1 start rest) ∧ x.1 ∉ reserved := by
  intro cursor x after hn ok
  unfold Parser.freeName at ok
  split at ok
  next name span stop taken =>
    split at ok
    next => cases ok
    next free =>
      cases ok
      obtain ⟨⟨isIdentifier, eq, ends⟩, nesting⟩ := identifier.spanned hn taken
      refine ⟨⟨fun start skipped => ⟨isIdentifier, skipped.trans eq, ends⟩, ?_⟩, nesting⟩
      simpa using free
  next others => exact (others x.1 x.2 after ok).elim

section Expressions

variable (h : Gives expr n (Reads (Derives room .expression) HasTree))

include h

theorem expressions :
    Gives (Parser.separated1 expr Parser.comma) n
      (Reads (Derives room .expressions) (List.Forall₂ HasTree)) := by
  refine (separated1 h comma).imp ?_
  rintro cs es rest ⟨first, mid, others, rfl, ⟨tree, derived, same⟩, star⟩
  have read : Reads (fun mid trees rest => ∀ cs tree, Derives room .expression cs tree mid →
      Derives room .expressions cs (tree :: trees) rest) (List.Forall₂ HasTree) mid others rest := by
    refine reads_of_star star (fun cs tree derived => .lastExpression derived) ?_
    rintro cs e mid ⟨start, separated, tree, derived, same⟩
    exact ⟨tree, fun later _ _ first => .moreExpressions first separated (later _ _ derived), same⟩
  obtain ⟨trees, later, sames⟩ := read
  exact ⟨tree :: trees, later cs tree derived, .cons same sames⟩

theorem lambda : Gives (lambda expr) n fun cs e rest => ∃ param arrow body tree,
    Name param cs arrow ∧ Symbol ['=', '>'] arrow body ∧ Derives room .expression body tree rest ∧
      HasTree (.lambda .none param tree) e := by
  have parts : Gives (do
      Parser.space
      let param ← Parser.identifier
      Parser.space
      Parser.word ['=', '>']
      let body ← Parser.expecting .lambdaBody (Parser.cut expr)
      Pure.pure (param, body)) n fun cs (x : String × Expr) rest => ∃ arrow start tree,
        Name x.1 cs arrow ∧ Symbol ['=', '>'] arrow start ∧
          Derives room .expression start tree rest ∧ HasTree tree x.2 := by
    refine spaced ((identifier.bind fun param => space.bind fun _ => (word ['=', '>']).bind
      fun _ => (h.cut.expecting .lambdaBody).bind fun body => pure (param, body)).imp ?_)
    rintro cs x rest ⟨param, arrow, ⟨isIdentifier, rfl, ends⟩, _, mid, rfl, _, start, eq, body, stop,
      ⟨tree, derived, same⟩, rfl, rfl⟩ first skipped
    exact ⟨arrow, start, tree, ⟨isIdentifier, skipped, ends⟩, eq, derived, same⟩
  refine (parts.spanned.bind fun x =>
    pure (Expr.lambda (.over x.2 [x.1.2]) x.1.1 x.1.2)).imp ?_
  rintro cs e rest ⟨⟨⟨param, body⟩, span⟩, mid, ⟨arrow, start, tree, name, eq, derived, same⟩, rfl, rfl⟩
  exact ⟨param, arrow, start, tree, name, eq, derived, same.lambda param⟩

/-- A lambda alone, or expressions, up to the parenthesis that closes them. -/
theorem argumentsInside : Gives (do
    let args ← Parser.expecting .arguments (Parser.cut (Parser.orElse
      (do return [← Parser.lambda expr]) (Parser.separated1 expr Parser.comma)))
    Parser.closing ')'
    Pure.pure args) n fun cs args rest => ∀ start mid, Symbol ['('] start mid → Text.skip mid = cs →
      Reads (Derives room .arguments) (List.Forall₂ HasTree) start args rest := by
  have alone := (lambda h).bind fun e => pure [e]
  refine (((alone.orElse (expressions h)).cut.expecting .arguments).bind fun args =>
    (closing ')').bind fun _ => pure args).imp ?_
  rintro cs args rest ⟨args, stop, read, _, _, closed, rfl, rfl⟩ start mid opening rfl
  have again := (Text.skip_skip mid).symm
  obtain ⟨e, _, ⟨param, arrow, body, tree, name, eq, derived, same⟩, rfl, rfl⟩
    | ⟨trees, derived, same⟩ := read
  · have name : Name param mid arrow := { name with symbol := again.trans name.symbol }
    exact ⟨[.lambda .none param tree], .lambda opening name eq derived closed, .cons same .nil⟩
  · exact ⟨trees, .arguments opening (derived.of_skip trivial again) closed, same⟩

theorem arguments : Gives (arguments expr) n fun cs args rest => ∀ start, Text.skip start = cs →
    Reads (Derives room .arguments) (List.Forall₂ HasTree) start args rest := by
  refine ((character '(').bind fun _ => space.bind fun _ => (opt (character ')')).bind
    (Q := fun found cs args rest => found = some () ∧ args = [] ∧ rest = cs ∨
      found = none ∧ ∀ start mid, Symbol ['('] start mid → Text.skip mid = cs →
        Reads (Derives room .arguments) (List.Forall₂ HasTree) start args rest)
    fun found => ?_).imp ?_
  · cases found with
    | some u => exact (pure []).imp fun cs args rest given => .inl ⟨rfl, given⟩
    | none => exact (argumentsInside h).imp fun cs args rest read => .inr ⟨rfl, read⟩
  · rintro cs args rest ⟨_, mid, rfl, _, _, rfl, found, stop, found?, inside⟩ start opening
    rcases inside with ⟨rfl, rfl, rfl⟩ | ⟨rfl, inside⟩
    · obtain ⟨_, -, closed⟩ | ⟨eq, -⟩ := found?
      · exact ⟨[], .noArguments opening closed, .nil⟩
      · cases eq
    · obtain ⟨_, eq, -⟩ | ⟨-, rfl, -⟩ := found?
      · cases eq
      · exact inside start mid opening rfl

theorem named : Gives (named expr) n fun cs e rest => ∀ start, Text.skip start = cs →
    Reads (Derives room .primary) HasTree start e rest := by
  refine (freeName.bind (Q := fun x cs e rest => ∀ start, Name x.1 start cs → x.1 ∉ reserved →
    Reads (Derives room .primary) HasTree start e rest) fun (name, span) => ?_).imp ?_
  · change Gives (if name == "true" then _ else if name == "false" then _ else _) n _
    by_cases isTrue : name = "true"
    · rw [if_pos (beq_iff_eq.mpr isTrue)]
      refine (pure _).imp ?_
      rintro cs e rest ⟨rfl, rfl⟩ start first _
      subst isTrue
      have mem : ("true", true) ∈ truthValues := by decide
      exact ⟨_, .bool mem first, .literal _⟩
    rw [if_neg (mt beq_iff_eq.mp isTrue)]
    by_cases isFalse : name = "false"
    · rw [if_pos (beq_iff_eq.mpr isFalse)]
      refine (pure _).imp ?_
      rintro cs e rest ⟨rfl, rfl⟩ start first _
      subst isFalse
      have mem : ("false", false) ∈ truthValues := by decide
      exact ⟨_, .bool mem first, .literal _⟩
    rw [if_neg (mt beq_iff_eq.mp isFalse)]
    have word : name ∉ truthValues.map Prod.fst := by simp [truthValues, isTrue, isFalse]
    refine ((opt (spaced (arguments h)).spanned).bind (Q := fun found cs e rest =>
      found = none ∧ HasTree (.ident .none name) e ∧ rest = cs ∨
        ∃ args span, found = some (args, span) ∧ rest = cs ∧
          ∀ {trees}, List.Forall₂ HasTree trees args → HasTree (.call .none name trees) e)
      fun found => ?_).imp ?_
    · rcases found with _ | ⟨args, argsSpan⟩
      · refine (pure _).imp ?_
        rintro cs e rest ⟨rfl, rfl⟩
        exact .inl ⟨rfl, .ident name, rfl⟩
      · refine (pure _).imp ?_
        rintro cs e rest ⟨rfl, rfl⟩
        exact .inr ⟨args, argsSpan, rfl, rfl, fun same => .call same name⟩
    · rintro cs e rest ⟨found, mid, found?, made⟩ start first free
      rcases made with ⟨rfl, same, rfl⟩ | ⟨args, span, rfl, rfl, same⟩
      · obtain ⟨_, eq, -⟩ | ⟨-, rfl, -⟩ := found?
        · cases eq
        · exact ⟨_, .ident first ⟨free, word⟩, same⟩
      · obtain ⟨_, eq, trees, derived, sames⟩ | ⟨eq, -⟩ := found?
        · cases eq
          exact ⟨_, .call first ⟨free, word⟩ derived, same sames⟩
        · cases eq
  · rintro cs e rest ⟨x, mid, ⟨first, free⟩, made⟩ start skipped
    exact made start (first start skipped) free

theorem group : Gives (group expr) n fun cs e rest => ∀ start, Text.skip start = cs →
    Reads (Derives room .primary) HasTree start e rest := by
  refine ((character '(').bind fun _ => h.bind fun e => (closing ')').bind fun _ => pure e).imp ?_
  rintro cs e rest ⟨_, mid, rfl, e, stop, ⟨tree, derived, same⟩, _, _, closed, rfl, rfl⟩ start opening
  exact ⟨tree, .group opening derived closed, same⟩

theorem primary : Gives (primary expr) n (Reads (Derives room .primary) HasTree) := by
  have string : Gives (Parser.literal Parser.stringLiteral .string) n fun cs e rest => ∀ start,
      Text.skip start = cs → Reads (Derives room .primary) HasTree start e rest := by
    refine (stringLiteral.spanned.bind fun x => pure (Expr.literal (.over x.2 []) (.string x.1))).imp ?_
    rintro cs e rest ⟨⟨_, span⟩, mid, ⟨inside, value, rfl, quoted, rfl⟩, rfl, rfl⟩ start opening
    exact ⟨_, .string opening quoted, .literal _⟩
  have number : Gives (Parser.literal Parser.number id) n fun cs e rest => ∀ start,
      Text.skip start = cs → Reads (Derives room .primary) HasTree start e rest := by
    refine (number.spanned.bind fun x => pure (Expr.literal (.over x.2 []) x.1)).imp ?_
    rintro cs e rest ⟨⟨_, span⟩, mid, ⟨digits, value, rfl, all, ends, noFraction, fits, rfl⟩ |
      ⟨whole, fraction, rfl, before, after, ends, rfl⟩, rfl, rfl⟩ start skipped
    · exact ⟨_, .int ⟨all, skipped, ends, noFraction⟩ fits, .literal _⟩
    · exact ⟨_, .float ⟨before, after, skipped, ends⟩, .literal _⟩
  refine spaced ((((group h).orElse (string.orElse (number.orElse (named h)))).expecting _).imp ?_)
  rintro cs e rest (read | read | read | read) <;> exact read

/-- One more member access or method call. -/
theorem suffix (target : Expr) : Gives (suffix expr target) n fun cs e rest => ∃ found : Suffix,
    (∀ {others stop}, Derives room .suffixes rest others stop →
      Derives room .suffixes cs (found :: others) stop) ∧
    ∀ {tree}, HasTree tree target → HasTree (found.on tree) e := by
  have parts : Gives (do
      let name ← Parser.expecting .memberName (Parser.cut Parser.identifier)
      let args ← Parser.opt do
        Parser.space
        Parser.arguments expr
      Pure.pure (name, args)) n (Reads (fun cs found rest => ∀ {start mid others stop},
        Symbol ['.'] start mid → Text.skip mid = cs → Derives room .suffixes rest others stop →
          Derives room .suffixes start (found :: others) stop) HasSuffix) := by
    refine ((identifier.cut.expecting _).bind fun name => (opt (spaced (arguments h))).bind
      fun args => pure (name, args)).imp ?_
    rintro cs x rest ⟨name, list, ⟨isIdentifier, eq, ends⟩, args, _, found, rfl, rfl⟩
    rcases found with ⟨args, rfl, trees, derived, same⟩ | ⟨rfl, rfl, -⟩
    · exact ⟨⟨name, some trees⟩, fun point skipped later =>
        .method point ⟨isIdentifier, skipped.trans eq, ends⟩ derived later, rfl, .some same⟩
    · exact ⟨⟨name, none⟩, fun point skipped later =>
        .member point ⟨isIdentifier, skipped.trans eq, ends⟩ later, rfl, .none⟩
  refine spaced (((character '.').bind fun _ => space.bind fun _ => parts.spanned.bind
    (Q := fun x cs e rest => rest = cs ∧ ∀ {found tree}, HasSuffix found x.1 → HasTree tree target →
      HasTree (found.on tree) e)
    fun x => ?_).imp ?_)
  · obtain ⟨⟨name, args⟩, span⟩ := x
    cases args with
    | none =>
      refine (bounded _).imp ?_
      rintro cs e rest ⟨rfl, rfl, -⟩
      refine ⟨rfl, ?_⟩
      rintro ⟨member, _⟩ tree ⟨rfl, ⟨⟩⟩ same
      exact same.member member
    | some args =>
      refine (bounded _).imp ?_
      rintro cs e rest ⟨rfl, rfl, -⟩
      refine ⟨rfl, ?_⟩
      rintro ⟨method, _⟩ tree ⟨rfl, ⟨sames⟩⟩ same
      exact same.method sames method
  · rintro cs e rest ⟨_, mid, rfl, _, _, rfl, ⟨⟨name, args⟩, span⟩, stop, ⟨found, derived, has⟩, rfl,
      same⟩ start point
    exact ⟨found, fun later => derived point rfl later, fun hasTree => same has hasTree⟩

theorem suffixed : Gives (suffixed expr) n (Reads (Derives room .suffixed) HasTree) := by
  have suffixes {cs rest : List Char} {target e : Expr}
      (steps : Steps (fun target cs e rest => ∃ found : Suffix,
        (∀ {others stop}, Derives room .suffixes rest others stop →
          Derives room .suffixes cs (found :: others) stop) ∧
        ∀ {tree}, HasTree tree target → HasTree (found.on tree) e) target cs e rest) :
      ∃ found, Derives room .suffixes cs found rest ∧
        ∀ {tree}, HasTree tree target → HasTree (found.foldl Suffix.on tree) e := by
    induction steps with
    | nil => exact ⟨[], .noSuffix, id⟩
    | cons step _ ih =>
      obtain ⟨first, derived, same⟩ := step
      obtain ⟨others, later, sames⟩ := ih
      exact ⟨first :: others, derived later, fun hasTree => sames (same hasTree)⟩
  refine ((primary h).bind fun target => iterate (suffix h) target).imp ?_
  rintro cs e rest ⟨target, mid, ⟨tree, derived, same⟩, steps⟩
  obtain ⟨found, later, sames⟩ := suffixes steps
  exact ⟨_, .suffixed derived later, sames same⟩

theorem listOfValues : Gives (listOfValues expr) n
    (Reads (fun cs trees rest => ∃ start stop, Symbol ['['] cs start ∧
      Derives room .expressions start trees stop ∧ Symbol [']'] stop rest)
      (List.Forall₂ HasTree)) := by
  refine spaced (((character '[').bind fun _ => (expressions h).bind fun values =>
    space.bind fun _ => (character ']').bind fun _ => pure values).imp ?_)
  rintro cs values rest ⟨_, inside, rfl, values, stop, ⟨trees, derived, same⟩, _, _, rfl, _, _, closed,
    rfl, rfl⟩ start opening
  exact ⟨trees, ⟨inside, stop, opening, derived, closed⟩, same⟩

end Expressions

/-- The chain has the tree that groups its operations from the left. -/
theorem chained (first : Expr) (others : List (ArithOp × Expr)) :
    Gives (chained first others) n fun cs e rest => rest = cs ∧ ∀ {tree trees},
      HasTree tree first → List.Forall₂ HasOperand trees others → HasTree (grouped tree trees) e := by
  induction others generalizing first with
  | nil =>
    refine (pure first).imp ?_
    rintro cs e rest ⟨rfl, rfl⟩
    refine ⟨rfl, ?_⟩
    rintro tree _ same ⟨⟩
    exact same
  | cons operation others ih =>
    obtain ⟨op, operand⟩ := operation
    refine ((bounded _).bind ih).imp ?_
    rintro cs e rest ⟨_, _, ⟨rfl, rfl, -⟩, rfl, same⟩
    refine ⟨rfl, ?_⟩
    rintro tree _ hfirst (_ | ⟨⟨rfl, hoperand⟩, hothers⟩)
    have made := same (hfirst.arith hoperand _) hothers
    exact made

/-- A chain of operations of one rank. -/
theorem operations {p : Parser ArithOp} {q : Parser Expr} {signs : List (ArithOp × List Char)}
    {P : List Char → Expr → List Char → Prop}
    {R : List Char → List (ArithOp × Expr) → List Char → Prop}
    (hp : Gives p n fun cs op rest => ∃ sign, (op, sign) ∈ signs ∧ cs = sign ++ rest)
    (hq : Gives q n (Reads P HasTree)) (nil : ∀ cs, R cs [] cs)
    (cons : ∀ {cs op sign start e mid others rest}, (op, sign) ∈ signs → Symbol sign cs start →
      P start e mid → R mid others rest → R cs ((op, e) :: others) rest) : Gives (do
      let first ← q
      let others ← Parser.many do
        Parser.space
        let op ← p
        let operand ← Parser.cut q
        Pure.pure (op, operand)
      Parser.chained first others) n (Reads (fun cs tree rest => ∃ first mid others,
        P cs first mid ∧ R mid others rest ∧ tree = grouped first others) HasTree) := by
  have item : Gives (do
      Parser.space
      let op ← p
      let operand ← Parser.cut q
      Pure.pure (op, operand)) n (Reads (fun cs tree rest => ∃ sign start,
        (tree.1, sign) ∈ signs ∧ Symbol sign cs start ∧ P start tree.2 rest) HasOperand) := by
    refine spaced ((hp.bind fun op => hq.cut.bind fun operand => pure (op, operand)).imp ?_)
    rintro cs x rest ⟨op, start, ⟨sign, mem, eq⟩, e, _, ⟨tree, read, same⟩, rfl, rfl⟩ begin skipped
    exact ⟨(op, tree), ⟨sign, start, mem, skipped.trans eq, read⟩, rfl, same⟩
  refine (hq.bind fun first => (many item).bind fun others => chained first others).imp ?_
  rintro cs e rest ⟨first, mid, ⟨tree, read, hfirst⟩, others, _, star, rfl, same⟩
  have chain : Reads R (List.Forall₂ HasOperand) mid others rest := by
    refine reads_of_star star (nil rest) ?_
    rintro cs operation mid ⟨tree, ⟨sign, start, mem, symbol, read⟩, same⟩
    exact ⟨tree, fun later => cons mem symbol read later, same⟩
  obtain ⟨trees, later, hothers⟩ := chain
  exact ⟨_, ⟨tree, mid, trees, read, later, rfl⟩, same hfirst hothers⟩

/-- Operands that are connected by one sign. -/
theorem operands {p : Parser Unit} {q : Parser Expr} {make : Mark → List Expr → Expr}
    {S : List Char → List Char → Prop} {P : List Char → Expr → List Char → Prop}
    {R : List Char → List Expr → List Char → Prop}
    (hp : Gives p n fun cs _ rest => ∀ start, Text.skip start = cs → S start rest)
    (hq : Gives q n (Reads P HasTree)) (nil : ∀ cs, R cs [] cs)
    (cons : ∀ {cs start e mid others rest}, S cs start → P start e mid → R mid others rest →
      R cs (e :: others) rest)
    (build : ∀ {trees es span}, List.Forall₂ HasTree trees es →
      HasTree (make .none trees) (make (.over span es) es)) : Gives (do
      let first ← q
      let others ← Parser.many do
        Parser.space
        p
        Parser.cut q
      Pure.pure (connected make first others)) n (Reads (fun cs tree rest => ∃ first mid others,
        P cs first mid ∧ R mid others rest ∧ tree = flat make first others) HasTree) := by
  have item : Gives (do
      Parser.space
      p
      Parser.cut q) n (Reads (fun cs tree rest => ∃ start, S cs start ∧ P start tree rest)
        HasTree) := by
    refine spaced ((hp.bind fun _ => hq.cut).imp ?_)
    rintro cs e rest ⟨_, start, sign, tree, read, same⟩ begin skipped
    exact ⟨tree, ⟨start, sign begin skipped, read⟩, same⟩
  refine (hq.bind fun first => (many item).bind fun others =>
    pure (connected make first others)).imp ?_
  rintro cs e rest ⟨first, mid, ⟨tree, read, hfirst⟩, others, _, star, rfl, rfl⟩
  have chain : Reads R (List.Forall₂ HasTree) mid others rest := by
    refine reads_of_star star (nil rest) ?_
    rintro cs e mid ⟨tree, ⟨start, sign, read⟩, same⟩
    exact ⟨tree, fun later => cons sign read later, same⟩
  obtain ⟨trees, later, hothers⟩ := chain
  exact ⟨_, ⟨tree, mid, trees, read, later, rfl⟩, hfirst.connected build hothers⟩

/-- A sign with an operand after it, or another phrase. -/
theorem prefixed {sign : Parser Unit} {p q : Parser Expr} {make : Mark → Expr → Expr}
    {S : List Char → List Char → Prop} {P R : List Char → Expr → List Char → Prop}
    (hs : Gives sign n fun cs _ rest => ∀ start, Text.skip start = cs → S start rest)
    (hp : Gives p n (Reads P HasTree)) (hq : Gives q n (Reads R HasTree))
    (build : ∀ {tree e span}, HasTree tree e → HasTree (make .none tree) (make (.over span [e]) e)) :
    Gives (do
      Parser.space
      match ← Parser.opt (Parser.spanned do sign; Parser.cut p) with
      | some (operand, span) => Pure.pure (make (.over span [operand]) operand)
      | none => q) n (Reads (fun cs tree rest =>
        (∃ start operand, S cs start ∧ P start operand rest ∧ tree = make .none operand) ∨
          R (Text.skip cs) tree rest) HasTree) := by
  refine spaced ((((hs.bind fun _ => hp.cut).spanned.opt).bind
    (Q := fun found cs e rest =>
      (∃ operand span, found = some (operand, span) ∧ rest = cs ∧
        ∀ {tree}, HasTree tree operand → HasTree (make .none tree) e) ∨
      found = none ∧ Reads R HasTree cs e rest) fun found => ?_).imp ?_)
  · rcases found with _ | ⟨operand, span⟩
    · exact hq.imp fun cs e rest read => .inr ⟨rfl, read⟩
    · refine (pure _).imp ?_
      rintro cs e rest ⟨rfl, rfl⟩
      exact .inl ⟨operand, span, rfl, rfl, build⟩
  · rintro cs e rest ⟨found, mid, found?, made⟩ start rfl
    rcases made with ⟨operand, span, rfl, rfl, same⟩ | ⟨rfl, tree, read, same⟩
    · obtain ⟨_, eq, _, inside, sign, tree, read, hasTree⟩ | ⟨eq, -⟩ := found?
      · cases eq
        exact ⟨_, .inl ⟨inside, tree, sign start rfl, read, rfl⟩, same hasTree⟩
      · cases eq
    · obtain ⟨_, eq, -⟩ | ⟨-, rfl, -⟩ := found?
      · cases eq
      · exact ⟨tree, .inr read, same⟩

end Gives

end RecordRules.Parser

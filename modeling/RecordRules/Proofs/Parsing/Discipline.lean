import RecordRules.Proofs.Parsing.Shifting
import RecordRules.Proofs.Parsing.Spans

namespace RecordRules

open RecordRules.Parser (offsetAfter)

theorem Parser.lt_offsetAfter_cons (c : Char) (cs : List Char) (offset : Nat) :
    offset < offsetAfter (c :: cs) offset := by
  have pos := c.utf8Size_pos
  have le : offset + c.utf8Size ≤ offsetAfter (c :: cs) offset := le_offsetAfter cs _
  omega

theorem Parser.offsetAfter_replicate (count : Nat) :
    offsetAfter (List.replicate count 'a') 0 = count := by
  induction count with
  | zero => rfl
  | succ count ih =>
    rw [List.replicate_succ', offsetAfter_append, ih]
    rfl

/-- Of two beginnings of a text, the one with no more bytes is the beginning of the other one. -/
theorem Parser.exists_between {before before' rest rest' : List Char}
    (eq : before ++ rest = before' ++ rest')
    (le : offsetAfter before 0 ≤ offsetAfter before' 0) :
    ∃ between, before' = before ++ between ∧ rest = between ++ rest' := by
  obtain ⟨between, eq, eq'⟩ | ⟨more, eq, eq'⟩ := List.append_eq_append_iff.mp eq
  · exact ⟨between, eq, eq'⟩
  · cases more with
    | nil => exact ⟨[], by rw [eq, List.append_nil, List.append_nil], eq'.symm⟩
    | cons c more =>
      have lt := lt_offsetAfter_cons c more (offsetAfter before' 0)
      rw [eq, offsetAfter_append] at le
      omega

theorem Parser.before_unique {before before' rest rest' : List Char}
    (eq : before ++ rest = before' ++ rest')
    (same : offsetAfter before 0 = offsetAfter before' 0) : before' = before := by
  obtain ⟨between, rfl, -⟩ := exists_between eq same.le
  cases between with
  | nil => exact List.append_nil _
  | cons c between =>
    have lt := lt_offsetAfter_cons c between (offsetAfter before 0)
    rw [offsetAfter_append] at same
    omega

/-- Where the second cursor stands, a character ends that comes after the first one and is not white
space. -/
def Cursor.Takes (cursor after : Cursor) : Prop :=
  ∃ front c, cursor.rest = front ++ c :: after.rest ∧ Text.isBlank c = false ∧
    after.offset = offsetAfter (front ++ [c]) cursor.offset

namespace Cursor

variable {text : List Char} {cursor after : Cursor}

/-- Every place is one in some text. -/
theorem exists_in (cursor : Cursor) : ∃ text, cursor.In text :=
  ⟨List.replicate cursor.offset 'a' ++ cursor.rest, List.replicate cursor.offset 'a', rfl,
    (Parser.offsetAfter_replicate _).symm⟩

/-- What is between a place of the text and a later one. -/
theorem In.exists_taken (h : cursor.In text) (h' : after.In text)
    (le : cursor.offset ≤ after.offset) :
    ∃ taken, cursor.rest = taken ++ after.rest ∧
      after.offset = offsetAfter taken cursor.offset := by
  obtain ⟨before, eq, offset⟩ := h
  obtain ⟨before', eq', offset'⟩ := h'
  rw [offset, offset'] at le
  obtain ⟨between, rfl, rest⟩ := Parser.exists_between (eq.symm.trans eq') le
  exact ⟨between, rest, by rw [offset', Parser.offsetAfter_append, ← offset]⟩

theorem In.takes (h : cursor.In text) (h' : after.In text) (lt : cursor.offset < after.offset)
    (stops : StopsAt text after.offset) : cursor.Takes after := by
  obtain ⟨taken, rest, offset⟩ := h.exists_taken h' lt.le
  obtain ⟨front, c, behind, whole', offset', solid⟩ := stops
  obtain ⟨before, whole, start⟩ := h
  rcases List.eq_nil_or_concat' taken with rfl | ⟨others, d, rfl⟩
  · exact absurd offset.symm lt.ne
  · -- both times it is the text up to the second place, so that its last character is the same
    have upTo : (front ++ [c]) ++ behind = (before ++ (others ++ [d])) ++ after.rest := by
      rw [List.append_assoc, List.singleton_append, ← whole', whole, rest, List.append_assoc before]
    have same : offsetAfter (front ++ [c]) 0 = offsetAfter (before ++ (others ++ [d])) 0 := by
      rw [← offset', offset, Parser.offsetAfter_append before, ← start]
    have equal := Parser.before_unique upTo same
    rw [← List.append_assoc] at equal
    obtain rfl : d = c := List.singleton_inj.mp (List.append_inj_right' equal rfl)
    exact ⟨others, d, by rw [rest, List.append_assoc, List.singleton_append], solid, offset⟩

end Cursor

namespace Parser

variable {α : Type}

/-- Where the parser succeeds, it stands directly after a character that it took and that is not
white space. -/
def Takes (p : Parser α) : Prop :=
  ∀ ⦃cursor a after⦄, p cursor = .ok a after → cursor.Takes after

/-- Where the parser succeeds, less of the text is left. -/
def Progresses (p : Parser α) : Prop :=
  ∀ ⦃cursor a after⦄, p cursor = .ok a after → after.rest.length < cursor.rest.length

theorem takes_of_moves {p : Parser α}
    (h : ∀ {text : List Char} {cursor : Cursor}, cursor.In text →
      Moves text p cursor fun _ after => cursor.offset < after.offset ∧ StopsAt text after.offset) :
    p.Takes := by
  intro cursor a after ok
  obtain ⟨text, isIn⟩ := cursor.exists_in
  have moves := h isIn
  rw [Moves, ok] at moves
  exact isIn.takes moves.1.isIn moves.2.1 moves.2.2

theorem progresses_of_moves {p : Parser α}
    (h : ∀ {text : List Char} {cursor : Cursor}, cursor.In text →
      Moves text p cursor fun _ after => cursor.offset < after.offset) : p.Progresses := by
  intro cursor a after ok
  obtain ⟨text, isIn⟩ := cursor.exists_in
  have moves := h isIn
  rw [Moves, ok] at moves
  obtain ⟨onward, lt⟩ := moves
  obtain ⟨taken, rest, offset⟩ := isIn.exists_taken onward.isIn onward.le
  cases taken with
  | nil => exact absurd offset.symm lt.ne
  | cons c taken =>
    rw [rest, List.length_append, List.length_cons]
    omega

theorem takes_of_nests {p : Parser Expr} (h : ∀ text, Nests text p) : p.Takes :=
  takes_of_moves fun {text cursor} isIn =>
    (h text cursor isIn).imp fun _ _ _ placed => ⟨placed.lt, placed.stops⟩

section Expressions

variable {expr : Parser Expr} (h : ∀ text, Nests text expr)

include h

theorem arguments_takes : (arguments expr).Takes :=
  takes_of_moves fun {text _} isIn =>
    (arguments_move (h text) isIn).imp fun _ _ _ read => ⟨read.1.lt, read.1.stops⟩

/-- There may be white space before a lambda. -/
theorem lambda_takes : (lambda expr).Takes := by
  refine takes_of_moves fun {text cursor} isIn => ?_
  have inside : Moves text (do
      space
      let param ← identifier
      space
      word ['=', '>']
      let body ← expecting .lambdaBody (cut expr)
      pure (param, body)) cursor fun _ after =>
        cursor.offset < after.offset ∧ StopsAt text after.offset := by
    refine (Moves.space isIn).bind fun _ begin spaced _ => ?_
    refine (Moves.identifier spaced.isIn).bind fun param mid named _ => ?_
    refine (Moves.space named.isIn).bind fun _ mid' spaced' _ => ?_
    refine (Moves.word spaced'.isIn (by decide)).bind fun _ arrow taken _ => ?_
    refine ((h text arrow taken.isIn).cut.expecting _).bind fun body after read placed => ?_
    have le := (((spaced.trans named).trans spaced').trans taken).le
    exact .pure read.isIn ⟨Nat.lt_of_le_of_lt le placed.lt, placed.stops⟩
  refine inside.spanned.bind fun x after onward hx => ?_
  exact .pure onward.isIn hx.2

theorem element_progresses : (element expr).Progresses := by
  refine progresses_of_moves fun {text _} isIn => ?_
  refine (comma_moves isIn).bind fun _ mid onward _ => (h text mid onward.isIn).imp ?_
  exact fun _ _ _ placed => Nat.lt_of_le_of_lt onward.le placed.lt

theorem suffix_progresses (target : Expr) : (suffix expr target).Progresses := by
  refine progresses_of_moves fun {text cursor} isIn => ?_
  refine (Moves.space isIn).bind fun _ mid spaced _ => ?_
  refine (Moves.character spaced.isIn (by decide)).bind fun _ mid' pointed point => ?_
  refine (Moves.space pointed.isIn).bind fun _ begin spaced' _ => ?_
  have lt : cursor.offset < begin.offset :=
    Nat.lt_of_le_of_lt spaced.le (Nat.lt_of_lt_of_le point.lt spaced'.le)
  have inside : Moves text (do
      let name ← expecting .memberName (cut identifier)
      let args ← opt do
        space
        arguments expr
      pure (name, args)) begin fun _ _ => True := by
    refine ((Moves.identifier spaced'.isIn).cut.expecting _).bind fun name named read _ => ?_
    refine ((callArguments_move (h text) read.isIn).opt read.isIn).bind fun _ _ onward _ => ?_
    exact .pure onward.isIn trivial
  refine inside.spanned.bind fun x after read _ => ?_
  obtain ⟨⟨name, args⟩, span⟩ := x
  have le := read.le
  cases args with
  | none | some =>
    refine (bounded_moves read.isIn _).imp fun _ _ _ same => ?_
    obtain ⟨-, rfl⟩ := same
    omega

theorem operation_progresses {op : Parser ArithOp}
    (hop : ∀ {text : List Char} {cursor : Cursor}, cursor.In text →
      Moves text op cursor fun _ _ => True) : (operation op expr).Progresses := by
  refine progresses_of_moves fun {text _} isIn => ?_
  refine (Moves.space isIn).bind fun _ _ spaced _ => ?_
  refine (hop spaced.isIn).bind fun _ mid taken _ => ?_
  refine (h text mid taken.isIn).cut.bind fun _ _ read placed => .pure read.isIn ?_
  exact Nat.lt_of_le_of_lt (spaced.trans taken).le placed.lt

theorem operand_progresses {sign : Parser Unit}
    (hs : ∀ {text : List Char} {cursor : Cursor}, cursor.In text →
      Moves text sign cursor fun _ after => Trimmed text cursor.offset after.offset) :
    (operand sign expr).Progresses := by
  refine progresses_of_moves fun {text _} isIn => ?_
  refine (Moves.space isIn).bind fun _ _ spaced _ => ?_
  refine (hs spaced.isIn).bind fun _ mid taken _ => ?_
  refine (h text mid taken.isIn).cut.imp fun _ _ _ placed => ?_
  exact Nat.lt_of_le_of_lt (spaced.trans taken).le placed.lt

end Expressions

theorem stringPiece_progresses : stringPiece.Progresses := by
  rintro ⟨rest, offset, nesting⟩ a after ok
  unfold stringPiece at ok
  split at ok
  · cases ok
  · cases ok
  · cases ok
  next eq =>
    cases ok
    obtain rfl : rest = _ := eq
    simp only [List.length_cons]
    omega
  next eq =>
    cases ok
    obtain rfl : rest = _ := eq
    exact Nat.lt_succ_self _

/-! A loop is bounded by the text that is left. The bound is not met where each round takes some of
the text. -/

section Loops

variable {step : α → Parser α} (h : ∀ a, (step a).Progresses)

include h

theorem iterateUpTo_eq {cursor : Cursor} {count count' : Nat} (enough : cursor.rest.length < count)
    (enough' : cursor.rest.length < count') (a : α) :
    iterateUpTo step count a cursor = iterateUpTo step count' a cursor := by
  induction count generalizing count' cursor a with
  | zero => exact absurd enough (Nat.not_lt_zero _)
  | succ count ih => cases count' with
    | zero => exact absurd enough' (Nat.not_lt_zero _)
    | succ count' =>
      unfold iterateUpTo
      cases reply : step a cursor with
      | ok next after =>
        have shorter := h a reply
        exact ih (by omega) (by omega) next
      | backtrack | cut => rfl

theorem iterate_eq (a : α) : iterate step a = (do
    match ← opt (step a) with
    | some next => iterate step next
    | none => pure a) := by
  funext cursor
  change _ = (opt (step a) cursor).bind _
  unfold iterate opt
  cases reply : step a cursor with
  | ok next after => exact iterateUpTo_eq h (h a reply) (Nat.lt_succ_self _) next
  | backtrack | cut => rfl

end Loops

theorem collecting_progresses {p : Parser α} (h : p.Progresses) (found : List α) :
    (collecting p found).Progresses := by
  intro cursor a after ok
  change (p cursor).bind _ = _ at ok
  cases reply : p cursor with
  | ok b mid =>
    rw [reply] at ok
    cases ok
    exact h reply
  | backtrack | cut =>
    rw [reply] at ok
    cases ok

/-- With any number of parts open and any levels of nesting that suffice then, as many parts are open
after the parser as before, however it ends. -/
def KeepsNesting (p : Deeper → Parser α) : Prop :=
  ∀ ⦃levels cursor⦄, Suffices levels cursor.nesting →
    (p (deeper levels) cursor).cursor.nesting = cursor.nesting

theorem keepsNesting_of_alike {move : α → α} {p : Deeper → Parser α}
    (alike : ∀ n deeper, Deeper.Alike 0 n deeper deeper → Alike 0 n move (p deeper) (p deeper)) :
    KeepsNesting p :=
  fun _ _ enough => (alike _ _ (deeper_alike enough enough) rfl).1

theorem keepsNesting_of_round {move : α → α} {step : Deeper → α → Parser α}
    (alike : ∀ n deeper, Deeper.Alike 0 n deeper deeper →
      ∀ a, Alike 0 n move (step deeper a) (step deeper (move a))) (a : α) :
    KeepsNesting fun deeper => step deeper a :=
  fun _ _ enough => (alike _ _ (deeper_alike enough enough) a rfl).1

/-- What a production does wherever it is tried. However it ends, as many parts are open as before.
Where it succeeds, it stands directly after a character that it took and that is not white space.
What it does depends on the rest of the text and the number of open parts alone, up to where the
ranges of text begin. -/
structure Disciplined (move : Nat → α → α) (production : Deeper → Parser α) : Prop where
  keepsNesting : KeepsNesting production
  takes : ∀ levels, (production (deeper levels)).Takes
  onlyRest : ∀ {levels levels' rest offset n}, Suffices levels n → Suffices levels' n →
    production (deeper levels) ⟨rest, offset, n⟩ =
      (production (deeper levels') ⟨rest, 0, n⟩).shifted offset (move offset)

theorem Disciplined.of_alike {move : Nat → α → α} {production : Deeper → Parser α}
    (alike : ∀ bytes n deeper deeper', Deeper.Alike bytes n deeper deeper' →
      Alike bytes n (move bytes) (production deeper) (production deeper'))
    (takes : ∀ levels, (production (deeper levels)).Takes) : Disciplined move production where
  keepsNesting := keepsNesting_of_alike fun n deeper => alike 0 n deeper deeper
  takes := takes
  onlyRest {levels levels' rest offset n} enough enough' := by
    have same := (@alike offset n _ _ (deeper_alike enough' enough) ⟨rest, 0, n⟩ rfl).2
    rw [← same, Cursor.shifted, Nat.zero_add]

/-- The productions, each with what becomes of its result in another place. -/
inductive Production : {α : Type} → (Nat → α → α) → (Deeper → Parser α) → Prop
  | lambda : Production Expr.shifted fun deeper => lambda deeper.expression
  | arguments : Production (fun bytes => List.map (Expr.shifted bytes)) fun deeper =>
    arguments deeper.expression
  | primary : Production Expr.shifted fun deeper => primary deeper.expression
  | suffixed : Production Expr.shifted fun deeper => suffixed deeper.expression
  | signed : Production Expr.shifted signed
  | product : Production Expr.shifted product
  | sum : Production Expr.shifted sum
  | comparison : Production Expr.shifted comparison
  | negated : Production Expr.shifted negated
  | conjunction : Production Expr.shifted conjunction
  | disjunction : Production Expr.shifted disjunction
  | expression : Production Expr.shifted Deeper.expression

theorem Production.disciplined {move : Nat → α → α} {production : Deeper → Parser α}
    (h : Production move production) : Disciplined move production := by
  have nests (levels : Nat) (text : List Char) : (deeper levels).Nests text := deeper_nests levels
  cases h with
  | lambda =>
    exact .of_alike (fun _ _ _ _ h => .lambda h.expression) fun levels =>
      lambda_takes fun text => (nests levels text).expression
  | arguments =>
    exact .of_alike (fun _ _ _ _ h => .arguments h.expression) fun levels =>
      arguments_takes fun text => (nests levels text).expression
  | primary =>
    exact .of_alike (fun _ _ _ _ h => .primary h.expression) fun levels =>
      takes_of_nests fun text => primary_nests (nests levels text).expression
  | suffixed =>
    exact .of_alike (fun _ _ _ _ h => .suffixed h.expression) fun levels =>
      takes_of_nests fun text => suffixed_nests (nests levels text).expression
  | signed =>
    exact .of_alike (fun _ _ _ _ h => h.signed_alike) fun levels =>
      takes_of_nests fun text => (nests levels text).signed_nests
  | product =>
    exact .of_alike (fun _ _ _ _ h => h.product_alike) fun levels =>
      takes_of_nests fun text => (nests levels text).product_nests
  | sum =>
    exact .of_alike (fun _ _ _ _ h => h.sum_alike) fun levels =>
      takes_of_nests fun text => (nests levels text).sum_nests
  | comparison =>
    exact .of_alike (fun _ _ _ _ h => h.comparison_alike) fun levels =>
      takes_of_nests fun text => (nests levels text).comparison_nests
  | negated =>
    exact .of_alike (fun _ _ _ _ h => h.negated_alike) fun levels =>
      takes_of_nests fun text => (nests levels text).negated_nests
  | conjunction =>
    exact .of_alike (fun _ _ _ _ h => h.conjunction_alike) fun levels =>
      takes_of_nests fun text => (nests levels text).conjunction_nests
  | disjunction =>
    exact .of_alike (fun _ _ _ _ h => h.disjunction_alike) fun levels =>
      takes_of_nests fun text => (nests levels text).disjunction_nests
  | expression =>
    exact .of_alike (fun _ _ _ _ h => h.expression) fun levels =>
      takes_of_nests fun text => (nests levels text).expression

/-- What the loops of the grammar repeat: suffixes, operands of four ranks, further expressions of a
list, and the pieces of a string. -/
inductive Loop : {α : Type} → (Deeper → α → Parser α) → Prop
  | suffixes : Loop fun deeper => suffix deeper.expression
  | factors : Loop fun deeper => collecting (operation multiplicativeOp (signed deeper))
  | summands : Loop fun deeper => collecting (operation additiveOp (product deeper))
  | conjuncts : Loop fun deeper => collecting (operand andSign (negated deeper))
  | disjuncts : Loop fun deeper => collecting (operand orSign (conjunction deeper))
  | elements : Loop fun deeper => collecting (element deeper.expression)
  | pieces : Loop fun _ => collecting stringPiece

/-- A round of a loop takes some of the text, and the loop goes on until a round fails. -/
structure Repeats (step : Deeper → α → Parser α) : Prop where
  progresses : ∀ levels a, (step (deeper levels) a).Progresses
  iterate_eq : ∀ levels a, iterate (step (deeper levels)) a = (do
    match ← opt (step (deeper levels) a) with
    | some next => iterate (step (deeper levels)) next
    | none => pure a)

theorem Repeats.of_progresses {step : Deeper → α → Parser α}
    (progresses : ∀ levels a, (step (deeper levels) a).Progresses) : Repeats step :=
  ⟨progresses, fun levels => Parser.iterate_eq (progresses levels)⟩

theorem Repeats.collecting {p : Deeper → Parser α}
    (progresses : ∀ levels, (p (deeper levels)).Progresses) :
    Repeats fun deeper => Parser.collecting (p deeper) :=
  .of_progresses fun levels => collecting_progresses (progresses levels)

theorem Loop.repeats {step : Deeper → α → Parser α} (h : Loop step) : Repeats step := by
  have nests (levels : Nat) (text : List Char) : (deeper levels).Nests text := deeper_nests levels
  cases h with
  | suffixes =>
    exact .of_progresses fun levels => suffix_progresses fun text => (nests levels text).expression
  | factors =>
    exact .collecting fun levels =>
      operation_progresses (fun text => (nests levels text).signed_nests) multiplicativeOp_moves
  | summands =>
    exact .collecting fun levels =>
      operation_progresses (fun text => (nests levels text).product_nests) additiveOp_moves
  | conjuncts =>
    refine .collecting fun levels => ?_
    exact operand_progresses (fun text => (nests levels text).negated_nests) fun isIn =>
      wordSign_moves isIn (Moves.word isIn (by decide)) (by decide) (by decide)
  | disjuncts =>
    refine .collecting fun levels => ?_
    exact operand_progresses (fun text => (nests levels text).conjunction_nests) fun isIn =>
      wordSign_moves isIn (Moves.word isIn (by decide)) (by decide) (by decide)
  | elements =>
    exact .collecting fun levels => element_progresses fun text => (nests levels text).expression
  | pieces => exact .collecting fun _ => stringPiece_progresses

/-- All that the grammar tries and may go back from. -/
inductive Attempt : {α : Type} → (Deeper → Parser α) → Prop
  | round {α : Type} {step : Deeper → α → Parser α} (a : α) : Loop step →
    Attempt fun deeper => step deeper a
  | group : Attempt fun deeper => group deeper.expression
  | string : Attempt fun _ => literal stringLiteral .string
  | number : Attempt fun _ => literal number id
  | fraction : Attempt fun _ => do character '.'; takeWhile1 Char.isDigit
  | name : Attempt fun _ => spanned identifier
  | noArgument : Attempt fun _ => character ')'
  | onlyLambda : Attempt fun deeper => do return [← lambda deeper.expression]
  | arguments : Attempt fun deeper => do space; arguments deeper.expression
  | call : Attempt fun deeper => spanned do space; arguments deeper.expression
  | minus : Attempt fun deeper => spanned do character '-'; cut (nested deeper.signed)
  | negation : Attempt fun deeper => spanned do notSign; cut (nested deeper.negated)
  | comparison : Attempt fun _ => do space; compareOp
  | membership : Attempt fun _ => do space; orElse (keyword ['i', 'n']) (keyword ['I', 'N'])
  | character (c : Char) : Attempt fun _ => character c
  | word (cs : List Char) : Attempt fun _ => word cs
  | keyword (cs : List Char) : Attempt fun _ => keyword cs
  | characterSign {α : Type} (c : Char) (a : α) : Attempt fun _ => do character c; return a
  | wordSign {α : Type} (cs : List Char) (a : α) : Attempt fun _ => do word cs; return a

theorem Loop.keepsNesting {step : Deeper → α → Parser α} (h : Loop step) (a : α) :
    KeepsNesting fun deeper => step deeper a := by
  cases h with
  | suffixes => exact keepsNesting_of_round (fun _ _ h => .suffix h.expression) a
  | factors =>
    exact keepsNesting_of_round
      (fun _ _ h => .collecting (.operation h.signed_alike .multiplicativeOp)) a
  | summands =>
    exact keepsNesting_of_round
      (fun _ _ h => .collecting (.operation h.product_alike .additiveOp)) a
  | conjuncts =>
    exact keepsNesting_of_round (fun _ _ h => .collecting (.operand h.negated_alike .andSign)) a
  | disjuncts =>
    exact keepsNesting_of_round (fun _ _ h => .collecting (.operand h.conjunction_alike .orSign)) a
  | elements => exact keepsNesting_of_round (fun _ _ h => .collecting (.element h.expression)) a
  | pieces => exact keepsNesting_of_round (fun _ _ _ => .collecting .stringPiece) a

theorem Attempt.keepsNesting {attempt : Deeper → Parser α} (h : Attempt attempt) :
    KeepsNesting attempt := by
  cases h with
  | round a loop => exact loop.keepsNesting a
  | group => exact keepsNesting_of_alike fun _ _ h => .group h.expression
  | string => exact keepsNesting_of_alike fun _ _ _ => .literal _ .stringLiteral
  | number => exact keepsNesting_of_alike fun _ _ _ => .literal _ .number
  | fraction =>
    exact keepsNesting_of_alike fun _ _ _ => .bind (.character _) fun _ => .takeWhile1 _
  | name => exact keepsNesting_of_alike fun _ _ _ => .spanned .identifier
  | noArgument | character => exact keepsNesting_of_alike fun _ _ _ => .character _
  | onlyLambda =>
    exact keepsNesting_of_alike fun _ _ h => .onlyLambda h.expression
  | arguments => exact keepsNesting_of_alike fun _ _ h => .callArguments h.expression
  | call => exact keepsNesting_of_alike fun _ _ h => .spanned (.callArguments h.expression)
  | minus =>
    exact keepsNesting_of_alike fun _ _ h =>
      .spanned (.bind (.character _) fun _ => .cut (.nested h.signed))
  | negation =>
    exact keepsNesting_of_alike fun _ _ h =>
      .spanned (.bind .notSign fun _ => .cut (.nested h.negated))
  | comparison => exact keepsNesting_of_alike fun _ _ _ => .bind .space fun _ => .compareOp
  | membership => exact keepsNesting_of_alike fun _ _ _ => .bind .space fun _ => .words _ _
  | word => exact keepsNesting_of_alike fun _ _ _ => .word _
  | keyword => exact keepsNesting_of_alike fun _ _ _ => .keyword _
  | characterSign => exact keepsNesting_of_alike fun _ _ _ => .sign (.character _) _
  | wordSign => exact keepsNesting_of_alike fun _ _ _ => .sign (.word _) _

theorem Suffices.all (n : Nat) : Suffices (maxNesting + 1) n :=
  ⟨Nat.succ_pos _, Nat.lt_add_right n (Nat.lt_succ_self _)⟩

/-- A rule is read with levels that suffice for every number of open parts. -/
example : expression (deeper maxNesting) = (deeper (maxNesting + 1)).expression :=
  rfl

/-- Every production keeps to the discipline. No loop goes round without taking text. Whatever is
tried leaves as many parts open as it found, so that to go back from it is to go back in the text
alone. -/
theorem production_discipline :
    (∀ {α : Type} {move : Nat → α → α} {production : Deeper → Parser α},
      Production move production → Disciplined move production) ∧
    (∀ {α : Type} {step : Deeper → α → Parser α}, Loop step → Repeats step) ∧
    ∀ {α : Type} {attempt : Deeper → Parser α}, Attempt attempt → KeepsNesting attempt :=
  ⟨Production.disciplined, Loop.repeats, Attempt.keepsNesting⟩

/-- The parser looks for arguments after the member `any` and goes back to the end of its name; and
it looks for an expression after the comma, for which it has opened a part. -/
theorem production_discipline_member :
    (∃ e, suffixed (deeper 65).expression ⟨"mods . any  ) ".toList, 7, 5⟩ =
        .ok e ⟨"  ) ".toList, 17, 5⟩ ∧ e.span = ⟨7, 17⟩ ∧
      Cursor.Takes ⟨"mods . any  ) ".toList, 7, 5⟩ ⟨"  ) ".toList, 17, 5⟩) ∧
    ∃ expected after, collecting (element (deeper 65).expression) [] ⟨", + 1".toList, 7, 5⟩ =
        .backtrack expected after ∧ after.nesting = 5 := by
  have enough : Suffices 65 5 := .all 5
  obtain ⟨productions, -, attempts⟩ := production_discipline
  have member := productions .suffixed
  have same : suffixed (deeper 65).expression ⟨"mods . any  ) ".toList, 7, 5⟩ =
      (suffixed (deeper 65).expression ⟨"mods . any  ) ".toList, 0, 5⟩).shifted 7 (.shifted 7) :=
    member.onlyRest enough enough
  have place : (suffixed (deeper 65).expression ⟨"mods . any  ) ".toList, 0, 5⟩).cursor =
      ⟨"  ) ".toList, 10, 5⟩ := by decide +kernel
  have span : (suffixed (deeper 65).expression
      ⟨"mods . any  ) ".toList, 0, 5⟩).value?.map Expr.span = some ⟨0, 10⟩ := by decide +kernel
  obtain ⟨e, value, range⟩ := Option.map_eq_some_iff.mp span
  rw [Reply.eq_ok_of_value? value, place] at same
  refine ⟨⟨e.shifted 7, same, ?_, member.takes 65 same⟩, ?_⟩
  · rw [e.span_shifted, range]
    rfl
  · have declined : (opt (collecting (element (deeper 65).expression) [])
        ⟨", + 1".toList, 7, 5⟩).value?.map Option.isNone = some true := by decide +kernel
    have elements : KeepsNesting fun deeper => collecting (element deeper.expression) [] :=
      attempts (.round [] .elements)
    have kept : (collecting (element (deeper 65).expression) []
        ⟨", + 1".toList, 7, 5⟩).cursor.nesting = 5 :=
      @elements 65 ⟨", + 1".toList, 7, 5⟩ enough
    unfold opt at declined
    cases reply : collecting (element (deeper 65).expression) [] ⟨", + 1".toList, 7, 5⟩ with
    | ok | cut =>
      rw [reply] at declined
      cases declined
    | backtrack expected after =>
      rw [reply] at kept
      exact ⟨expected, after, rfl, kept⟩

end Parser

end RecordRules

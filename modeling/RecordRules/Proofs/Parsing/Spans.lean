import RecordRules.Proofs.Depth
import RecordRules.Proofs.Parsing.Places
import RecordRules.Proofs.Resolution

namespace RecordRules

/-- The expressions stand one after the other between the two places. -/
inductive InOrder : Nat → List Expr → Nat → Prop
  | nil {start stop} : start ≤ stop → InOrder start [] stop
  | cons {start stop e es} : start ≤ e.span.start → e.span.start < e.span.stop →
    InOrder e.span.stop es stop → InOrder start (e :: es) stop

namespace InOrder

variable {start mid stop : Nat} {es : List Expr}

theorem le (h : InOrder start es stop) : start ≤ stop := by
  induction h with
  | nil le => exact le
  | cons le lt _ ih => omega

theorem widen {start' stop' : Nat} (h : InOrder start es stop) (le : start' ≤ start)
    (le' : stop ≤ stop') : InOrder start' es stop' := by
  induction h generalizing start' with
  | nil inside => exact .nil (by omega)
  | cons before lt _ ih => exact .cons (Nat.le_trans le before) lt (ih (Nat.le_refl _) le')

theorem append {es' : List Expr} (h : InOrder start es mid) (h' : InOrder mid es' stop) :
    InOrder start (es ++ es') stop := by
  induction h with
  | nil le => exact h'.widen le (Nat.le_refl _)
  | cons before lt _ ih => exact .cons before lt (ih h')

theorem within (h : InOrder start es stop) :
    ∀ e ∈ es, start ≤ e.span.start ∧ e.span.stop ≤ stop := by
  induction h with
  | nil _ => exact List.forall_mem_nil _
  | @cons start stop e es before lt others ih =>
    refine List.forall_mem_cons.mpr ⟨⟨before, others.le⟩, fun other mem => ?_⟩
    have inside := ih other mem
    omega

theorem pairwise (h : InOrder start es stop) :
    es.Pairwise fun e later => e.span.stop ≤ later.span.start := by
  induction h with
  | nil _ => exact .nil
  | cons _ _ others ih => exact .cons (fun later mem => (others.within later mem).1) ih

/-- The last of the expressions may be the end. -/
theorem upToLast {last : Expr} (h : InOrder start es stop) (eq : es.getLast? = some last) :
    InOrder start es last.span.stop := by
  induction h with
  | nil _ => cases eq
  | @cons start stop e es before lt others ih =>
    cases es with
    | nil =>
      cases eq
      exact .cons before lt (.nil (Nat.le_refl _))
    | cons next es => exact .cons before lt (ih (by rwa [List.getLast?_cons_cons] at eq))

end InOrder

/-- No node has white space at the ends of its range, and the ranges of the parts of a node stand
in it one after the other. -/
inductive Expr.Nested (text : List Char) : Expr → Prop
  | node {e} : Trimmed text e.span.start e.span.stop →
    InOrder e.span.start e.parts e.span.stop → (∀ part ∈ e.parts, Nested text part) →
    Nested text e

namespace Expr.Nested

variable {text : List Char} {e node : Expr}

theorem trimmed (h : e.Nested text) : Trimmed text e.span.start e.span.stop := by
  cases h with
  | node trimmed _ _ => exact trimmed

theorem inOrder (h : e.Nested text) : InOrder e.span.start e.parts e.span.stop := by
  cases h with
  | node _ inOrder _ => exact inOrder

theorem parts (h : e.Nested text) : ∀ part ∈ e.parts, part.Nested text := by
  cases h with
  | node _ _ parts => exact parts

theorem isIn (h : e.Nested text) (isIn : node.IsIn e) : node.Nested text := by
  induction isIn with
  | refl => exact h
  | tail _ mem ih => exact ih (h.parts _ mem)

end Expr.Nested

/-- The expressions, well nested, stand between the two places. -/
structure PlacedEach (text : List Char) (start : Nat) (es : List Expr) (stop : Nat) : Prop where
  nested : ∀ e ∈ es, e.Nested text
  inOrder : InOrder start es stop

/-- The expression, well nested, stands between the two places, and the white space that follows
does not belong to what was read. -/
structure Placed (text : List Char) (start : Nat) (e : Expr) (stop : Nat) : Prop where
  nested : e.Nested text
  start_le : start ≤ e.span.start
  le_stop : e.span.stop ≤ stop
  stops : StopsAt text stop

variable {text : List Char} {start mid stop : Nat} {e : Expr} {es : List Expr}

namespace PlacedEach

theorem nil (le : start ≤ stop) : PlacedEach text start [] stop :=
  ⟨List.forall_mem_nil _, .nil le⟩

theorem widen {start' stop' : Nat} (h : PlacedEach text start es stop) (le : start' ≤ start)
    (le' : stop ≤ stop') : PlacedEach text start' es stop' :=
  ⟨h.nested, h.inOrder.widen le le'⟩

theorem append {es' : List Expr} (h : PlacedEach text start es mid)
    (h' : PlacedEach text mid es' stop) : PlacedEach text start (es ++ es') stop := by
  refine ⟨fun e mem => ?_, h.inOrder.append h'.inOrder⟩
  rcases List.mem_append.mp mem with mem | mem
  · exact h.nested e mem
  · exact h'.nested e mem

end PlacedEach

namespace Placed

theorem widen (h : Placed text mid e stop) (le : start ≤ mid) : Placed text start e stop :=
  ⟨h.nested, Nat.le_trans le h.start_le, h.le_stop, h.stops⟩

theorem lt (h : Placed text start e stop) : start < stop := by
  have lt := h.nested.trimmed.lt
  have le := h.start_le
  have le' := h.le_stop
  omega

theorem placedEach (h : Placed text start e stop) : PlacedEach text start [e] stop := by
  refine ⟨fun other mem => ?_, .cons h.start_le h.nested.trimmed.lt (.nil h.le_stop)⟩
  obtain rfl := List.mem_singleton.mp mem
  exact h.nested

/-- A node over parts that stand between its ends. -/
theorem around {first last : Nat} (span : e.span = ⟨first, last⟩) (parts : e.parts = es)
    (trimmed : Trimmed text first last) (placedEach : PlacedEach text first es last)
    (le : start ≤ first) : Placed text start e last := by
  have node : e.Nested text := by
    refine .node ?_ ?_ ?_
    · rwa [span]
    · rw [span, parts]
      exact placedEach.inOrder
    · rw [parts]
      exact placedEach.nested
  exact ⟨node, by rwa [span], by rw [span], trimmed.stops⟩

/-- More expressions after one that has been read. -/
theorem cons (h : Placed text start e mid) (h' : PlacedEach text mid es stop) :
    PlacedEach text e.span.start (e :: es) stop := by
  refine ⟨List.forall_mem_cons.mpr ⟨h.nested, h'.nested⟩, ?_⟩
  exact .cons (Nat.le_refl _) h.nested.trimmed.lt (h'.inOrder.widen h.le_stop (Nat.le_refl _))

/-- A chain of operands reaches from the beginning of its first operand to the end of its last
one. -/
theorem connected {first last : Expr} (h : Placed text start first mid)
    (h' : PlacedEach text mid es stop) (eq : es.getLast? = some last) (stops : StopsAt text stop)
    (span : e.span = Parser.joined first last) (parts : e.parts = first :: es) :
    Placed text start e stop := by
  have mem : last ∈ es := List.mem_of_getLast? eq
  have inside := h'.inOrder.within last mem
  have operands : PlacedEach text mid es last.span.stop := ⟨h'.nested, h'.inOrder.upToLast eq⟩
  have lt := h.nested.trimmed.lt
  have lt' := (h'.nested last mem).trimmed.lt
  have le := h.le_stop
  have trimmed : Trimmed text first.span.start last.span.stop :=
    ⟨h.nested.trimmed.starts, (h'.nested last mem).trimmed.stops, by omega⟩
  have made : Placed text start e last.span.stop :=
    .around span parts trimmed (h.cons operands) h.start_le
  exact ⟨made.nested, made.start_le, made.le_stop.trans inside.2, stops⟩

theorem joined {lhs rhs : Expr} (h : Placed text start lhs mid) (h' : Placed text mid rhs stop)
    (span : e.span = Parser.joined lhs rhs) (parts : e.parts = [lhs, rhs]) :
    Placed text start e stop :=
  h.connected h'.placedEach rfl h'.stops span parts

end Placed

namespace Parser

/-- Wherever in the text it is started, the parser reads a well nested expression. -/
def Nests (text : List Char) (p : Parser Expr) : Prop :=
  ∀ cursor : Cursor, cursor.In text →
    Moves text p cursor fun e after => Placed text cursor.offset e after.offset

variable {cursor : Cursor} {p q expr : Parser Expr}

theorem Nests.nested (h : Nests text p) : Nests text (nested p) := by
  intro cursor isIn
  refine Moves.nested isIn fun inside isIn same => (h inside isIn).imp ?_
  intro e after _ placed _
  rwa [same] at placed

theorem Nests.spaced (h : Nests text p) : Nests text (do space; p) := by
  intro cursor isIn
  refine (Moves.space isIn).bind fun _ mid onward _ => (h mid onward.isIn).imp ?_
  exact fun e after _ placed => placed.widen onward.le

theorem Nests.orElse (h : Nests text p) (h' : Nests text q) : Nests text (orElse p q) :=
  fun cursor isIn => (h cursor isIn).orElse (h' cursor isIn)

theorem bounded_moves (h : cursor.In text) (e : Expr) :
    Moves text (bounded e) cursor fun e' after => e' = e ∧ after = cursor := by
  unfold Moves Parser.bounded
  split
  · exact Onward.refl h
  · exact ⟨.refl h, rfl, rfl⟩

/-- A sign between or around expressions. -/
theorem comma_moves (h : cursor.In text) : Moves text comma cursor fun _ _ => True := by
  refine (Moves.space h).bind fun _ mid onward _ => ?_
  exact (Moves.character onward.isIn (by decide)).imp fun _ _ _ _ => trivial

theorem closing_moves (h : cursor.In text) {c : Char} (solid : Text.isBlank c = false) :
    Moves text (closing c) cursor fun _ after => StopsAt text after.offset := by
  refine (Moves.space h).bind fun _ mid onward _ => ?_
  exact (((Moves.character onward.isIn solid).cut).expecting _).imp
    fun _ _ _ trimmed => trimmed.stops

theorem literal_nests {α : Type} {p : Parser α} (toLiteral : α → Literal)
    (h : ∀ cursor : Cursor, cursor.In text → Moves text p cursor fun _ after =>
      Trimmed text cursor.offset after.offset) : Nests text (literal p toLiteral) := by
  intro cursor isIn
  refine (h cursor isIn).spanned.bind fun x after onward hx => ?_
  obtain ⟨value, span⟩ := x
  obtain ⟨rfl, trimmed⟩ := hx
  exact .pure onward.isIn (.around rfl rfl trimmed (.nil onward.le) (Nat.le_refl _))

theorem freeName_moves (h : cursor.In text) : Moves text freeName cursor fun x after =>
    x.2 = ⟨cursor.offset, after.offset⟩ ∧ Trimmed text cursor.offset after.offset := by
  have name := (Moves.identifier h).spanned
  unfold Moves at name ⊢
  unfold Parser.freeName
  split
  next name' span after eq =>
    rw [eq] at name
    split
    · exact Onward.refl h
    · exact name
  next => exact name

section Expressions

variable (hexpr : Nests text expr)

include hexpr

theorem expressions_move (h : cursor.In text) :
    Moves text (separated1 expr comma) cursor fun es after =>
      PlacedEach text cursor.offset es after.offset := by
  refine Moves.separated1 ((hexpr cursor h).imp fun e after _ placed => placed.placedEach) ?_
  intro found at' onward placedEach
  refine (comma_moves onward.isIn).bind fun _ mid onward' _ => (hexpr mid onward'.isIn).imp ?_
  exact fun e after _ placed => placedEach.append (placed.widen onward'.le).placedEach

/-- Where there is no white space before it, a lambda begins with its parameter. -/
theorem lambda_moves (h : cursor.In text) (ends : Grammar.Ends Text.isBlank cursor.rest) :
    Moves text (lambda expr) cursor fun e after => Placed text cursor.offset e after.offset := by
  have inside : Moves text (do
      space
      let param ← identifier
      space
      word ['=', '>']
      let body ← expecting .lambdaBody (cut expr)
      pure (param, body)) cursor fun x after =>
        StartsAt text cursor.offset ∧ Placed text cursor.offset x.2 after.offset := by
    refine (Moves.space h).bind fun _ begin onward blank => ?_
    obtain rfl := blank.2 ends
    refine (Moves.identifier h).bind fun param mid named trimmed => ?_
    refine (Moves.space named.isIn).bind fun _ mid' spaced _ => ?_
    refine (Moves.word spaced.isIn (by decide)).bind fun _ arrow taken _ => ?_
    refine ((hexpr arrow taken.isIn).cut.expecting _).bind fun body after read placed => ?_
    have le := ((named.trans spaced).trans taken).le
    exact .pure read.isIn ⟨trimmed.starts, placed.widen le⟩
  refine inside.spanned.bind fun x after onward hx => ?_
  obtain ⟨⟨param, body⟩, span⟩ := x
  obtain ⟨rfl, starts, placed⟩ := hx
  have lt : cursor.offset < after.offset := placed.lt
  exact .pure onward.isIn
    (.around rfl rfl ⟨starts, placed.stops, lt⟩ placed.placedEach (Nat.le_refl _))

theorem arguments_move (h : cursor.In text) :
    Moves text (arguments expr) cursor fun args after =>
      Trimmed text cursor.offset after.offset ∧
        PlacedEach text cursor.offset args after.offset := by
  refine (Moves.character h (by decide)).bind fun _ opened onward opening => ?_
  refine (Moves.space onward.isIn).bind fun _ inside spaced blank => ?_
  have closed := Moves.character spaced.isIn (c := ')') (by decide)
  have lt := opening.lt
  have le := spaced.le
  refine (closed.opt spaced.isIn).bind fun found mid onward' found? => ?_
  rcases found with _ | u
  · obtain rfl : mid = inside := found?
    have alone : Moves text (do return [← lambda expr]) mid fun args after =>
        PlacedEach text mid.offset args after.offset :=
      (lambda_moves hexpr spaced.isIn blank.1).bind fun e after onward placed =>
        .pure onward.isIn placed.placedEach
    refine ((alone.orElse (expressions_move hexpr spaced.isIn)).cut.expecting _).bind
      fun args stop read placedEach => ?_
    refine (closing_moves read.isIn (by decide)).bind fun _ after onward stops => ?_
    have le' := onward.le
    have le'' := read.le
    exact .pure onward.isIn ⟨⟨opening.starts, stops, by omega⟩, placedEach.widen (by omega) le'⟩
  · have closing : Trimmed text inside.offset mid.offset := found?
    have lt' := closing.lt
    exact .pure onward'.isIn ⟨⟨opening.starts, closing.stops, by omega⟩, .nil (by omega)⟩

/-- The arguments of a call may stand apart from its name. -/
theorem callArguments_move (h : cursor.In text) :
    Moves text (do space; arguments expr) cursor fun args after =>
      StopsAt text after.offset ∧ PlacedEach text cursor.offset args after.offset := by
  refine (Moves.space h).bind fun _ mid skipped _ => ?_
  refine (arguments_move hexpr skipped.isIn).imp fun args after _ read => ?_
  exact ⟨read.1.stops, read.2.widen skipped.le (Nat.le_refl _)⟩

theorem group_nests : Nests text (group expr) := by
  intro cursor isIn
  refine (Moves.character isIn (by decide)).bind fun _ opened onward opening => ?_
  refine (hexpr opened onward.isIn).bind fun e mid read placed => ?_
  refine (closing_moves read.isIn (by decide)).bind fun _ after closed stops => ?_
  have le := placed.start_le
  have le' := placed.le_stop
  have lt := opening.lt
  have le'' := closed.le
  exact .pure closed.isIn ⟨placed.nested, by omega, by omega, stops⟩

theorem named_nests : Nests text (named expr) := by
  intro cursor isIn
  refine (freeName_moves isIn).bind fun x mid onward hx => ?_
  obtain ⟨name, span⟩ := x
  obtain ⟨rfl, trimmed⟩ := hx
  have leaf {e : Expr} (span : e.span = ⟨cursor.offset, mid.offset⟩) (none : e.parts = []) :
      Placed text cursor.offset e mid.offset :=
    .around span none trimmed (.nil onward.le) (Nat.le_refl _)
  -- the two truth values are names to the parser
  dsimp only
  split
  · exact .pure onward.isIn (leaf rfl rfl)
  split
  · exact .pure onward.isIn (leaf rfl rfl)
  refine ((callArguments_move hexpr onward.isIn).spanned.opt onward.isIn).bind
    fun found after onward' found? => ?_
  have lt := trimmed.lt
  rcases found with _ | ⟨args, argsSpan⟩
  · obtain rfl : after = mid := found?
    exact .pure onward.isIn (leaf rfl rfl)
  · obtain ⟨same, stops, placedEach⟩ := found?
    obtain rfl : argsSpan = _ := same
    have le := onward'.le
    exact .pure onward'.isIn (.around rfl rfl ⟨trimmed.starts, stops, by omega⟩
      (placedEach.widen (by omega) (Nat.le_refl _)) (Nat.le_refl _))

theorem primary_nests : Nests text (primary expr) := by
  refine .spaced fun cursor isIn => .expecting _ ?_
  refine (group_nests hexpr).orElse (.orElse (literal_nests _ fun _ => .stringLiteral)
    (.orElse (literal_nests _ fun _ => .number) (named_nests hexpr))) cursor isIn

/-- A suffix makes an expression of the one before it, which begins where that begins. -/
theorem suffix_moves (h : cursor.In text) {target : Expr}
    (placed : Placed text start target cursor.offset) :
    Moves text (suffix expr target) cursor fun e after => Placed text start e after.offset := by
  refine (Moves.space h).bind fun _ mid spaced _ => ?_
  refine (Moves.character spaced.isIn (by decide)).bind fun _ mid' pointed point => ?_
  refine (Moves.space pointed.isIn).bind fun _ begin spaced' _ => ?_
  have onward := (spaced.trans pointed).trans spaced'
  have inside : Moves text (do
      let name ← expecting .memberName (cut identifier)
      let args ← opt do
        space
        arguments expr
      pure (name, args)) begin fun x after => StopsAt text after.offset ∧
        PlacedEach text begin.offset (x.2.getD []) after.offset := by
    refine ((Moves.identifier spaced'.isIn).cut.expecting _).bind fun name named read trimmed => ?_
    refine ((callArguments_move hexpr read.isIn).opt read.isIn).bind
      fun args after onward found? => ?_
    rcases args with _ | args
    · obtain rfl : after = named := found?
      exact .pure onward.isIn ⟨trimmed.stops, .nil read.le⟩
    · obtain ⟨stops, placedEach⟩ := found?
      exact .pure onward.isIn ⟨stops, placedEach.widen read.le (Nat.le_refl _)⟩
  refine inside.spanned.bind fun x after read hx => ?_
  obtain ⟨⟨name, args⟩, span⟩ := x
  obtain ⟨rfl, stops, placedEach⟩ := hx
  have lt := placed.nested.trimmed.lt
  have le := placed.le_stop
  have le' := onward.le
  have le'' := read.le
  have whole : PlacedEach text target.span.start (target :: args.getD []) after.offset :=
    placed.cons (placedEach.widen le' (Nat.le_refl _))
  have made {e : Expr} (span : e.span = ⟨target.span.start, after.offset⟩)
      (parts : e.parts = target :: args.getD []) : Placed text start e after.offset :=
    .around span parts ⟨placed.nested.trimmed.starts, stops, by omega⟩ whole placed.start_le
  cases args with
  | none =>
    refine (bounded_moves read.isIn _).imp fun e after' _ same => ?_
    obtain ⟨rfl, rfl⟩ := same
    exact made rfl rfl
  | some args =>
    refine (bounded_moves read.isIn _).imp fun e after' _ same => ?_
    obtain ⟨rfl, rfl⟩ := same
    exact made rfl rfl

theorem suffixed_nests : Nests text (suffixed expr) := by
  intro cursor isIn
  refine (primary_nests hexpr cursor isIn).bind fun target mid onward placed => ?_
  exact Moves.iterate onward.isIn placed fun e at' onward placed =>
    suffix_moves hexpr onward.isIn placed

theorem listOfValues_moves (h : cursor.In text) :
    Moves text (listOfValues expr) cursor fun values after =>
      StopsAt text after.offset ∧ PlacedEach text cursor.offset values after.offset := by
  refine (Moves.space h).bind fun _ begin spaced _ => ?_
  refine (Moves.character spaced.isIn (by decide)).bind fun _ opened onward _ => ?_
  refine (expressions_move hexpr onward.isIn).bind fun values mid read placedEach => ?_
  refine (Moves.space read.isIn).bind fun _ stop spaced' _ => ?_
  refine (Moves.character spaced'.isIn (by decide)).bind fun _ after closed closing => ?_
  have le := (spaced.trans onward).le
  have le' := (spaced'.trans closed).le
  exact .pure closed.isIn ⟨closing.stops, placedEach.widen le le'⟩

end Expressions

/-- The operations of a chain are grouped without reading on. -/
theorem chained_moves (h : cursor.In text) {first : Expr} {others : List (ArithOp × Expr)}
    (placed : Placed text start first mid)
    (placedEach : PlacedEach text mid (others.map Prod.snd) cursor.offset)
    (stops : StopsAt text cursor.offset) :
    Moves text (chained first others) cursor fun e after => Placed text start e after.offset := by
  induction others generalizing first mid with
  | nil =>
    have le := placed.le_stop.trans placedEach.inOrder.le
    exact .pure h ⟨placed.nested, placed.start_le, le, stops⟩
  | cons operation others ih =>
    obtain ⟨op, operand⟩ := operation
    obtain ⟨nested, others⟩ := List.forall_mem_cons.mp placedEach.nested
    obtain _ | ⟨before, lt, later⟩ := placedEach.inOrder
    have second : Placed text mid operand operand.span.stop :=
      ⟨nested, before, Nat.le_refl _, nested.trimmed.stops⟩
    refine (bounded_moves h _).bind fun e after _ same => ?_
    obtain ⟨rfl, rfl⟩ := same
    exact ih (placed.joined second rfl rfl) ⟨others, later⟩

section Operators

variable (hq : Nests text q)

include hq

/-- A chain of operations of one rank. -/
theorem operations_nest {sign : Parser ArithOp}
    (hs : ∀ cursor : Cursor, cursor.In text → Moves text sign cursor fun _ _ => True) :
    Nests text (do
      let first ← q
      let others ← many do
        space
        let op ← sign
        let operand ← cut q
        pure (op, operand)
      chained first others) := by
  intro cursor isIn
  refine (hq cursor isIn).bind fun first mid read placed => ?_
  have found : Moves text (many do
      space
      let op ← sign
      let operand ← cut q
      pure (op, operand)) mid fun found at' => StopsAt text at'.offset ∧
        PlacedEach text mid.offset (found.map Prod.snd) at'.offset := by
    refine Moves.many read.isIn ⟨placed.stops, .nil (Nat.le_refl _)⟩
      fun found at' onward sofar => ?_
    refine (Moves.space onward.isIn).bind fun _ _ spaced _ => ?_
    refine (hs _ spaced.isIn).bind fun op begin taken _ => ?_
    refine (hq begin taken.isIn).cut.bind fun operand after read placed => .pure read.isIn ?_
    refine ⟨placed.stops, ?_⟩
    rw [List.map_append]
    exact sofar.2.append (placed.widen (spaced.trans taken).le).placedEach
  exact found.bind fun others after onward read =>
    chained_moves onward.isIn placed read.2 read.1

/-- Operands that are connected by one sign. -/
theorem operands_nest {sign : Parser Unit} {make : Mark → List Expr → Expr}
    (hs : ∀ cursor : Cursor, cursor.In text → Moves text sign cursor fun _ _ => True)
    (span : ∀ mark es, (make mark es).span = mark.span)
    (parts : ∀ mark es, (make mark es).parts = es) :
    Nests text (do
      let first ← q
      let others ← many do
        space
        sign
        cut q
      pure (connected make first others)) := by
  intro cursor isIn
  refine (hq cursor isIn).bind fun first mid read placed => ?_
  have found : Moves text (many do
      space
      sign
      cut q) mid fun found at' => StopsAt text at'.offset ∧
        PlacedEach text mid.offset found at'.offset := by
    refine Moves.many read.isIn ⟨placed.stops, .nil (Nat.le_refl _)⟩
      fun found at' onward sofar => ?_
    refine (Moves.space onward.isIn).bind fun _ _ spaced _ => ?_
    refine (hs _ spaced.isIn).bind fun _ begin taken _ => ?_
    refine (hq begin taken.isIn).cut.imp fun operand after read placed => ⟨placed.stops, ?_⟩
    exact sofar.2.append (placed.widen (spaced.trans taken).le).placedEach
  refine found.bind fun others after onward read => .pure onward.isIn ?_
  obtain ⟨stops, placedEach⟩ := read
  unfold connected
  cases eq : others.getLast? with
  | none =>
    exact ⟨placed.nested, placed.start_le, placed.le_stop.trans placedEach.inOrder.le, stops⟩
  | some last => exact placed.connected placedEach eq stops (span _ _) (parts _ _)

/-- A sign with an operand after it, or another expression. -/
theorem prefixed_nests {sign : Parser Unit} {make : Mark → Expr → Expr} (hp : Nests text p)
    (hs : ∀ cursor : Cursor, cursor.In text → Moves text sign cursor fun _ after =>
      Trimmed text cursor.offset after.offset)
    (span : ∀ mark e, (make mark e).span = mark.span)
    (parts : ∀ mark e, (make mark e).parts = [e]) :
    Nests text (do
      space
      match ← opt (spanned do sign; cut p) with
      | some (operand, span) => pure (make (.over span [operand]) operand)
      | none => q) := by
  refine .spaced fun cursor isIn => ?_
  have signed : Moves text (do sign; cut p) cursor fun e after =>
      StartsAt text cursor.offset ∧ Placed text cursor.offset e after.offset := by
    refine (hs cursor isIn).bind fun _ mid taken trimmed => ?_
    refine (hp mid taken.isIn).cut.imp fun e after _ placed => ?_
    exact ⟨trimmed.starts, placed.widen taken.le⟩
  refine (signed.spanned.opt isIn).bind fun found mid onward found? => ?_
  rcases found with _ | ⟨operand, range⟩
  · obtain rfl : mid = cursor := found?
    exact hq mid isIn
  · obtain ⟨same, starts, placed⟩ := found?
    obtain rfl : range = _ := same
    exact .pure onward.isIn (.around (span _ _) (parts _ _) ⟨starts, placed.stops, placed.lt⟩
      placed.placedEach (Nat.le_refl _))

end Operators

/-- The parsers for nested parts read well nested expressions. -/
structure Deeper.Nests (text : List Char) (deeper : Deeper) : Prop where
  expression : Parser.Nests text deeper.expression
  signed : Parser.Nests text deeper.signed
  negated : Parser.Nests text deeper.negated

/-! No sign is blank. -/

section Signs

variable (h : cursor.In text)

include h

theorem multiplicativeOp_moves : Moves text multiplicativeOp cursor fun _ _ => True := by
  have one (op : ArithOp) {c : Char} (solid : Text.isBlank c = false) :
      Moves text (do character c; pure op) cursor fun _ _ => True :=
    (Moves.character h solid).bind fun _ _ onward _ => .pure onward.isIn trivial
  exact (one .mul (by decide)).orElse ((one .div (by decide)).orElse (one .rem (by decide)))

theorem additiveOp_moves : Moves text additiveOp cursor fun _ _ => True := by
  have one (op : ArithOp) {c : Char} (solid : Text.isBlank c = false) :
      Moves text (do character c; pure op) cursor fun _ _ => True :=
    (Moves.character h solid).bind fun _ _ onward _ => .pure onward.isIn trivial
  exact (one .add (by decide)).orElse (one .sub (by decide))

theorem compareOp_moves : Moves text compareOp cursor fun _ _ => True := by
  have one (op : CompareOp) {cs : List Char} (solid : Grammar.Solid cs) :
      Moves text (do word cs; pure op) cursor fun _ _ => True :=
    (Moves.word h solid).bind fun _ _ onward _ => .pure onward.isIn trivial
  exact (one .ge (by decide)).orElse <| (one .gt (by decide)).orElse <|
    (one .le (by decide)).orElse <| (one .lt (by decide)).orElse <|
    (one .eq (by decide)).orElse (one .ne (by decide))

/-- A word in small or in capital letters. -/
theorem words_move {small capital : List Char} (hsmall : Grammar.Solid small)
    (hcapital : Grammar.Solid capital) :
    Moves text (orElse (keyword small) (keyword capital)) cursor fun _ after =>
      Trimmed text cursor.offset after.offset :=
  (Moves.keyword h hsmall).orElse (Moves.keyword h hcapital)

theorem wordSign_moves {sign : Parser Unit} {small capital : List Char}
    (hs : Moves text sign cursor fun _ after => Trimmed text cursor.offset after.offset)
    (hsmall : Grammar.Solid small) (hcapital : Grammar.Solid capital) :
    Moves text (orElse sign (orElse (keyword small) (keyword capital))) cursor fun _ after =>
      Trimmed text cursor.offset after.offset :=
  hs.orElse (words_move h hsmall hcapital)

end Signs

namespace Deeper.Nests

variable {deeper : Deeper} (h : deeper.Nests text)

include h

theorem signed_nests : Parser.Nests text (Parser.signed deeper) :=
  prefixed_nests (suffixed_nests h.expression) h.signed.nested
    (fun _ isIn => Moves.character isIn (by decide)) (fun _ _ => rfl) fun _ _ => rfl

theorem product_nests : Parser.Nests text (product deeper) :=
  operations_nest h.signed_nests fun _ => multiplicativeOp_moves

theorem sum_nests : Parser.Nests text (sum deeper) :=
  operations_nest h.product_nests fun _ => additiveOp_moves

theorem comparison_nests : Parser.Nests text (comparison deeper) := by
  intro cursor isIn
  refine (h.sum_nests cursor isIn).bind fun lhs mid read placed => ?_
  have compareSign : Moves text (do space; compareOp) mid fun _ _ => True :=
    (Moves.space read.isIn).bind fun _ _ spaced _ => compareOp_moves spaced.isIn
  refine (compareSign.opt read.isIn).bind fun found stop onward found? => ?_
  rcases found with _ | op
  · obtain rfl : stop = mid := found?
    have inSign : Moves text (do space; orElse (keyword ['i', 'n']) (keyword ['I', 'N'])) stop
        fun _ _ => True := by
      refine (Moves.space read.isIn).bind fun _ _ spaced _ => ?_
      exact (words_move spaced.isIn (by decide) (by decide)).imp fun _ _ _ _ => trivial
    refine (inSign.opt read.isIn).bind fun found begin onward found? => ?_
    rcases found with _ | u
    · obtain rfl : begin = stop := found?
      exact .pure onward.isIn placed
    · refine (((listOfValues_moves h.expression onward.isIn).cut.expecting _).spanned).bind
        fun x after listed hx => ?_
      obtain ⟨set, span⟩ := x
      obtain ⟨rfl, stops, placedEach⟩ := hx
      have lt := placed.nested.trimmed.lt
      have le := placed.le_stop
      have le' := (onward.trans listed).le
      exact .pure listed.isIn (.around rfl rfl ⟨placed.nested.trimmed.starts, stops, by omega⟩
        (placed.cons (placedEach.widen onward.le (Nat.le_refl _))) placed.start_le)
  · refine ((h.sum_nests stop onward.isIn).cut.expecting _).bind fun rhs after read' placed' => ?_
    exact .pure read'.isIn (placed.joined (placed'.widen onward.le) rfl rfl)

theorem negated_nests : Parser.Nests text (Parser.negated deeper) :=
  prefixed_nests h.comparison_nests h.negated.nested
    (fun _ isIn => wordSign_moves isIn (Moves.character isIn (by decide)) (by decide) (by decide))
    (fun _ _ => rfl) fun _ _ => rfl

theorem conjunction_nests : Parser.Nests text (conjunction deeper) :=
  operands_nest h.negated_nests
    (fun _ isIn => (wordSign_moves isIn (Moves.word isIn (by decide)) (by decide) (by decide)).imp
      fun _ _ _ _ => trivial) (fun _ _ => rfl) fun _ _ => rfl

theorem disjunction_nests : Parser.Nests text (disjunction deeper) :=
  operands_nest h.conjunction_nests
    (fun _ isIn => (wordSign_moves isIn (Moves.word isIn (by decide)) (by decide) (by decide)).imp
      fun _ _ _ _ => trivial) (fun _ _ => rfl) fun _ _ => rfl

theorem expression_nests : Parser.Nests text (Parser.expression deeper) := by
  refine .nested (.spaced fun cursor isIn => ?_)
  refine (h.disjunction_nests cursor isIn).bind fun e mid read placed => ?_
  refine (bounded_moves read.isIn e).imp fun e' after _ same => ?_
  obtain ⟨rfl, rfl⟩ := same
  exact placed

end Deeper.Nests

/-- On every level of nesting the parsers move as they should. -/
theorem deeper_nests (levels : Nat) : (deeper levels).Nests text := by
  induction levels with
  | zero => exact ⟨fun _ => .fail, fun _ => .fail, fun _ => .fail⟩
  | succ levels ih => exact ⟨ih.expression_nests, ih.signed_nests, ih.negated_nests⟩

theorem rule_moves (h : cursor.In text) :
    Moves text rule cursor fun e _ => e.Nested text := by
  refine ((deeper_nests maxNesting).expression_nests cursor h).bind fun e mid read placed => ?_
  refine (Moves.space read.isIn).bind fun _ stop spaced _ => ?_
  exact ((Moves.endOfText spaced.isIn).cut.expecting _).bind fun _ after onward _ =>
    .pure onward.isIn placed.nested

end Parser

/-- The range of a node is a piece of the text, from one character that is not blank to another
one, and the ranges of its parts stand in it one after the other. -/
structure Expr.WellPlaced (text : String) (e : Expr) : Prop where
  start_lt_stop : e.span.start < e.span.stop
  stop_le : e.span.stop ≤ text.utf8ByteSize
  start_isValid : String.Pos.Raw.IsValid text ⟨e.span.start⟩
  stop_isValid : String.Pos.Raw.IsValid text ⟨e.span.stop⟩
  starts : StartsAt text.toList e.span.start
  stops : StopsAt text.toList e.span.stop
  parts_inside : ∀ part ∈ e.parts,
    e.span.start ≤ part.span.start ∧ part.span.stop ≤ e.span.stop
  parts_inOrder : e.parts.Pairwise fun part later => part.span.stop ≤ later.span.start

theorem Expr.Nested.wellPlaced {text : String} {e : Expr} (h : e.Nested text.toList) :
    e.WellPlaced text where
  start_lt_stop := h.trimmed.lt
  stop_le := h.trimmed.stops.isValid.le_utf8ByteSize
  start_isValid := h.trimmed.starts.isValid
  stop_isValid := h.trimmed.stops.isValid
  starts := h.trimmed.starts
  stops := h.trimmed.stops
  parts_inside := h.inOrder.within
  parts_inOrder := h.inOrder.pairwise

/-- Whatever comes of a text, the parser stays in it. -/
theorem rule_onward (text : String) :
    (Parser.rule ⟨text.toList, 0, 0⟩).Onward text.toList ⟨text.toList, 0, 0⟩ fun e _ =>
      e.Nested text.toList :=
  Parser.rule_moves ⟨[], rfl, rfl⟩

theorem nested_of_parse {text : String} {e : Expr} (parsed : parse text = .ok e) :
    e.Nested text.toList := by
  have onward := rule_onward text
  unfold parse at parsed
  cases reply : Parser.rule ⟨text.toList, 0, 0⟩ with
  | ok e' after =>
    rw [reply] at parsed onward
    cases parsed
    exact onward.2
  | backtrack expected after | cut expected after =>
    rw [reply] at parsed
    cases parsed

/-- Where a text is no rule, the place of the error lies between two of its characters. -/
theorem isValid_of_parse_error {text : String} {e : ParseError} (failed : parse text = .error e) :
    String.Pos.Raw.IsValid text ⟨e.offset⟩ := by
  have onward := rule_onward text
  unfold parse at failed
  cases reply : Parser.rule ⟨text.toList, 0, 0⟩ with
  | ok e' after =>
    rw [reply] at failed
    cases failed
  | backtrack expected after | cut expected after =>
    rw [reply] at failed onward
    cases failed
    exact onward.isIn.isValid

/-- Every node of a rule is well placed in its text: parentheses and white space around a part are
outside of the part's range, and inside the range of the whole. -/
theorem wellPlaced_of_parse {text : String} {e node : Expr} (parsed : parse text = .ok e)
    (isIn : node.IsIn e) : node.WellPlaced text :=
  ((nested_of_parse parsed).isIn isIn).wellPlaced

/-- The target in parentheses begins one byte after the text, and the parameter of the lambda stands
after white space of three bytes. -/
theorem wellPlaced_lambda : ∃ e, parse "(a)\u00a0. any(\u3000x => (x) > 1 ) " = .ok e ∧
    e.span = ⟨1, 28⟩ ∧ e.parts.map Expr.span = [⟨1, 2⟩, ⟨14, 26⟩] ∧
    ∀ node : Expr, node.IsIn e → node.WellPlaced "(a)\u00a0. any(\u3000x => (x) > 1 ) " := by
  obtain ⟨e, parsed⟩ := exists_eq_ok (x := parse "(a)\u00a0. any(\u3000x => (x) > 1 ) ")
    (by decide +kernel)
  have spans : (parse "(a)\u00a0. any(\u3000x => (x) > 1 ) ").toOption.map
      (fun e => (e.span, e.parts.map Expr.span)) = some (⟨1, 28⟩, [⟨1, 2⟩, ⟨14, 26⟩]) := by
    decide +kernel
  rw [parsed] at spans
  obtain ⟨whole, parts⟩ := Prod.mk.inj (Option.some.inj spans)
  exact ⟨e, parsed, whole, parts, fun node isIn => wellPlaced_of_parse parsed isIn⟩

end RecordRules

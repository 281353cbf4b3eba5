import RecordRules.Proofs.Parsing.Tokens

namespace RecordRules.Grammar

open RecordRules.Parser (isIdentifierStart isIdentifierPart reserved)

def Nonterminal.Leading : Nonterminal → Prop
  | disjuncts | conjuncts | summands | factors | suffixes => False
  | _ => True

/-- White space before a phrase makes no difference. -/
theorem Derives.of_skip {room : Nat} {p : Nonterminal} {cs rest : List Char} {tree : p.Tree}
    (h : Derives room p cs tree rest) (leading : p.Leading) {cs' : List Char}
    (same : Text.skip cs' = Text.skip cs) : Derives room p cs' tree rest := by
  induction h generalizing cs' with
  | expression _ ih => exact .expression (ih trivial same)
  | disjunction _ others ih => exact .disjunction (ih trivial same) others
  | conjunction _ others ih => exact .conjunction (ih trivial same) others
  | negation sign operand => exact .negation (sign.of_skip same) operand
  | unnegated _ ih => exact .unnegated (ih trivial same)
  | compare _ mem sign rhs ih => exact .compare (ih trivial same) mem sign rhs
  | within _ sign opening set closing ih =>
    exact .within (ih trivial same) sign opening set closing
  | uncompared _ ih => exact .uncompared (ih trivial same)
  | sum _ others ih => exact .sum (ih trivial same) others
  | product _ others ih => exact .product (ih trivial same) others
  | negative sign operand => exact .negative (same.trans sign) operand
  | unsigned _ ih => exact .unsigned (ih trivial same)
  | suffixed _ suffixes ih => exact .suffixed (ih trivial same) suffixes
  | group opening e closing => exact .group (same.trans opening) e closing
  | string opening quoted => exact .string (same.trans opening) quoted
  | int digits value => exact .int { digits with symbol := same.trans digits.symbol } value
  | float digits => exact .float { digits with symbol := same.trans digits.symbol }
  | bool mem name => exact .bool mem (name.of_skip same)
  | ident name free => exact .ident (name.of_skip same) free
  | call name free args => exact .call (name.of_skip same) free args
  | noArguments opening closing => exact .noArguments (same.trans opening) closing
  | lambda opening param arrow body closing =>
    exact .lambda (same.trans opening) param arrow body closing
  | arguments opening args closing => exact .arguments (same.trans opening) args closing
  | lastExpression _ ih => exact .lastExpression (ih trivial same)
  | moreExpressions _ comma others ih => exact .moreExpressions (ih trivial same) comma others
  | noDisjunct | noConjunct | noSummand | noFactor | noSuffix => exact leading.elim
  | disjunct | conjunct | summand | factor | member | method => exact leading.elim

/-- A phrase does not reach back. -/
theorem Derives.length_le {room : Nat} {p : Nonterminal} {cs rest : List Char} {tree : p.Tree}
    (h : Derives room p cs tree rest) : rest.length ≤ cs.length := by
  induction h with
  | expression _ ih | unnegated _ ih | uncompared _ ih | unsigned _ ih | lastExpression _ ih =>
    exact ih
  | noDisjunct | noConjunct | noSummand | noFactor | noSuffix => exact Nat.le_refl _
  | disjunction _ _ ih ih' | conjunction _ _ ih ih' | sum _ _ ih ih' | product _ _ ih ih'
  | suffixed _ _ ih ih' => exact ih'.trans ih
  | disjunct sign _ _ ih ih' | conjunct sign _ _ ih ih' =>
    have lt := sign.length_lt (by decide)
    omega
  | negation sign _ ih =>
    have lt := sign.length_lt (by decide)
    omega
  | compare _ _ sign _ ih ih' =>
    have le := sign.length_le
    omega
  | within _ sign opening _ closing ih ih' =>
    have lt := sign.length_lt (by decide)
    have le := opening.length_le
    have le' := closing.length_le
    omega
  | summand _ sign _ _ ih ih' | factor _ sign _ _ ih ih' =>
    have le := sign.length_le
    omega
  | negative sign _ ih =>
    have le := sign.length_le
    omega
  | member point name _ ih =>
    have le := point.length_le
    have le' := name.length_lt
    omega
  | method point name _ _ ih ih' =>
    have le := point.length_le
    have le' := name.length_lt
    omega
  | group opening _ closing ih | arguments opening _ closing ih =>
    have le := opening.length_le
    have le' := closing.length_le
    omega
  | string opening quoted =>
    have le := opening.length_le
    have lt := quoted.length_lt
    omega
  | int digits => exact digits.symbol.length_le
  | float digits => exact digits.symbol.length_le
  | bool _ name => exact name.length_lt.le
  | ident name => exact name.length_lt.le
  | call name _ _ ih => exact ih.trans name.length_lt.le
  | noArguments opening closing => exact closing.length_le.trans opening.length_le
  | lambda opening param arrow _ closing ih =>
    have le := opening.length_le
    have lt := param.length_lt
    have le' := arrow.length_le
    have le'' := closing.length_le
    omega
  | moreExpressions _ comma _ ih ih' =>
    have le := comma.length_le
    omega

/-- The characters that a phrase may begin with, beside digits and the beginnings of identifiers. -/
def Nonterminal.signs : Nonterminal → List Char
  | primary | suffixed => ['(', '"']
  | signed | product | sum | comparison => ['(', '"', '-']
  | negated | conjunction | disjunction | expression | expressions => ['(', '"', '-', '!']
  | arguments => ['(']
  | disjuncts | conjuncts | summands | factors | suffixes => []

/-- The text begins, after white space, as phrases of the kind do. -/
def Begins (p : Nonterminal) (cs : List Char) : Prop :=
  ∃ c after, Text.skip cs = c :: after ∧ (isIdentifierStart c ∨ c.isDigit ∨ c ∈ p.signs)

theorem Begins.mono {p q : Nonterminal} {cs : List Char} (h : Begins p cs)
    (le : p.signs ⊆ q.signs) : Begins q cs := by
  obtain ⟨c, after, eq, begins⟩ := h
  exact ⟨c, after, eq, begins.imp_right (Or.imp_right (@le c))⟩

theorem begins_of_symbol {p : Nonterminal} {c : Char} {others cs rest : List Char}
    (h : Symbol (c :: others) cs rest) (mem : c ∈ p.signs) : Begins p cs :=
  ⟨c, others ++ rest, h, .inr (.inr mem)⟩

theorem Name.begins {p : Nonterminal} {name : String} {cs rest : List Char}
    (h : Name name cs rest) : Begins p cs := by
  obtain ⟨c, after, eq, start⟩ := h.head
  exact ⟨c, after, eq, .inl start⟩

theorem Digits.head {digits others cs rest : List Char} (h : Digits digits)
    (symbol : Symbol (digits ++ others) cs rest) :
    ∃ c after, Text.skip cs = c :: after ∧ c.isDigit := by
  cases digits with
  | nil => exact absurd rfl h.1
  | cons c tail => exact ⟨c, tail ++ others ++ rest, symbol, h.2 c List.mem_cons_self⟩

theorem Whole.head {digits cs rest : List Char} (h : Whole digits cs rest) :
    ∃ c after, Text.skip cs = c :: after ∧ c.isDigit := by
  have symbol : Symbol (digits ++ []) cs rest := by
    rw [List.append_nil]
    exact h.symbol
  exact h.all.head symbol

theorem Decimal.head {whole fraction cs rest : List Char} (h : Decimal whole fraction cs rest) :
    ∃ c after, Text.skip cs = c :: after ∧ c.isDigit :=
  h.before.head h.symbol

theorem begins_of_isDigit {p : Nonterminal} {cs : List Char}
    (h : ∃ c after, Text.skip cs = c :: after ∧ c.isDigit) : Begins p cs := by
  obtain ⟨c, after, eq, digit⟩ := h
  exact ⟨c, after, eq, .inr (.inl digit)⟩

theorem NotSign.begins {cs rest : List Char} (h : NotSign cs rest) : Begins .negated cs := by
  obtain ⟨s, mem, h⟩ := h.symbol
  simp only [List.cons_append, List.nil_append, List.mem_cons, List.not_mem_nil, or_false] at mem
  rcases mem with rfl | rfl | rfl
  · exact begins_of_symbol h (by decide)
  · exact ⟨'n', _, h, .inl rfl⟩
  · exact ⟨'N', _, h, .inl rfl⟩

theorem Derives.begins {room : Nat} {p : Nonterminal} {cs rest : List Char} {tree : p.Tree}
    (h : Derives room p cs tree rest) (leading : p.Leading) : Begins p cs := by
  induction h with
  | expression _ ih | lastExpression _ ih => exact ih trivial
  | disjunction _ _ ih | conjunction _ _ ih | sum _ _ ih | product _ _ ih | suffixed _ _ ih =>
    exact ih trivial
  | moreExpressions _ _ _ ih | compare _ _ _ _ ih | within _ _ _ _ _ ih => exact ih trivial
  | uncompared _ ih => exact ih trivial
  | unnegated _ ih | unsigned _ ih => exact (ih trivial).mono (by decide)
  | negation sign => exact NotSign.begins sign
  | negative sign | group sign | string sign | noArguments sign | lambda sign | arguments sign =>
    exact begins_of_symbol sign (by decide)
  | int digits => exact begins_of_isDigit digits.head
  | float digits => exact begins_of_isDigit digits.head
  | bool _ name | ident name | call name => exact name.begins
  | noDisjunct | noConjunct | noSummand | noFactor | noSuffix => exact leading.elim
  | disjunct | conjunct | summand | factor | member | method => exact leading.elim

/-- A phrase begins with none of the other characters. -/
theorem Begins.head_ne {p : Nonterminal} {cs : List Char} (h : Begins p cs) {c : Char}
    (start : Parser.isIdentifierStart c = false) (digit : c.isDigit = false) (other : c ∉ p.signs) :
    (Text.skip cs).head? ≠ some c := by
  obtain ⟨d, after, eq, begins⟩ := h
  rw [eq]
  intro same
  cases same
  rw [start, digit] at begins
  rcases begins with h | h | mem
  · cases h
  · cases h
  · exact other mem

/-- Nor does it after no white space at all. -/
theorem Begins.head_ne_of_notBlank {p : Nonterminal} {cs : List Char} (h : Begins p cs) {c : Char}
    (notBlank : Text.isBlank c = false) (start : Parser.isIdentifierStart c = false)
    (digit : c.isDigit = false) (other : c ∉ p.signs) : cs.head? ≠ some c := by
  intro eq
  obtain ⟨after, rfl⟩ := List.head?_eq_some_iff.mp eq
  apply h.head_ne start digit other
  rw [Text.skip_of_head notBlank]
  rfl

/-- An arrow comes next. -/
def Arrow (cs : List Char) : Prop :=
  ∃ body, Symbol ['=', '>'] cs body

theorem not_arrow_of_head {cs : List Char} (other : (Text.skip cs).head? ≠ some '=') :
    ¬ Arrow cs := by
  rintro ⟨body, arrow⟩
  apply other
  rw [arrow]
  rfl

theorem not_arrow_of_symbol {symbol cs rest : List Char} (h : Symbol symbol cs rest)
    (other : symbol.head?.any (· ∉ ['='])) : ¬ Arrow cs :=
  not_arrow_of_head (h.heads_ne other '=' List.mem_cons_self)

theorem Sign.not_arrow {symbols words : List (List Char)} {cs rest : List Char}
    (h : Sign symbols words cs rest)
    (others : ∀ s ∈ symbols ++ words, s.head?.any (· ∉ ['='])) : ¬ Arrow cs :=
  not_arrow_of_head (h.heads_ne others '=' List.mem_cons_self)

theorem not_arrow_of_compareSign {op : CompareOp} {sign cs rest : List Char}
    (mem : (op, sign) ∈ compareSigns) (h : Symbol sign cs rest) : ¬ Arrow cs := by
  have signs : ∀ s ∈ compareSigns, s.2.head?.any (· ∉ ['=']) ∨ s.2 = ['=', '='] := by decide
  rcases signs _ mem with other | rfl
  · exact not_arrow_of_symbol h other
  · rintro ⟨body, arrow⟩
    rw [Symbol, h] at arrow
    cases arrow

theorem not_arrow_of_arithSign {op : ArithOp} {sign cs rest : List Char}
    (mem : (op, sign) ∈ additiveSigns ++ multiplicativeSigns) (h : Symbol sign cs rest) :
    ¬ Arrow cs := by
  have others : ∀ s ∈ additiveSigns ++ multiplicativeSigns, s.2.head?.any (· ∉ ['=']) := by decide
  exact not_arrow_of_symbol h (others _ mem)

theorem Begins.not_arrow {p : Nonterminal} {cs : List Char} (h : Begins p cs) : ¬ Arrow cs := by
  have noSign : '=' ∉ p.signs := by
    cases p <;> decide
  exact not_arrow_of_head (h.head_ne rfl rfl noSign)

/-- What is known of an identifier at the beginning of a phrase: an operand does not begin with a
reserved name, and no arrow comes after the name unless one comes after the phrase. -/
def Nonterminal.NamesFirst (p : Nonterminal) (cs rest : List Char) : Prop :=
  match p with
  | disjuncts | conjuncts | summands | factors | suffixes => ¬ Arrow rest → ¬ Arrow cs
  | arguments => ¬ Arrow cs
  | comparison | sum | product | signed | suffixed | primary =>
    ∀ name mid, Name name cs mid → name ∉ reserved ∧ (¬ Arrow rest → ¬ Arrow mid)
  | expression | disjunction | conjunction | negated | expressions =>
    ∀ name mid, Name name cs mid → ¬ Arrow rest → ¬ Arrow mid

theorem not_name_of_symbol {c : Char} {others cs rest : List Char}
    (h : Symbol (c :: others) cs rest) (other : isIdentifierStart c = false) {name : String}
    {mid : List Char} : ¬ Name name cs mid := by
  intro first
  obtain ⟨d, after, eq, start⟩ := first.head
  rw [Symbol, eq] at h
  cases h
  rw [other] at start
  cases start

theorem not_name_of_isDigit {cs : List Char}
    (h : ∃ c after, Text.skip cs = c :: after ∧ c.isDigit) {name : String} {mid : List Char} :
    ¬ Name name cs mid := by
  intro first
  obtain ⟨c, after, eq, digit⟩ := h
  obtain ⟨d, after', eq', start⟩ := first.head
  rw [eq] at eq'
  cases eq'
  rw [isIdentifierStart_of_isDigit digit] at start
  cases start

theorem NotSign.not_arrow_of_name {name : String} {cs start mid : List Char}
    (h : NotSign cs start) (first : Name name cs mid) (noArrow : ¬ Arrow start) : ¬ Arrow mid := by
  rcases h with ⟨s, mem, h⟩ | ⟨w, mem, h, ends⟩
  · obtain rfl := List.mem_singleton.mp mem
    exact (not_name_of_symbol h rfl first).elim
  · have identifiers : ∀ w ∈ [['n', 'o', 't'], ['N', 'O', 'T']], IsIdentifier w := by decide
    obtain ⟨-, rfl⟩ := first.unique (Keyword.isName ⟨h, ends⟩ (identifiers w mem))
    exact noArrow

theorem Derives.namesFirst {room : Nat} {p : Nonterminal} {cs rest : List Char} {tree : p.Tree}
    (h : Derives room p cs tree rest) : p.NamesFirst cs rest := by
  induction h with
  | expression _ ih => exact ih
  | disjunction _ _ ih ih' | conjunction _ _ ih ih' =>
    exact fun name mid first noArrow => ih name mid first (ih' noArrow)
  | sum _ _ ih ih' | product _ _ ih ih' | suffixed _ _ ih ih' =>
    intro name mid first
    obtain ⟨free, later⟩ := ih name mid first
    exact ⟨free, fun noArrow => later (ih' noArrow)⟩
  | noDisjunct | noConjunct | noSummand | noFactor | noSuffix => exact id
  | disjunct sign | conjunct sign => exact fun _ => sign.not_arrow (by decide)
  | negation sign operand =>
    intro name mid first _
    exact NotSign.not_arrow_of_name sign first (operand.begins trivial).not_arrow
  | unnegated _ ih => exact fun name mid first => (ih name mid first).2
  | compare _ mem sign _ ih =>
    intro name mid first
    obtain ⟨free, later⟩ := ih name mid first
    exact ⟨free, fun _ => later (not_arrow_of_compareSign mem sign)⟩
  | within _ sign _ _ _ ih =>
    intro name mid first
    obtain ⟨free, later⟩ := ih name mid first
    exact ⟨free, fun _ => later (sign.not_arrow (by decide))⟩
  | uncompared _ ih | unsigned _ ih => exact ih
  | summand mem sign => exact fun _ => not_arrow_of_arithSign (List.mem_append_left _ mem) sign
  | factor mem sign => exact fun _ => not_arrow_of_arithSign (List.mem_append_right _ mem) sign
  | negative sign => exact fun name mid first => (not_name_of_symbol sign rfl first).elim
  | member point | method point => exact fun _ => not_arrow_of_symbol point (by decide)
  | group opening | string opening =>
    exact fun name mid first => (not_name_of_symbol opening rfl first).elim
  | int digits => exact fun name mid first => (not_name_of_isDigit digits.head first).elim
  | float digits => exact fun name mid first => (not_name_of_isDigit digits.head first).elim
  | bool mem first =>
    have free : ∀ p ∈ truthValues, p.1 ∉ reserved := by decide
    intro name mid other
    obtain ⟨rfl, rfl⟩ := first.unique other
    exact ⟨free _ mem, id⟩
  | ident first free =>
    intro name mid other
    obtain ⟨rfl, rfl⟩ := first.unique other
    exact ⟨free.1, id⟩
  | call first free _ ih =>
    intro name mid other
    obtain ⟨rfl, rfl⟩ := first.unique other
    exact ⟨free.1, fun _ => ih⟩
  | noArguments opening | lambda opening | arguments opening =>
    exact not_arrow_of_symbol opening (by decide)
  | lastExpression _ ih => exact ih
  | moreExpressions _ comma _ ih =>
    exact fun name mid first _ => ih name mid first (not_arrow_of_symbol comma (by decide))

end RecordRules.Grammar

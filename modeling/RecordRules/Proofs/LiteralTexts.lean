import RecordRules.Item.Catalog
import RecordRules.Item.Records
import RecordRules.Proofs.Composition
import RecordRules.Proofs.Integers.Simulation
import RecordRules.Proofs.Parsing.Cuts
import RecordRules.Proofs.Parsing.Written
import RecordRules.Regex.Library

namespace RecordRules

open Grammar
open RecordRules.Expr (HasTree)
open RecordRules.Parser (digitsValue)

/-- A character as it is written between double quotes. Only the quote and the backslash have to
have a backslash before them. -/
def Text.guarded (c : Char) : List Char :=
  if c = '"' ∨ c = '\\' then ['\\', c] else [c]

namespace Grammar

theorem quoted_guarded (value rest : List Char) :
    Quoted (value.flatMap Text.guarded ++ '"' :: rest) value rest := by
  refine quoted_flatMap (fun c _ => ?_) rest
  by_cases special : c = '"' ∨ c = '\\'
  · have mem : (c, c) ∈ escapes := by
      rcases special with rfl | rfl
      · decide
      · decide
    exact .inr ⟨c, mem, if_pos special⟩
  · obtain ⟨quote, backslash⟩ := not_or.mp special
    exact .inl ⟨if_neg special, quote, backslash⟩

theorem digitsValue_eq_ofDigitChars (digits : List Char) :
    digitsValue digits = Nat.ofDigitChars 10 digits 0 := by
  simp only [digitsValue, Nat.ofDigitChars, Nat.mul_comm]

theorem whole_of_digits {digits : List Char} (all : Digits digits) : Whole digits digits [] := by
  have symbol := all.symbol_append [] []
  rw [List.append_nil, List.append_nil] at symbol
  exact ⟨all, symbol, boundary_nil.endsDigits, boundary_nil.noFraction⟩

/-- What is read as one is an operand of any rank. -/
theorem signed_of_primary {room : Nat} {cs rest : List Char} {e : Expr}
    (h : Derives room .primary cs e rest) : Derives room .signed cs e rest := by
  have suffixed : Derives room .suffixed cs (([] : List Suffix).foldl Suffix.on e) rest :=
    .suffixed h .noSuffix
  exact .unsigned suffixed

end Grammar

/-- The rule that the member is equal to what is written. -/
def equalityText (member : String) (literal : List Char) : String :=
  String.ofList (member.toList ++ [' ', '=', '=', ' '] ++ literal)

section Equality

variable {catalog : Catalog} {root : Schema} {name : String} {literal : List Char}

/-- What comes before the literal is the member and the sign. -/
theorem equalityText_left (literal : List Char) (identifier : IsIdentifier name.toList)
    (free : IsFree name) (room : Nat) :
    Derives room .sum (equalityText name literal).toList (.ident .none name)
      (' ' :: '=' :: '=' :: ' ' :: literal) := by
  have text : (equalityText name literal).toList =
      name.toList ++ ' ' :: '=' :: '=' :: ' ' :: literal := by
    rw [equalityText, String.toList_ofList, List.append_assoc]
    rfl
  have boundary : Boundary (' ' :: '=' :: '=' :: ' ' :: literal) :=
    boundary_cons (by decide) (by decide) _
  rw [text]
  exact (signed_of_primary (.ident (name_append identifier boundary.ends) free))
    |>.product_of_signed.sum_of_product

theorem equalityText_sign (literal : List Char) :
    Symbol ['=', '='] (' ' :: '=' :: '=' :: ' ' :: literal) (' ' :: literal) :=
  (symbol_append (by decide) (' ' :: literal)).spaced

theorem phrase_equalityText {tree : Expr} (identifier : IsIdentifier name.toList)
    (free : IsFree name) (h : Derives 63 .sum literal tree []) :
    Phrase 64 (equalityText name literal) (.compare .none .eq (.ident .none name) tree) := by
  refine ⟨[], .expression (Derives.disjunction_of_negated (.unnegated (.compare
    (equalityText_left literal identifier free 63) (by decide) (equalityText_sign literal)
    (h.spaced trivial)))), rfl⟩

theorem compile_equalityText [Patterns] {tree : Expr} {member : Member} {type : Ty}
    {value : Literal} (identifier : IsIdentifier name.toList) (free : IsFree name)
    (found : root.member? name = some member) (kind : member.kind = .field type)
    (comparable : type.comparableWith value.type) (h : Derives 63 .sum literal tree [])
    (low : tree.depth ≤ 2)
    (resolved : ∀ e, e.unmarked = tree →
      Resolves ⟨catalog, root, []⟩ e ⟨.const value, value.type⟩) :
    compile catalog root (equalityText name literal) =
      .ok ⟨.compare .eq (.get .root member.id []) (.const value)⟩ := by
  have phrase := phrase_equalityText identifier free h
  have depth : (Expr.compare .none .eq (.ident .none name) tree).depth ≤ Parser.maxHeight := by
    rw [Expr.depth, Expr.depth, Parser.maxHeight]
    omega
  obtain ⟨e, parsed, same⟩ := parse_of_isText phrase depth
  obtain ⟨_, lhs, rhs, rfl, left, right⟩ := Expr.eq_compare_of_unmarked same.unmarked
  obtain ⟨_, rfl⟩ := Expr.eq_ident_of_unmarked left
  exact compile_eq_ok_iff.mpr ⟨phrase.not_allBlank, _, parsed,
    .compare (.rootField rfl found kind) (resolved rhs right) comparable⟩

end Equality

/-- The member is read and compared. -/
theorem Predicate.test_equality {ο : Type} (record : ο) (member : MemberId) (value : Literal) :
    (⟨.compare .eq (.get .root member []) (.const value)⟩ : Predicate).test record = (do
      let answer ← Reading.get record member []
      Reading.ofExcept (answer.test .eq value.toValue)) := by
  have asked (answer : Value ο) : (do
      let holds ← Reading.ofExcept (answer.test .eq value.toValue)
      Reading.ofExcept (Value.bool (ο := ο) holds).asBool) =
        (Reading.ofExcept (answer.test .eq value.toValue) : Reading ο Bool) := by
    cases answer.test .eq value.toValue <;> rfl
  rw [Predicate.test_eq]
  simp only [Bound.eval, evalEach, pure_bind, bind_assoc]
  exact congrArg (Reading.get record member [] >>= ·) (funext asked)

section Literals

variable [Patterns] {scope : Scope} {e : Expr}

theorem resolves_literal {value : Literal} (same : e.unmarked = .literal .none value) :
    Resolves scope e ⟨.const value, value.type⟩ := by
  obtain ⟨_, rfl⟩ := Expr.eq_literal_of_unmarked same
  exact .literal

/-- A negative integer is written with a sign, which is taken into the literal. -/
theorem resolves_negative {v w : Int64} (opposite : w.toInt = -v.toInt)
    (same : e.unmarked = .neg .none (.literal .none (.int w))) :
    Resolves scope e ⟨.const (.int v), .int⟩ := by
  obtain ⟨_, operand, rfl, inner⟩ := Expr.eq_neg_of_unmarked same
  have folded : (Bound.const (.int w)).negated = .const (.int v) := by
    rw [Bound.negated, opposite, Int.neg_neg, Number.int64?_toInt]
  rw [← folded]
  exact .neg (resolves_literal inner) rfl

end Literals

namespace Grammar

theorem ofDigitChars_replicate_zero (zeros : Nat) (digits : List Char) :
    Nat.ofDigitChars 10 (List.replicate zeros '0' ++ digits) 0 = Nat.ofDigitChars 10 digits 0 := by
  induction zeros with
  | zero => rfl
  | succ zeros ih => rw [List.replicate_succ, List.cons_append, Nat.ofDigitChars_cons]; exact ih

theorem digits_replicate_zero (zeros : Nat) {digits : List Char} (h : Digits digits) :
    Digits (List.replicate zeros '0' ++ digits) := by
  refine ⟨List.append_ne_nil_of_right_ne_nil _ h.1, fun c mem => ?_⟩
  rcases List.mem_append.mp mem with zero | mem
  · rw [List.eq_of_mem_replicate zero]
    rfl
  · exact h.2 c mem

end Grammar

namespace Item

/-- The text of a string as a rule has it. -/
theorem compile_name [Patterns] (s : String) :
    compile catalog itemSchema
      (equalityText "name" ('"' :: (s.toList.flatMap Text.guarded ++ ['"']))) =
        .ok ⟨.compare .eq (.get .root ⟨0⟩ []) (.const (.string s))⟩ := by
  have found : itemSchema.member? "name" = some ⟨"name", ⟨0⟩, .field .string⟩ := by decide
  have derived : Derives 63 .primary ('"' :: (s.toList.flatMap Text.guarded ++ ['"']))
      (.literal .none (.string (String.ofList s.toList))) [] :=
    .string (symbol_cons (by decide) _) (quoted_guarded s.toList [])
  rw [String.ofList_toList] at derived
  exact compile_equalityText (by decide) ⟨by decide, by decide⟩ found rfl rfl
    (signed_of_primary derived).product_of_signed.sum_of_product (Nat.le_succ 1)
    fun e => resolves_literal

/-- The digits of the absolute value, with the sign of a negative integer before them. -/
theorem compile_itemLevel [Patterns] {v : Int64} {digits : List Char} (all : Digits digits)
    (value : Nat.ofDigitChars 10 digits 0 = v.toInt.natAbs) (notLeast : v ≠ Int64.minValue) :
    compile catalog itemSchema
      (equalityText "item_level" ((if v < 0 then ['-'] else []) ++ digits)) =
        .ok ⟨.compare .eq (.get .root ⟨4⟩ []) (.const (.int v))⟩ := by
  have found : itemSchema.member? "item_level" = some ⟨"item_level", ⟨4⟩, .field .int⟩ := by
    decide
  have free : IsFree "item_level" := ⟨by decide, by decide⟩
  have range := (int64Range_iff v.toInt).mp (int64Range_toInt v)
  have notMin : v.toInt ≠ -9223372036854775808 := fun eq => notLeast (Int64.toInt_inj.mp eq)
  have fits : Int64Range v.toInt.natAbs := by
    rw [int64Range_iff]
    omega
  obtain ⟨w, -, hw⟩ := exists_int64? fits
  have literal (room : Nat) : Derives room .primary digits (.literal .none (.int w)) [] := by
    refine .int (whole_of_digits all) ?_
    rw [hw, digitsValue_eq_ofDigitChars, value]
  by_cases negative : v < 0
  · have below : v.toInt < 0 := Int64.lt_iff_toInt_lt.mp negative
    have opposite : w.toInt = -v.toInt := by omega
    rw [if_pos negative]
    have derived : Derives 63 .sum ('-' :: digits) (.neg .none (.literal .none (.int w))) [] :=
      (Derives.negative (symbol_cons (by decide) digits) (signed_of_primary (literal 62)))
        |>.product_of_signed.sum_of_product
    exact compile_equalityText (by decide) free found rfl rfl derived (Nat.le_refl 2)
      fun e => resolves_negative opposite
  · have notBelow : ¬ v.toInt < 0 := fun below => negative (Int64.lt_iff_toInt_lt.mpr below)
    have same : w = v := Int64.toInt_inj.mp (by omega)
    rw [if_neg negative, ← same]
    exact compile_equalityText (by decide) free found rfl rfl
      (signed_of_primary (literal 63)).product_of_signed.sum_of_product (Nat.le_succ 1)
      fun e => resolves_literal

/-- Digits that denote more than the largest integer are no literal, with or without a sign. -/
theorem compile_tooLarge [Patterns] {sign digits : List Char}
    (form : sign = [] ∨ sign = ['-']) (all : Digits digits)
    (large : Int64.maxValue.toInt < Nat.ofDigitChars 10 digits 0) :
    ∃ expected offset,
      compile catalog itemSchema (equalityText "item_level" (sign ++ digits)) =
        .error ⟨.malformed (.unexpected expected), some offset,
          equalityText "item_level" (sign ++ digits)⟩ := by
  have free : IsFree "item_level" := ⟨by decide, by decide⟩
  have none : Number.int64? (digitsValue digits) = none := by
    refine int64?_eq_none fun range => ?_
    rw [digitsValue_eq_ofDigitChars] at range
    exact absurd large (Int.not_lt.mpr range.2)
  have whole := whole_of_digits all
  have spaced : Whole digits (' ' :: digits) [] :=
    ⟨all, whole.symbol.spaced, whole.ends, whole.noFraction⟩
  have rhs : Parser.Cuts (Parser.sum (Parser.deeper Parser.maxNesting)) 1
      (' ' :: (sign ++ digits)) := by
    rcases form with rfl | rfl
    · exact .sum (.signed none spaced _)
    · exact .sum (.minus (symbol_cons (by decide) digits).spaced (.signed none whole _))
  have left := equalityText_left (sign ++ digits) (by decide) free 63
  have mem : (CompareOp.eq, ['=', '=']) ∈ compareSigns := by decide
  have cuts : Parser.Cuts Parser.rule 0 (equalityText "item_level" (sign ++ digits)).toList :=
    .rule left (by decide) (by decide) mem (equalityText_sign _)
      (Option.some_inj.not.mpr (by decide)) rhs
  obtain ⟨error, failed⟩ := parse_eq_error cuts
  refine ⟨error.expected, error.offset, ?_⟩
  rw [compile, if_neg (left.begins trivial).not_allBlank, failed]

section Tests

variable (item : Item)

/-- Only an item with the name and one with the level are told by the rules to have them. -/
theorem test_name (s : String) :
    (((⟨.compare .eq (.get .root ⟨0⟩ []) (.const (.string s))⟩ : Predicate).test .item).run
      records item).1 = .ok (decide (item.name = s)) := by
  have same : (some (compare item.name s) == some .eq) = decide (item.name = s) := by
    rw [Bool.eq_iff_iff, beq_iff_eq, decide_eq_true_eq, Option.some_inj, Std.compare_eq_iff_eq]
  have answer : records.get .item ⟨0⟩ [] item = (.ok (.string item.name), item) := rfl
  rw [Predicate.test_equality, Reading.run_bind, Reading.run_get, answer, ← same]
  rfl

theorem test_itemLevel (v : Int64) :
    (((⟨.compare .eq (.get .root ⟨4⟩ []) (.const (.int v))⟩ : Predicate).test .item).run
      records item).1 = .ok (decide (item.itemLevel = v)) := by
  have same : (some (compare item.itemLevel.toInt v.toInt) == some .eq) =
      decide (item.itemLevel = v) := by
    rw [Bool.eq_iff_iff, beq_iff_eq, decide_eq_true_eq, Option.some_inj, Std.compare_eq_iff_eq,
      Int64.toInt_inj]
  have answer : records.get .item ⟨4⟩ [] item = (.ok (.int item.itemLevel), item) := rfl
  rw [Predicate.test_equality, Reading.run_bind, Reading.run_get, answer, ← same]
  rfl

end Tests

/-- Every string and every integer but the smallest is denoted by a text, and by none other than
itself: the rule that a member is equal to it holds of the items whose member is that value. Digits
that denote more than the largest integer are a syntax error, with or without a sign. -/
theorem literals_denote [Patterns] :
    (∀ s : String, ∃ predicate,
      compile catalog itemSchema
        (equalityText "name" ('"' :: (s.toList.flatMap Text.guarded ++ ['"']))) = .ok predicate ∧
      ∀ item : Item,
        ((predicate.test .item).run records item).1 = .ok (decide (item.name = s))) ∧
    (∀ (v : Int64) (zeros : Nat), v ≠ Int64.minValue → ∃ predicate,
      compile catalog itemSchema
        (equalityText "item_level" ((if v < 0 then ['-'] else []) ++
          (List.replicate zeros '0' ++ Nat.toDigits 10 v.toInt.natAbs))) = .ok predicate ∧
      ∀ item : Item,
        ((predicate.test .item).run records item).1 = .ok (decide (item.itemLevel = v))) ∧
    ∀ sign digits : List Char, (sign = [] ∨ sign = ['-']) → (∀ c ∈ digits, c.isDigit) →
      Int64.maxValue.toInt < Nat.ofDigitChars 10 digits 0 → ∃ expected offset,
        compile catalog itemSchema (equalityText "item_level" (sign ++ digits)) =
          .error ⟨.malformed (.unexpected expected), some offset,
            equalityText "item_level" (sign ++ digits)⟩ := by
  refine ⟨fun s => ⟨_, compile_name s, fun item => test_name item s⟩, ?_, ?_⟩
  · intro v zeros notLeast
    have all := digits_replicate_zero zeros (digits_toDigits v.toInt.natAbs)
    have value : Nat.ofDigitChars 10
        (List.replicate zeros '0' ++ Nat.toDigits 10 v.toInt.natAbs) 0 = v.toInt.natAbs := by
      rw [ofDigitChars_replicate_zero, Nat.ofDigitChars_toDigits (by decide) (by decide)]
    exact ⟨_, compile_itemLevel all value notLeast, fun item => test_itemLevel item v⟩
  · intro sign digits form all large
    have some : digits ≠ [] := by
      rintro rfl
      exact absurd large (by decide)
    exact compile_tooLarge form ⟨some, all⟩ large

/-- A level of 7 and a name with all that has to be escaped, and the smallest integer, which has no
text. -/
theorem literals_denote_some :
    ((-7 : Int64) ≠ Int64.minValue ∧ ∃ predicate,
      compile catalog itemSchema (equalityText "item_level" "-007".toList) = .ok predicate ∧
      ((predicate.test .item).run records { ofBase "" with itemLevel := -7 }).1 = .ok true) ∧
    ∃ expected offset,
      compile catalog itemSchema (equalityText "item_level" "-9223372036854775808".toList) =
        .error ⟨.malformed (.unexpected expected), some offset,
          equalityText "item_level" "-9223372036854775808".toList⟩ := by
  have notLeast : (-7 : Int64) ≠ Int64.minValue := by decide
  obtain ⟨predicate, compiled, tests⟩ := literals_denote.2.1 (-7) 2 notLeast
  have digits : ∀ c ∈ "9223372036854775808".toList, c.isDigit := List.all_eq_true.mp (by decide)
  refine ⟨⟨notLeast, predicate, compiled, tests _⟩, ?_⟩
  exact literals_denote.2.2 ['-'] "9223372036854775808".toList (.inr rfl) digits (by decide)

end Item

end RecordRules

import RecordRules.Proofs.Parsing.Boundary
import RecordRules.Proofs.Parsing.WellFormed

namespace RecordRules

open Grammar
open RecordRules.Parser (digitsValue)

namespace Expr

section Written

variable (mark : Mark) (e lhs rhs : Expr) (name : String) (args : List Expr)
  (separator : List Char)

@[simp]
theorem written_literal (value : Literal) : (literal mark value).written = value.written := rfl

@[simp]
theorem written_ident : (ident mark name).written = name.toList := rfl

@[simp]
theorem written_member : (member mark e name).written = e.written ++ '.' :: name.toList := rfl

@[simp]
theorem written_call :
    (call mark name args).written = name.toList ++ '(' :: writtenList [',', ' '] args ++ [')'] :=
  rfl

@[simp]
theorem written_method : (method mark e name args).written =
    e.written ++ '.' :: name.toList ++ '(' :: writtenList [',', ' '] args ++ [')'] := rfl

@[simp]
theorem written_lambda :
    (lambda mark name e).written = name.toList ++ [' ', '=', '>', ' '] ++ e.written := rfl

@[simp]
theorem written_not : (not mark e).written = ['(', 'N', 'O', 'T', ' '] ++ e.written ++ [')'] := rfl

@[simp]
theorem written_neg : (neg mark e).written = ['(', '-'] ++ e.written ++ [')'] := rfl

@[simp]
theorem written_and : (and mark args).written =
    '(' :: writtenList (' ' :: ['A', 'N', 'D'] ++ [' ']) args ++ [')'] := rfl

@[simp]
theorem written_or : (or mark args).written =
    '(' :: writtenList (' ' :: ['O', 'R'] ++ [' ']) args ++ [')'] := rfl

@[simp]
theorem written_compare (op : CompareOp) : (compare mark op lhs rhs).written =
    '(' :: lhs.written ++ ' ' :: op.symbol.toList ++ ' ' :: rhs.written ++ [')'] := rfl

@[simp]
theorem written_arith (op : ArithOp) : (arith mark op lhs rhs).written =
    '(' :: lhs.written ++ ' ' :: op.symbol.toList ++ ' ' :: rhs.written ++ [')'] := rfl

@[simp]
theorem written_within : (within mark e args).written =
    '(' :: e.written ++ [' ', 'I', 'N', ' ', '['] ++ writtenList [',', ' '] args ++
      [']', ')'] := rfl

@[simp]
theorem writtenList_cons : writtenList separator (e :: args) =
    e.written ++ writtenMore separator args := rfl

@[simp]
theorem writtenMore_nil : writtenMore separator [] = [] := rfl

@[simp]
theorem writtenMore_cons : writtenMore separator (e :: args) =
    separator ++ e.written ++ writtenMore separator args := rfl

end Written

end Expr

namespace Grammar

theorem digits_toDigits (n : Nat) : Digits (Nat.toDigits 10 n) :=
  ⟨Nat.toDigits_ne_nil, fun _ mem => Nat.isDigit_of_mem_toDigits (by decide) (by decide) mem⟩

theorem digitsValue_toDigits (n : Nat) : digitsValue (Nat.toDigits 10 n) = n := by
  have same : digitsValue (Nat.toDigits 10 n) = Nat.ofDigitChars 10 (Nat.toDigits 10 n) 0 := by
    simp only [digitsValue, Nat.ofDigitChars, Nat.mul_comm]
  rw [same, Nat.ofDigitChars_toDigits (by decide) (by decide)]

/-- Text whose characters are written as they are or with one of the escapes is read back from
between the quotes. -/
theorem quoted_flatMap {write : Char → List Char} {value : List Char}
    (h : ∀ c ∈ value, (write c = [c] ∧ c ≠ '"' ∧ c ≠ '\\') ∨
      ∃ letter, (letter, c) ∈ escapes ∧ write c = ['\\', letter]) (rest : List Char) :
    Quoted (value.flatMap write ++ '"' :: rest) value rest := by
  induction value with
  | nil => exact .close
  | cons c value ih =>
    obtain ⟨first, others⟩ := List.forall_mem_cons.mp h
    rw [List.flatMap_cons, List.append_assoc]
    rcases first with ⟨plain, quote, backslash⟩ | ⟨letter, mem, escaped⟩
    · rw [plain]
      exact .plain quote backslash (ih others)
    · rw [escaped]
      exact .escape mem (ih others)

theorem quoted_escaped {value : List Char} (h : ∀ c ∈ value, Text.escaped c = [c] ∨
    ∃ letter, (letter, c) ∈ escapes ∧ Text.escaped c = ['\\', letter]) (rest : List Char) :
    Quoted (value.flatMap Text.escaped ++ '"' :: rest) value rest := by
  refine quoted_flatMap (fun c mem => (h c mem).imp_left fun plain => ⟨plain, ?_, ?_⟩) rest
  · rintro rfl
    cases plain
  · rintro rfl
    cases plain

end Grammar

/-- The text of a literal is a phrase for it. -/
theorem Literal.Readable.derives {value : Literal} (h : value.Readable) {room : Nat}
    {rest : List Char} (boundary : Boundary rest) :
    Derives room .primary (value.written ++ rest) (.literal .none value) rest := by
  cases value with
  | bool value =>
    have mem : ((if value then "true" else "false"), value) ∈ truthValues := by
      cases value <;> decide
    have identifier : IsIdentifier (if value then "true" else "false").toList := by
      cases value <;> decide
    exact .bool mem (name_append identifier boundary.ends)
  | int value =>
    obtain ⟨n, eq⟩ := Int.eq_ofNat_of_zero_le h
    have written : (Literal.int value).written = Nat.toDigits 10 n := by
      rw [Literal.written, eq]
      exact String.toList_ofList
    have symbol := (digits_toDigits n).symbol_append [] rest
    rw [List.append_nil] at symbol
    rw [written]
    refine .int ⟨digits_toDigits n, symbol, boundary.endsDigits, boundary.noFraction⟩ ?_
    rw [digitsValue_toDigits, eq]
  | float value =>
    obtain ⟨whole, fraction, written, before, after, eq⟩ := h
    have decimal : Decimal whole fraction (whole ++ '.' :: fraction ++ rest) rest :=
      ⟨before, after, before.symbol_append _ rest, boundary.endsDigits⟩
    rw [written]
    have derived : Derives room .primary _ _ rest := .float decimal
    rwa [eq] at derived
  | string value =>
    have quoted := quoted_escaped h rest
    have written : (Literal.string value).written ++ rest =
        '"' :: (value.toList.flatMap Text.escaped ++ '"' :: rest) := by
      simp [Literal.written, Text.quoted]
    have derived : Derives room .primary _ _ rest := .string (symbol_cons (by decide) _) quoted
    rw [String.ofList_toList] at derived
    rwa [written]

end RecordRules

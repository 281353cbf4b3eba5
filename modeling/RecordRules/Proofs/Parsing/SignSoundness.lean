import RecordRules.Proofs.Parsing.TokenSoundness

namespace RecordRules.Parser

open Grammar

variable {α : Type} {n : Nat}

namespace Gives

theorem spaced {p : Parser α} {P : List Char → α → List Char → Prop}
    (h : Gives p n fun cs a rest => ∀ start, Text.skip start = cs → P start a rest) :
    Gives (do Parser.space; p) n P := by
  refine (space.bind fun _ => h).imp ?_
  rintro cs a rest ⟨_, mid, eq, given⟩
  exact given cs eq.symm

theorem closing (c : Char) : Gives (closing c) n fun cs _ rest => Symbol [c] cs rest := by
  refine spaced ((expecting _ (cut (character c))).imp ?_)
  rintro cs u rest closed start skipped
  exact skipped.trans closed

theorem comma : Gives comma n fun cs _ rest => Symbol [','] cs rest := by
  refine spaced ((character ',').imp ?_)
  rintro cs u rest separated start skipped
  exact skipped.trans separated

theorem compareOp : Gives compareOp n fun cs op rest =>
    ∃ sign, (op, sign) ∈ compareSigns ∧ cs = sign ++ rest := by
  have one (op : CompareOp) (sign : List Char) (mem : (op, sign) ∈ compareSigns) :
      Gives (do Parser.word sign; Pure.pure op) n fun cs op rest =>
        ∃ sign, (op, sign) ∈ compareSigns ∧ cs = sign ++ rest := by
    refine ((word sign).bind fun _ => pure op).imp ?_
    rintro cs op rest ⟨_, mid, rfl, rfl, rfl⟩
    exact ⟨sign, mem, rfl⟩
  refine ((one .ge ['>', '='] (by decide)).orElse <| (one .gt ['>'] (by decide)).orElse <|
    (one .le ['<', '='] (by decide)).orElse <| (one .lt ['<'] (by decide)).orElse <|
    (one .eq ['=', '='] (by decide)).orElse (one .ne ['!', '='] (by decide))).imp ?_
  rintro cs op rest (h | h | h | h | h | h) <;> exact h

theorem arithSign {signs : List (ArithOp × List Char)} {op : ArithOp} {c : Char}
    (mem : (op, [c]) ∈ signs) : Gives (do Parser.character c; Pure.pure op) n fun cs op rest =>
      ∃ sign, (op, sign) ∈ signs ∧ cs = sign ++ rest := by
  refine ((character c).bind fun _ => pure op).imp ?_
  rintro cs op rest ⟨_, mid, rfl, rfl, rfl⟩
  exact ⟨[c], mem, rfl⟩

theorem additiveOp : Gives additiveOp n fun cs op rest =>
    ∃ sign, (op, sign) ∈ additiveSigns ∧ cs = sign ++ rest := by
  have add : (ArithOp.add, ['+']) ∈ additiveSigns := by decide
  have sub : (ArithOp.sub, ['-']) ∈ additiveSigns := by decide
  refine ((arithSign add).orElse (arithSign sub)).imp ?_
  rintro cs op rest (h | h) <;> exact h

theorem multiplicativeOp : Gives multiplicativeOp n fun cs op rest =>
    ∃ sign, (op, sign) ∈ multiplicativeSigns ∧ cs = sign ++ rest := by
  have mul : (ArithOp.mul, ['*']) ∈ multiplicativeSigns := by decide
  have div : (ArithOp.div, ['/']) ∈ multiplicativeSigns := by decide
  have rem : (ArithOp.rem, ['%']) ∈ multiplicativeSigns := by decide
  refine ((arithSign mul).orElse ((arithSign div).orElse (arithSign rem))).imp ?_
  rintro cs op rest (h | h | h) <;> exact h

theorem words (lower upper : List Char) :
    Gives (Parser.orElse (Parser.keyword lower) (Parser.keyword upper)) n fun cs _ rest =>
      ∀ start, Text.skip start = cs → Sign [] [lower, upper] start rest := by
  refine ((keyword lower).orElse (keyword upper)).imp ?_
  rintro cs u rest (⟨rfl, ends⟩ | ⟨rfl, ends⟩) start skipped
  · exact .inr ⟨lower, by simp, skipped, ends⟩
  · exact .inr ⟨upper, by simp, skipped, ends⟩

theorem sign {p : Parser Unit} {symbol : List Char}
    (hp : Gives p n fun cs _ rest => cs = symbol ++ rest) (lower upper : List Char) :
    Gives (Parser.orElse p (Parser.orElse (Parser.keyword lower) (Parser.keyword upper))) n
      fun cs _ rest => ∀ start, Text.skip start = cs → Sign [symbol] [lower, upper] start rest := by
  refine (hp.orElse (words lower upper)).imp ?_
  rintro cs u rest (rfl | word) start skipped
  · exact .inl ⟨symbol, by simp, skipped⟩
  · obtain ⟨_, mem, _⟩ | word := word start skipped
    · cases mem
    · exact .inr word

end Gives

end RecordRules.Parser

import RecordRules.Proofs.Parsing.Logic
import RecordRules.Proofs.Parsing.Tokens

namespace RecordRules.Parser

open Grammar

variable {α : Type} {n : Nat} {cs rest : List Char}

namespace Declines

theorem spaced {p : Parser α} (h : Declines p n (Text.skip cs)) :
    Declines (do Parser.space; p) n cs :=
  bind_later (.space cs) fun _ _ => h

theorem word_of_head {c : Char} {w : List Char} (other : cs.head? ≠ some c) :
    Declines (Parser.word (c :: w)) n cs := by
  refine word fun isPrefix => ?_
  obtain ⟨rest, rfl⟩ := isPrefix
  exact other rfl

theorem keyword_of_head {c : Char} {w : List Char} (other : cs.head? ≠ some c) :
    Declines (Parser.keyword (c :: w)) n cs :=
  bind (word_of_head other)

theorem compareOp (other : ∀ c ∈ ['>', '<', '=', '!'], cs.head? ≠ some c) :
    Declines compareOp n cs := by
  have one (c : Char) (w : List Char) (op : CompareOp) (mem : c ∈ ['>', '<', '=', '!']) :
      Declines (do Parser.word (c :: w); pure op) n cs := bind (word_of_head (other c mem))
  exact (one '>' ['='] .ge (by decide)).orElse <| (one '>' [] .gt (by decide)).orElse <|
    (one '<' ['='] .le (by decide)).orElse <| (one '<' [] .lt (by decide)).orElse <|
    (one '=' ['='] .eq (by decide)).orElse (one '!' ['='] .ne (by decide))

theorem additiveOp (other : ∀ c ∈ ['+', '-'], cs.head? ≠ some c) : Declines additiveOp n cs :=
  (bind (character (other '+' (by decide)))).orElse (bind (character (other '-' (by decide))))

theorem multiplicativeOp (other : ∀ c ∈ ['*', '/', '%'], cs.head? ≠ some c) :
    Declines multiplicativeOp n cs :=
  (bind (character (other '*' (by decide)))).orElse <|
    (bind (character (other '/' (by decide)))).orElse (bind (character (other '%' (by decide))))

theorem words {b c : Char} {lower upper : List Char}
    (other : ∀ d ∈ [b, c], cs.head? ≠ some d) :
    Declines (Parser.orElse (Parser.keyword (b :: lower)) (Parser.keyword (c :: upper))) n cs :=
  (keyword_of_head (other b (by simp))).orElse (keyword_of_head (other c (by simp)))

end Declines

namespace Yields

variable {limits : List Expectation}

theorem spaced {p : Parser α} {Q : α → Prop} (h : Yields limits p n (Text.skip cs) Q rest) :
    Yields limits (do Parser.space; p) n cs Q rest :=
  (space cs).bind fun _ _ => h

theorem spaced_character {c : Char} (h : Symbol [c] cs rest) :
    Yields limits (do Parser.space; Parser.character c) n cs (fun _ => True) rest := by
  refine spaced ?_
  rw [h]
  exact character c rest

theorem closing {c : Char} (h : Symbol [c] cs rest) :
    Yields limits (closing c) n cs (fun _ => True) rest := by
  refine spaced (expecting _ (cut ?_))
  rw [h]
  exact character c rest

theorem compareOp {op : CompareOp} {sign : List Char} (mem : (op, sign) ∈ compareSigns)
    (noEqual : rest.head? ≠ some '=') : Yields limits compareOp n (sign ++ rest) (· = op) rest := by
  have one (sign : List Char) (op : CompareOp) :
      Yields limits (do Parser.word sign; Pure.pure op) n (sign ++ rest) (· = op) rest :=
    (word sign rest).bind fun _ _ => pure rfl
  have head {c : Char} {w : List Char} {op : CompareOp} {cs : List Char} (other : cs.head? ≠ some c) :
      Declines (do Parser.word (c :: w); Pure.pure op) n cs := .bind (.word_of_head other)
  have longer {c : Char} {op : CompareOp} :
      Declines (do Parser.word [c, '=']; Pure.pure op) n ([c] ++ rest) := by
    refine .bind (.word fun isPrefix => noEqual ?_)
    obtain ⟨others, eq⟩ := isPrefix
    cases eq
    rfl
  simp only [compareSigns, List.mem_cons, Prod.mk.injEq, List.not_mem_nil, or_false] at mem
  rcases mem with ⟨rfl, rfl⟩ | ⟨rfl, rfl⟩ | ⟨rfl, rfl⟩ | ⟨rfl, rfl⟩ | ⟨rfl, rfl⟩ | ⟨rfl, rfl⟩
  · exact second (head (by simp)) <| second (head (by simp)) <| second (head (by simp)) <|
      second (head (by simp)) <| first (one _ _)
  · exact second (head (by simp)) <| second (head (by simp)) <| second (head (by simp)) <|
      second (head (by simp)) <| second (head (by simp)) (one _ _)
  · exact second (head (by simp)) <| second (head (by simp)) <| first (one _ _)
  · exact second (head (by simp)) <| second (head (by simp)) <| second longer <| first (one _ _)
  · exact first (one _ _)
  · exact second longer <| first (one _ _)

theorem additiveOp {op : ArithOp} {sign : List Char} (mem : (op, sign) ∈ additiveSigns) :
    Yields limits additiveOp n (sign ++ rest) (· = op) rest := by
  have one (c : Char) (op : ArithOp) :
      Yields limits (do Parser.character c; Pure.pure op) n ([c] ++ rest) (· = op) rest :=
    (character c rest).bind fun _ _ => pure rfl
  simp only [additiveSigns, List.mem_cons, Prod.mk.injEq, List.not_mem_nil, or_false] at mem
  rcases mem with ⟨rfl, rfl⟩ | ⟨rfl, rfl⟩
  · exact first (one '+' .add)
  · exact second (.bind (.character (by simp))) (one '-' .sub)

theorem multiplicativeOp {op : ArithOp} {sign : List Char}
    (mem : (op, sign) ∈ multiplicativeSigns) :
    Yields limits multiplicativeOp n (sign ++ rest) (· = op) rest := by
  have one (c : Char) (op : ArithOp) :
      Yields limits (do Parser.character c; Pure.pure op) n ([c] ++ rest) (· = op) rest :=
    (character c rest).bind fun _ _ => pure rfl
  have head {c d : Char} {op : ArithOp} (other : c ≠ d) :
      Declines (do Parser.character d; Pure.pure op) n ([c] ++ rest) :=
    .bind (.character (by simpa using other))
  simp only [multiplicativeSigns, List.mem_cons, Prod.mk.injEq, List.not_mem_nil, or_false] at mem
  rcases mem with ⟨rfl, rfl⟩ | ⟨rfl, rfl⟩ | ⟨rfl, rfl⟩
  · exact first (one '*' .mul)
  · exact second (head (by decide)) <| first (one '/' .div)
  · exact second (head (by decide)) <| second (head (by decide)) (one '%' .rem)

/-- A word, in lower case or in upper case. -/
theorem words {b c : Char} {lower upper : List Char} (other : b ≠ c)
    (h : Sign [] [b :: lower, c :: upper] cs rest) :
    Yields limits (Parser.orElse (Parser.keyword (b :: lower)) (Parser.keyword (c :: upper))) n
      (Text.skip cs) (fun _ => True) rest := by
  obtain ⟨_, mem, _⟩ | ⟨w, mem, symbol, ends⟩ := h
  · cases mem
  · rw [symbol]
    simp only [List.mem_cons, List.not_mem_nil, or_false] at mem
    rcases mem with rfl | rfl
    · exact first (keyword ends)
    · exact second (.keyword_of_head (by simpa using Ne.symm other)) (keyword ends)

/-- A symbol, or a word in lower case or in upper case. -/
theorem sign {p : Parser Unit} {a b c : Char} {symbol lower upper : List Char}
    (hp : ∀ rest, Yields limits p n (a :: symbol ++ rest) (fun _ => True) rest)
    (otherwise : ∀ {cs}, cs.head? ≠ some a → Declines p n cs) (distinct : a ≠ b ∧ a ≠ c ∧ b ≠ c)
    (h : Sign [a :: symbol] [b :: lower, c :: upper] cs rest) :
    Yields limits (Parser.orElse p (Parser.orElse (Parser.keyword (b :: lower))
      (Parser.keyword (c :: upper)))) n (Text.skip cs) (fun _ => True) rest := by
  obtain ⟨ab, ac, bc⟩ := distinct
  obtain ⟨s, mem, eq⟩ | word := h
  · obtain rfl := List.mem_singleton.mp mem
    rw [eq]
    exact first (hp rest)
  · refine second (otherwise ?_) (words bc (.inr word))
    obtain ⟨w, mem, eq, -⟩ := word
    rw [eq]
    simp only [List.mem_cons, List.not_mem_nil, or_false] at mem
    rcases mem with rfl | rfl
    · simpa using Ne.symm ab
    · simpa using Ne.symm ac

end Yields

end RecordRules.Parser

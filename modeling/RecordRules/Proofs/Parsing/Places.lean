import RecordRules.Proofs.Parsing.Surrounding

namespace RecordRules

open RecordRules.Parser (offsetAfter)

theorem Parser.offsetAfter_append (cs ds : List Char) (offset : Nat) :
    offsetAfter (cs ++ ds) offset = offsetAfter ds (offsetAfter cs offset) :=
  List.foldl_append

theorem Parser.offsetAfter_eq_add (cs : List Char) (offset : Nat) :
    offsetAfter cs offset = offset + (String.ofList cs).utf8ByteSize := by
  induction cs generalizing offset with
  | nil => rfl
  | cons c rest ih =>
    rw [String.ofList_cons, String.utf8ByteSize_append, String.utf8ByteSize_singleton,
      ← Nat.add_assoc]
    exact ih _

theorem Parser.le_offsetAfter (cs : List Char) (offset : Nat) : offset ≤ offsetAfter cs offset := by
  rw [offsetAfter_eq_add]
  exact Nat.le_add_right _ _

/-- The bytes of a beginning of the text are a place between two of its characters. -/
theorem isValid_offsetAfter {text : String} {before after : List Char}
    (h : text.toList = before ++ after) :
    String.Pos.Raw.IsValid text ⟨offsetAfter before 0⟩ := by
  refine String.Pos.Raw.isValid_iff_exists_append.mpr
    ⟨String.ofList before, String.ofList after, ?_, ?_⟩
  · rw [← String.ofList_append, ← h, String.ofList_toList]
  · rw [Parser.offsetAfter_eq_add, Nat.zero_add]
    rfl

/-- A character that is not blank begins at the offset. -/
def StartsAt (text : List Char) (offset : Nat) : Prop :=
  ∃ before c after, text = before ++ c :: after ∧ offset = offsetAfter before 0 ∧
    Text.isBlank c = false

/-- A character that is not blank ends at the offset. -/
def StopsAt (text : List Char) (offset : Nat) : Prop :=
  ∃ before c after, text = before ++ c :: after ∧ offset = offsetAfter (before ++ [c]) 0 ∧
    Text.isBlank c = false

theorem StartsAt.isValid {text : String} {offset : Nat} (h : StartsAt text.toList offset) :
    String.Pos.Raw.IsValid text ⟨offset⟩ := by
  obtain ⟨before, c, after, eq, rfl, -⟩ := h
  exact isValid_offsetAfter eq

theorem StopsAt.isValid {text : String} {offset : Nat} (h : StopsAt text.toList offset) :
    String.Pos.Raw.IsValid text ⟨offset⟩ := by
  obtain ⟨before, c, after, eq, rfl, -⟩ := h
  have upTo : text.toList = (before ++ [c]) ++ after := by
    rw [eq, List.append_assoc, List.singleton_append]
  exact isValid_offsetAfter upTo

/-- Between the two places there is some text without white space around it. -/
structure Trimmed (text : List Char) (start stop : Nat) : Prop where
  starts : StartsAt text start
  stops : StopsAt text stop
  lt : start < stop

/-- The text goes on, after as many bytes as the offset says, with what is left. -/
def Cursor.In (text : List Char) (cursor : Cursor) : Prop :=
  ∃ before, text = before ++ cursor.rest ∧ cursor.offset = offsetAfter before 0

/-- The second cursor stands in the text, not before the first one, with as many nested parts
open. -/
structure Onward (text : List Char) (cursor after : Cursor) : Prop where
  isIn : after.In text
  le : cursor.offset ≤ after.offset
  nesting : after.nesting = cursor.nesting

variable {text : List Char} {cursor mid after : Cursor}

theorem Cursor.In.isValid {text : String} (h : cursor.In text.toList) :
    String.Pos.Raw.IsValid text ⟨cursor.offset⟩ := by
  obtain ⟨before, eq, offset⟩ := h
  rw [offset]
  exact isValid_offsetAfter eq

theorem Onward.refl (h : cursor.In text) : Onward text cursor cursor :=
  ⟨h, Nat.le_refl _, rfl⟩

theorem Onward.trans (h : Onward text cursor mid) (h' : Onward text mid after) :
    Onward text cursor after :=
  ⟨h'.isIn, Nat.le_trans h.le h'.le, h'.nesting.trans h.nesting⟩

namespace Cursor.In

/-- Over characters that come next, one gets onward. -/
theorem onward (h : cursor.In text) {taken rest : List Char} (eq : cursor.rest = taken ++ rest) :
    Onward text cursor { cursor with rest, offset := offsetAfter taken cursor.offset } := by
  obtain ⟨before, whole, offset⟩ := h
  refine ⟨⟨before ++ taken, ?_, ?_⟩, Parser.le_offsetAfter _ _, rfl⟩
  · rw [whole, eq, List.append_assoc]
  · rw [Parser.offsetAfter_append, ← offset]

theorem startsAt (h : cursor.In text) {c : Char} {rest : List Char} (eq : cursor.rest = c :: rest)
    (notBlank : Text.isBlank c = false) : StartsAt text cursor.offset := by
  obtain ⟨before, whole, offset⟩ := h
  exact ⟨before, c, rest, by rw [whole, eq], offset, notBlank⟩

theorem stopsAt (h : cursor.In text) {taken rest : List Char} {c : Char}
    (eq : cursor.rest = taken ++ c :: rest) (notBlank : Text.isBlank c = false) :
    StopsAt text (offsetAfter (taken ++ [c]) cursor.offset) := by
  obtain ⟨before, whole, offset⟩ := h
  refine ⟨before ++ taken, c, rest, ?_, ?_, notBlank⟩
  · rw [whole, eq, List.append_assoc]
  · rw [List.append_assoc, Parser.offsetAfter_append before, ← offset]

/-- Characters that come next, none of which is blank, are a piece without white space around. -/
theorem trimmed (h : cursor.In text) {taken rest : List Char} (eq : cursor.rest = taken ++ rest)
    (solid : Grammar.Solid taken) :
    Trimmed text cursor.offset (offsetAfter taken cursor.offset) := by
  refine ⟨?_, ?_, ?_⟩
  · cases taken with
    | nil => exact absurd rfl solid.1
    | cons c others => exact h.startsAt eq (solid.notBlank c List.mem_cons_self)
  · obtain ⟨others, c, rfl⟩ := (List.eq_nil_or_concat' taken).resolve_left solid.1
    have last : cursor.rest = others ++ c :: rest := by simpa using eq
    exact h.stopsAt last (solid.notBlank c (List.mem_append_right others List.mem_cons_self))
  · cases taken with
    | nil => exact absurd rfl solid.1
    | cons c others =>
      have pos := c.utf8Size_pos
      have le : cursor.offset + c.utf8Size ≤ offsetAfter (c :: others) cursor.offset :=
        Parser.le_offsetAfter others _
      omega

end Cursor.In

variable {α β : Type} {P : α → Cursor → Prop} {Q : β → Cursor → Prop}

/-- The reply is given onward of the cursor, and where it is a value, it is as required. -/
def Reply.Onward (text : List Char) (cursor : Cursor) (P : α → Cursor → Prop) : Reply α → Prop
  | ok value after => RecordRules.Onward text cursor after ∧ P value after
  | backtrack _ after | cut _ after => RecordRules.Onward text cursor after

/-- Started at the cursor, the parser moves onward in the text, and where it gives a value, the
value and the place reached are as required. -/
def Parser.Moves (text : List Char) (p : Parser α) (cursor : Cursor) (P : α → Cursor → Prop) :
    Prop :=
  (p cursor).Onward text cursor P

theorem Reply.Onward.of_onward {reply : Reply α} (h : RecordRules.Onward text cursor mid)
    (h' : reply.Onward text mid P) : reply.Onward text cursor P := by
  cases reply with
  | ok value after => exact ⟨h.trans h'.1, h'.2⟩
  | backtrack expected after | cut expected after => exact h.trans h'

theorem Reply.Onward.imp {reply : Reply α} {P' : α → Cursor → Prop} (h : reply.Onward text cursor P)
    (imp : ∀ a after, RecordRules.Onward text cursor after → P a after → P' a after) :
    reply.Onward text cursor P' := by
  cases reply with
  | ok value after => exact ⟨h.1, imp value after h.1 h.2⟩
  | backtrack expected after | cut expected after => exact h

namespace Parser.Moves

variable {p : Parser α} {f : α → Parser β}

theorem imp {P' : α → Cursor → Prop} (h : Moves text p cursor P)
    (imp : ∀ a after, Onward text cursor after → P a after → P' a after) :
    Moves text p cursor P' :=
  Reply.Onward.imp h imp

theorem pure {a : α} (h : cursor.In text) (holds : P a cursor) :
    Moves text (Pure.pure a) cursor P :=
  ⟨.refl h, holds⟩

theorem fail (h : cursor.In text) : Moves text (fail : Parser α) cursor P :=
  .refl h

theorem bind (h : Moves text p cursor P)
    (hf : ∀ a after, Onward text cursor after → P a after → Moves text (f a) after Q) :
    Moves text (p >>= f) cursor Q := by
  unfold Moves at h
  change ((p cursor).bind f).Onward text cursor Q
  cases reply : p cursor with
  | ok a after =>
    rw [reply] at h
    exact Reply.Onward.of_onward h.1 (hf a after h.1 h.2)
  | backtrack expected after | cut expected after =>
    rw [reply] at h
    exact h

theorem cut (h : Moves text p cursor P) : Moves text (cut p) cursor P := by
  unfold Moves Parser.cut at *
  cases reply : p cursor with
  | ok | backtrack | cut =>
    rw [reply] at h
    exact h

theorem expecting (what : Expectation) (h : Moves text p cursor P) :
    Moves text (expecting what p) cursor P := by
  unfold Moves Parser.expecting at *
  cases reply : p cursor with
  | ok | backtrack | cut =>
    rw [reply] at h
    exact h

/-- What fails without a cut takes nothing. -/
theorem opt (isIn : cursor.In text) (h : Moves text p cursor P) :
    Moves text (opt p) cursor fun found after => found.elim (after = cursor) (P · after) := by
  unfold Moves Parser.opt at *
  cases reply : p cursor with
  | ok a after =>
    rw [reply] at h
    exact h
  | backtrack expected after => exact ⟨.refl isIn, rfl⟩
  | cut expected after =>
    rw [reply] at h
    exact h

theorem orElse {q : Parser α} (h : Moves text p cursor P) (h' : Moves text q cursor P) :
    Moves text (orElse p q) cursor P := by
  unfold Moves Parser.orElse at *
  cases reply : p cursor with
  | ok value after | cut expected after =>
    rw [reply] at h
    exact h
  | backtrack expected after => exact h'

theorem spanned (h : Moves text p cursor P) :
    Moves text (spanned p) cursor fun x after =>
      x.2 = ⟨cursor.offset, after.offset⟩ ∧ P x.1 after := by
  unfold Moves at h
  change ((p cursor).bind _).Onward text cursor _
  cases reply : p cursor with
  | ok a after =>
    rw [reply] at h
    exact ⟨h.1, rfl, h.2⟩
  | backtrack expected after | cut expected after =>
    rw [reply] at h
    exact h

/-- A part is nested for as long as it is read. -/
theorem nested (isIn : cursor.In text)
    (h : ∀ inside : Cursor, inside.In text → inside.offset = cursor.offset →
      Moves text p inside fun a after => ∀ nesting, P a { after with nesting }) :
    Moves text (nested p) cursor P := by
  have inside := h { cursor with nesting := cursor.nesting + 1 } isIn rfl
  unfold Moves Parser.nested at *
  split
  · exact Onward.refl isIn
  · have back {after : Cursor}
        (onward : Onward text { cursor with nesting := cursor.nesting + 1 } after) :
        Onward text cursor { after with nesting := after.nesting - 1 } :=
      ⟨onward.isIn, onward.le, by rw [onward.nesting, Nat.add_sub_cancel]⟩
    cases reply : p { cursor with nesting := cursor.nesting + 1 } with
    | ok a after =>
      rw [reply] at inside
      exact ⟨back inside.1, inside.2 _⟩
    | backtrack expected after | cut expected after =>
      rw [reply] at inside
      exact back inside

section Repeated

variable {step : α → Parser α} {a : α}

theorem iterateUpTo (isIn : cursor.In text) (start : P a cursor)
    (h : ∀ b at', Onward text cursor at' → P b at' → Moves text (step b) at' P) (count : Nat) :
    Moves text (iterateUpTo step count a) cursor P := by
  induction count generalizing a cursor with
  | zero => exact pure isIn start
  | succ count ih =>
    have once : Moves text (step a) cursor P := h a cursor (.refl isIn) start
    unfold Moves at once ⊢
    unfold Parser.iterateUpTo
    cases reply : step a cursor with
    | ok b mid =>
      rw [reply] at once
      have more := ih once.1.isIn once.2 fun c at' onward => h c at' (once.1.trans onward)
      exact Reply.Onward.of_onward once.1 more
    | backtrack expected after => exact ⟨.refl isIn, start⟩
    | cut expected after =>
      rw [reply] at once
      exact once

/-- What a step keeps holds after all steps. -/
theorem iterate (isIn : cursor.In text) (start : P a cursor)
    (h : ∀ b at', Onward text cursor at' → P b at' → Moves text (step b) at' P) :
    Moves text (iterate step a) cursor P :=
  iterateUpTo isIn start h (cursor.rest.length + 1)

end Repeated

/-- What holds of no values and is kept by one more holds of all that are found. -/
theorem many {P : List α → Cursor → Prop} (isIn : cursor.In text) (start : P [] cursor)
    (h : ∀ found at', Onward text cursor at' → P found at' →
      Moves text p at' fun a after => P (found ++ [a]) after) :
    Moves text (many p) cursor P := by
  refine bind (P := fun found after => P found.reverse after) (iterate isIn start ?_) ?_
  · intro found at' onward holds
    refine (h found.reverse at' onward holds).bind fun a after onward holds => pure onward.isIn ?_
    rwa [List.reverse_cons]
  · exact fun found after onward holds => pure onward.isIn holds

theorem separated1 {separator : Parser Unit} {P : List α → Cursor → Prop}
    (first : Moves text p cursor fun a after => P [a] after)
    (h : ∀ found at', Onward text cursor at' → P found at' →
      Moves text (do separator; p) at' fun a after => P (found ++ [a]) after) :
    Moves text (separated1 p separator) cursor P := by
  refine first.bind fun a after onward holds => ?_
  refine (many (P := fun found at' => P (a :: found) at') onward.isIn holds ?_).bind
    fun others after onward holds => pure onward.isIn holds
  exact fun found at' onward' holds => h (a :: found) at' (onward.trans onward') holds

/-! What tokens take has no white space around it. -/

section Tokens

variable (h : cursor.In text)

include h

theorem satisfy {accepts : Char → Bool} (solid : ∀ c, accepts c → Text.isBlank c = false) :
    Moves text (satisfy accepts) cursor fun _ after => Trimmed text cursor.offset after.offset := by
  unfold Moves Parser.satisfy
  split
  next c rest eq =>
    split
    next accepted =>
      have symbol : Grammar.Solid [c] := by
        refine ⟨List.cons_ne_nil c [], ?_⟩
        rw [List.all_cons, List.all_nil, solid c accepted]
        rfl
      have took : cursor.rest = [c] ++ rest := eq
      exact ⟨h.onward took, h.trimmed took symbol⟩
    next => exact .refl h
  next => exact .refl h

theorem character {c : Char} (solid : Text.isBlank c = false) :
    Moves text (character c) cursor fun _ after => Trimmed text cursor.offset after.offset := by
  refine (satisfy h ?_).bind fun _ after onward trimmed => pure onward.isIn trimmed
  intro d same
  rwa [eq_of_beq same]

theorem word {cs : List Char} (solid : Grammar.Solid cs) :
    Moves text (word cs) cursor fun _ after => Trimmed text cursor.offset after.offset := by
  unfold Moves Parser.word
  split
  next isPrefix =>
    obtain ⟨rest, eq⟩ := List.isPrefixOf_iff_prefix.mp isPrefix
    have dropped : cursor.rest = cs ++ cursor.rest.drop cs.length := by
      rw [← eq, List.drop_left]
    exact ⟨h.onward dropped, h.trimmed dropped solid⟩
  next => exact .refl h

theorem takeWhile {accepts : Char → Bool} (solid : ∀ c, accepts c → Text.isBlank c = false) :
    Moves text (takeWhile accepts) cursor fun _ after =>
      StopsAt text cursor.offset → StopsAt text after.offset := by
  have eq : cursor.rest = cursor.rest.takeWhile accepts ++ cursor.rest.dropWhile accepts :=
    List.takeWhile_append_dropWhile.symm
  refine ⟨h.onward eq, fun stops => ?_⟩
  cases taken : cursor.rest.takeWhile accepts with
  | nil => exact stops
  | cons c others =>
    have symbol : Grammar.Solid (cursor.rest.takeWhile accepts) := by
      refine ⟨by rw [taken]; exact List.cons_ne_nil c others, List.all_eq_true.mpr fun d mem => ?_⟩
      rw [solid d (List.mem_takeWhile_imp mem)]
      rfl
    have trimmed := h.trimmed eq symbol
    rw [taken] at trimmed
    exact trimmed.stops

theorem takeWhile1 {accepts : Char → Bool} (solid : ∀ c, accepts c → Text.isBlank c = false) :
    Moves text (takeWhile1 accepts) cursor fun _ after =>
      Trimmed text cursor.offset after.offset := by
  refine (satisfy h solid).bind fun first mid onward trimmed => ?_
  refine (takeWhile onward.isIn solid).bind fun others after onward stops => pure onward.isIn ?_
  exact ⟨trimmed.starts, stops trimmed.stops, Nat.lt_of_lt_of_le trimmed.lt onward.le⟩

theorem notFollowedBy (accepts : Char → Bool) :
    Moves text (notFollowedBy accepts) cursor fun _ after => after = cursor := by
  unfold Moves Parser.notFollowedBy
  split
  · split
    · exact Onward.refl h
    · exact ⟨.refl h, rfl⟩
  · exact ⟨.refl h, rfl⟩

theorem endOfText : Moves text endOfText cursor fun _ after => after = cursor := by
  unfold Moves Parser.endOfText
  split
  · exact ⟨.refl h, rfl⟩
  · exact Onward.refl h

/-- After white space there is none, and where there is none, none is taken. -/
theorem space : Moves text space cursor fun _ after =>
    Grammar.Ends Text.isBlank after.rest ∧
      (Grammar.Ends Text.isBlank cursor.rest → after = cursor) := by
  have eq : cursor.rest = cursor.rest.takeWhile Text.isBlank ++ Text.skip cursor.rest :=
    List.takeWhile_append_dropWhile.symm
  refine ⟨h.onward eq, Grammar.ends_dropWhile _ _, fun ends => ?_⟩
  have nothing : ∀ c ∈ [], Text.isBlank c := List.forall_mem_nil _
  obtain ⟨none, all⟩ := Grammar.takeWhile_of_ends nothing ends
  rw [List.nil_append] at none all
  rw [none, all]
  rfl

theorem identifier :
    Moves text identifier cursor fun _ after => Trimmed text cursor.offset after.offset := by
  have solid (c : Char) (part : isIdentifierPart c) : Text.isBlank c = false :=
    Grammar.isBlank_of_isIdentifierPart part
  refine (satisfy h fun c start => ?_).bind fun first mid onward trimmed => ?_
  · exact solid c (Grammar.isIdentifierPart_of_isIdentifierStart start)
  · refine (takeWhile onward.isIn solid).bind fun others after onward stops => pure onward.isIn ?_
    exact ⟨trimmed.starts, stops trimmed.stops, Nat.lt_of_lt_of_le trimmed.lt onward.le⟩

theorem keyword {cs : List Char} (solid : Grammar.Solid cs) :
    Moves text (keyword cs) cursor fun _ after => Trimmed text cursor.offset after.offset := by
  refine (word h solid).bind fun _ mid onward trimmed => ?_
  refine (notFollowedBy onward.isIn _).imp fun _ after _ same => ?_
  rwa [same]

theorem stringPiece : Moves text stringPiece cursor fun _ _ => True := by
  unfold Moves Parser.stringPiece
  split
  next => exact Onward.refl h
  next => exact Onward.refl h
  next eq =>
    have took : cursor.rest = ['\\'] ++ [] := eq
    exact h.onward took
  next c rest eq =>
    have took : cursor.rest = ['\\', c] ++ rest := eq
    exact ⟨h.onward took, trivial⟩
  next c rest _ _ _ eq =>
    have took : cursor.rest = [c] ++ rest := eq
    exact ⟨h.onward took, trivial⟩

/-- A string stands between quotes, whatever white space is in it. -/
theorem stringLiteral :
    Moves text stringLiteral cursor fun _ after => Trimmed text cursor.offset after.offset := by
  have quote : Text.isBlank '"' = false := by decide
  refine (character h quote).bind fun _ start onward opening => ?_
  refine (many (P := fun _ _ => True) onward.isIn trivial fun _ at' onward _ =>
    stringPiece onward.isIn).bind fun pieces stop inside _ => ?_
  refine (character inside.isIn quote).bind fun _ after closed closing => pure closed.isIn ?_
  have lt := opening.lt
  have le := inside.le
  have le' := closed.le
  exact ⟨opening.starts, closing.stops, by omega⟩

theorem fitting (found : Option Int64) :
    Moves text (fitting found) cursor fun _ after => after = cursor := by
  cases found with
  | some value => exact pure h rfl
  | none => exact Onward.refl h

theorem numeral (whole : List Char) (fraction : Option (List Char)) :
    Moves text (numeral whole fraction) cursor fun _ after => after = cursor := by
  cases fraction with
  | some digits => exact pure h rfl
  | none => exact fitting h _

theorem number :
    Moves text number cursor fun _ after => Trimmed text cursor.offset after.offset := by
  have solid (c : Char) (digit : c.isDigit) : Text.isBlank c = false :=
    Grammar.isBlank_of_isIdentifierPart (Grammar.isIdentifierPart_of_isDigit digit)
  have fraction (at' : Cursor) (isIn : at'.In text) : Moves text
      (do Parser.character '.'; Parser.takeWhile1 Char.isDigit) at' fun _ after =>
        Trimmed text at'.offset after.offset := by
    refine (character isIn (by decide)).bind fun _ mid onward point => ?_
    refine (takeWhile1 onward.isIn solid).imp fun _ after onward digits => ?_
    exact ⟨point.starts, digits.stops, Nat.lt_of_lt_of_le point.lt onward.le⟩
  refine (takeWhile1 h solid).bind fun whole mid onward trimmed => ?_
  refine (opt onward.isIn (fraction mid onward.isIn)).bind fun digits stop onward found => ?_
  refine (numeral onward.isIn whole digits).imp fun _ after _ same => ?_
  rw [same]
  rcases digits with _ | read
  · obtain rfl : stop = mid := found
    exact trimmed
  · have digits : Trimmed text mid.offset stop.offset := found
    exact ⟨trimmed.starts, digits.stops, Nat.lt_of_lt_of_le trimmed.lt onward.le⟩

end Tokens

end Parser.Moves

end RecordRules

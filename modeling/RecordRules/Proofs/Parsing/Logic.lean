import Mathlib.Data.List.Forall2
import RecordRules.Parse

namespace RecordRules.Parser

variable {α β : Type}

/-- With so many nested parts open, whatever the parser makes of a text is related to the text and
the rest of it as told, and as many parts are open then. -/
def Gives (p : Parser α) (n : Nat) (P : List Char → α → List Char → Prop) : Prop :=
  ∀ ⦃cursor a after⦄, cursor.nesting = n → p cursor = .ok a after →
    P cursor.rest a after.rest ∧ after.nesting = n

/-- The reply is final, and one of the limits is named in it. -/
def Halts (limits : List Expectation) (reply : Reply α) : Prop :=
  ∃ expected after, reply = .cut expected after ∧ ∃ limit ∈ limits, limit ∈ expected

/-- The parser makes such a value of the text and leaves that rest, unless one of the limits is in
its way. -/
def Yields (limits : List Expectation) (p : Parser α) (n : Nat) (cs : List Char) (Q : α → Prop)
    (rest : List Char) : Prop :=
  ∀ offset, (∃ a stop, p ⟨cs, offset, n⟩ = .ok a ⟨rest, stop, n⟩ ∧ Q a) ∨
    Halts limits (p ⟨cs, offset, n⟩)

/-- The parser leaves the text to alternatives. -/
def Declines (p : Parser α) (n : Nat) (cs : List Char) : Prop :=
  ∀ offset, ∃ expected after, p ⟨cs, offset, n⟩ = .backtrack expected after

/-- On the text the step yields such values again and again, each time for some of it, and then
declines. -/
inductive Iterated (limits : List Expectation) (step : α → Parser α) (n : Nat) (Q : β → α → Prop) :
    β → List Char → β → List Char → Prop
  | stop {b cs} : (∀ a, Q b a → (step a).Declines n cs) → Iterated limits step n Q b cs b cs
  | more {b cs next mid last rest} : (∀ a, Q b a → (step a).Yields limits n cs (Q next) mid) →
    mid.length < cs.length → Iterated limits step n Q next mid last rest →
    Iterated limits step n Q b cs last rest

/-- On the text the parser yields such values again and again, each time for some of it, and then
declines. -/
inductive Repeated (limits : List Expectation) (p : Parser α) (n : Nat) (Q : β → α → Prop) :
    List Char → List β → List Char → Prop
  | stop {cs} : p.Declines n cs → Repeated limits p n Q cs [] cs
  | more {cs b mid bs rest} : p.Yields limits n cs (Q b) mid → mid.length < cs.length →
    Repeated limits p n Q mid bs rest → Repeated limits p n Q cs (b :: bs) rest

/-- Items of a text, one after the other. -/
inductive Star (P : List Char → α → List Char → Prop) : List Char → List α → List Char → Prop
  | nil {cs} : Star P cs [] cs
  | cons {cs a mid as rest} : P cs a mid → Star P mid as rest → Star P cs (a :: as) rest

/-- Steps from value to value over a text, one after the other. -/
inductive Steps (P : α → List Char → α → List Char → Prop) :
    α → List Char → α → List Char → Prop
  | nil {a cs} : Steps P a cs a cs
  | cons {a cs b mid c rest} : P a cs b mid → Steps P b mid c rest → Steps P a cs c rest

/-- Items that are put before those found so far are found in the opposite order. -/
theorem star_of_steps {P : List Char → α → List Char → Prop} {found last : List α}
    {cs rest : List Char}
    (h : Steps (fun found cs next rest => ∃ a, next = a :: found ∧ P cs a rest) found cs last rest) :
    ∃ as, last = as.reverse ++ found ∧ Star P cs as rest := by
  induction h with
  | nil => exact ⟨[], rfl, .nil⟩
  | cons step _ ih =>
    obtain ⟨a, rfl, item⟩ := step
    obtain ⟨as, rfl, star⟩ := ih
    exact ⟨a :: as, by simp, .cons item star⟩

namespace Gives

variable {p q : Parser α} {n : Nat} {P P' : List Char → α → List Char → Prop}

theorem imp (h : Gives p n P) (le : ∀ cs a rest, P cs a rest → P' cs a rest) : Gives p n P' := by
  intro cursor a after hn ok
  obtain ⟨given, nesting⟩ := h hn ok
  exact ⟨le _ _ _ given, nesting⟩

theorem pure (a : α) : Gives (Pure.pure a) n fun cs b rest => b = a ∧ rest = cs := by
  intro cursor b after hn ok
  cases ok
  exact ⟨⟨rfl, rfl⟩, hn⟩

theorem bind {f : α → Parser β} {Q : α → List Char → β → List Char → Prop} (h : Gives p n P)
    (hf : ∀ a, Gives (f a) n (Q a)) :
    Gives (p >>= f) n fun cs b rest => ∃ a mid, P cs a mid ∧ Q a mid b rest := by
  intro cursor b after hn ok
  change (p cursor).bind f = .ok b after at ok
  cases hp : p cursor with
  | ok a mid =>
    rw [hp] at ok
    obtain ⟨first, nesting⟩ := h hn hp
    obtain ⟨second, last⟩ := hf a nesting ok
    exact ⟨⟨a, mid.rest, first, second⟩, last⟩
  | backtrack expected mid | cut expected mid =>
    rw [hp] at ok
    cases ok

theorem cut (h : Gives p n P) : Gives (cut p) n P := by
  intro cursor a after hn ok
  unfold Parser.cut at ok
  split at ok
  next => cases ok
  next reply => exact h hn ok

theorem expecting (what : Expectation) (h : Gives p n P) : Gives (expecting what p) n P := by
  intro cursor a after hn ok
  unfold Parser.expecting at ok
  split at ok
  next value mid hp =>
    cases ok
    exact h hn hp
  next => cases ok
  next => cases ok

theorem opt (h : Gives p n P) :
    Gives (opt p) n fun cs found rest =>
      (∃ a, found = some a ∧ P cs a rest) ∨
        found = none ∧ rest = cs ∧
          ∃ offset expected after, p ⟨cs, offset, n⟩ = .backtrack expected after := by
  intro cursor found after hn ok
  unfold Parser.opt at ok
  split at ok
  next value mid hp =>
    cases ok
    obtain ⟨given, nesting⟩ := h hn hp
    exact ⟨.inl ⟨value, rfl, given⟩, nesting⟩
  next expected mid hp =>
    cases ok
    subst hn
    exact ⟨.inr ⟨rfl, rfl, cursor.offset, expected, mid, hp⟩, rfl⟩
  next => cases ok

theorem orElse (h : Gives p n P) (h' : Gives q n P') :
    Gives (orElse p q) n fun cs a rest => P cs a rest ∨ P' cs a rest := by
  intro cursor a after hn ok
  unfold Parser.orElse at ok
  split at ok
  next =>
    obtain ⟨given, nesting⟩ := h' hn ok
    exact ⟨.inr given, nesting⟩
  next =>
    obtain ⟨given, nesting⟩ := h hn ok
    exact ⟨.inl given, nesting⟩

theorem spanned (h : Gives p n P) : Gives (spanned p) n fun cs x rest => P cs x.1 rest := by
  intro cursor x after hn ok
  unfold Parser.spanned at ok
  cases hp : p cursor with
  | ok a mid =>
    rw [hp] at ok
    cases ok
    exact h hn hp
  | backtrack expected mid | cut expected mid =>
    rw [hp] at ok
    cases ok

theorem nested (h : n < maxNesting → Gives p (n + 1) P) :
    Gives (nested p) n fun cs a rest => n < maxNesting ∧ P cs a rest := by
  intro cursor a after hn ok
  unfold Parser.nested at ok
  split at ok
  next => cases ok
  next room =>
    have lt : n < maxNesting := by omega
    cases hp : p { cursor with nesting := cursor.nesting + 1 } with
    | ok b mid =>
      rw [hp] at ok
      cases ok
      obtain ⟨given, nesting⟩ := h lt (by simp [hn]) hp
      exact ⟨⟨lt, given⟩, by simp [nesting]⟩
    | backtrack expected mid | cut expected mid =>
      rw [hp] at ok
      cases ok

/-- With as many parts open as may be, nothing comes of one more. -/
theorem nested_full (full : ¬ n < maxNesting) : Gives (Parser.nested p) n P :=
  (nested (P := P) fun lt => absurd lt full).imp fun _ _ _ given => absurd given.1 full

theorem iterateUpTo {step : α → Parser α} {S : α → List Char → α → List Char → Prop}
    (h : ∀ a, Gives (step a) n (S a)) (count : Nat) (a : α) :
    Gives (iterateUpTo step count a) n (Steps S a) := by
  induction count generalizing a with
  | zero =>
    intro cursor b after hn ok
    cases ok
    exact ⟨.nil, hn⟩
  | succ count ih =>
    intro cursor b after hn ok
    unfold Parser.iterateUpTo at ok
    split at ok
    next next mid hp =>
      obtain ⟨first, nesting⟩ := h a hn hp
      obtain ⟨others, last⟩ := ih next nesting ok
      exact ⟨.cons first others, last⟩
    next =>
      cases ok
      exact ⟨.nil, hn⟩
    next => cases ok

theorem iterate {step : α → Parser α} {S : α → List Char → α → List Char → Prop}
    (h : ∀ a, Gives (step a) n (S a)) (a : α) : Gives (iterate step a) n (Steps S a) := by
  intro cursor b after hn ok
  exact iterateUpTo h (cursor.rest.length + 1) a hn ok

theorem many (h : Gives p n P) : Gives (many p) n (Star P) := by
  have step (found : List α) : Gives (do return (← p) :: found) n
      fun cs next rest => ∃ a, next = a :: found ∧ P cs a rest := by
    refine (h.bind fun a => pure (a :: found)).imp ?_
    rintro cs next rest ⟨a, mid, item, rfl, rfl⟩
    exact ⟨a, rfl, item⟩
  refine ((iterate step []).bind fun found => pure found.reverse).imp ?_
  rintro cs as rest ⟨found, mid, steps, rfl, rfl⟩
  obtain ⟨as, eq, star⟩ := star_of_steps steps
  rw [eq, List.append_nil, List.reverse_reverse]
  exact star

end Gives

/-- Where no limit may be in its way the parser makes the value. -/
theorem Yields.ok {p : Parser α} {n : Nat} {cs rest : List Char} {Q : α → Prop}
    (h : Yields [] p n cs Q rest) (offset : Nat) :
    ∃ a stop, p ⟨cs, offset, n⟩ = .ok a ⟨rest, stop, n⟩ ∧ Q a := by
  obtain made | ⟨expected, after, -, limit, mem, -⟩ := h offset
  · exact made
  · cases mem

namespace Declines

variable {p q : Parser α} {n : Nat} {cs mid : List Char} {Q : α → Prop}

theorem bind {f : α → Parser β} (h : Declines p n cs) : Declines (p >>= f) n cs := by
  intro offset
  obtain ⟨expected, after, declined⟩ := h offset
  refine ⟨expected, after, ?_⟩
  change (p _).bind f = _
  rw [declined]
  rfl

theorem bind_later {f : α → Parser β} (h : Yields [] p n cs Q mid)
    (hf : ∀ a, Q a → Declines (f a) n mid) : Declines (p >>= f) n cs := by
  intro offset
  obtain ⟨a, stop, ok, good⟩ := h.ok offset
  obtain ⟨expected, after, declined⟩ := hf a good stop
  refine ⟨expected, after, ?_⟩
  change (p _).bind f = _
  rw [ok]
  exact declined

theorem orElse (hp : Declines p n cs) (hq : Declines q n cs) : Declines (orElse p q) n cs := by
  intro offset
  obtain ⟨expected, after, declined⟩ := hp offset
  obtain ⟨expected', after', declined'⟩ := hq offset
  exact ⟨expected', after', by rw [Parser.orElse, declined]; exact declined'⟩

theorem spanned (h : Declines p n cs) : Declines (spanned p) n cs := by
  intro offset
  obtain ⟨expected, after, declined⟩ := h offset
  exact ⟨expected, after, by rw [Parser.spanned, declined]; rfl⟩

end Declines

namespace Yields

variable {limits : List Expectation} {p q : Parser α} {n : Nat} {cs mid rest : List Char}
  {Q Q' : α → Prop}

theorem imp (h : Yields limits p n cs Q rest) (le : ∀ a, Q a → Q' a) :
    Yields limits p n cs Q' rest := by
  intro offset
  obtain ⟨a, stop, ok, good⟩ | halts := h offset
  · exact .inl ⟨a, stop, ok, le a good⟩
  · exact .inr halts

theorem of_ok (h : ∀ offset, ∃ a stop, p ⟨cs, offset, n⟩ = .ok a ⟨rest, stop, n⟩ ∧ Q a) :
    Yields limits p n cs Q rest :=
  fun offset => .inl (h offset)

theorem pure {a : α} (good : Q a) : Yields limits (Pure.pure a) n cs Q cs :=
  of_ok fun offset => ⟨a, offset, rfl, good⟩

theorem bind {f : α → Parser β} {R : β → Prop} (h : Yields limits p n cs Q mid)
    (hf : ∀ a, Q a → Yields limits (f a) n mid R rest) : Yields limits (p >>= f) n cs R rest := by
  intro offset
  change (∃ b last, (p _).bind f = _ ∧ R b) ∨ Halts limits ((p _).bind f)
  obtain ⟨a, stop, ok, good⟩ | ⟨expected, after, halt, named⟩ := h offset
  · rw [ok]
    exact hf a good stop
  · rw [halt]
    exact .inr ⟨expected, after, rfl, named⟩

theorem cut (h : Yields limits p n cs Q rest) : Yields limits (cut p) n cs Q rest := by
  intro offset
  obtain ⟨a, stop, ok, good⟩ | ⟨expected, after, halt, named⟩ := h offset
  · exact .inl ⟨a, stop, by rw [Parser.cut, ok], good⟩
  · exact .inr ⟨expected, after, by rw [Parser.cut, halt], named⟩

theorem expecting (what : Expectation) (h : Yields limits p n cs Q rest) :
    Yields limits (expecting what p) n cs Q rest := by
  intro offset
  obtain ⟨a, stop, ok, good⟩ | ⟨expected, after, halt, limit, mem, named⟩ := h offset
  · exact .inl ⟨a, stop, by rw [Parser.expecting, ok], good⟩
  · exact .inr ⟨expected ++ [what], after, by rw [Parser.expecting, halt], limit, mem,
      List.mem_append_left [what] named⟩

theorem opt (h : Yields limits p n cs Q rest) :
    Yields limits (opt p) n cs (fun found => ∃ a, found = some a ∧ Q a) rest := by
  intro offset
  obtain ⟨a, stop, ok, good⟩ | ⟨expected, after, halt, named⟩ := h offset
  · exact .inl ⟨some a, stop, by rw [Parser.opt, ok], a, rfl, good⟩
  · exact .inr ⟨expected, after, by rw [Parser.opt, halt], named⟩

theorem opt_none (h : Declines p n cs) : Yields limits (Parser.opt p) n cs (· = none) cs := by
  refine of_ok fun offset => ?_
  obtain ⟨expected, after, declined⟩ := h offset
  exact ⟨none, offset, by rw [Parser.opt, declined], rfl⟩

theorem first (h : Yields limits p n cs Q rest) : Yields limits (orElse p q) n cs Q rest := by
  intro offset
  obtain ⟨a, stop, ok, good⟩ | ⟨expected, after, halt, named⟩ := h offset
  · exact .inl ⟨a, stop, by rw [orElse, ok], good⟩
  · exact .inr ⟨expected, after, by rw [orElse, halt], named⟩

theorem second (hp : Declines p n cs) (h : Yields limits q n cs Q rest) :
    Yields limits (orElse p q) n cs Q rest := by
  intro offset
  obtain ⟨expected, after, declined⟩ := hp offset
  have same : orElse p q ⟨cs, offset, n⟩ = q ⟨cs, offset, n⟩ := by rw [orElse, declined]
  rw [same]
  exact h offset

theorem spanned (h : Yields limits p n cs Q rest) :
    Yields limits (spanned p) n cs (fun x => Q x.1) rest := by
  intro offset
  obtain ⟨a, stop, ok, good⟩ | ⟨expected, after, halt, named⟩ := h offset
  · exact .inl ⟨(a, ⟨offset, stop⟩), stop, by rw [Parser.spanned, ok]; rfl, good⟩
  · exact .inr ⟨expected, after, by rw [Parser.spanned, halt]; rfl, named⟩

/-- One nested part more is open, unless too many are. -/
theorem nested (room : n < maxNesting ∨ .lessNesting ∈ limits)
    (h : n < maxNesting → Yields limits p (n + 1) cs Q rest) :
    Yields limits (nested p) n cs Q rest := by
  intro offset
  by_cases open' : n < maxNesting
  · have notFull : ¬ maxNesting ≤ n := by omega
    obtain ⟨a, stop, ok, good⟩ | ⟨expected, after, halt, named⟩ := h open' offset
    · refine .inl ⟨a, stop, ?_, good⟩
      simp only [Parser.nested, if_neg notFull, ok]
      rfl
    · refine .inr ⟨expected, { after with nesting := after.nesting - 1 }, ?_, named⟩
      simp only [Parser.nested, if_neg notFull, halt]
      rfl
  · have full : maxNesting ≤ n := by omega
    refine .inr ⟨[.lessNesting], ⟨cs, offset, n⟩, by simp only [Parser.nested, if_pos full], ?_⟩
    exact ⟨.lessNesting, room.resolve_left open', List.mem_singleton_self _⟩

theorem iterateUpTo {step : α → Parser α} {Q : β → α → Prop} {b last : β}
    (h : Iterated limits step n Q b cs last rest) {a : α} (good : Q b a) {count : Nat}
    (enough : cs.length < count) : Yields limits (iterateUpTo step count a) n cs (Q last) rest := by
  induction h generalizing a count with
  | stop declines =>
    refine of_ok fun offset => ?_
    obtain ⟨expected, after, declined⟩ := declines a good offset
    obtain ⟨count, rfl⟩ : ∃ m, count = m + 1 := ⟨count - 1, by omega⟩
    exact ⟨a, offset, by simp only [Parser.iterateUpTo, declined], good⟩
  | @more _ cs _ mid _ _ step shorter _ ih =>
    intro offset
    obtain ⟨count, rfl⟩ : ∃ m, count = m + 1 := ⟨count - 1, by omega⟩
    have less : mid.length < count := by omega
    obtain ⟨next, stop, ok, good⟩ | ⟨expected, after, halt, named⟩ := step a good offset
    · simp only [Parser.iterateUpTo, ok]
      exact ih good less stop
    · exact .inr ⟨expected, after, by simp only [Parser.iterateUpTo, halt], named⟩

theorem iterate {step : α → Parser α} {Q : β → α → Prop} {b last : β}
    (h : Iterated limits step n Q b cs last rest) {a : α} (good : Q b a) :
    Yields limits (iterate step a) n cs (Q last) rest :=
  iterateUpTo h good (Nat.lt_succ_self cs.length)

theorem many {Q : β → α → Prop} {bs : List β} (h : Repeated limits p n Q cs bs rest) :
    Yields limits (many p) n cs (List.Forall₂ Q bs) rest := by
  have steps (before : List β) : Iterated limits (fun found => do return (← p) :: found) n
      (fun bs found => List.Forall₂ Q bs found.reverse) before cs (before ++ bs) rest := by
    induction h generalizing before with
    | stop declines =>
      rw [List.append_nil]
      exact .stop fun _ _ => .bind declines
    | @more cs b mid bs rest item shorter _ ih =>
      have step (found : List α) (good : List.Forall₂ Q before found.reverse) :
          Yields limits (do return (← p) :: found) n cs
            (fun found => List.Forall₂ Q (before ++ [b]) found.reverse) mid := by
        refine item.bind fun a ha => .pure ?_
        rw [List.reverse_cons]
        exact List.rel_append good (.cons ha .nil)
      have later := ih (before ++ [b])
      rw [List.append_assoc] at later
      exact .more step shorter later
  refine (iterate (steps []) .nil).bind fun found good => .pure ?_
  exact good

end Yields

end RecordRules.Parser

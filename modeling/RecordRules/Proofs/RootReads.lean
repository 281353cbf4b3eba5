import RecordRules.Proofs.Answers
import RecordRules.Proofs.Soundness
import RecordRules.Proofs.Resolution

namespace RecordRules

variable {ο σ σ' α β : Type}

def Bound.isRoot : Bound → Bool
  | .root => true
  | _ => false

mutual

/-- The members that are read from the root record anywhere in an expression. -/
def Bound.rootMembers : Bound → List MemberId
  | .const _ | .root | .param _ => []
  | .get target member args =>
    (if target.isRoot then [member] else target.rootMembers) ++ rootMembersOf args
  | .not operand | .neg operand | .has operand => operand.rootMembers
  | .and operands | .or operands => rootMembersOf operands
  | .compare _ lhs rhs | .arith _ lhs rhs => lhs.rootMembers ++ rhs.rootMembers
  | .within needle set => needle.rootMembers ++ rootMembersOf set
  | .quantify _ source body => source.rootMembers ++ body.rootMembers
  | .builtin _ args => rootMembersOf args
  | .matching target _ => target.rootMembers

def rootMembersOf : List Bound → List MemberId
  | [] => []
  | e :: rest => e.rootMembers ++ rootMembersOf rest

end

/-- The root record stands nowhere in the expression but where it is asked for a member. -/
inductive Bound.RootAsked : Bound → Prop
  | const {value} : RootAsked (.const value)
  | param {slot} : RootAsked (.param slot)
  | getRoot {member args} : (∀ e ∈ args, RootAsked e) → RootAsked (.get .root member args)
  | get {target member args} : RootAsked target → (∀ e ∈ args, RootAsked e) →
    RootAsked (.get target member args)
  | not {operand} : RootAsked operand → RootAsked (.not operand)
  | neg {operand} : RootAsked operand → RootAsked (.neg operand)
  | and {operands} : (∀ e ∈ operands, RootAsked e) → RootAsked (.and operands)
  | or {operands} : (∀ e ∈ operands, RootAsked e) → RootAsked (.or operands)
  | compare {op lhs rhs} : RootAsked lhs → RootAsked rhs → RootAsked (.compare op lhs rhs)
  | arith {op lhs rhs} : RootAsked lhs → RootAsked rhs → RootAsked (.arith op lhs rhs)
  | within {needle set} : RootAsked needle → (∀ e ∈ set, RootAsked e) →
    RootAsked (.within needle set)
  | quantify {quantifier source body} : RootAsked source → RootAsked body →
    RootAsked (.quantify quantifier source body)
  | has {operand} : RootAsked operand → RootAsked (.has operand)
  | builtin {function args} : (∀ e ∈ args, RootAsked e) → RootAsked (.builtin function args)
  | matching {target pattern} : RootAsked target → RootAsked (.matching target pattern)

theorem rootMembers_subset {e : Bound} {es : List Bound} (mem : e ∈ es) :
    e.rootMembers ⊆ rootMembersOf es := by
  induction es with
  | nil => cases mem
  | cons first rest ih =>
    rw [rootMembersOf]
    rcases List.mem_cons.mp mem with rfl | mem
    · exact List.subset_append_left _ _
    · exact List.subset_append_of_subset_right _ (ih mem)

namespace Bound.RootAsked

variable {e : Bound}

theorem isRoot_eq_false (h : e.RootAsked) : e.isRoot = false := by
  cases h <;> rfl

theorem negated (h : e.RootAsked) : e.negated.RootAsked := by
  unfold Bound.negated
  split
  next => split <;> first | exact .const | exact .neg .const
  next => exact .const
  next => exact .neg h

theorem of_zip {es : List Expr} {xs : List Typed} (hlen : es.length = xs.length)
    (each : ∀ p ∈ es.zip xs, p.2.bound.RootAsked) : ∀ e ∈ xs.map Typed.bound, e.RootAsked := by
  intro e mem
  obtain ⟨x, hx, rfl⟩ := List.mem_map.mp mem
  exact forall_of_zip (P := fun x => x.bound.RootAsked) hlen each x hx

theorem singleton (h : e.RootAsked) : ∀ part ∈ [e], part.RootAsked :=
  List.forall_mem_singleton.mpr h

theorem pair {e' : Bound} (h : e.RootAsked) (h' : e'.RootAsked) :
    ∀ part ∈ [e, e'], part.RootAsked :=
  List.forall_mem_cons.mpr ⟨h, h'.singleton⟩

end Bound.RootAsked

/-- A name in a rule is never resolved to the root record itself. -/
theorem Resolves.rootAsked [Patterns] {scope : Scope} {e : Expr} {x : Typed}
    (h : Resolves scope e x) : x.bound.RootAsked := by
  induction h with
  | literal => exact .const
  | param => exact .param
  | rootField => exact .getRoot fun e mem => absurd mem List.not_mem_nil
  | field _ _ _ ih => exact .get ih fun e mem => absurd mem List.not_mem_nil
  | rootCall _ _ hlen _ _ ih => exact .getRoot (.of_zip hlen ih)
  | has _ _ _ ih => exact .has ih
  | abs _ _ _ ih => exact .builtin ih.singleton
  | choice _ _ _ _ _ _ ihx ihy => exact .builtin (ihx.pair ihy)
  | methodCall _ _ _ hlen _ _ iht ih => exact .get iht (.of_zip hlen ih)
  | stringProperty _ _ ih => exact .builtin ih.singleton
  | stringTest _ _ _ ih iha => exact .builtin (ih.pair iha)
  | matching _ _ ih => exact .matching ih
  | listLength _ ih => exact .builtin ih.singleton
  | listContains _ _ _ _ ih iha => exact .builtin (ih.pair iha)
  | quantified _ _ _ ih ihb => exact .quantify ih ihb
  | not _ ih => exact .not ih
  | neg _ _ ih => exact ih.negated
  | and hlen _ _ ih => exact .and (.of_zip hlen ih)
  | or hlen _ _ ih => exact .or (.of_zip hlen ih)
  | compare _ _ _ ihx ihy => exact .compare ihx ihy
  | arith _ _ _ _ ihx ihy => exact .arith ihx ihy
  | within _ _ hlen _ _ ihx ih => exact .within ihx (.of_zip hlen ih)

/-- All records in the value are of the kind. -/
inductive Value.Within (inner : ο → Prop) : Value ο → Prop
  | bool (b) : Within inner (.bool b)
  | int (n) : Within inner (.int n)
  | float (x) : Within inner (.float x)
  | string (s) : Within inner (.string s)
  | object {o} : inner o → Within inner (.object o)
  | list {vs} : (∀ v ∈ vs, Within inner v) → Within inner (.list vs)

namespace Meets

variable {stops : Stop → Prop} {gives : α → Prop} {gives' : β → Prop} {result : Except Stop α}

theorem any (result : Except Stop α) : Meets (fun _ => True) (fun _ => True) result := by
  cases result with
  | ok => exact .ok trivial
  | error => exact .error trivial

theorem bind {f : α → Except Stop β} (h : Meets stops gives result)
    (hf : ∀ a, gives a → Meets stops gives' (f a)) : Meets stops gives' (result >>= f) := by
  cases h with
  | ok good => exact hf _ good
  | error hr => exact .error hr

end Meets

namespace Value

variable {inner : ο → Prop} {v : Value ο}

theorem within_of_literal (value : Literal) : (value.toValue : Value ο).Within inner := by
  cases value with
  | bool b => exact .bool b
  | int n => exact .int n
  | float x => exact .float x
  | string s => exact .string s

theorem within_of_forall (all : ∀ o, inner o) (v : Value ο) : v.Within inner :=
  @Value.rec ο (Within inner) (fun vs => ∀ v ∈ vs, Within inner v)
    .bool .int .float .string (fun o => .object (all o)) (fun _ each => .list each)
    (fun _ mem => absurd mem List.not_mem_nil)
    (fun _ _ first others => List.forall_mem_cons.mpr ⟨first, others⟩)
    v

theorem Within.asObject (h : v.Within inner) : Meets (fun _ => True) inner v.asObject := by
  cases h with
  | object ho => exact .ok ho
  | _ => exact .error trivial

theorem Within.asList (h : v.Within inner) :
    Meets (fun _ => True) (∀ w ∈ ·, Within inner w) v.asList := by
  cases h with
  | list each => exact .ok each
  | _ => exact .error trivial

/-! What is computed from values has no records in it. -/

theorem ofInt_within (n : Int) :
    Meets (fun _ => True) (Within inner) (ofInt n : Except Stop (Value ο)) := by
  unfold ofInt
  split
  next m _ => exact .ok (.int m)
  next => exact .error trivial

theorem negate_within (v : Value ο) : Meets (fun _ => True) (Within inner) v.negate := by
  cases v with
  | int n => exact ofInt_within _
  | float x => exact .ok (.float _)
  | _ => exact .error trivial

theorem arithInt_within (op : ArithOp) (a b : Int) :
    Meets (fun _ => True) (Within inner) (arithInt op a b : Except Stop (Value ο)) := by
  have guarded {c : Prop} [Decidable c] {reason : Stop} {result : Except Stop (Value ο)}
      (h : Meets (fun _ => True) (Within inner) result) :
      Meets (fun _ => True) (Within inner) (if c then .error reason else result) := by
    split
    · exact .error trivial
    · exact h
  cases op with
  | add | sub | mul => exact ofInt_within _
  | div => exact guarded (ofInt_within _)
  | rem => exact guarded (guarded (ofInt_within _))

/-- Two numbers that are not both integers give a float. -/
theorem float_within (f : Float → Float → Float) (v w : Value ο) :
    Meets (fun _ => True) (Within inner) (do
      let x ← v.asNumber
      let y ← w.asNumber
      return float (f x y)) :=
  (Meets.any _).bind fun _ _ => (Meets.any _).bind fun _ _ => .ok (.float _)

theorem arith_within (op : ArithOp) (v w : Value ο) :
    Meets (fun _ => True) (Within inner) (v.arith op w) := by
  unfold arith
  split
  next a b => exact arithInt_within op _ _
  next => exact float_within (arithFloat op) _ _

theorem choose_within (ints : Int → Int → Int) (floats : Float → Float → Float) (v w : Value ο) :
    Meets (fun _ => True) (Within inner) (v.choose ints floats w) := by
  unfold choose
  split
  next a b => exact ofInt_within _
  next => exact float_within floats _ _

theorem length_within (v : Value ο) : Meets (fun _ => True) (Within inner) v.length := by
  cases v with
  | string s => exact .ok (.int _)
  | list vs => exact .ok (.int _)
  | _ => exact .error trivial

theorem abs_within (v : Value ο) : Meets (fun _ => True) (Within inner) v.abs := by
  cases v with
  | int n => exact ofInt_within _
  | float x => exact .ok (.float _)
  | _ => exact .error trivial

theorem apply_within (function : Builtin) (args : List (Value ο)) :
    Meets (fun _ => True) (Within inner) (function.apply args) := by
  cases args with
  | nil => exact .error trivial
  | cons first others =>
    cases function with
    | len => exact length_within first
    | lower | upper => exact (Meets.any first.asString).bind fun s _ => .ok (.string _)
    | contains | startsWith | endsWith =>
      exact (Meets.any _).bind fun w _ => (Meets.any _).bind fun b _ => .ok (.bool b)
    | abs => exact abs_within first
    | min | max => exact (Meets.any _).bind fun w _ => choose_within _ _ first w

end Value

/-- The records in an answer, if it is a value, are of the kind. -/
def Answered (inner : ο → Prop) (answer : Except Stop (Value ο)) : Prop :=
  Meets (fun _ => True) (Value.Within inner) answer

/-- The two computations do the same, but that one asks the record `root` where the other one asks
`root'`, and only for some members. Other records are asked if they are inner ones, as those in
answers are. -/
inductive Reading.Mirrors (members : List MemberId) (inner : ο → Prop) (root root' : ο)
    (gives : α → Prop) : Reading ο α → Reading ο α → Prop
  | done {value} : gives value → Mirrors members inner root root' gives (.done value) (.done value)
  | stop {reason} : Mirrors members inner root root' gives (.stop reason) (.stop reason)
  | root {member args next next'} : member ∈ members →
    (∀ answer, Answered inner answer →
      Mirrors members inner root root' gives (next answer) (next' answer)) →
    Mirrors members inner root root' gives (.read root member args next)
      (.read root' member args next')
  | inner {target member args next next'} : inner target →
    (∀ answer, Answered inner answer →
      Mirrors members inner root root' gives (next answer) (next' answer)) →
    Mirrors members inner root root' gives (.read target member args next)
      (.read target member args next')

namespace Reading.Mirrors

variable {members : List MemberId} {inner : ο → Prop} {root root' : ο} {gives : α → Prop}
  {gives' : β → Prop} {x x' : Reading ο α}

theorem bind {f f' : α → Reading ο β} (h : Mirrors members inner root root' gives x x')
    (hf : ∀ a, gives a → Mirrors members inner root root' gives' (f a) (f' a)) :
    Mirrors members inner root root' gives' (x >>= f) (x' >>= f') := by
  induction h with
  | done good => exact hf _ good
  | stop => exact .stop
  | root mem _ ih => exact .root mem ih
  | inner ho _ ih => exact .inner ho ih

theorem map {f : α → β} (h : Mirrors members inner root root' gives x x')
    (hf : ∀ a, gives a → gives' (f a)) :
    Mirrors members inner root root' gives' (f <$> x) (f <$> x') := by
  rw [map_eq_pure_bind, map_eq_pure_bind]
  exact h.bind fun a good => .done (hf a good)

theorem present (h : Mirrors members inner root root' gives x x') :
    Mirrors members inner root root' (fun _ => True) x.present x'.present := by
  induction h with
  | done => exact .done trivial
  | @stop reason =>
    cases reason with
    | fault fault =>
      cases fault with
      | absent => exact .done trivial
      | _ => exact .stop
    | panic => exact .stop
  | root mem _ ih => exact .root mem ih
  | inner ho _ ih => exact .inner ho ih

theorem ofExcept {result : Except Stop α} (h : Meets (fun _ => True) gives result) :
    Mirrors members inner root root' gives (.ofExcept result) (.ofExcept result) := by
  cases h with
  | ok good => exact .done good
  | error => exact .stop

theorem toBool {x x' : Reading ο Bool} (h : Mirrors members inner root root' (fun _ => True) x x') :
    Mirrors members inner root root' (Value.Within inner) (.bool <$> x) (.bool <$> x') :=
  h.map fun b _ => .bool b

section Each

variable {ask ask' : Value ο → Reading ο Bool} {vs : List (Value ο)}
  (h : ∀ v ∈ vs, Mirrors members inner root root' (fun _ => True) (ask v) (ask' v))
include h

theorem anyOf : Mirrors members inner root root' (fun _ => True) (Quantifier.anyOf ask vs)
    (Quantifier.anyOf ask' vs) := by
  induction vs with
  | nil => exact .done trivial
  | cons v rest ih =>
    obtain ⟨hv, hrest⟩ := List.forall_mem_cons.mp h
    refine hv.bind fun b _ => ?_
    cases b with
    | true => exact .done trivial
    | false => exact ih hrest

theorem allOf : Mirrors members inner root root' (fun _ => True) (Quantifier.allOf ask vs)
    (Quantifier.allOf ask' vs) := by
  induction vs with
  | nil => exact .done trivial
  | cons v rest ih =>
    obtain ⟨hv, hrest⟩ := List.forall_mem_cons.mp h
    refine hv.bind fun b _ => ?_
    cases b with
    | true => exact ih hrest
    | false => exact .done trivial

theorem countOf (counted : Nat) : Mirrors members inner root root' (fun _ => True)
    (Quantifier.countOf ask counted vs) (Quantifier.countOf ask' counted vs) := by
  induction vs generalizing counted with
  | nil => exact .done trivial
  | cons v rest ih =>
    obtain ⟨hv, hrest⟩ := List.forall_mem_cons.mp h
    exact hv.bind fun b _ => ih hrest _

theorem across (quantifier : Quantifier) : Mirrors members inner root root' (Value.Within inner)
    (quantifier.across ask vs) (quantifier.across ask' vs) := by
  cases quantifier with
  | any => exact (anyOf h).toBool
  | all => exact (allOf h).toBool
  | count => exact (countOf h 0).map fun n _ => .int _

end Each

end Reading.Mirrors

section Evaluation

variable {members : List MemberId} {inner : ο → Prop} {root root' : ο} {params : List (Value ο)}
  {es : List Bound}

/-- What is evaluated on two root records asks them alike. -/
def Bound.Mirrored (members : List MemberId) (inner : ο → Prop) (root root' : ο)
    (params : List (Value ο)) (e : Bound) : Prop :=
  Reading.Mirrors members inner root root' (Value.Within inner) (e.eval root params)
    (e.eval root' params)

theorem paramValue_mirrors (h : ∀ v ∈ params, v.Within inner) (slot : Nat) :
    Reading.Mirrors members inner root root' (Value.Within inner) (paramValue slot params)
      (paramValue slot params) := by
  induction params with
  | nil => exact .stop
  | cons v outer ih =>
    obtain ⟨hv, hrest⟩ := List.forall_mem_cons.mp h
    unfold paramValue
    split
    next => exact .done hv
    next => exact ih hrest

section Each

variable (each : ∀ e ∈ es, e.Mirrored members inner root root' params)
include each

theorem evalEach_mirrors : Reading.Mirrors members inner root root' (∀ v ∈ ·, v.Within inner)
    (evalEach root es params) (evalEach root' es params) := by
  induction es with
  | nil => exact .done fun v mem => absurd mem List.not_mem_nil
  | cons e rest ih =>
    obtain ⟨he, hrest⟩ := List.forall_mem_cons.mp each
    exact he.bind fun v hv => (ih hrest).bind fun vs hvs =>
      .done (List.forall_mem_cons.mpr ⟨hv, hvs⟩)

theorem evalAnd_mirrors : Reading.Mirrors members inner root root' (fun _ => True)
    (evalAnd root es params) (evalAnd root' es params) := by
  induction es with
  | nil => exact .done trivial
  | cons e rest ih =>
    obtain ⟨he, hrest⟩ := List.forall_mem_cons.mp each
    refine he.bind fun v _ => (Reading.Mirrors.ofExcept (.any _)).bind fun b _ => ?_
    cases b with
    | true => exact ih hrest
    | false => exact .done trivial

theorem evalOr_mirrors : Reading.Mirrors members inner root root' (fun _ => True)
    (evalOr root es params) (evalOr root' es params) := by
  induction es with
  | nil => exact .done trivial
  | cons e rest ih =>
    obtain ⟨he, hrest⟩ := List.forall_mem_cons.mp each
    refine he.bind fun v _ => (Reading.Mirrors.ofExcept (.any _)).bind fun b _ => ?_
    cases b with
    | true => exact .done trivial
    | false => exact ih hrest

theorem evalWithin_mirrors (v : Value ο) : Reading.Mirrors members inner root root' (fun _ => True)
    (evalWithin root v es params) (evalWithin root' v es params) := by
  induction es with
  | nil => exact .done trivial
  | cons e rest ih =>
    obtain ⟨he, hrest⟩ := List.forall_mem_cons.mp each
    refine he.bind fun w _ => (Reading.Mirrors.ofExcept (.any _)).bind fun b _ => ?_
    cases b with
    | true => exact .done trivial
    | false => exact ih hrest

end Each

/-- An expression in which the root record is only asked does the same on two of them, if it asks
for such members only. -/
theorem Bound.RootAsked.mirrored {e : Bound} (h : e.RootAsked) (named : e.rootMembers ⊆ members)
    (hp : ∀ v ∈ params, v.Within inner) : e.Mirrored members inner root root' params := by
  have part {e : Bound} {es : List Bound} (named : rootMembersOf es ⊆ members) (mem : e ∈ es) :
      e.rootMembers ⊆ members := fun m hm => named (rootMembers_subset mem hm)
  induction h generalizing params with
  | const => exact .done (Value.within_of_literal _)
  | @param slot => exact paramValue_mirrors hp slot
  | @getRoot member args _ ih =>
    obtain ⟨here, named⟩ := List.append_subset.mp named
    have mem : member ∈ members := here List.mem_cons_self
    have values := evalEach_mirrors fun e mem => ih e mem (part named mem) hp
    exact values.bind fun vs _ => .root mem fun _ answered => .ofExcept answered
  | @get target member args asked _ iht ih =>
    -- what is asked here is an object out of an answer, so the member is none of the root's
    have inside : (if target.isRoot then [member] else target.rootMembers) =
        target.rootMembers := by
      rw [asked.isRoot_eq_false]
      rfl
    rw [Bound.rootMembers, inside] at named
    obtain ⟨left, right⟩ := List.append_subset.mp named
    have values := evalEach_mirrors fun e mem => ih e mem (part right mem) hp
    exact (iht left hp).bind fun v hv => (Reading.Mirrors.ofExcept hv.asObject).bind fun o ho =>
      values.bind fun vs _ => .inner ho fun _ answered => .ofExcept answered
  | not _ ih =>
    exact (ih named hp).bind fun v _ => (Reading.Mirrors.ofExcept (.any _)).bind fun b _ =>
      .done (.bool _)
  | neg _ ih => exact (ih named hp).bind fun v _ => .ofExcept (Value.negate_within v)
  | and _ ih => exact (evalAnd_mirrors fun e mem => ih e mem (part named mem) hp).toBool
  | or _ ih => exact (evalOr_mirrors fun e mem => ih e mem (part named mem) hp).toBool
  | compare _ _ ihl ihr =>
    obtain ⟨left, right⟩ := List.append_subset.mp named
    exact (ihl left hp).bind fun v _ => (ihr right hp).bind fun w _ =>
      (Reading.Mirrors.ofExcept (.any _)).bind fun b _ => .done (.bool b)
  | arith _ _ ihl ihr =>
    obtain ⟨left, right⟩ := List.append_subset.mp named
    exact (ihl left hp).bind fun v _ => (ihr right hp).bind fun w _ =>
      .ofExcept (Value.arith_within _ v w)
  | within _ _ ihn ih =>
    obtain ⟨left, right⟩ := List.append_subset.mp named
    exact (ihn left hp).bind fun v _ =>
      (evalWithin_mirrors (fun e mem => ih e mem (part right mem) hp) v).toBool
  | quantify _ _ ihs ihb =>
    obtain ⟨left, right⟩ := List.append_subset.mp named
    refine (ihs left hp).bind fun v hv => (Reading.Mirrors.ofExcept hv.asList).bind fun vs hvs => ?_
    -- the parameter of the body is a value of the list, and has no other records in it
    refine .across (fun w hw => ?_) _
    exact (ihb right (List.forall_mem_cons.mpr ⟨hvs w hw, hp⟩)).bind fun v _ => .ofExcept (.any _)
  | has _ ih => exact (ih named hp).present.toBool
  | builtin _ ih =>
    exact (evalEach_mirrors fun e mem => ih e mem (part named mem) hp).bind fun vs _ =>
      .ofExcept (Value.apply_within _ vs)
  | matching _ ih =>
    exact (ih named hp).bind fun v _ => (Reading.Mirrors.ofExcept (.any _)).bind fun s _ =>
      .done (.bool _)

end Evaluation

/-- The two answers are the same, and what is answered later is as well. -/
def SameAnswer (inner : ο → Prop) (related : σ → σ' → Prop) (first : Except Stop (Value ο) × σ)
    (second : Except Stop (Value ο) × σ') : Prop :=
  first.1 = second.1 ∧ Answered inner first.1 ∧ related first.2 second.2

theorem SameAnswer.of_steady {records : Records ο σ} {records' : Records ο σ'}
    {answers : Answers ο} {s : σ} {s' : σ'} (steady : records.Steady answers s)
    (steady' : records'.Steady answers s') {target target' : ο} {member : MemberId}
    {args : List (Value ο)} (same : answers target member args = answers target' member args) :
    SameAnswer (fun _ => True) (fun s s' => records.Steady answers s ∧ records'.Steady answers s')
      (records.get target member args s) (records'.get target' member args s') := by
  obtain ⟨first, later⟩ := steady.get target member args
  obtain ⟨second, later'⟩ := steady'.get target' member args
  refine ⟨first.trans (same.trans second.symm), ?_, later, later'⟩
  cases (records.get target member args s).1 with
  | ok v => exact .ok (v.within_of_forall fun _ => trivial)
  | error => exact .error trivial

/-- From related states on the two root records give the same answers for these members, and inner
records give the same answers for all. -/
structure RootsAgree (members : List MemberId) (inner : ο → Prop) (related : σ → σ' → Prop)
    (records : Records ο σ) (records' : Records ο σ') (root root' : ο) : Prop where
  root : ∀ s s', related s s' → ∀ member ∈ members, ∀ args,
    SameAnswer inner related (records.get root member args s) (records'.get root' member args s')
  inner : ∀ s s', related s s' → ∀ target, inner target → ∀ member args,
    SameAnswer inner related (records.get target member args s)
      (records'.get target member args s')

theorem Reading.Mirrors.run_eq {members : List MemberId} {inner : ο → Prop}
    {related : σ → σ' → Prop} {records : Records ο σ} {records' : Records ο σ'} {root root' : ο}
    (agree : RootsAgree members inner related records records' root root') {gives : α → Prop}
    {x x' : Reading ο α} (h : Mirrors members inner root root' gives x x') {s : σ} {s' : σ'}
    (now : related s s') : (x.run records s).1 = (x'.run records' s').1 := by
  induction h generalizing s s' with
  | done | stop => rfl
  | @root member args next next' mem _ ih =>
    obtain ⟨same, answered, later⟩ := agree.root s s' now member mem args
    change ((next (records.get root member args s).1).run records _).1 =
      ((next' (records'.get root' member args s').1).run records' _).1
    rw [← same]
    exact ih _ answered later
  | @inner target member args next next' ho _ ih =>
    obtain ⟨same, answered, later⟩ := agree.inner s s' now target ho member args
    change ((next (records.get target member args s).1).run records _).1 =
      ((next' (records'.get target member args s').1).run records' _).1
    rw [← same]
    exact ih _ answered later

/-- A rule depends on the members of the root record that it names, and on no other ones. -/
theorem test_of_rootsAgree [Patterns] {catalog : Catalog} {schema : Schema} {text : String}
    {predicate : Predicate} (compiled : compile catalog schema text = .ok predicate)
    {inner : ο → Prop} {related : σ → σ' → Prop} {records : Records ο σ} {records' : Records ο σ'}
    {root root' : ο} (agree : RootsAgree predicate.bound.rootMembers inner related records records'
      root root') {s : σ} {s' : σ'} (now : related s s') :
    ((predicate.test root).run records s).1 = ((predicate.test root').run records' s').1 := by
  obtain ⟨e, -, resolved⟩ := resolves_of_compile compiled
  have mirrored : predicate.bound.Mirrored predicate.bound.rootMembers inner root root' [] :=
    resolved.rootAsked.mirrored (List.Subset.refl _) fun v mem => absurd mem List.not_mem_nil
  rw [Predicate.test_eq, Predicate.test_eq]
  exact (mirrored.bind fun v _ => .ofExcept (.any v.asBool)).run_eq agree now

/-- Records that answer steadily need to agree on nothing but these members. -/
theorem test_of_answers [Patterns] {catalog : Catalog} {schema : Schema} {text : String}
    {predicate : Predicate} (compiled : compile catalog schema text = .ok predicate)
    {answers : Answers ο} {root root' : ο}
    (agree : ∀ member ∈ predicate.bound.rootMembers, ∀ args,
      answers root member args = answers root' member args)
    {records : Records ο σ} {records' : Records ο σ'} {s : σ} {s' : σ'}
    (steady : records.Steady answers s) (steady' : records'.Steady answers s') :
    ((predicate.test root).run records s).1 = ((predicate.test root').run records' s').1 :=
  test_of_rootsAgree compiled
    ⟨fun _ _ now member mem args => .of_steady now.1 now.2 (agree member mem args),
      fun _ _ now _ _ _ _ => .of_steady now.1 now.2 rfl⟩
    ⟨steady, steady'⟩

end RecordRules

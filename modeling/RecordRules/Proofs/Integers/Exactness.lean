import RecordRules.Proofs.Integers.Following
import RecordRules.Regex.Library

namespace RecordRules

variable {ο σ : Type} {records : Records ο σ} {obeys : ο → Schema → Prop}

/-- The records keep to the catalog, the record is of the schema, and every parameter around has a
value of its type; lists are short. -/
structure Setting.Sound (records : Records ο σ) (obeys : ο → Schema → Prop)
    (setting : Setting ο) : Prop where
  conform : records.Conform setting.catalog obeys
  short : records.Short setting.catalog obeys
  record : obeys setting.record setting.schema
  params : ∀ param ∈ setting.params,
    Stands setting.catalog obeys param.type param.value (.ofValue param.value)

namespace Setting

theorem Sound.push {setting : Setting ο} (h : setting.Sound records obeys) {param : Parameter ο}
    (hp : Stands setting.catalog obeys param.type param.value (.ofValue param.value)) :
    (setting.push param).Sound records obeys :=
  ⟨h.conform, h.short, h.record, List.forall_mem_cons.mpr ⟨hp, h.params⟩⟩

theorem type_of_lookupParam {setting : Setting ο} {name : String} {slot : Nat} {type : Ty}
    (h : lookupParam name setting.scope.params = some (slot, type)) :
    ∃ param ∈ setting.params, setting.param? name = some param ∧ param.type = type := by
  have found := find?_of_lookupParam h
  rw [scope, List.find?_map, Option.map_eq_some_iff] at found
  obtain ⟨param, found, same⟩ := found
  exact ⟨param, List.mem_of_find?_eq_some found, found, (Prod.mk.inj same).2⟩

end Setting

theorem followEach_of_zip [Patterns] {setting : Setting ο} {es : List Expr} {xs : List Typed}
    (hlen : es.length = xs.length)
    (each : ∀ p ∈ es.zip xs, Follows records (p.1.interpret setting) (p.1.exactly records setting)
      (Stands setting.catalog obeys p.2.type)) :
    FollowEach records setting.catalog obeys xs (interpretEach es setting)
      (exactlyEach records es setting) := by
  induction es generalizing xs with
  | nil =>
    cases xs with
    | nil => exact .nil
    | cons x others => cases hlen
  | cons e rest ih =>
    cases xs with
    | nil => cases hlen
    | cons x others =>
      obtain ⟨first, hrest⟩ := List.forall_mem_cons.mp each
      exact .cons first (ih (Nat.succ.inj hlen) hrest)

/-- Every expression that is resolved goes as the exact computation. -/
theorem Resolves.follows [Patterns] {scope : Scope} {e : Expr} {x : Typed}
    (h : Resolves scope e x) {setting : Setting ο} (hs : setting.scope = scope)
    (sound : setting.Sound records obeys) :
    Follows records (e.interpret setting) (e.exactly records setting)
      (Stands setting.catalog obeys x.type) := by
  induction h generalizing setting with
  | @literal scope mark value =>
    have hasType : (value.toValue : Value ο).HasType setting.catalog obeys value.type :=
      .literal value
    exact .pure ⟨hasType, Value.short_literal value, rfl⟩
  | param found =>
    subst hs
    obtain ⟨param, mem, named, rfl⟩ := Setting.type_of_lookupParam found
    rw [Expr.interpret, Expr.exactly, Setting.ident, Setting.identExactly, named]
    exact .pure (sound.params param mem)
  | rootField free hm hk =>
    subst hs
    have hm : setting.schema.member? _ = _ := hm
    rw [← Member.type_of_field hk, Expr.interpret, Expr.exactly, Setting.ident,
      Setting.identExactly, Setting.param?_of_lookupParam_eq_none free, hm]
    refine FollowEach.nil.member sound.conform sound.short ?_ (Schema.mem_of_member? hm) ?_
    · exact .pure ⟨setting.record, rfl, rfl, sound.record⟩
    · rw [Member.params_of_field hk]
      exact .nil
  | @field scope mark target object schema name member type ht hm hk ih =>
    subst hs
    have hm : (setting.catalog.schema schema).member? name = some member := hm
    rw [← Member.type_of_field hk, Expr.interpret, Expr.exactly, ht.staticType, Setting.member,
      Setting.memberExactly, hm]
    refine FollowEach.nil.member sound.conform sound.short ?_ (Schema.mem_of_member? hm) ?_
    · exact (ih rfl sound).imp fun v w stands => stands.object_inv
    · rw [Member.params_of_field hk]
      exact .nil
  | rootCall hm hk hlen hall accepted ih =>
    subst hs
    have hm : setting.schema.member? _ = _ := hm
    have each := followEach_of_zip hlen fun p hp => ih p hp rfl sound
    rw [← Member.type_of_method hk, Expr.interpret, Expr.exactly, Setting.call,
      Setting.callExactly, hm]
    rw [← Member.params_of_method hk] at accepted
    refine each.member sound.conform sound.short ?_ (Schema.mem_of_member? hm) accepted
    exact .pure ⟨setting.record, rfl, rfl, sound.record⟩
  | @methodCall scope mark target object schema name member params returns args xs ht hm hk hlen
      hall accepted iht ih =>
    subst hs
    have hm : (setting.catalog.schema schema).member? name = some member := hm
    have each := followEach_of_zip hlen fun p hp => ih p hp rfl sound
    rw [← Member.type_of_method hk, Expr.interpret, Expr.exactly, ht.staticType, Setting.method,
      Setting.methodExactly, hm]
    rw [← Member.params_of_method hk] at accepted
    refine each.member sound.conform sound.short ?_ (Schema.mem_of_member? hm) accepted
    exact (iht rfl sound).imp fun v w stands => stands.object_inv
  | has absent reads ha ih =>
    subst hs
    have absent : setting.schema.member? "has" = none := absent
    rw [Expr.interpret, Expr.exactly, Setting.call, Setting.callExactly, absent]
    exact (ih rfl sound).present.toBool
  | abs absent ha numeric ih =>
    subst hs
    have absent : setting.schema.member? "abs" = none := absent
    rw [Expr.interpret, Expr.exactly, Setting.call, Setting.callExactly, absent]
    exact (ih rfl sound).plain_one fun v w stands => .absolute stands numeric
  | choice absent mem hx numx hy numy ihx ihy =>
    subst hs
    have absent : setting.schema.member? _ = none := absent
    rw [Expr.interpret, Expr.exactly, Setting.call, Setting.callExactly, absent]
    simp only [Reading.functionCall, Exactly.functionCall, (lookup_of_choice mem).1]
    exact (ihx rfl sound).plain_two (ihy rfl sound) fun v w v' w' stands stands' =>
      .choice mem stands numx stands' numy
  | stringProperty ht mem ih =>
    subst hs
    rw [Expr.interpret, Expr.exactly, ht.staticType, Setting.method, Setting.methodExactly,
      Reading.stringMethod, Exactly.stringMethod, (lookup_of_stringProperty mem).1]
    exact (ih rfl sound).plain_one fun v w stands => .stringProperty mem stands
  | stringTest ht mem ha ih iha =>
    subst hs
    rw [Expr.interpret, Expr.exactly, ht.staticType, Setting.method, Setting.methodExactly,
      Reading.stringMethod, Exactly.stringMethod, (lookup_of_stringTest mem).1]
    exact (ih rfl sound).plain_two (iha rfl sound) fun v w v' w' stands stands' =>
      .stringTest mem stands stands'
  | matching ht hp ih =>
    subst hs
    have free : plainMethods.lookup "matches" = none := by decide
    rw [Expr.interpret, Expr.exactly, ht.staticType, Setting.method, Setting.methodExactly,
      Reading.stringMethod, Exactly.stringMethod, free]
    simp only [if_true, Reading.patternTest, Exactly.patternTest, hp]
    refine (ih rfl sound).bind fun v w stands => (Follows.asString stands).bind fun s _ same => ?_
    subst same
    exact .pure (.bool _)
  | listLength ht ih =>
    subst hs
    rw [Expr.interpret, Expr.exactly, ht.staticType]
    exact (ih rfl sound).plain_one fun v w stands => .listLength stands
  | listContains ht ha scalar comparable ih iha =>
    subst hs
    rw [Expr.interpret, Expr.exactly, ht.staticType]
    exact (ih rfl sound).plain_two (iha rfl sound) fun v w v' w' stands stands' =>
      .listContains stands stands' comparable
  | quantified ht mem hb ih ihb =>
    subst hs
    obtain ⟨noPlain, quantifier, -⟩ := lookup_of_quantifier mem
    rw [Expr.interpret, Expr.exactly, ht.staticType, Setting.method, Setting.methodExactly,
      Reading.listMethod, Exactly.listMethod, noPlain, quantifier]
    refine (ih rfl sound).bind fun v w stands => (Follows.asList stands).bind fun vs _ list => ?_
    obtain ⟨rfl, short, each⟩ := list
    refine Follows.across (fun v mem => ?_) mem short
    exact (ihb rfl (sound.push (each v mem))).condition
  | not ho ih =>
    refine (ih hs sound).condition.bind fun b _ same => ?_
    subst same
    exact .pure (.bool _)
  | neg ho numeric ih => exact (ih hs sound).bind fun v w stands => .negate stands numeric
  | and hlen hall bools ih =>
    have each := followEach_of_zip hlen fun p hp => ih p hp hs sound
    exact (Follows.conjunction (each.conditions bools)).toBool
  | or hlen hall bools ih =>
    have each := followEach_of_zip hlen fun p hp => ih p hp hs sound
    exact (Follows.disjunction (each.conditions bools)).toBool
  | compare hx hy applies ihx ihy =>
    refine (ihx hs sound).bind fun v w hv => (ihy hs sound).bind fun v' w' hv' => ?_
    rw [Value.test_eq_holds hv hv' applies]
    exact .pure (.bool _)
  | arith hx numx hy numy ihx ihy =>
    refine (ihx hs sound).bind fun v w hv => (ihy hs sound).bind fun v' w' hv' => ?_
    exact .arith _ hv numx hv' numy
  | within hx scalar hlen hall comparable ihx ih =>
    have each := followEach_of_zip hlen fun p hp => ih p hp hs sound
    refine (ihx hs sound).bind fun v w needle => ?_
    exact (Follows.disjunction (each.tests needle comparable)).toBool

/-- The outcome from a stack of values of parameters. -/
def Machine.startOn {α : Type} (stack : Array (Value ο)) (x : Machine ο α) : Reading ο α := do
  match ← x.run.run' stack with
  | .ok value => pure value
  | .error reason => .fault reason

theorem Bound.startOn_exec (root : ο) (e : Bound) (params : List (Value ο)) :
    (e.exec root).startOn params.reverse.toArray = e.eval root params := by
  have outcome : (e.exec root).run.run' params.reverse.toArray = (e.eval root params).attempt := by
    rw [StateT.run'_eq, e.exec_does root params, Functor.map_map, id_map']
  rw [Machine.startOn, outcome]
  exact Reading.attempt_rethrow _

/-- Evaluation from the state gives a value only if that is the exact integer, and none of the
operations has a fault. It stops at the first operation that has one, and for no other reason than
that and the answers of records. -/
structure Reading.IsExact (records : Records ο σ) (state : σ) (x : Reading ο (Value ο))
    (ledger : Ledger σ (Exact ο)) : Prop where
  value : ∀ v after, x.run records state = (.ok v, after) →
    ∃ n, v = .int n ∧ ledger.result = .ok (.int n.toInt) ∧ ledger.state = after ∧
      ∀ operation ∈ ledger.operations, operation.fault? = none
  overflow : ∀ operation, Reached ledger.operations operation → operation.Overflows →
    (x.run records state).1 = .error (.fault .overflow)
  divisionByZero : ∀ operation, Reached ledger.operations operation → operation.DividesByZero →
    (x.run records state).1 = .error (.fault .divisionByZero)
  error : ∀ reason, (x.run records state).1 = .error reason →
    (reason = .fault .overflow ∧
      ∃ operation, Reached ledger.operations operation ∧ operation.Overflows) ∨
    (reason = .fault .divisionByZero ∧
      ∃ operation, Reached ledger.operations operation ∧ operation.DividesByZero) ∨
    (ledger.result = .error reason ∧ (∀ operation ∈ ledger.operations, operation.fault? = none) ∧
      ∃ exchange ∈ x.transcript records state, exchange.answer = .error reason)

theorem Matches.isExact {catalog : Catalog} {state : σ} {x : Reading ο (Value ο)}
    {ledger : Ledger σ (Exact ο)}
    (h : Matches records x state (Stands catalog obeys .int) ledger) :
    x.IsExact records state ledger := by
  refine ⟨fun v after run => ?_, fun operation reached overflows => ?_,
    fun operation reached zero => ?_, fun reason run => ?_⟩
  · obtain ⟨w, stands, result, ended, sound⟩ := h.of_ok run
    obtain ⟨n, rfl, rfl⟩ := stands.int_inv
    exact ⟨n, rfl, result, ended, firstFault?_eq_none_iff.mp sound⟩
  · have found := Operation.fault?_eq_overflow_iff.mpr overflows
    exact h.of_fault (firstFault?_eq_some_iff.mpr ⟨operation, reached, found⟩)
  · have found := Operation.fault?_eq_divisionByZero_iff.mpr zero
    exact h.of_fault (firstFault?_eq_some_iff.mpr ⟨operation, reached, found⟩)
  · rcases h.of_error run with ⟨fault, faulty, rfl⟩ | ⟨sound, result, answered⟩
    · obtain ⟨operation, reached, found⟩ := firstFault?_eq_some_iff.mp faulty
      rcases eq_divisionByZero_or_overflow faulty with rfl | rfl
      · have zero := Operation.fault?_eq_divisionByZero_iff.mp found
        exact .inr (.inl ⟨rfl, operation, reached, zero⟩)
      · have overflows := Operation.fault?_eq_overflow_iff.mp found
        exact .inl ⟨rfl, operation, reached, overflows⟩
    · exact .inr (.inr ⟨result, firstFault?_eq_none_iff.mp sound, answered⟩)

/-- Integers are exact: whatever the records answer, an expression of type int comes to the same
integer as over the unbounded integers, or stops where that one does not fit. -/
theorem isExact_of_bind [Patterns] {setting : Setting ο} {e : Expr} {x : Typed}
    (bound : e.bind setting.scope = .ok x) (isInt : x.type = .int)
    (sound : setting.Sound records obeys) (state : σ)
    (memory : InMemory (e.exactly records setting state).operations) :
    ((x.bound.exec setting.record).startOn setting.values.reverse.toArray).IsExact records state
      (e.exactly records setting state) := by
  have resolved := resolves_of_bind bound
  have follows := resolved.follows rfl sound
  rw [resolved.interpret setting rfl, isInt] at follows
  rw [Bound.startOn_exec]
  exact (follows state memory).isExact

/-- A compiled rule answers as its text does over the unbounded integers. -/
theorem test_follows_of_compile [Patterns] {catalog : Catalog} {root : Schema} {text : String}
    {predicate : Predicate} (compiled : compile catalog root text = .ok predicate) :
    ∃ e, parse text = .ok e ∧
      ∀ {record : ο}, Setting.Sound records obeys ⟨catalog, root, record, []⟩ →
        Follows records (predicate.test record)
          (e.exactly records ⟨catalog, root, record, []⟩).condition Eq := by
  obtain ⟨e, parsed, resolved⟩ := resolves_of_compile compiled
  refine ⟨e, parsed, fun {record} sound => ?_⟩
  have same := resolved.interpret ⟨catalog, root, record, []⟩ rfl
  have follows := (resolved.follows rfl sound).condition
  rw [same] at follows
  rw [Predicate.test_eq]
  exact follows

namespace Box

/-- The records are asked about this box only. -/
def pair : Box :=
  closed [3, -5] none

/-- There is a parameter around, with the value 4. -/
def limited : Setting Box :=
  ⟨catalog, schema, pair, [⟨"n", .int, .int 4⟩]⟩

theorem limited_sound :
    limited.Sound (.ofAnswers answer) fun box s => s = schema ∧ box = pair := by
  have stands (call : Call Box) (s : Schema) (member : Member)
      (declared : call.Declared catalog (fun box s => s = schema ∧ box = pair) s member)
      (v : Value Box) (answered : answer call.target call.member call.args = .ok v) :
      Stands catalog (fun box s => s = schema ∧ box = pair) member.type v (.ofValue v) := by
    obtain ⟨target, id, args⟩ := call
    obtain ⟨⟨rfl, here⟩, mem, same, -⟩ := declared
    subst same here
    rcases member_cases mem with rfl | rfl | rfl
    · cases answered
      have ints : ∀ w ∈ [(3 : Int64), -5].map Value.int,
          Stands catalog (fun box s => s = schema ∧ box = pair) .int w (.ofValue w) := by
        intro w hw
        obtain ⟨n, -, rfl⟩ := List.mem_map.mp hw
        exact .int n
      have short : (([(3 : Int64), -5].map (Value.int (ο := Box))).length : Int) ≤
          Int64.maxValue.toInt := by decide
      exact ⟨.list fun w hw => (ints w hw).hasType, .list short fun w hw => (ints w hw).short, rfl⟩
    · cases answered
    · obtain ⟨x, rfl⟩ := answer_scaled answered
      exact .float x
  refine ⟨fun call state s member declared v answered => ?_,
    fun call state s member declared v answered => ?_, ⟨rfl, rfl⟩, fun param mem => ?_⟩
  · exact (stands call s member declared v answered).hasType
  · exact (stands call s member declared v answered).short
  · obtain rfl := List.mem_singleton.mp mem
    exact .int 4

/-- The smallest integer is the difference of two others; it has no remainder by -1. -/
theorem isExact_smallest :
    ∃ e x, parse "(-9223372036854775807 - weights.count(w => w > -n)) % -1" = .ok e ∧
      e.bind limited.scope = .ok x ∧ x.type = .int ∧
      (((x.bound.exec pair).startOn #[.int 4]).run (.ofAnswers answer) ()).1 =
        .error (.fault .overflow) := by
  have operations :
      ((parse "(-9223372036854775807 - weights.count(w => w > -n)) % -1").toOption.bind fun e =>
        (e.bind limited.scope).toOption.map fun x =>
          (x.type, (e.exactly (Records.ofAnswers answer) limited ()).operations)) =
      some (.int, [.negate 9223372036854775807, .negate 4, .negate 4,
        .arith .sub (-9223372036854775807) 1, .negate 1,
        .arith .rem Int64.minValue.toInt (-1)]) := by
    decide +kernel
  cases parsed : parse "(-9223372036854775807 - weights.count(w => w > -n)) % -1" with
  | error reason =>
    rw [parsed] at operations
    cases operations
  | ok e =>
    cases bound : e.bind limited.scope with
    | error reason =>
      rw [parsed, Except.toOption, Option.bind_some, bound] at operations
      cases operations
    | ok x =>
      rw [parsed, Except.toOption, Option.bind_some, bound, Except.toOption, Option.map_some]
        at operations
      obtain ⟨isInt, operations⟩ := Prod.mk.inj (Option.some.inj operations)
      have faulty : firstFault? (e.exactly (Records.ofAnswers answer) limited ()).operations =
          some .overflow := by
        rw [operations]
        decide
      obtain ⟨operation, reached, found⟩ := firstFault?_eq_some_iff.mp faulty
      have memory : InMemory (e.exactly (Records.ofAnswers answer) limited ()).operations := by
        rintro s ⟨before, later, same, -⟩
        have mem : Operation.length s ∈ before ++ .length s :: later :=
          List.mem_append_right _ List.mem_cons_self
        rw [← same, operations] at mem
        simp at mem
      have exact := isExact_of_bind bound isInt limited_sound () memory
      have overflows := Operation.fault?_eq_overflow_iff.mp found
      exact ⟨e, x, rfl, bound, isInt, exact.overflow operation reached overflows⟩

end Box

end RecordRules

import RecordRules.Compile
import RecordRules.Proofs.Comparing
import RecordRules.Proofs.TypedValues

namespace RecordRules

variable {ο : Type} {other : CompareOp → Value ο → Value ο → Except Stop Bool}
  {obeys : ο → Schema → Prop} {record : ο} {scope : Scope}

/-- The test gives the same as that of evaluation wherever the operator is defined, and on numbers
without an order. -/
def ComparesAlike (other : CompareOp → Value ο → Value ο → Except Stop Bool) : Prop :=
  ∀ op a b, Value.Comparable op a b → other op a b = Value.test op a b

/-- The values are those of parameters in the scope. -/
def Scope.Admits (scope : Scope) (obeys : ο → Schema → Prop) (values : List (Value ο)) : Prop :=
  List.Forall₂ (Value.HasType scope.catalog obeys) values (scope.params.map Prod.snd)

/-- Evaluation puts declared calls only and gives a value of the type, unless arithmetic or an
answer stops it; and it does the same whichever way other values are compared. -/
def Typed.Safe (other : CompareOp → Value ο → Value ο → Except Stop Bool)
    (obeys : ο → Schema → Prop) (record : ο) (scope : Scope) (x : Typed) : Prop :=
  ∀ values, scope.Admits obeys values →
    Reading.Agree (Call.WellFormed scope.catalog obeys) (Call.Answers scope.catalog obeys)
      (Value.HasType scope.catalog obeys · x.type) Stop.Arithmetic
      (x.bound.evalBy other record values) (x.bound.eval record values)

/-- The slot of a parameter holds a value of its type. -/
theorem paramValue_of_lookupParam {catalog : Catalog} {name : String}
    {params : List (String × Ty)} {slot : Nat} {type : Ty} {values : List (Value ο)}
    (h : lookupParam name params = some (slot, type))
    (hv : List.Forall₂ (Value.HasType catalog obeys) values (params.map Prod.snd)) :
    ∃ v, paramValue slot values = pure v ∧ v.HasType catalog obeys type := by
  induction params generalizing values with
  | nil => cases h
  | cons p outer ih =>
    obtain ⟨v, rest, hfirst, hrest, rfl⟩ := List.forall₂_cons_right_iff.mp hv
    have hlen : rest.length = outer.length := by simpa using hrest.length_eq
    unfold lookupParam at h
    split at h
    next =>
      cases h
      exact ⟨v, by rw [paramValue, if_pos hlen.symm], hfirst⟩
    next =>
      obtain ⟨w, hw, htype⟩ := ih h hrest
      have lt := lookupParam_lt h
      exact ⟨w, by rw [paramValue, if_neg (by omega), hw], htype⟩

theorem forall_of_zip {es : List Expr} {xs : List Typed} {P : Typed → Prop}
    (hlen : es.length = xs.length) (h : ∀ p ∈ es.zip xs, P p.2) : ∀ x ∈ xs, P x := by
  intro x hx
  have second : (es.zip xs).map Prod.snd = xs := List.map_snd_zip (by omega)
  rw [← second] at hx
  obtain ⟨p, hp, rfl⟩ := List.mem_map.mp hx
  exact h p hp

/-- Values that the operator compares may be compared by the other test as well. -/
theorem compared_safe (alike : ComparesAlike other) {op : CompareOp} {v w : Value ο} {t u : Ty}
    (hv : v.HasType scope.catalog obeys t) (hw : w.HasType scope.catalog obeys u)
    (applies : op.applies t u) :
    Reading.Agree (Call.WellFormed scope.catalog obeys) (Call.Answers scope.catalog obeys)
      (fun _ => True) Stop.Arithmetic (.ofExcept (other op v w)) (.ofExcept (Value.test op v w)) := by
  rw [alike op v w (Value.comparable_of_applies hv hw applies)]
  obtain ⟨hs, ht⟩ := Value.isScalar_of_applies applies
  exact .ofExcept (Value.test_meets hv hw hs ht)

section Lists

variable {xs : List Typed} {values : List (Value ο)}
  (safe : ∀ x ∈ xs, x.Safe other obeys record scope) (hv : scope.Admits obeys values)
include safe hv

theorem evalEach_safe :
    Reading.Agree (Call.WellFormed scope.catalog obeys) (Call.Answers scope.catalog obeys)
      (List.Forall₂ (fun x v => Value.HasType scope.catalog obeys v x.type) xs) Stop.Arithmetic
      (evalEachBy other record (xs.map Typed.bound) values)
      (evalEach record (xs.map Typed.bound) values) := by
  induction xs with
  | nil => exact .done .nil
  | cons x rest ih =>
    obtain ⟨hx, hrest⟩ := List.forall_mem_cons.mp safe
    refine (hx values hv).bind fun v htype => ?_
    refine (ih hrest).bind fun vs htypes => ?_
    exact .done (.cons htype htypes)

theorem evalAnd_safe (bools : ∀ x ∈ xs, x.type = .bool) :
    Reading.Agree (Call.WellFormed scope.catalog obeys) (Call.Answers scope.catalog obeys)
      (fun _ => True) Stop.Arithmetic
      (evalAndBy other record (xs.map Typed.bound) values)
      (evalAnd record (xs.map Typed.bound) values) := by
  induction xs with
  | nil => exact .done trivial
  | cons x rest ih =>
    obtain ⟨hx, hrest⟩ := List.forall_mem_cons.mp safe
    obtain ⟨isBool, bools⟩ := List.forall_mem_cons.mp bools
    refine (hx values hv).bind fun v htype => ?_
    rw [isBool] at htype
    refine (Reading.Agree.ofExcept htype.asBool).bind fun b _ => ?_
    cases b with
    | true => exact ih hrest bools
    | false => exact .done trivial

theorem evalOr_safe (bools : ∀ x ∈ xs, x.type = .bool) :
    Reading.Agree (Call.WellFormed scope.catalog obeys) (Call.Answers scope.catalog obeys)
      (fun _ => True) Stop.Arithmetic
      (evalOrBy other record (xs.map Typed.bound) values)
      (evalOr record (xs.map Typed.bound) values) := by
  induction xs with
  | nil => exact .done trivial
  | cons x rest ih =>
    obtain ⟨hx, hrest⟩ := List.forall_mem_cons.mp safe
    obtain ⟨isBool, bools⟩ := List.forall_mem_cons.mp bools
    refine (hx values hv).bind fun v htype => ?_
    rw [isBool] at htype
    refine (Reading.Agree.ofExcept htype.asBool).bind fun b _ => ?_
    cases b with
    | true => exact .done trivial
    | false => exact ih hrest bools

theorem evalWithin_safe (alike : ComparesAlike other) {v : Value ο} {t : Ty}
    (hneedle : v.HasType scope.catalog obeys t)
    (comparable : ∀ x ∈ xs, t.comparableWith x.type) :
    Reading.Agree (Call.WellFormed scope.catalog obeys) (Call.Answers scope.catalog obeys)
      (fun _ => True) Stop.Arithmetic
      (evalWithinBy other record v (xs.map Typed.bound) values)
      (evalWithin record v (xs.map Typed.bound) values) := by
  induction xs with
  | nil => exact .done trivial
  | cons x rest ih =>
    obtain ⟨hx, hrest⟩ := List.forall_mem_cons.mp safe
    obtain ⟨applies, comparable⟩ := List.forall_mem_cons.mp comparable
    have applies : CompareOp.eq.applies t x.type := applies
    refine (hx values hv).bind fun w htype => ?_
    refine (compared_safe alike hneedle htype applies).bind fun b _ => ?_
    cases b with
    | true => exact .done trivial
    | false => exact ih hrest comparable

end Lists

theorem fits_of_accepts {catalog : Catalog} {params : List Ty} {xs : List Typed}
    {vs : List (Value ο)} (accepted : List.Forall₂ (fun param x => param.accepts x.type) params xs)
    (htypes : List.Forall₂ (fun x v => Value.HasType catalog obeys v x.type) xs vs) :
    List.Forall₂ (Value.Fits catalog obeys) params vs := by
  induction accepted generalizing vs with
  | nil =>
    cases htypes
    exact .nil
  | cons hp _ ih =>
    cases htypes with
    | cons hv hrest => exact .cons (hv.fits hp) (ih hrest)

/-- A built-in function is safe on safe arguments if it is on values of their types. -/
theorem builtin_safe {xs : List Typed} {function : Builtin} {type : Ty}
    (safe : ∀ x ∈ xs, x.Safe other obeys record scope)
    (meets : ∀ vs, List.Forall₂ (fun x v => Value.HasType scope.catalog obeys v x.type) xs vs →
      function.applyBy other vs = function.apply vs ∧
        Meets Stop.Arithmetic (Value.HasType scope.catalog obeys · type) (function.apply vs)) :
    Typed.Safe other obeys record scope ⟨.builtin function (xs.map Typed.bound), type⟩ := by
  intro values hv
  refine (evalEach_safe safe hv).bind fun vs htypes => ?_
  obtain ⟨same, hm⟩ := meets vs htypes
  rw [same]
  exact .ofExcept hm

theorem builtin_safe_one {x : Typed} {function : Builtin} {type : Ty}
    (safe : x.Safe other obeys record scope)
    (meets : ∀ v, Value.HasType scope.catalog obeys v x.type →
      function.applyBy other [v] = function.apply [v] ∧
        Meets Stop.Arithmetic (Value.HasType scope.catalog obeys · type) (function.apply [v])) :
    Typed.Safe other obeys record scope ⟨.builtin function [x.bound], type⟩ := by
  have each : ∀ y ∈ [x], y.Safe other obeys record scope := List.forall_mem_singleton.mpr safe
  refine builtin_safe each fun vs htypes => ?_
  obtain ⟨v, rest, hv, hrest, rfl⟩ := List.forall₂_cons_left_iff.mp htypes
  cases hrest
  exact meets v hv

theorem builtin_safe_two {x y : Typed} {function : Builtin} {type : Ty}
    (hx : x.Safe other obeys record scope) (hy : y.Safe other obeys record scope)
    (meets : ∀ v w, Value.HasType scope.catalog obeys v x.type →
      Value.HasType scope.catalog obeys w y.type →
      function.applyBy other [v, w] = function.apply [v, w] ∧
        Meets Stop.Arithmetic (Value.HasType scope.catalog obeys · type)
          (function.apply [v, w])) :
    Typed.Safe other obeys record scope ⟨.builtin function [x.bound, y.bound], type⟩ := by
  have each : ∀ z ∈ [x, y], z.Safe other obeys record scope := by
    intro z hz
    rcases List.mem_pair.mp hz with rfl | rfl
    · exact hx
    · exact hy
  refine builtin_safe each fun vs htypes => ?_
  obtain ⟨v, rest, hv, hrest, rfl⟩ := List.forall₂_cons_left_iff.mp htypes
  obtain ⟨w, last, hw, hlast, rfl⟩ := List.forall₂_cons_left_iff.mp hrest
  cases hlast
  exact meets v w hv hw

/-- A member read is safe on safe arguments if it is declared for their types. -/
theorem get_safe {target : Bound} {schema : Schema} {member : Member} (xs : List Typed)
    (htarget : ∀ values, scope.Admits obeys values →
      Reading.Agree (Call.WellFormed scope.catalog obeys) (Call.Answers scope.catalog obeys)
        (fun v => ∃ o, v = .object o ∧ obeys o schema) Stop.Arithmetic
        (target.evalBy other record values) (target.eval record values))
    (hm : member ∈ schema.members) (safe : ∀ x ∈ xs, x.Safe other obeys record scope)
    (accepted : List.Forall₂ (fun param x => param.accepts x.type) member.params xs) :
    Typed.Safe other obeys record scope
      ⟨.get target member.id (xs.map Typed.bound), member.type⟩ := by
  intro values hv
  refine (htarget values hv).bind fun v hobject => ?_
  obtain ⟨o, rfl, ho⟩ := hobject
  refine (evalEach_safe safe hv).bind fun vs htypes => ?_
  have declared : Call.Declared scope.catalog obeys ⟨o, member.id, vs⟩ schema member := by
    exact ⟨ho, hm, rfl, fits_of_accepts accepted htypes⟩
  refine .read ⟨schema, member, declared⟩ fun answer hanswer => ?_
  cases answer with
  | ok w => exact .done (hanswer schema member declared w rfl)
  | error reason => exact .stop (.inr rfl)

theorem quantify_safe {ask ask' : Value ο → Reading ο Bool} {vs : List (Value ο)} {name : String}
    {quantifier : Quantifier} {returns : Ty} (mem : (name, quantifier, returns) ∈ quantifiers)
    (h : ∀ v ∈ vs, Reading.Agree (Call.WellFormed scope.catalog obeys)
      (Call.Answers scope.catalog obeys) (fun _ => True) Stop.Arithmetic (ask v) (ask' v)) :
    Reading.Agree (Call.WellFormed scope.catalog obeys) (Call.Answers scope.catalog obeys)
      (Value.HasType scope.catalog obeys · returns) Stop.Arithmetic
      (quantifier.across ask vs) (quantifier.across ask' vs) := by
  simp only [quantifiers, List.mem_cons, Prod.mk.injEq, List.not_mem_nil, or_false] at mem
  rcases mem with ⟨-, rfl, rfl⟩ | ⟨-, rfl, rfl⟩ | ⟨-, rfl, rfl⟩
  · exact (Reading.Agree.anyOf h).map fun b _ => .bool b
  · exact (Reading.Agree.allOf h).map fun b _ => .bool b
  · exact (Reading.Agree.countOf h 0).map fun n _ => Value.ofCount_hasType n

theorem Resolves.safe [Patterns] {e : Expr} {x : Typed} (h : Resolves scope e x)
    (alike : ComparesAlike other) (hr : obeys record scope.root) :
    x.Safe other obeys record scope := by
  induction h with
  | literal => exact fun values hv => .done (.literal _)
  | param found =>
    intro values hv
    obtain ⟨v, hparam, htype⟩ := paramValue_of_lookupParam found hv
    simp only [Bound.evalBy, Bound.eval, hparam]
    exact .done htype
  | rootField _ hm hk =>
    rw [← Member.type_of_field hk]
    refine get_safe [] (fun values hv => .done ⟨record, rfl, hr⟩) (Schema.mem_of_member? hm) ?_ ?_
    · simp
    · rw [Member.params_of_field hk]
      exact .nil
  | field ht hm hk ih =>
    rw [← Member.type_of_field hk]
    refine get_safe [] (fun values hv => (ih hr values hv).imp fun v => Value.HasType.object_inv)
      (Schema.mem_of_member? hm) ?_ ?_
    · simp
    · rw [Member.params_of_field hk]
      exact .nil
  | rootCall hm hk hlen hall accepted ih =>
    rw [← Member.type_of_method hk]
    refine get_safe _ (fun values hv => .done ⟨record, rfl, hr⟩) (Schema.mem_of_member? hm) ?_ ?_
    · exact forall_of_zip hlen fun p hp => ih p hp hr
    · rwa [Member.params_of_method hk]
  | methodCall ht hm hk hlen hall accepted iht ih =>
    rw [← Member.type_of_method hk]
    refine get_safe _ (fun values hv => (iht hr values hv).imp fun v => Value.HasType.object_inv)
      (Schema.mem_of_member? hm) ?_ ?_
    · exact forall_of_zip hlen fun p hp => ih p hp hr
    · rwa [Member.params_of_method hk]
  | has absent reads ha ih =>
    intro values hv
    exact (ih hr values hv).present.map fun b _ => .bool b
  | abs absent ha numeric ih =>
    refine builtin_safe_one (ih hr) fun v htype => ?_
    exact Builtin.abs_meets htype numeric
  | choice absent mem hx numx hy numy ihx ihy =>
    refine builtin_safe_two (ihx hr) (ihy hr) fun v w hv hw => ?_
    exact Builtin.choice_meets mem hv numx hw numy
  | stringProperty ht mem ih =>
    refine builtin_safe_one (ih hr) fun v htype => ?_
    exact Builtin.stringProperty_meets mem htype
  | stringTest ht mem ha ih iha =>
    refine builtin_safe_two (ih hr) (iha hr) fun v w hv hw => ?_
    exact Builtin.stringTest_meets mem hv hw
  | matching ht hp ih =>
    intro values hv
    refine (ih hr values hv).bind fun v htype => ?_
    refine (Reading.Agree.ofExcept htype.asString).bind fun s _ => ?_
    exact .done (.bool _)
  | listLength ht ih =>
    refine builtin_safe_one (ih hr) fun v htype => ?_
    exact Builtin.length_meets htype
  | listContains ht ha scalar comparable ih iha =>
    refine builtin_safe_two (ih hr) (iha hr) fun v w hv hw => ?_
    exact Builtin.contains_meets alike hv hw comparable
  | quantified ht mem hb ih ihb =>
    intro values hv
    refine (ih hr values hv).bind fun v htype => ?_
    refine (Reading.Agree.ofExcept htype.asList).bind fun vs hvs => ?_
    refine quantify_safe mem fun w hw => ?_
    refine (ihb hr (w :: values) (.cons (hvs w hw) hv)).bind fun b hbool => ?_
    exact .ofExcept hbool.asBool
  | not ho ih =>
    intro values hv
    refine (ih hr values hv).bind fun v htype => ?_
    refine (Reading.Agree.ofExcept htype.asBool).bind fun b _ => ?_
    exact .done (.bool _)
  | neg ho numeric ih =>
    intro values hv
    rw [Bound.evalBy_negated, Bound.eval_negated]
    refine (ih hr values hv).bind fun v htype => ?_
    exact .ofExcept (Value.negate_meets htype numeric)
  | and hlen hall bools ih =>
    intro values hv
    have safe := forall_of_zip hlen fun p hp => ih p hp hr
    exact (evalAnd_safe safe hv bools).map fun b _ => .bool b
  | or hlen hall bools ih =>
    intro values hv
    have safe := forall_of_zip hlen fun p hp => ih p hp hr
    exact (evalOr_safe safe hv bools).map fun b _ => .bool b
  | compare hx hy applies ihx ihy =>
    intro values hv
    refine (ihx hr values hv).bind fun v hvtype => ?_
    refine (ihy hr values hv).bind fun w hwtype => ?_
    refine (compared_safe alike hvtype hwtype applies).bind fun b _ => ?_
    exact .done (.bool b)
  | arith hx numx hy numy ihx ihy =>
    intro values hv
    refine (ihx hr values hv).bind fun v hvtype => ?_
    refine (ihy hr values hv).bind fun w hwtype => ?_
    exact .ofExcept (Value.arith_meets _ hvtype numx hwtype numy)
  | within hx scalar hlen hall comparable ihx ih =>
    intro values hv
    have safe := forall_of_zip hlen fun p hp => ih p hp hr
    refine (ihx hr values hv).bind fun v htype => ?_
    exact (evalWithin_safe safe hv alike htype comparable).map fun b _ => .bool b

end RecordRules

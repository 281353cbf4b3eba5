import Mathlib.Data.List.Forall2
import RecordRules.Proofs.Evaluation

namespace RecordRules

variable {ο σ α β : Type}

/-- The types of the arguments that the member takes; a field takes none. -/
def Member.params (member : Member) : List Ty :=
  match member.kind with
  | .field _ => []
  | .method params _ => params

/-- The type of the values of the member. -/
def Member.type (member : Member) : Ty :=
  match member.kind with
  | .field type => type
  | .method _ returns => returns

theorem Member.params_of_field {member : Member} {type : Ty} (h : member.kind = .field type) :
    member.params = [] := by
  rw [params, h]

theorem Member.type_of_field {member : Member} {type : Ty} (h : member.kind = .field type) :
    member.type = type := by
  rw [Member.type, h]

theorem Member.params_of_method {member : Member} {types : List Ty} {returns : Ty}
    (h : member.kind = .method types returns) : member.params = types := by
  rw [params, h]

theorem Member.type_of_method {member : Member} {types : List Ty} {returns : Ty}
    (h : member.kind = .method types returns) : member.type = returns := by
  rw [Member.type, h]

/-- The value is of the type, where `obeys` says which schemas the records have. -/
inductive Value.HasType (catalog : Catalog) (obeys : ο → Schema → Prop) : Value ο → Ty → Prop
  | bool (b) : HasType catalog obeys (.bool b) .bool
  | int (n) : HasType catalog obeys (.int n) .int
  | float (x) : HasType catalog obeys (.float x) .float
  | string (s) : HasType catalog obeys (.string s) .string
  | object {o id} : obeys o (catalog.schema id) → HasType catalog obeys (.object o) (.object id)
  | list {vs element} : (∀ v ∈ vs, HasType catalog obeys v element) →
    HasType catalog obeys (.list vs) (.list element)

/-- The value may be the argument for a parameter of the type: an integer stands for a float. -/
def Value.Fits (catalog : Catalog) (obeys : ο → Schema → Prop) (param : Ty) (v : Value ο) : Prop :=
  ∃ given, param.accepts given ∧ v.HasType catalog obeys given

/-- The call is one of a declared member of its target, with arguments as declared. -/
structure Call.Declared (catalog : Catalog) (obeys : ο → Schema → Prop) (call : Call ο)
    (schema : Schema) (member : Member) : Prop where
  target : obeys call.target schema
  mem : member ∈ schema.members
  id : call.member = member.id
  args : List.Forall₂ (Value.Fits catalog obeys) member.params call.args

/-- The call is declared by a schema of its target. -/
def Call.WellFormed (catalog : Catalog) (obeys : ο → Schema → Prop) (call : Call ο) : Prop :=
  ∃ schema member, call.Declared catalog obeys schema member

/-- The answer is of the type that is declared for the call, unless it is none. -/
def Call.Answers (catalog : Catalog) (obeys : ο → Schema → Prop) (call : Call ο)
    (answer : Except Stop (Value ο)) : Prop :=
  ∀ schema member, call.Declared catalog obeys schema member → ∀ v, answer = .ok v →
    v.HasType catalog obeys member.type

/-- Records answer declared calls with values of the declared types, or not at all, whatever was
asked before. -/
def Records.Conform (catalog : Catalog) (obeys : ο → Schema → Prop) (records : Records ο σ) :
    Prop :=
  ∀ (call : Call ο) (state : σ),
    call.Answers catalog obeys (records.get call.target call.member call.args state).1

/-- A call and what was answered to it. -/
structure Exchange (ο : Type) where
  call : Call ο
  answer : Except Stop (Value ο)

/-- The calls of a computation on the given records with their answers, first one first. -/
def Reading.transcript (records : Records ο σ) : Reading ο α → σ → List (Exchange ο)
  | done _, _ => []
  | stop _, _ => []
  | read target member args next, state =>
    let (answer, after) := records.get target member args state
    ⟨⟨target, member, args⟩, answer⟩ :: (next answer).transcript records after

/-- A result that is of the one kind, or a reason to stop of the other. -/
inductive Meets (stops : Stop → Prop) (gives : α → Prop) : Except Stop α → Prop
  | ok {value} : gives value → Meets stops gives (.ok value)
  | error {reason} : stops reason → Meets stops gives (.error reason)

theorem Meets.mono {stops stops' : Stop → Prop} {gives : α → Prop} {result : Except Stop α}
    (h : Meets stops gives result) (le : ∀ reason, stops reason → stops' reason) :
    Meets stops' gives result := by
  cases h with
  | ok hv => exact .ok hv
  | error hr => exact .error (le _ hr)

/-- As long as the calls `asks` allows get answers that `answers` allows, the two computations do
the same: they put such calls only, and end as `gives` allows, or stop as `stops` allows or for
the reason of an answer. -/
inductive Reading.Agree (asks : Call ο → Prop) (answers : Call ο → Except Stop (Value ο) → Prop)
    (gives : α → Prop) : (Stop → Prop) → Reading ο α → Reading ο α → Prop
  | done {stops value} : gives value → Agree asks answers gives stops (.done value) (.done value)
  | stop {stops reason} : stops reason →
    Agree asks answers gives stops (.stop reason) (.stop reason)
  | read {stops target member args next next'} : asks ⟨target, member, args⟩ →
    (∀ answer, answers ⟨target, member, args⟩ answer →
      Agree asks answers gives (fun reason => stops reason ∨ answer = .error reason)
        (next answer) (next' answer)) →
    Agree asks answers gives stops (.read target member args next) (.read target member args next')

namespace Reading.Agree

variable {asks : Call ο → Prop} {answers : Call ο → Except Stop (Value ο) → Prop}
  {gives : α → Prop} {stops : Stop → Prop} {x x' : Reading ο α}

theorem mono (h : Agree asks answers gives stops x x') {stops' : Stop → Prop}
    (le : ∀ reason, stops reason → stops' reason) : Agree asks answers gives stops' x x' := by
  induction h generalizing stops' with
  | done hv => exact .done hv
  | stop hr => exact .stop (le _ hr)
  | read ha _ ih =>
    exact .read ha fun answer hanswer => ih answer hanswer fun reason => Or.imp_left (le reason)

theorem imp (h : Agree asks answers gives stops x x') {gives' : α → Prop}
    (le : ∀ value, gives value → gives' value) : Agree asks answers gives' stops x x' := by
  induction h with
  | done hv => exact .done (le _ hv)
  | stop hr => exact .stop hr
  | read ha _ ih => exact .read ha ih

theorem bind {f f' : α → Reading ο β} {gives' : β → Prop}
    (h : Agree asks answers gives stops x x')
    (hf : ∀ value, gives value → Agree asks answers gives' stops (f value) (f' value)) :
    Agree asks answers gives' stops (x >>= f) (x' >>= f') := by
  induction h with
  | done hv => exact hf _ hv
  | stop hr => exact .stop hr
  | read ha _ ih =>
    exact .read ha fun answer hanswer =>
      ih answer hanswer fun value hv => (hf value hv).mono fun _ => Or.inl

theorem map {f : α → β} {gives' : β → Prop} (h : Agree asks answers gives stops x x')
    (hf : ∀ value, gives value → gives' (f value)) :
    Agree asks answers gives' stops (f <$> x) (f <$> x') := by
  rw [map_eq_pure_bind, map_eq_pure_bind]
  exact h.bind fun value hv => .done (hf value hv)

theorem present (h : Agree asks answers gives stops x x') :
    Agree asks answers (fun _ => True) stops x.present x'.present := by
  induction h with
  | done => exact .done trivial
  | @stop stops reason hr =>
    cases reason with
    | fault fault =>
      cases fault with
      | absent => exact .done trivial
      | _ => exact .stop hr
    | panic => exact .stop hr
  | read ha _ ih => exact .read ha ih

theorem ofExcept {result : Except Stop α} (h : Meets stops gives result) :
    Agree asks answers gives stops (Reading.ofExcept result) (Reading.ofExcept result) := by
  cases h with
  | ok hv => exact .done hv
  | error hr => exact .stop hr

section Each

variable {ask ask' : Value ο → Reading ο Bool} {vs : List (Value ο)}
  (h : ∀ v ∈ vs, Agree asks answers (fun _ => True) stops (ask v) (ask' v))
include h

theorem anyOf :
    Agree asks answers (fun _ => True) stops (Quantifier.anyOf ask vs) (Quantifier.anyOf ask' vs) := by
  induction vs with
  | nil => exact .done trivial
  | cons v rest ih =>
    obtain ⟨hv, hrest⟩ := List.forall_mem_cons.mp h
    refine hv.bind fun b _ => ?_
    cases b with
    | true => exact .done trivial
    | false => exact ih hrest

theorem allOf :
    Agree asks answers (fun _ => True) stops (Quantifier.allOf ask vs) (Quantifier.allOf ask' vs) := by
  induction vs with
  | nil => exact .done trivial
  | cons v rest ih =>
    obtain ⟨hv, hrest⟩ := List.forall_mem_cons.mp h
    refine hv.bind fun b _ => ?_
    cases b with
    | true => exact ih hrest
    | false => exact .done trivial

theorem countOf (counted : Nat) :
    Agree asks answers (fun _ => True) stops (Quantifier.countOf ask counted vs)
      (Quantifier.countOf ask' counted vs) := by
  induction vs generalizing counted with
  | nil => exact .done trivial
  | cons v rest ih =>
    obtain ⟨hv, hrest⟩ := List.forall_mem_cons.mp h
    exact hv.bind fun b _ => ih hrest _

end Each

section Run

variable {records : Records ο σ}
  (ready : ∀ (call : Call ο) (state : σ),
    answers call (records.get call.target call.member call.args state).1)
include ready

theorem run_eq (h : Agree asks answers gives stops x x') (state : σ) :
    x.run records state = x'.run records state := by
  induction h generalizing state with
  | done => rfl
  | stop => rfl
  | read _ _ ih => exact ih _ (ready _ state) _

/-- A computation that stops does so for a reason of its own, or for one that it was given as an
answer. -/
theorem run_result (h : Agree asks answers gives stops x x') (state : σ) :
    Meets (fun reason => stops reason ∨
      ∃ exchange ∈ x.transcript records state, exchange.answer = .error reason) gives
      (x.run records state).1 := by
  induction h generalizing state with
  | done hv => exact .ok hv
  | stop hr => exact .error (.inl hr)
  | @read stops target member args next next' _ _ ih =>
    have result := ih _ (ready ⟨target, member, args⟩ state) (records.get target member args state).2
    refine result.mono fun reason hr => ?_
    rcases hr with (hr | hr) | ⟨exchange, mem, hr⟩
    · exact .inl hr
    · exact .inr ⟨_, List.mem_cons_self, hr⟩
    · exact .inr ⟨exchange, List.mem_cons_of_mem _ mem, hr⟩

theorem asks_of_mem_transcript (h : Agree asks answers gives stops x x') (state : σ)
    {exchange : Exchange ο} (mem : exchange ∈ x.transcript records state) :
    asks exchange.call := by
  induction h generalizing state with
  | done => cases mem
  | stop => cases mem
  | read ha _ ih =>
    rcases List.mem_cons.mp mem with rfl | mem
    · exact ha
    · exact ih _ (ready _ state) _ mem

end Run

end Reading.Agree

/-- A box with weights in it, and perhaps another box. -/
inductive Box where
  | closed (weights : List Int64) (inner : Option Box)

namespace Box

def schema : Schema :=
  .ofMembers "Box" [
    ("weights", .field (.list .int)),
    ("inner", .field (.object ⟨0⟩)),
    ("scaled", .method [.float] .float)]

def catalog : Catalog :=
  ⟨fun _ => schema⟩

def answer : Box → MemberId → List (Value Box) → Except Stop (Value Box)
  | closed weights _, ⟨0⟩, _ => .ok (.list (weights.map .int))
  | closed _ (some box), ⟨1⟩, _ => .ok (.object box)
  | _, ⟨2⟩, .int n :: _ => .ok (.float (Number.float64 n))
  | _, ⟨2⟩, .float x :: _ => .ok (.float x)
  | _, _, _ => .error (.fault (.absent "inner"))

theorem member_cases {member : Member} (mem : member ∈ schema.members) :
    member = ⟨"weights", ⟨0⟩, .field (.list .int)⟩ ∨
      member = ⟨"inner", ⟨1⟩, .field (.object ⟨0⟩)⟩ ∨
      member = ⟨"scaled", ⟨2⟩, .method [.float] .float⟩ := by
  simpa [schema, Schema.ofMembers] using mem

theorem answer_scaled {box : Box} {args : List (Value Box)} {v : Value Box}
    (h : answer box ⟨2⟩ args = .ok v) : ∃ x, v = .float x := by
  obtain ⟨weights, inner⟩ := box
  match args, h with
  | .int n :: _, h => cases h; exact ⟨_, rfl⟩
  | .float x :: _, h => cases h; exact ⟨_, rfl⟩

theorem conform : (Records.ofAnswers answer).Conform catalog fun _ s => s = schema := by
  intro call state s member declared v hv
  obtain ⟨⟨weights, inner⟩, id, args⟩ := call
  obtain ⟨rfl, mem, hid, -⟩ := declared
  subst hid
  rcases member_cases mem with rfl | rfl | rfl
  · cases hv
    refine .list fun w hw => ?_
    obtain ⟨n, -, rfl⟩ := List.mem_map.mp hw
    exact .int n
  · cases inner with
    | none => cases hv
    | some box =>
      cases hv
      exact .object rfl
  · obtain ⟨x, rfl⟩ := answer_scaled hv
    exact .float x

end Box

end RecordRules

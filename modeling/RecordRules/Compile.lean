import RecordRules.Binder

namespace RecordRules

variable [Patterns]

/-- The rule in the text, for records of the schema `root`. -/
def compile (catalog : Catalog) (root : Schema) (text : String) :
    Except CompileError Predicate :=
  if Text.allBlank text.toList then .error ⟨.empty, none, text⟩
  else
    match parse text with
    | .error e => .error ⟨.malformed (.unexpected e.expected), some e.offset, text⟩
    | .ok e =>
      match e.bind ⟨catalog, root, []⟩ with
      | .error reason => .error ⟨reason.fault, some reason.offset, text⟩
      | .ok typed =>
        if typed.type = .bool then .ok ⟨typed.bound⟩
        else .error ⟨.notBoolean (typed.type.render catalog), some e.span.start, text⟩

end RecordRules

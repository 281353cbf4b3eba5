namespace RecordRules

/-- The number by which a record is asked for one of its members. -/
structure MemberId where
  index : Nat
deriving DecidableEq

/-- The number of a schema in a catalogue. -/
structure SchemaId where
  index : Nat
deriving DecidableEq

inductive Ty where
  | bool
  | int
  | float
  | string
  | object (schema : SchemaId)
  | list (element : Ty)
deriving DecidableEq

namespace Ty

def isNumeric : Ty → Bool
  | int | float => true
  | _ => false

def isScalar : Ty → Bool
  | bool | int | float | string => true
  | _ => false

/-- Values of the two types can be tested for equality. -/
def comparableWith : Ty → Ty → Bool
  | bool, bool | string, string => true
  | a, b => a.isNumeric && b.isNumeric

/-- The type of an operation on two numbers: an integer only if both are. -/
def numericJoin : Ty → Ty → Ty
  | int, int => int
  | _, _ => float

/-- An argument of type `given` may stand where `wanted` is declared. -/
def accepts (wanted given : Ty) : Bool :=
  given == wanted || (wanted == float && given == int)

end Ty

inductive MemberKind where
  | field (type : Ty)
  | method (params : List Ty) (returns : Ty)
deriving DecidableEq

structure Member where
  name : String
  id : MemberId
  kind : MemberKind
deriving DecidableEq

structure Schema where
  name : String
  members : List Member

/-- The schema with these members, numbered by their positions. -/
def Schema.ofMembers (name : String) (members : List (String × MemberKind)) : Schema where
  name := name
  members := members.zipIdx.map fun ((name, kind), index) => ⟨name, ⟨index⟩, kind⟩

/-- The first member of that name. -/
def Schema.member? (schema : Schema) (name : String) : Option Member :=
  schema.members.find? (·.name == name)

/-- The schemas that object types refer to, which may refer to each other. -/
structure Catalog where
  schema : SchemaId → Schema

/-- The spelling of a type in messages. -/
def Ty.render (catalog : Catalog) : Ty → String
  | bool => "bool"
  | int => "int"
  | float => "float"
  | string => "string"
  | object schema => (catalog.schema schema).name
  | list element => "list<" ++ element.render catalog ++ ">"

end RecordRules

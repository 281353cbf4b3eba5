import RecordRules.Unicode.Casing
import RecordRules.Unicode.Property

namespace RecordRules.Text

/-- The nearest character that does not ignore case is a letter with case. -/
def meetsCased (cs : List Char) : Bool :=
  match cs.dropWhile Unicode.caseIgnorable.contains with
  | c :: _ => Unicode.cased.contains c
  | [] => false

/-- A capital sigma becomes its final form where a word ends. -/
def lowercaseAfter (before : List Char) : List Char → List Char
  | [] => []
  | c :: rest =>
    let lower :=
      if c = 'Σ' then [if meetsCased before && !meetsCased rest then 'ς' else 'σ']
      else Unicode.lowercaseOf c
    lower ++ lowercaseAfter (c :: before) rest

def lowercase (s : String) : String :=
  String.ofList (lowercaseAfter [] s.toList)

def uppercase (s : String) : String :=
  String.ofList (s.toList.flatMap Unicode.uppercaseOf)

end RecordRules.Text

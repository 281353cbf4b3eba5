import RecordRules.Regex.Library
import RecordRules.RuleSet
import RecordRules.Section
import RecordRules.Text.Lines
import RecordRules.Text.Quoted

namespace RecordRules

/-- Why the contents of a file are no rule source. -/
inductive LoadFailure where
  | notFound
  | invalidText
deriving DecidableEq

structure LoadError where
  path : String
  cause : LoadFailure
deriving DecidableEq

def LoadFailure.message : LoadFailure → String
  | notFound => "No such file or directory (os error 2)"
  | invalidText => "stream did not contain valid UTF-8"

def LoadError.message (e : LoadError) : String :=
  "failed to read rule file " ++ e.path ++ ": " ++ e.cause.message

/-- How rule sets are loaded: the name of the source if it has one of its own, and the place for
events. -/
structure Loader where
  label : Option String
  sink : Option SinkId

namespace Loader

def render (loader : Loader) : String :=
  let label :=
    match loader.label with
    | some label => "Some(" ++ String.ofList (Text.quoted label.toList) ++ ")"
    | none => "None"
  "Loader \x7b label: " ++ label ++ ", .. \x7d"

/-- The rule set, with an event for every rule that does not compile and one for the whole. -/
def finish (loader : Loader) (label : String) (rules : List Rule) : Reported RuleSet :=
  let loaded : RuleSet := ⟨label, rules, loader.sink⟩
  let uncompiled := rules.filterMap fun rule =>
    rule.error?.map fun reason => Event.uncompiled label rule.line reason rule.raw
  ⟨loaded, loader.sink, uncompiled ++ [.loaded label loaded.size loaded.failedCount]⟩

variable [Patterns] (catalog : Catalog) (root : Schema)

/-- The rules of a source, which blank lines separate. -/
def sourceRules (text : String) : List Rule :=
  (Section.split (Text.lines (Text.feedLines text.toList))).map fun s =>
    Rule.compile catalog root (String.ofList s.text) (String.ofList s.raw) s.line

/-- Rules of one line each, numbered from 1 on. -/
def lineRules (lines : List String) : List Rule :=
  (lines.zipIdx 1).map fun (line, number) => Rule.compile catalog root line line number

def loadString (loader : Loader) (text : String) : Reported RuleSet :=
  loader.finish (loader.label.getD "<string>") (sourceRules catalog root text)

def loadList (loader : Loader) (lines : List String) : Reported RuleSet :=
  loader.finish (loader.label.getD "<list>") (lineRules catalog root lines)

/-- Load the contents of the file at the path, if there is one. -/
def loadFile (loader : Loader) (path : String) (contents : Option ByteArray) :
    Except LoadError (Reported RuleSet) :=
  match contents with
  | none => .error ⟨path, .notFound⟩
  | some bytes =>
    match String.fromUTF8? bytes with
    | none => .error ⟨path, .invalidText⟩
    | some text => .ok (loader.finish (loader.label.getD path) (sourceRules catalog root text))

end Loader

end RecordRules

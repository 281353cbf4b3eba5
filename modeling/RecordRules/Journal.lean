import RecordRules.Event

namespace RecordRules

/-- One of the places where events are kept. -/
structure SinkId where
  index : Nat
deriving DecidableEq

/-- A result with the events on the way to it, in order, and the place for them, if any. -/
structure Reported (α : Type) where
  value : α
  sink : Option SinkId
  events : List Event

/-- The events kept so far, oldest first, each with its place. -/
structure Journal where
  entries : List (SinkId × Event)

namespace Journal

def empty : Journal :=
  ⟨[]⟩

/-- The journal with these events at the end of that place. -/
def append (journal : Journal) (sink : SinkId) (events : List Event) : Journal :=
  ⟨journal.entries ++ events.map (sink, ·)⟩

/-- The journal after a result was reported. Events that have no place are lost. -/
def receive {α : Type} (journal : Journal) (r : Reported α) : Journal :=
  match r.sink with
  | some sink => journal.append sink r.events
  | none => journal

def events (journal : Journal) (sink : SinkId) : List Event :=
  journal.entries.filterMap fun (place, event) => if place = sink then some event else none

def atLevel (journal : Journal) (sink : SinkId) (level : Level) : List Event :=
  (journal.events sink).filter (·.level = level)

def infos (journal : Journal) (sink : SinkId) : List Event :=
  journal.atLevel sink .info

def errors (journal : Journal) (sink : SinkId) : List Event :=
  journal.atLevel sink .error

def clear (journal : Journal) (sink : SinkId) : Journal :=
  ⟨journal.entries.filter (·.1 ≠ sink)⟩

end Journal

end RecordRules

import RecordRules.Text.Blank

namespace RecordRules

/-- A block of lines as the source has it, with the number of its first line. -/
structure Section where
  /-- The lines without their comments, each ended by a line feed. -/
  text : List Char
  /-- The lines as written, with line feeds between them. -/
  raw : List Char
  line : Nat
deriving DecidableEq

namespace Section

/-- The line up to its comment. -/
def uncommented : List Char → List Char
  | '/' :: '/' :: _ => []
  | c :: rest => c :: uncommented rest
  | [] => []

def ofLines (number : Nat) (lines : List (List Char)) : Section :=
  ⟨lines.flatMap fun line => uncommented line ++ ['\n'], ['\n'].intercalate lines, number⟩

/-- The section of a block of lines, unless nothing but comments is in it. -/
def ofBlock? (number : Nat) (lines : List (List Char)) : Option Section :=
  let s := ofLines number lines
  if Text.allBlank s.text then none else some s

/-- The sections of the lines from that number on, where the block that ends before them, last
line first, may go on. -/
def splitFrom (number : Nat) (block : List (List Char)) : List (List Char) → List Section
  | [] => (ofBlock? (number - block.length) block.reverse).toList
  | line :: rest =>
    if Text.allBlank line then
      (ofBlock? (number - block.length) block.reverse).toList ++ splitFrom (number + 1) [] rest
    else splitFrom (number + 1) (line :: block) rest

/-- The blocks between blank lines. -/
def split (lines : List (List Char)) : List Section :=
  splitFrom 1 [] lines

end Section

end RecordRules

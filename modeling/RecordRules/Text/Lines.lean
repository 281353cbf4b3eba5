namespace RecordRules.Text

/-- The text with a line feed for every line end, be it a carriage return, a line feed, or the two
together. -/
def feedLines : List Char → List Char
  | '\r' :: '\n' :: rest => '\n' :: feedLines rest
  | '\r' :: rest => '\n' :: feedLines rest
  | c :: rest => c :: feedLines rest
  | [] => []

/-- The lines of a text, without the line feeds that end them. -/
def lines : List Char → List (List Char)
  | [] => []
  | c :: rest =>
    if c = '\n' then [] :: lines rest
    else
      match lines rest with
      | [] => [[c]]
      | line :: others => (c :: line) :: others

end RecordRules.Text

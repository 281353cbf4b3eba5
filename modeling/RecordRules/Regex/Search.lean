import RecordRules.Regex.Basic

namespace RecordRules.Regex

/-- Matches the empty text between these two characters. -/
def nullable (before after : Option Char) : Regex → Bool
  | empty => true
  | one _ => false
  | look condition => condition.holds before after
  | seq r s => r.nullable before after && s.nullable before after
  | alt r s => r.nullable before after || s.nullable before after
  | times least _ r => least == 0 || r.nullable before after

/-- First the one, then the other. -/
def followedBy : Regex → Regex → Regex
  | empty, s => s
  | r, empty => r
  | r, s => seq r s

/-- What may remain to be matched once the character after `before` is taken. -/
def remainders (before : Option Char) (c : Char) : Regex → List Regex
  | empty | look _ => []
  | one set => if set.contains c then [empty] else []
  | seq r s =>
    (r.remainders before c).map (·.followedBy s) ++
      if r.nullable before (some c) then s.remainders before c else []
  | alt r s => r.remainders before c ++ s.remainders before c
  | times least most r =>
    if most == some 0 then []
    else
      let first := r.remainders before c
      let skipped := least != 0 && r.nullable before (some c)
      let after (least : Nat) := first.map (·.followedBy (times least (most.map (· - 1)) r))
      after (least - 1) ++ if skipped then after 0 else []

/-- One of the expressions matches a text that begins here, or `r` one that begins here or later. -/
def searchFrom (r : Regex) (before : Option Char) (waiting : List Regex) : List Char → Bool
  | [] => (r :: waiting).any (·.nullable before none)
  | c :: rest =>
    let tried := r :: waiting
    tried.any (·.nullable before (some c)) ||
      searchFrom r (some c) (tried.flatMap (·.remainders before c)).eraseDups rest

/-- Some part of the text matches. -/
def isMatch (r : Regex) (text : List Char) : Bool :=
  r.searchFrom none [] text

end RecordRules.Regex

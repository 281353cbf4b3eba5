import RecordRules.Unicode.Property

namespace RecordRules.Unicode

/-- A name without case, spaces, underscores, hyphens and a leading `is`; but `isc` is a name. -/
def plainName (name : List Char) : String :=
  let plain (cs : List Char) : String :=
    let kept := cs.filter fun c => c.toNat < 0x80 && c != ' ' && c != '_' && c != '-'
    String.ofList (kept.map Char.toLower)
  match name with
  | first :: second :: rest =>
    if first.toLower == 'i' && second.toLower == 's' then
      if plain rest == "c" then "isc" else plain rest
    else plain name
  | _ => plain name

/-- The general categories and the groups of them, under their short and long names. -/
def categoryNames : List (List String × List Category) :=
  let letters := [.uppercaseLetter, .lowercaseLetter, .titlecaseLetter]
  let marks := [.nonspacingMark, .spacingMark, .enclosingMark]
  let numbers := [.decimalNumber, .letterNumber, .otherNumber]
  let punctuation := [.connectorPunctuation, .dashPunctuation, .openPunctuation,
    .closePunctuation, .initialPunctuation, .finalPunctuation, .otherPunctuation]
  let symbols := [.mathSymbol, .currencySymbol, .modifierSymbol, .otherSymbol]
  let separators := [.spaceSeparator, .lineSeparator, .paragraphSeparator]
  [ (["l", "letter"], letters ++ [.modifierLetter, .otherLetter]),
    (["lc", "casedletter"], letters),
    (["lu", "uppercaseletter"], [.uppercaseLetter]),
    (["ll", "lowercaseletter"], [.lowercaseLetter]),
    (["lt", "titlecaseletter"], [.titlecaseLetter]),
    (["lm", "modifierletter"], [.modifierLetter]),
    (["lo", "otherletter"], [.otherLetter]),
    (["m", "mark", "combiningmark"], marks),
    (["mn", "nonspacingmark"], [.nonspacingMark]),
    (["mc", "spacingmark"], [.spacingMark]),
    (["me", "enclosingmark"], [.enclosingMark]),
    (["n", "number"], numbers),
    (["nd", "decimalnumber", "digit"], [.decimalNumber]),
    (["nl", "letternumber"], [.letterNumber]),
    (["no", "othernumber"], [.otherNumber]),
    (["p", "punctuation", "punct"], punctuation),
    (["pc", "connectorpunctuation"], [.connectorPunctuation]),
    (["pd", "dashpunctuation"], [.dashPunctuation]),
    (["ps", "openpunctuation"], [.openPunctuation]),
    (["pe", "closepunctuation"], [.closePunctuation]),
    (["pi", "initialpunctuation"], [.initialPunctuation]),
    (["pf", "finalpunctuation"], [.finalPunctuation]),
    (["po", "otherpunctuation"], [.otherPunctuation]),
    (["s", "symbol"], symbols),
    (["sm", "mathsymbol"], [.mathSymbol]),
    (["sc", "currencysymbol"], [.currencySymbol]),
    (["sk", "modifiersymbol"], [.modifierSymbol]),
    (["so", "othersymbol"], [.otherSymbol]),
    (["z", "separator"], separators),
    (["zs", "spaceseparator"], [.spaceSeparator]),
    (["zl", "lineseparator"], [.lineSeparator]),
    (["zp", "paragraphseparator"], [.paragraphSeparator]),
    (["c", "other"], [.control, .format, .surrogate, .privateUse, .unassigned]),
    (["cc", "control", "cntrl"], [.control]),
    (["cf", "format"], [.format]),
    (["co", "privateuse"], [.privateUse]),
    (["cn", "unassigned"], [.unassigned]) ]

def categoriesNamed? (name : String) : Option (List Category) :=
  (categoryNames.find? (·.1.contains name)).map (·.2)

/-- The properties under their short and long names. -/
def propertyNames : List (List String × Property) :=
  [ (["ahex", "asciihexdigit"], asciiHexDigit),
    (["alpha", "alphabetic"], alphabetic),
    (["bidic", "bidicontrol"], bidiControl),
    (["bidim", "bidimirrored"], bidiMirrored),
    (["ci", "caseignorable"], caseIgnorable),
    (["cased"], cased),
    (["cwcf", "changeswhencasefolded"], changesWhenCasefolded),
    (["cwcm", "changeswhencasemapped"], changesWhenCasemapped),
    (["cwl", "changeswhenlowercased"], changesWhenLowercased),
    (["cwt", "changeswhentitlecased"], changesWhenTitlecased),
    (["cwu", "changeswhenuppercased"], changesWhenUppercased),
    (["dash"], dash),
    (["dep", "deprecated"], deprecatedCodePoint),
    (["di", "defaultignorablecodepoint"], defaultIgnorable),
    (["dia", "diacritic"], diacritic),
    (["ebase", "emojimodifierbase"], emojiModifierBase),
    (["ecomp", "emojicomponent"], emojiComponent),
    (["emod", "emojimodifier"], emojiModifier),
    (["emoji"], emoji),
    (["epres", "emojipresentation"], emojiPresentation),
    (["ext", "extender"], extender),
    (["extpict", "extendedpictographic"], extendedPictographic),
    (["grbase", "graphemebase"], graphemeBase),
    (["grext", "graphemeextend"], graphemeExtend),
    (["hex", "hexdigit"], hexDigit),
    (["idc", "idcontinue"], idContinue),
    (["ideo", "ideographic"], ideographic),
    (["ids", "idstart"], idStart),
    (["idsb", "idsbinaryoperator"], idsBinaryOperator),
    (["idst", "idstrinaryoperator"], idsTrinaryOperator),
    (["joinc", "joincontrol"], joinControl),
    (["loe", "logicalorderexception"], logicalOrderException),
    (["lower", "lowercase"], lowercase),
    (["math"], math),
    (["nchar", "noncharactercodepoint"], noncharacter),
    (["patsyn", "patternsyntax"], patternSymbol),
    (["patws", "patternwhitespace"], patternWhiteSpace),
    (["pcm", "prependedconcatenationmark"], prependedConcatenationMark),
    (["qmark", "quotationmark"], quotationMark),
    (["radical"], radical),
    (["ri", "regionalindicator"], regionalIndicator),
    (["sd", "softdotted"], softDotted),
    (["sterm", "sentenceterminal"], sentenceTerminal),
    (["term", "terminalpunctuation"], terminalPunctuation),
    (["uideo", "unifiedideograph"], unifiedIdeograph),
    (["upper", "uppercase"], uppercase),
    (["vs", "variationselector"], variationSelector),
    (["wspace", "whitespace", "space"], whiteSpace),
    (["xidc", "xidcontinue"], xidContinue),
    (["xids", "xidstart"], xidStart) ]

def propertyNamed? (name : String) : Option Property :=
  (propertyNames.find? (·.1.contains name)).map (·.2)

end RecordRules.Unicode

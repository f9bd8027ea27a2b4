import EnvAudit.Unicode.Age
import EnvAudit.Unicode.Derived
import EnvAudit.Unicode.Folding
import EnvAudit.Unicode.Script
import EnvAudit.Unicode.Segmentation

/-!
# Properties by name

A class such as `\p{Greek}` names a property loosely: letter case, blanks, underscores and dashes
do not count, nor does an `is` in front.  A single name is a binary property, else a general
category, else a script; two names are a property and one of its values.
-/

namespace EnvAudit.Unicode

/-! ## Names -/

/-- What counts of a character in a name, if anything. -/
def looseChar? (c : Char) : Option Char :=
  if c = ' ' ∨ c = '_' ∨ c = '-' ∨ 128 ≤ c.toNat then none else some c.toLower

/-- The name without its letter case and separators and without an `is` in front; `isc`, the short
name of a property, keeps it. -/
def looseName (name : List Char) : String :=
  let (prefixed, rest) :=
    match name with
    | i :: s :: rest => if i.toLower = 'i' ∧ s.toLower = 's' then (true, rest) else (false, name)
    | _ => (false, name)
  let loose := rest.filterMap looseChar?
  String.ofList (if prefixed ∧ loose = ['c'] then ['i', 's', 'c'] else loose)

/-! ## Values -/

/-- General categories by their short and long names.  The surrogates have no set of their own:
no text holds one. -/
def category? : String → Option CharSet
  | "any" => some .all
  | "assigned" => some assigned
  | "ascii" => some (.range 0 0x7F)
  | "lc" | "casedletter" => some casedLetter
  | "lu" | "uppercaseletter" => some uppercaseLetter
  | "ll" | "lowercaseletter" => some lowercaseLetter
  | "lt" | "titlecaseletter" => some titlecaseLetter
  | "lm" | "modifierletter" => some modifierLetter
  | "lo" | "otherletter" => some otherLetter
  | "l" | "letter" => some letter
  | "mn" | "nonspacingmark" => some nonspacingMark
  | "mc" | "spacingmark" => some spacingMark
  | "me" | "enclosingmark" => some enclosingMark
  | "m" | "mark" | "combiningmark" => some mark
  | "nd" | "decimalnumber" | "digit" => some decimalNumber
  | "nl" | "letternumber" => some letterNumber
  | "no" | "othernumber" => some otherNumber
  | "n" | "number" => some number
  | "pc" | "connectorpunctuation" => some connectorPunctuation
  | "pd" | "dashpunctuation" => some dashPunctuation
  | "ps" | "openpunctuation" => some openPunctuation
  | "pe" | "closepunctuation" => some closePunctuation
  | "pi" | "initialpunctuation" => some initialPunctuation
  | "pf" | "finalpunctuation" => some finalPunctuation
  | "po" | "otherpunctuation" => some otherPunctuation
  | "p" | "punctuation" | "punct" => some punctuation
  | "sm" | "mathsymbol" => some mathSymbol
  | "sc" | "currencysymbol" => some currencySymbol
  | "sk" | "modifiersymbol" => some modifierSymbol
  | "so" | "othersymbol" => some otherSymbol
  | "s" | "symbol" => some symbol
  | "zs" | "spaceseparator" => some spaceSeparator
  | "zl" | "lineseparator" => some lineSeparator
  | "zp" | "paragraphseparator" => some paragraphSeparator
  | "z" | "separator" => some separator
  | "cc" | "control" | "cntrl" => some control
  | "cf" | "format" => some format
  | "co" | "privateuse" => some privateUse
  | "cn" | "unassigned" => some unassigned
  | "c" | "other" => some other
  | _ => none

/-! ## Binary properties -/

/-- Whether the properties know a character and its image.  The case mappings of texts follow a
newer release of the standard. -/
def knowsPair (p : Nat × Nat) : Bool := assigned.hasCode p.1 && assigned.hasCode p.2

/-- The characters that a case mapping changes. -/
def changedBy (runs : List CaseRun) (expansions : List (Nat × List Nat)) : CharSet :=
  let single := (runs.flatMap (·.pairs)).filter knowsPair
  .ofRanges (single.map (fun p => (p.1, p.1)) ++ expansions.map fun e => (e.1, e.1))

def changesWhenLowercased : CharSet :=
  .union (.range 0x41 0x5A) (changedBy lowerRuns lowerExpansions)

def changesWhenUppercased : CharSet :=
  .union (.range 0x61 0x7A) (changedBy upperRuns upperExpansions)

/-- Title case differs from upper case for digraphs, Georgian and Greek with iota. -/
def changesWhenTitlecased : CharSet :=
  .union
    (.diff changesWhenUppercased
      (.ofHex "1C5 1C8 1CB 1F2 10D0-10FA 10FD-10FF 1F88-1F8F 1F98-1F9F 1FA8-1FAF 1FBC 1FCC 1FFC"))
    (.ofHex "1C4 1C7 1CA 1F1")

/-- Folding also changes variants of lower-case letters, and it leaves Cherokee capitals. -/
def changesWhenCasefolded : CharSet :=
  .union (.diff changesWhenLowercased (.ofHex "13A0-13F5"))
    (.ofHex "B5 DF 149 17F 345 3C2 3D0-3D1 3D5-3D6 3F0-3F1 3F5 587 13F8-13FD 1C80-1C88 1E9A-1E9B
      1F80-1F87 1F90-1F97 1FA0-1FA7 1FB2-1FB4 1FB7 1FC2-1FC4 1FC7 1FF2-1FF4 1FF7 AB70-ABBF
      FB00-FB06 FB13-FB17")

def binaryProperty? : String → Option CharSet
  | "ahex" | "asciihexdigit" => some asciiHexDigit
  | "alpha" | "alphabetic" => some alphabetic
  | "bidic" | "bidicontrol" => some bidiControl
  | "bidim" | "bidimirrored" => some bidiMirrored
  | "ci" | "caseignorable" => some caseIgnorable
  | "cased" => some cased
  | "cwl" | "changeswhenlowercased" => some changesWhenLowercased
  | "cwu" | "changeswhenuppercased" => some changesWhenUppercased
  | "cwt" | "changeswhentitlecased" => some changesWhenTitlecased
  | "cwcf" | "changeswhencasefolded" => some changesWhenCasefolded
  | "cwcm" | "changeswhencasemapped" => some (.union changesWhenLowercased changesWhenUppercased)
  | "dash" => some dash
  | "di" | "defaultignorablecodepoint" => some defaultIgnorable
  | "dep" | "deprecated" => some deprecatedCharacter
  | "dia" | "diacritic" => some diacritic
  | "emoji" => some emoji
  | "ecomp" | "emojicomponent" => some emojiComponent
  | "emod" | "emojimodifier" => some emojiModifier
  | "ebase" | "emojimodifierbase" => some emojiModifierBase
  | "epres" | "emojipresentation" => some emojiPresentation
  | "extpict" | "extendedpictographic" => some extendedPictographic
  | "ext" | "extender" => some extender
  | "grbase" | "graphemebase" => some graphemeBase
  | "grext" | "graphemeextend" => some graphemeExtend
  | "grlink" | "graphemelink" => some graphemeLink
  | "hex" | "hexdigit" => some hexDigit
  | "hyphen" => some hyphen
  | "idsb" | "idsbinaryoperator" => some idsBinaryOperator
  | "idst" | "idstrinaryoperator" => some idsTrinaryOperator
  | "idsu" | "idsunaryoperator" => some idsUnaryOperator
  | "idcompatmathstart" => some idCompatMathStart
  | "idcompatmathcontinue" => some idCompatMathContinue
  | "idc" | "idcontinue" => some idContinue
  | "ids" | "idstart" => some idStart
  | "ideo" | "ideographic" => some ideographic
  | "joinc" | "joincontrol" => some joinControl
  | "loe" | "logicalorderexception" => some logicalOrderException
  | "lower" | "lowercase" => some lowercase
  | "math" => some mathematical
  | "mcm" | "modifiercombiningmark" => some modifierCombiningMark
  | "nchar" | "noncharactercodepoint" => some noncharacter
  | "oalpha" | "otheralphabetic" => some otherAlphabetic
  | "odi" | "otherdefaultignorablecodepoint" => some otherDefaultIgnorable
  | "ogrext" | "othergraphemeextend" => some otherGraphemeExtend
  | "oidc" | "otheridcontinue" => some otherIdContinue
  | "oids" | "otheridstart" => some otherIdStart
  | "olower" | "otherlowercase" => some otherLowercase
  | "omath" | "othermath" => some otherMath
  | "oupper" | "otheruppercase" => some otherUppercase
  | "patsyn" | "patternsyntax" => some patternSyntax
  | "patws" | "patternwhitespace" => some patternWhiteSpace
  | "pcm" | "prependedconcatenationmark" => some prependedConcatenationMark
  | "qmark" | "quotationmark" => some quotationMark
  | "radical" => some radical
  | "ri" | "regionalindicator" => some regionalIndicator
  | "sterm" | "sentenceterminal" => some sentenceTerminal
  | "sd" | "softdotted" => some softDotted
  | "term" | "terminalpunctuation" => some terminalPunctuation
  | "uideo" | "unifiedideograph" => some unifiedIdeograph
  | "upper" | "uppercase" => some uppercase
  | "vs" | "variationselector" => some variationSelector
  | "wspace" | "space" | "whitespace" => some whiteSpace
  | "xidc" | "xidcontinue" => some xidContinue
  | "xids" | "xidstart" => some xidStart
  | _ => none

/-! ## Queries -/

/-- What a class with one name stands for. -/
def named? (name : List Char) : Option CharSet :=
  let loose := looseName name
  binaryProperty? loose <|> category? loose <|> (script? loose).map (·.own)

/-- What a class with a property and a value stands for. -/
def valued? (property value : List Char) : Option CharSet :=
  match looseName property with
  | "gc" | "generalcategory" => category? (looseName value)
  | "sc" | "script" => (script? (looseName value)).map (·.own)
  | "scx" | "scriptextensions" => (script? (looseName value)).map (·.extended)
  | "age" => knownBy? (looseName value)
  | "gcb" | "graphemeclusterbreak" => graphemeBreak? (looseName value)
  | "wb" | "wordbreak" => wordBreak? (looseName value)
  | "sb" | "sentencebreak" => sentenceBreak? (looseName value)
  | _ => none

end EnvAudit.Unicode

import SpokenFeedback.Pattern.CharClass
import SpokenFeedback.Text.Age
import SpokenFeedback.Text.Direction
import SpokenFeedback.Text.GraphemeBreak
import SpokenFeedback.Text.Identifier
import SpokenFeedback.Text.ScriptExtension
import SpokenFeedback.Text.SentenceBreak

/-!
# Classes of Unicode properties

The character classes that a pattern names by a property: properties that hold or fail of a
character, general categories and their groups, scripts and their extensions, ages, and the
classes by which texts are segmented.  Case, spaces, hyphens and underscores in a name do not
count, nor does a leading "is".
-/

namespace SpokenFeedback

namespace CharClass

open Text (Age Category Script)

/-- A name without a leading "is", in any case. -/
def withoutIs : List Char → List Char
  | first :: second :: rest =>
    if first.toLower = 'i' ∧ second.toLower = 's' then rest else first :: second :: rest
  | short => short

/--
A name as the tables have it: lower case, ASCII only, without separators and without a leading
"is".  The one name that would be confused with another in this way keeps its "is".
-/
def looseName (name : List Char) : String :=
  let body := withoutIs name
  let kept := body.filter fun c => c != ' ' && c != '_' && c != '-' && c.toNat < 0x80
  let lowered := kept.map Char.toLower
  if lowered = ['c'] ∧ body ≠ name then "isc" else String.ofList lowered

/-- The categories that a name stands for. -/
def categoriesOfName? (name : String) : Option (List Category) :=
  match name with
  | "lu" | "uppercaseletter" => some [.uppercaseLetter]
  | "ll" | "lowercaseletter" => some [.lowercaseLetter]
  | "lt" | "titlecaseletter" => some [.titlecaseLetter]
  | "lc" | "casedletter" => some Text.casedLetterCategories
  | "lm" | "modifierletter" => some [.modifierLetter]
  | "lo" | "otherletter" => some [.otherLetter]
  | "l" | "letter" => some Text.letterCategories
  | "mn" | "nonspacingmark" => some [.nonspacingMark]
  | "mc" | "spacingmark" => some [.spacingMark]
  | "me" | "enclosingmark" => some [.enclosingMark]
  | "m" | "mark" | "combiningmark" => some Text.markCategories
  | "nd" | "decimalnumber" | "digit" => some [.decimalNumber]
  | "nl" | "letternumber" => some [.letterNumber]
  | "no" | "othernumber" => some [.otherNumber]
  | "n" | "number" => some Text.numberCategories
  | "pc" | "connectorpunctuation" => some [.connectorPunctuation]
  | "pd" | "dashpunctuation" => some [.dashPunctuation]
  | "ps" | "openpunctuation" => some [.openPunctuation]
  | "pe" | "closepunctuation" => some [.closePunctuation]
  | "pi" | "initialpunctuation" => some [.initialPunctuation]
  | "pf" | "finalpunctuation" => some [.finalPunctuation]
  | "po" | "otherpunctuation" => some [.otherPunctuation]
  | "p" | "punctuation" | "punct" => some Text.punctuationCategories
  | "sm" | "mathsymbol" => some [.mathSymbol]
  | "sc" | "currencysymbol" => some [.currencySymbol]
  | "sk" | "modifiersymbol" => some [.modifierSymbol]
  | "so" | "othersymbol" => some [.otherSymbol]
  | "s" | "symbol" => some Text.symbolCategories
  | "zs" | "spaceseparator" => some [.spaceSeparator]
  | "zl" | "lineseparator" => some [.lineSeparator]
  | "zp" | "paragraphseparator" => some [.paragraphSeparator]
  | "z" | "separator" => some Text.separatorCategories
  | "cc" | "control" | "cntrl" => some [.control]
  | "cf" | "format" => some [.format]
  | "co" | "privateuse" => some [.privateUse]
  | "cn" | "unassigned" => some [.unassigned]
  | "c" | "other" => some Text.otherCategories
  | _ => none

/-- The class of a general category or of a group of them. -/
def ofCategoryName? (name : String) : Option CharClass :=
  match name with
  | "any" => some .full
  | "assigned" => some (Category.unassignedRanges.complement)
  | "ascii" => some ascii
  | _ => (categoriesOfName? name).map Text.categoryRanges

/-- The class of a property of letters that holds or fails of each character. -/
def ofLetterProperty? (name : String) : Option CharClass :=
  match name with
  | "alpha" | "alphabetic" => some Text.alphabeticRanges
  | "oalpha" | "otheralphabetic" => some Text.otherAlphabeticRanges
  | "upper" | "uppercase" => some Text.uppercaseRanges
  | "oupper" | "otheruppercase" => some Text.otherUppercaseRanges
  | "lower" | "lowercase" => some Text.lowercaseRanges
  | "olower" | "otherlowercase" => some Text.otherLowercaseRanges
  | "cased" => some Text.casedRanges
  | "ci" | "caseignorable" => some Text.caseIgnorableRanges
  | "cwl" | "changeswhenlowercased" => some Text.changesWhenLowercasedRanges
  | "cwu" | "changeswhenuppercased" => some Text.changesWhenUppercasedRanges
  | "cwt" | "changeswhentitlecased" => some Text.changesWhenTitlecasedRanges
  | "cwcm" | "changeswhencasemapped" => some Text.changesWhenCasemappedRanges
  | "cwcf" | "changeswhencasefolded" => some Text.changesWhenCasefoldedRanges
  | "sd" | "softdotted" => some Text.softDottedRanges
  | "ids" | "idstart" => some Text.identifierStartRanges
  | "idc" | "idcontinue" => some Text.identifierContinueRanges
  | "xids" | "xidstart" => some Text.normalIdentifierStartRanges
  | "xidc" | "xidcontinue" => some Text.normalIdentifierContinueRanges
  | "oids" | "otheridstart" => some Text.otherIdentifierStartRanges
  | "oidc" | "otheridcontinue" => some Text.otherIdentifierContinueRanges
  | "idcompatmathstart" => some Text.mathIdentifierStartRanges
  | "idcompatmathcontinue" => some Text.mathIdentifierContinueRanges
  | "ideo" | "ideographic" => some Text.ideographicRanges
  | "uideo" | "unifiedideograph" => some Text.unifiedIdeographRanges
  | "radical" => some Text.radicalRanges
  | "idsu" | "idsunaryoperator" => some Text.unaryDescriptionRanges
  | "idsb" | "idsbinaryoperator" => some Text.binaryDescriptionRanges
  | "idst" | "idstrinaryoperator" => some Text.trinaryDescriptionRanges
  | "ahex" | "asciihexdigit" => some Text.asciiHexDigitRanges
  | "hex" | "hexdigit" => some Text.hexDigitRanges
  | _ => none

/-- The class of a property of marks and symbols that holds or fails of each character. -/
def ofSymbolProperty? (name : String) : Option CharClass :=
  match name with
  | "dia" | "diacritic" => some Text.diacriticRanges
  | "ext" | "extender" => some Text.extenderRanges
  | "grbase" | "graphemebase" => some Text.graphemeBaseRanges
  | "grext" | "graphemeextend" => some Text.graphemeExtendRanges
  | "ogrext" | "othergraphemeextend" => some Text.otherGraphemeExtendRanges
  | "grlink" | "graphemelink" => some Text.graphemeLinkRanges
  | "mcm" | "modifiercombiningmark" => some Text.modifierCombiningMarkRanges
  | "loe" | "logicalorderexception" => some Text.logicalOrderExceptionRanges
  | "dash" => some Text.dashRanges
  | "hyphen" => some Text.hyphenRanges
  | "qmark" | "quotationmark" => some Text.quotationMarkRanges
  | "sterm" | "sentenceterminal" => some Text.sentenceTerminalRanges
  | "term" | "terminalpunctuation" => some Text.terminalPunctuationRanges
  | "patsyn" | "patternsyntax" => some Text.patternSyntaxRanges
  | "patws" | "patternwhitespace" => some Text.patternBlankRanges
  | "math" => some Text.mathRanges
  | "omath" | "othermath" => some Text.otherMathRanges
  | "emoji" => some Text.emojiRanges
  | "epres" | "emojipresentation" => some Text.emojiPresentationRanges
  | "emod" | "emojimodifier" => some Text.emojiModifierRanges
  | "ebase" | "emojimodifierbase" => some Text.emojiModifierBaseRanges
  | "ecomp" | "emojicomponent" => some Text.emojiComponentRanges
  | "extpict" | "extendedpictographic" => some Text.extendedPictographicRanges
  | "ri" | "regionalindicator" => some Text.regionalIndicatorRanges
  | "space" | "wspace" | "whitespace" => some Text.blankRanges
  | "joinc" | "joincontrol" => some Text.joinControlRanges
  | "bidic" | "bidicontrol" => some Text.bidiControlRanges
  | "bidim" | "bidimirrored" => some Text.bidiMirroredRanges
  | "vs" | "variationselector" => some Text.variationSelectorRanges
  | "pcm" | "prependedconcatenationmark" => some Text.prependedMarkRanges
  | "di" | "defaultignorablecodepoint" => some Text.defaultIgnorableRanges
  | "odi" | "otherdefaultignorablecodepoint" => some Text.otherDefaultIgnorableRanges
  | "dep" | "deprecated" => some Text.deprecatedRanges
  | "nchar" | "noncharactercodepoint" => some Text.noncharacterRanges
  | _ => none

/-- The class of a script. -/
def ofScriptName? (name : String) : Option CharClass :=
  (Script.ofName? name).map Script.ranges

/-- The class of the characters that are used with a script. -/
def ofExtensionName? (name : String) : Option CharClass :=
  (Script.ofName? name).map Script.extension

/-- The class of a grapheme break. -/
def ofGraphemeBreakName? (name : String) : Option CharClass :=
  match name with
  | "cr" => some Text.GraphemeBreak.carriageReturnRanges
  | "lf" => some Text.GraphemeBreak.lineFeedRanges
  | "cn" | "control" => some Text.GraphemeBreak.controlRanges
  | "ex" | "extend" => some Text.GraphemeBreak.extendRanges
  | "l" => some Text.GraphemeBreak.leadingRanges
  | "lv" => some Text.GraphemeBreak.openSyllableRanges
  | "lvt" => some Text.GraphemeBreak.closedSyllableRanges
  | "pp" | "prepend" => some Text.GraphemeBreak.prependRanges
  | "ri" | "regionalindicator" => some Text.regionalIndicatorRanges
  | "sm" | "spacingmark" => some Text.GraphemeBreak.spacingMarkRanges
  | "t" => some Text.GraphemeBreak.trailingRanges
  | "v" => some Text.GraphemeBreak.vowelRanges
  | "zwj" => some Text.GraphemeBreak.joinerRanges
  | _ => none

/-- The class of a word break. -/
def ofWordBreakName? (name : String) : Option CharClass :=
  match name with
  | "le" | "aletter" => some Text.WordBreak.letterRanges
  | "cr" => some Text.WordBreak.carriageReturnRanges
  | "dq" | "doublequote" => some Text.WordBreak.doubleQuoteRanges
  | "extend" => some Text.WordBreak.extendRanges
  | "ex" | "extendnumlet" => some Text.WordBreak.extendNumberLetterRanges
  | "fo" | "format" => some Text.WordBreak.formatRanges
  | "hl" | "hebrewletter" => some Text.WordBreak.hebrewLetterRanges
  | "ka" | "katakana" => some Text.WordBreak.katakanaRanges
  | "lf" => some Text.WordBreak.lineFeedRanges
  | "ml" | "midletter" => some Text.WordBreak.midLetterRanges
  | "mn" | "midnum" => some Text.WordBreak.midNumberRanges
  | "mb" | "midnumlet" => some Text.WordBreak.midNumberOrLetterRanges
  | "nl" | "newline" => some Text.WordBreak.newlineRanges
  | "nu" | "numeric" => some Text.WordBreak.numericRanges
  | "ri" | "regionalindicator" => some Text.regionalIndicatorRanges
  | "sq" | "singlequote" => some Text.WordBreak.singleQuoteRanges
  | "wsegspace" => some Text.WordBreak.spaceRanges
  | "zwj" => some Text.WordBreak.joinerRanges
  | _ => none

/-- The class of a sentence break. -/
def ofSentenceBreakName? (name : String) : Option CharClass :=
  match name with
  | "at" | "aterm" => some Text.SentenceBreak.ambiguousTerminalRanges
  | "cl" | "close" => some Text.SentenceBreak.closeRanges
  | "cr" => some Text.SentenceBreak.carriageReturnRanges
  | "ex" | "extend" => some Text.SentenceBreak.extendRanges
  | "fo" | "format" => some Text.SentenceBreak.formatRanges
  | "le" | "oletter" => some Text.SentenceBreak.otherLetterRanges
  | "lf" => some Text.SentenceBreak.lineFeedRanges
  | "lo" | "lower" => some Text.SentenceBreak.lowerRanges
  | "nu" | "numeric" => some Text.SentenceBreak.numericRanges
  | "sc" | "scontinue" => some Text.SentenceBreak.continueRanges
  | "se" | "sep" => some Text.SentenceBreak.separatorRanges
  | "sp" => some Text.SentenceBreak.spaceRanges
  | "st" | "sterm" => some Text.SentenceBreak.terminalRanges
  | "up" | "upper" => some Text.SentenceBreak.upperRanges
  | _ => none

/-- The class of a name that may be a property, a general category or a script. -/
def ofPropertyName? (name : List Char) : Option CharClass :=
  let loose := looseName name
  (((ofLetterProperty? loose).or (ofSymbolProperty? loose)).or (ofCategoryName? loose)).or
    (ofScriptName? loose)

/-- The class of the characters with a value of a property. -/
def ofPropertyValue? (property value : List Char) : Option CharClass :=
  let value := looseName value
  match looseName property with
  | "gc" | "generalcategory" => ofCategoryName? value
  | "sc" | "script" => ofScriptName? value
  | "scx" | "scriptextensions" => ofExtensionName? value
  | "age" => Age.charactersOf? value
  | "gcb" | "graphemeclusterbreak" => ofGraphemeBreakName? value
  | "wb" | "wordbreak" => ofWordBreakName? value
  | "sb" | "sentencebreak" => ofSentenceBreakName? value
  | _ => none

end CharClass

end SpokenFeedback

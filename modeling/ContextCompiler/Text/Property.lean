import ContextCompiler.Text.BreakTable
import ContextCompiler.Text.Blank
import ContextCompiler.Text.Category
import ContextCompiler.Text.CompositionTable
import ContextCompiler.Text.PropertyTable
import ContextCompiler.Text.Script

/-!
Properties of characters and their names.

Names are given in lower case and without dividers. A property that follows from others is
defined by them, as the standard defines it; the others are given by tables.
-/

namespace ContextCompiler.Text

/-- A property that a character has or has not. -/
inductive Trait where
  | alphabetic
  | asciiHexDigit
  | bidiControl
  | bidiMirrored
  | caseIgnorable
  | cased
  | changesWhenCasefolded
  | changesWhenCasemapped
  | changesWhenLowercased
  | changesWhenTitlecased
  | changesWhenUppercased
  | dash
  | defaultIgnorable
  | deprecated
  | diacritic
  | emoji
  | emojiComponent
  | emojiModifier
  | emojiModifierBase
  | emojiPresentation
  | extendedPictographic
  | extender
  | graphemeBase
  | graphemeExtend
  | graphemeLink
  | hexDigit
  | hyphen
  | idCompatMathContinue
  | idCompatMathStart
  | idContinue
  | idStart
  | ideographic
  | idsBinaryOperator
  | idsTrinaryOperator
  | idsUnaryOperator
  | joinControl
  | logicalOrderException
  | lowercase
  | math
  | modifierCombiningMark
  | noncharacter
  | otherAlphabetic
  | otherDefaultIgnorable
  | otherGraphemeExtend
  | otherIdContinue
  | otherIdStart
  | otherLowercase
  | otherMath
  | otherUppercase
  | patternSyntax
  | patternWhiteSpace
  | prependedConcatenationMark
  | quotationMark
  | radical
  | regionalIndicator
  | sentenceTerminal
  | softDotted
  | terminalPunctuation
  | unifiedIdeograph
  | uppercase
  | variationSelector
  | whiteSpace
  | xidContinue
  | xidStart
  deriving DecidableEq, Repr

namespace Trait

/-- Whether a code lies in one of some ranges. -/
def inSpans (spans : List (Nat × Nat)) (c : Char) : Bool :=
  spans.any fun (lo, hi) => lo ≤ c.toNat && c.toNat ≤ hi

/-- Signs that mathematical identifiers may go on with, but not start with. -/
def mathTails : List (Nat × Nat) :=
  [(0xB2, 0xB3), (0xB9, 0xB9), (0x2070, 0x2070), (0x2074, 0x207E), (0x2080, 0x208E)]

/-- Signs that mathematical identifiers may start with. -/
def mathHeads : List (Nat × Nat) :=
  [0x2202, 0x2207, 0x221E, 0x1D6C1, 0x1D6DB, 0x1D6FB, 0x1D715, 0x1D735, 0x1D74F, 0x1D76F, 0x1D789,
   0x1D7A9, 0x1D7C3].map fun n => (n, n)

/-- Marks that modify other marks. -/
def modifierMarks : List (Nat × Nat) :=
  [(0x654, 0x655), (0x658, 0x658), (0x6DC, 0x6DC), (0x6E3, 0x6E3), (0x6E7, 0x6E8), (0x8CA, 0x8CB),
   (0x8CD, 0x8CF), (0x8D3, 0x8D3), (0x8F3, 0x8F3)]

/-- Hyphens. -/
def hyphens : List (Nat × Nat) :=
  [(0x2D, 0x2D), (0xAD, 0xAD), (0x58A, 0x58A), (0x1806, 0x1806), (0x2010, 0x2011),
   (0x2E17, 0x2E17), (0x30FB, 0x30FB), (0xFE63, 0xFE63), (0xFF0D, 0xFF0D), (0xFF65, 0xFF65)]

/-- Marks that are written before the characters they go with. -/
def prependedMarks : List (Nat × Nat) :=
  [(0x600, 0x605), (0x6DD, 0x6DD), (0x70F, 0x70F), (0x890, 0x891), (0x8E2, 0x8E2),
   (0x110BD, 0x110BD), (0x110CD, 0x110CD)]

/-- Characters and reserved codes that are ignored without being controls. -/
def otherIgnored : List (Nat × Nat) :=
  [(0x34F, 0x34F), (0x115F, 0x1160), (0x17B4, 0x17B5), (0x2065, 0x2065), (0x3164, 0x3164),
   (0xFFA0, 0xFFA0), (0xFFF0, 0xFFF8), (0xE0000, 0xE0000), (0xE0002, 0xE001F), (0xE0080, 0xE00FF),
   (0xE01F0, 0xE0FFF)]

/-- Characters that identifiers may start with although they are no letters. -/
def otherStarts : List (Nat × Nat) :=
  [(0x1885, 0x1886), (0x2118, 0x2118), (0x212E, 0x212E), (0x309B, 0x309C)]

/-- Characters that identifiers may go on with although they are neither letters nor digits. -/
def otherTails : List (Nat × Nat) :=
  [(0xB7, 0xB7), (0x387, 0x387), (0x1369, 0x1371), (0x19DA, 0x19DA), (0x200C, 0x200D),
   (0x30FB, 0x30FB), (0xFF65, 0xFF65)]

/-- Letters that identifiers do not start with, as their compatible forms do not. -/
def unstableStarts : List (Nat × Nat) :=
  [(0xE33, 0xE33), (0xEB3, 0xEB3), (0xFF9E, 0xFF9F)]

/-- Letters that identifiers do not hold, as their compatible forms hold other characters. -/
def unstableTails : List (Nat × Nat) :=
  [(0x37A, 0x37A), (0x309B, 0x309C), (0xFC5E, 0xFC63), (0xFDFA, 0xFDFB), (0xFE70, 0xFE70),
   (0xFE72, 0xFE72), (0xFE74, 0xFE74), (0xFE76, 0xFE76), (0xFE78, 0xFE78), (0xFE7A, 0xFE7A),
   (0xFE7C, 0xFE7C), (0xFE7E, 0xFE7E)]

/-- Whether a character is blank in the grammar of patterns. -/
def isPatternBlank (c : Char) : Bool :=
  inSpans [(0x9, 0xD), (0x20, 0x20), (0x85, 0x85), (0x200E, 0x200F), (0x2028, 0x2029)] c

/-- Whether a character is lower case. -/
def isLower (c : Char) : Bool :=
  hasCategory 'L' (some 'l') c || PropertyTable.otherLowercase.has c

/-- Whether a character is upper case. -/
def isUpper (c : Char) : Bool :=
  hasCategory 'L' (some 'u') c || PropertyTable.otherUppercase.has c

/-- Whether a character extends the one before. -/
def isExtending (c : Char) : Bool := isThinMark c || PropertyTable.otherGraphemeExtend.has c

/-- Whether an identifier may start with a character. -/
def startsId (c : Char) : Bool :=
  (isLetter c || hasCategory 'N' (some 'l') c || inSpans otherStarts c)
    && !PropertyTable.patternSyntax.has c && !isPatternBlank c

/-- Whether an identifier may go on with a character. -/
def continuesId (c : Char) : Bool :=
  startsId c ||
    ((isThinMark c && !hasCategory 'M' (some 'e') c || hasCategory 'M' (some 'c') c
        || hasCategory 'N' (some 'd') c || hasCategory 'P' (some 'c') c || inSpans otherTails c)
      && !PropertyTable.patternSyntax.has c && !isPatternBlank c)

/-- Whether a character is ignored where it cannot be shown. -/
def isIgnored (c : Char) : Bool :=
  (inSpans otherIgnored c || hasCategory 'C' (some 'f') c || PropertyTable.variationSelector.has c)
    && !isBlank c && !inSpans [(0xFFF9, 0xFFFB), (0x13430, 0x13440)] c && !inSpans prependedMarks c

/-- Whether a character has a property. -/
def holds : Trait → Char → Bool
  | alphabetic, c =>
    isLetter c || hasCategory 'N' (some 'l') c || PropertyTable.otherAlphabetic.has c
  | asciiHexDigit, c => inSpans [(0x30, 0x39), (0x41, 0x46), (0x61, 0x66)] c
  | bidiControl, c => PropertyTable.bidiControl.has c
  | bidiMirrored, c => PropertyTable.bidiMirrored.has c
  | caseIgnorable, c => PropertyTable.caseIgnorable.has c
  | cased, c => isLower c || isUpper c || hasCategory 'L' (some 't') c
  | changesWhenCasefolded, c => PropertyTable.changesWhenCasefolded.has c
  | changesWhenCasemapped, c => PropertyTable.changesWhenCasemapped.has c
  | changesWhenLowercased, c => PropertyTable.changesWhenLowercased.has c
  | changesWhenTitlecased, c => PropertyTable.changesWhenTitlecased.has c
  | changesWhenUppercased, c => PropertyTable.changesWhenUppercased.has c
  | dash, c => PropertyTable.dash.has c
  | defaultIgnorable, c => isIgnored c
  | deprecated, c => PropertyTable.deprecated.has c
  | diacritic, c => PropertyTable.diacritic.has c
  | emoji, c => PropertyTable.emoji.has c
  | emojiComponent, c => PropertyTable.emojiComponent.has c
  | emojiModifier, c => inSpans [(0x1F3FB, 0x1F3FF)] c
  | emojiModifierBase, c => PropertyTable.emojiModifierBase.has c
  | emojiPresentation, c => PropertyTable.emojiPresentation.has c
  | extendedPictographic, c => PropertyTable.extendedPictographic.has c
  | extender, c => PropertyTable.extender.has c
  | graphemeBase, c =>
    !hasCategory 'C' none c && !hasCategory 'Z' (some 'l') c && !hasCategory 'Z' (some 'p') c
      && !isExtending c
  | graphemeExtend, c => isExtending c
  | graphemeLink, c => CompositionTable.orders.value c == 9
  | hexDigit, c => PropertyTable.hexDigit.has c
  | hyphen, c => inSpans hyphens c
  | idCompatMathContinue, c => inSpans mathHeads c || inSpans mathTails c
  | idCompatMathStart, c => inSpans mathHeads c
  | idContinue, c => continuesId c
  | idStart, c => startsId c
  | ideographic, c => PropertyTable.ideographic.has c
  | idsBinaryOperator, c =>
    inSpans [(0x2FF0, 0x2FF1), (0x2FF4, 0x2FFD), (0x31EF, 0x31EF)] c
  | idsTrinaryOperator, c => inSpans [(0x2FF2, 0x2FF3)] c
  | idsUnaryOperator, c => inSpans [(0x2FFE, 0x2FFF)] c
  | joinControl, c => inSpans [(0x200C, 0x200D)] c
  | logicalOrderException, c => PropertyTable.logicalOrderException.has c
  | lowercase, c => isLower c
  | math, c => hasCategory 'S' (some 'm') c || PropertyTable.otherMath.has c
  | modifierCombiningMark, c => inSpans modifierMarks c
  | noncharacter, c => inSpans [(0xFDD0, 0xFDEF)] c || 0xFFFE ≤ c.toNat % 0x10000
  | otherAlphabetic, c => PropertyTable.otherAlphabetic.has c
  | otherDefaultIgnorable, c => inSpans otherIgnored c
  | otherGraphemeExtend, c => PropertyTable.otherGraphemeExtend.has c
  | otherIdContinue, c => inSpans otherTails c
  | otherIdStart, c => inSpans otherStarts c
  | otherLowercase, c => PropertyTable.otherLowercase.has c
  | otherMath, c => PropertyTable.otherMath.has c
  | otherUppercase, c => PropertyTable.otherUppercase.has c
  | patternSyntax, c => PropertyTable.patternSyntax.has c
  | patternWhiteSpace, c => isPatternBlank c
  | prependedConcatenationMark, c => inSpans prependedMarks c
  | quotationMark, c => PropertyTable.quotationMark.has c
  | radical, c => PropertyTable.radical.has c
  | regionalIndicator, c => inSpans [(0x1F1E6, 0x1F1FF)] c
  | sentenceTerminal, c => PropertyTable.sentenceTerminal.has c
  | softDotted, c => PropertyTable.softDotted.has c
  | terminalPunctuation, c => PropertyTable.terminalPunctuation.has c
  | unifiedIdeograph, c => PropertyTable.unifiedIdeograph.has c
  | uppercase, c => isUpper c
  | variationSelector, c => PropertyTable.variationSelector.has c
  | whiteSpace, c => isBlank c
  | xidContinue, c => continuesId c && !inSpans unstableTails c
  | xidStart, c => startsId c && !inSpans unstableTails c && !inSpans unstableStarts c

/-- The properties with their names. -/
def named : List (List String × Trait) :=
  [(["alphabetic", "alpha"], alphabetic), (["asciihexdigit", "ahex"], asciiHexDigit),
   (["bidicontrol", "bidic"], bidiControl), (["bidimirrored", "bidim"], bidiMirrored),
   (["caseignorable", "ci"], caseIgnorable), (["cased"], cased),
   (["changeswhencasefolded", "cwcf"], changesWhenCasefolded),
   (["changeswhencasemapped", "cwcm"], changesWhenCasemapped),
   (["changeswhenlowercased", "cwl"], changesWhenLowercased),
   (["changeswhentitlecased", "cwt"], changesWhenTitlecased),
   (["changeswhenuppercased", "cwu"], changesWhenUppercased), (["dash"], dash),
   (["defaultignorablecodepoint", "di"], defaultIgnorable), (["deprecated", "dep"], deprecated),
   (["diacritic", "dia"], diacritic), (["emoji"], emoji),
   (["emojicomponent", "ecomp"], emojiComponent), (["emojimodifier", "emod"], emojiModifier),
   (["emojimodifierbase", "ebase"], emojiModifierBase),
   (["emojipresentation", "epres"], emojiPresentation),
   (["extendedpictographic", "extpict"], extendedPictographic), (["extender", "ext"], extender),
   (["graphemebase", "grbase"], graphemeBase), (["graphemeextend", "grext"], graphemeExtend),
   (["graphemelink", "grlink"], graphemeLink), (["hexdigit", "hex"], hexDigit),
   (["hyphen"], hyphen), (["idcompatmathcontinue"], idCompatMathContinue),
   (["idcompatmathstart"], idCompatMathStart), (["idcontinue", "idc"], idContinue),
   (["idstart", "ids"], idStart), (["ideographic", "ideo"], ideographic),
   (["idsbinaryoperator", "idsb"], idsBinaryOperator),
   (["idstrinaryoperator", "idst"], idsTrinaryOperator),
   (["idsunaryoperator", "idsu"], idsUnaryOperator), (["joincontrol", "joinc"], joinControl),
   (["logicalorderexception", "loe"], logicalOrderException), (["lowercase", "lower"], lowercase),
   (["math"], math), (["modifiercombiningmark", "mcm"], modifierCombiningMark),
   (["noncharactercodepoint", "nchar"], noncharacter),
   (["otheralphabetic", "oalpha"], otherAlphabetic),
   (["otherdefaultignorablecodepoint", "odi"], otherDefaultIgnorable),
   (["othergraphemeextend", "ogrext"], otherGraphemeExtend),
   (["otheridcontinue", "oidc"], otherIdContinue), (["otheridstart", "oids"], otherIdStart),
   (["otherlowercase", "olower"], otherLowercase), (["othermath", "omath"], otherMath),
   (["otheruppercase", "oupper"], otherUppercase), (["patternsyntax", "patsyn"], patternSyntax),
   (["patternwhitespace", "patws"], patternWhiteSpace),
   (["prependedconcatenationmark", "pcm"], prependedConcatenationMark),
   (["quotationmark", "qmark"], quotationMark), (["radical"], radical),
   (["regionalindicator", "ri"], regionalIndicator),
   (["sentenceterminal", "sterm"], sentenceTerminal), (["softdotted", "sd"], softDotted),
   (["terminalpunctuation", "term"], terminalPunctuation),
   (["unifiedideograph", "uideo"], unifiedIdeograph), (["uppercase", "upper"], uppercase),
   (["variationselector", "vs"], variationSelector),
   (["whitespace", "wspace", "space"], whiteSpace), (["xidcontinue", "xidc"], xidContinue),
   (["xidstart", "xids"], xidStart)]

end Trait

/-- A named set of characters. -/
inductive Property where
  | any
  | ascii
  | assigned
  | casedLetter
  | category (major : Char) (minor : Option Char)
  | trait (t : Trait)
  | script (s : Script)
  /-- The characters that a script uses. -/
  | usedBy (s : Script)
  /-- The characters of the first versions up to the one of a number. -/
  | ageUpTo (version : Nat)
  /-- The parts of clusters, words or sentences of the numbers. -/
  | clusterPart (kind : Nat)
  | syllable (isFull : Bool)
  | wordPart (kind : Nat)
  | sentencePart (kind : Nat)
  deriving DecidableEq, Repr

namespace Property

/-- Whether a character is a Hangul syllable, with a final consonant or without. -/
def isSyllable (isFull : Bool) (c : Char) : Bool :=
  0xAC00 ≤ c.toNat && c.toNat ≤ 0xD7A3 && ((c.toNat - 0xAC00) % 28 == 0) != isFull

/-- Whether a character belongs to a named set. -/
def has : Property → Char → Bool
  | any, _ => true
  | ascii, c => c.toNat < 128
  | assigned, c => !hasCategory 'C' (some 'n') c
  | casedLetter, c =>
    hasCategory 'L' (some 'u') c || hasCategory 'L' (some 'l') c || hasCategory 'L' (some 't') c
  | category major minor, c => hasCategory major minor c
  | trait t, c => t.holds c
  | script s, c => s.has c
  | usedBy s, c => s.uses c
  | ageUpTo version, c =>
    let age := BreakTable.ages.value c
    age != 0 && age ≤ version
  | clusterPart kind, c => BreakTable.clusters.value c == kind
  | syllable isFull, c => isSyllable isFull c
  | wordPart kind, c => BreakTable.words.value c == kind
  | sentencePart kind, c => BreakTable.sentences.value c == kind

/-- The general categories with their names. -/
def categoryNames : List (List String × Property) :=
  let one (names : List String) (major minor : Char) : List String × Property :=
    (names, category major (some minor))
  [(["any"], any), (["assigned"], assigned), (["ascii"], ascii),
   (["l", "letter"], category 'L' none), one ["lu", "uppercaseletter"] 'L' 'u',
   one ["ll", "lowercaseletter"] 'L' 'l', one ["lt", "titlecaseletter"] 'L' 't',
   (["lc", "casedletter"], casedLetter), one ["lm", "modifierletter"] 'L' 'm',
   one ["lo", "otherletter"] 'L' 'o', (["m", "mark", "combiningmark"], category 'M' none),
   one ["mn", "nonspacingmark"] 'M' 'n', one ["mc", "spacingmark"] 'M' 'c',
   one ["me", "enclosingmark"] 'M' 'e', (["n", "number"], category 'N' none),
   one ["nd", "decimalnumber", "digit"] 'N' 'd', one ["nl", "letternumber"] 'N' 'l',
   one ["no", "othernumber"] 'N' 'o', (["p", "punctuation", "punct"], category 'P' none),
   one ["pc", "connectorpunctuation"] 'P' 'c', one ["pd", "dashpunctuation"] 'P' 'd',
   one ["ps", "openpunctuation"] 'P' 's', one ["pe", "closepunctuation"] 'P' 'e',
   one ["pi", "initialpunctuation"] 'P' 'i', one ["pf", "finalpunctuation"] 'P' 'f',
   one ["po", "otherpunctuation"] 'P' 'o', (["s", "symbol"], category 'S' none),
   one ["sm", "mathsymbol"] 'S' 'm', one ["sc", "currencysymbol"] 'S' 'c',
   one ["sk", "modifiersymbol"] 'S' 'k', one ["so", "othersymbol"] 'S' 'o',
   (["z", "separator"], category 'Z' none), one ["zs", "spaceseparator"] 'Z' 's',
   one ["zl", "lineseparator"] 'Z' 'l', one ["zp", "paragraphseparator"] 'Z' 'p',
   (["c", "other"], category 'C' none), one ["cc", "control", "cntrl"] 'C' 'c',
   one ["cf", "format"] 'C' 'f', one ["cn", "unassigned"] 'C' 'n',
   one ["co", "privateuse"] 'C' 'o']

/-- The parts of clusters with their names. -/
def clusterNames : List (List String × Property) :=
  [(["control", "cn"], clusterPart 3), (["cr"], clusterPart 8), (["extend", "ex"], clusterPart 1),
   (["l"], clusterPart 5), (["lf"], clusterPart 9), (["lv"], syllable false),
   (["lvt"], syllable true), (["prepend", "pp"], clusterPart 4),
   (["regionalindicator", "ri"], clusterPart 10), (["spacingmark", "sm"], clusterPart 2),
   (["t"], clusterPart 7), (["v"], clusterPart 6), (["zwj"], clusterPart 11)]

/-- The parts of words with their names. -/
def wordNames : List (List String × Property) :=
  [(["aletter", "le"], wordPart 1), (["extend"], wordPart 2), (["numeric", "nu"], wordPart 3),
   (["format", "fo"], wordPart 4), (["hebrewletter", "hl"], wordPart 5),
   (["katakana", "ka"], wordPart 6), (["extendnumlet", "ex"], wordPart 7),
   (["midnumlet", "mb"], wordPart 8), (["midletter", "ml"], wordPart 9),
   (["midnum", "mn"], wordPart 10), (["newline", "nl"], wordPart 11), (["cr"], wordPart 12),
   (["lf"], wordPart 13), (["doublequote", "dq"], wordPart 14),
   (["singlequote", "sq"], wordPart 15), (["regionalindicator", "ri"], wordPart 16),
   (["wsegspace"], wordPart 17), (["zwj"], wordPart 18)]

/-- The parts of sentences with their names. -/
def sentenceNames : List (List String × Property) :=
  [(["lower", "lo"], sentencePart 1), (["upper", "up"], sentencePart 2),
   (["oletter", "le"], sentencePart 3), (["extend", "ex"], sentencePart 4),
   (["numeric", "nu"], sentencePart 5), (["format", "fo"], sentencePart 6),
   (["close", "cl"], sentencePart 7), (["sterm", "st"], sentencePart 8),
   (["scontinue", "sc"], sentencePart 9), (["sp"], sentencePart 10),
   (["aterm", "at"], sentencePart 11), (["cr"], sentencePart 12), (["lf"], sentencePart 13),
   (["sep", "se"], sentencePart 14)]

/-- Looks a name up. -/
def find? (name : String) (entries : List (List String × Property)) : Option Property :=
  (entries.find? fun (names, _) => names.contains name).map (·.2)

/-- A name as it counts: in lower case, without dividers, and without `is` at its start. -/
def plainName (name : List Char) : String :=
  let isStart := (name.take 2).map Char.toLower == ['i', 's']
  let rest := (if isStart then name.drop 2 else name).filter fun c =>
    c.toNat < 128 && c != ' ' && c != '_' && c != '-'
  let rest := String.ofList (rest.map Char.toLower)
  if isStart && rest == "c" then "isc" else rest

/-- Names that stand for properties with values, and so for no set of their own. -/
def valuedNames : List String :=
  ["age", "script", "generalcategory", "gc", "scx", "scriptextensions"]

/-- The set of a name. -/
def ofName? (name : List Char) : Option Property :=
  let name := plainName name
  let isCategory := ["cf", "sc", "lc"].contains name
  match Trait.named.find? fun (names, _) => names.contains name with
  | some (_, t) => if isCategory then find? name categoryNames else some (trait t)
  | none =>
    if valuedNames.contains name then none
    else (find? name categoryNames).orElse fun _ => (Script.ofName? name).map script

/-- The set of the characters up to a version. -/
def ofAge? (value : String) : Option Property :=
  let isNamed (v : String) : Bool :=
    v == value || "v" ++ String.ofList (v.toList.filter (· != '.')) == value
  match BreakTable.versions.findIdx? isNamed with
  | some (n + 1) => some (ageUpTo (n + 1))
  | _ => none

/-- The set of a value of a property. -/
def ofValue? (name value : List Char) : Option Property :=
  let value := plainName value
  match plainName name with
  | "gc" | "generalcategory" | "category" => find? value categoryNames
  | "sc" | "script" => (Script.ofName? value).map script
  | "scx" | "scriptextensions" => (Script.ofName? value).map usedBy
  | "age" => ofAge? value
  | "gcb" | "graphemeclusterbreak" => find? value clusterNames
  | "wb" | "wordbreak" => find? value wordNames
  | "sb" | "sentencebreak" => find? value sentenceNames
  | _ => none

end Property

end ContextCompiler.Text

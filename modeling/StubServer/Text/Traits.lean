import StubServer.Text.Runs

namespace StubServer.Text

inductive Trait where
  | asciiHexDigit
  | bidiControl
  | dash
  | defaultIgnorable
  | deprecated
  | diacritic
  | emoji
  | emojiComponent
  | emojiModifier
  | emojiModifierBase
  | emojiPresentation
  | pictographic
  | extender
  | hexDigit
  | idsBinary
  | idsTrinary
  | ideographic
  | joinControl
  | logicalOrderException
  | math
  | noncharacter
  | patternSyntax
  | patternWhiteSpace
  | quotationMark
  | radical
  | regionalIndicator
  | sentenceTerminal
  | softDotted
  | terminalPunctuation
  | unifiedIdeograph
  | variationSelector
  deriving DecidableEq, Repr

namespace Trait

def asciiHexDigitRuns : List Run := readRuns [
   "N48Y10N7Y6N26Y6"]

def bidiControlRuns : List Run := readRuns [
   "N1564YN6641Y2N26Y5N55Y4"]

def dashRuns : List Run := readRuns [
   "N45YN1372YN51YN3649YN1029YN2057Y6N61YN39YN15YN390YN3076YN2YN31Y2N4YN28YN446YN19YN111YN52624",
   "Y2N37YN10YN169YN3680YN318Y"]

def defaultIgnorableRuns : List Run := readRuns [
   "N173YN673YN716YN2882Y2N1619Y2N85Y5N2043Y5N26Y5N49Y16N4340YN52379Y16N239YN160YN79Y9N48295Y4",
   "N5327Y8N798341Y4096"]

def deprecatedRuns : List Run := readRuns [
   "N329YN1321YN2307YNYN2089Y2N2245Y6N697Y2N908502Y"]

def diacriticRuns : List Run := readRuns [
   "N94YNYN71YN6YN4YN2Y2N503Y159NY8N5Y6N17Y2N4YN9Y2N253Y5N209YN55Y45NYNY2NY2NYN131Y8N4Y2N134Y2",
   "N4Y2N3Y3N67Y27N91Y11N58Y11N34Y2N126Y8N41Y10N16Y28N61YN16YN3Y4N28YN74YN16YN110YN16YN110YN16Y",
   "N47Y3N60YN16YN7YN119YN110YN16YN110YN16YN109Y2N16YN124YN111YN12Y6NYN107YN13Y5N75Y2N27YNYNYN4",
   "Y2N66Y3NY2N62YN112YNY2N40Y2N4Y5N25Y7NYN10Y2N705Y3N948Y2N30YN148Y11N9YN347Y3N292YN20Y8N2YN48",
   "Y15N2Y11N3Y15N2Y12N72YN15YN38Y9N54Y2N58YN11Y2N66Y2N64Y6N82Y25N4YN6YN2Y3N50Y63N48Y36N5Y12N37",
   "Y11N445YNY3N11Y3N13Y3N13Y3N13Y2N3312Y3N317YN506Y6N105Y4N95YN30066YN12Y2NYN28Y2N82Y2N14Y34",
   "N102Y3N102YN6Y2N12YN37YN151YN27Y18N57Y4N36YN95YN12YN36YN149Y3N65Y4N51YN100Y5N9Y3N128Y2",
   "N20272YN769Y16N270YNYN47YN45Y2N67YN764YN1183Y6NY42NY9N637Y3N4YN165Y2N571Y6N38YN26Y5N396YN2",
   "Y3N70Y11N49Y4N192YN41YN72Y2N120Y2N62YN76YN9Y3N104Y2N178Y2N80Y2N16YN24Y7N3Y5N89Y3NY2N13Y2N95",
   "YN3YN123Y2N251Y2N126YN118Y2N115YN269Y2N258Y2N4YN156YN83YN18YN81YN421YN258YNY2N81YN65YN359Y2",
   "N23YN5356Y15N11481YN2496Y5N59Y7N564Y2N546Y17N80Y2N16382Y4NY7NY2N7937Y46N2Y23N544Y3N3Y6N8Y8",
   "N2Y7N30Y4N3714Y62N194Y7N375YN61Y4N766Y2N736Y7N109Y3NY3"]

def emojiRuns : List Run := readRuns [
   "N35YN6YN5Y10N111YN4YN8077YN12YN216YN22YN90Y6N15Y2N367Y2N12YN166YN25Y11N4Y3N199YN231Y2N10YN9",
   "YN58Y4NY5N9YN2YN2Y2N2YN4YN2YNY2N2YN3YN3Y2N8Y3N5YNYN5Y12N11Y2N2YNY2NYN18YN2Y2N18Y6NYNY2N3Y2",
   "N5YN2Y2N4Y2N11Y2N5Y2N2YN5Y2NYNY2N20Y2N5Y6NY4N2YN4YN2YN2Y6NYN2YNYNYN6YN3YN6YN10Y2N15YN2YN4YN",
   "YN4Y3NYN11Y2N48Y3N9YN14YN14YN372Y2N463Y3N19Y2N51YN4YN1242YN12YN601YNYN114026YN202YN160Y2N12",
   "Y2N14YN2Y10N75Y26NY2N23YN20YN2Y9N21Y2N174Y34N2Y112N2Y2NY3N2Y83N2Y3NY263NY63N11Y6NY24N7Y2N2",
   "Y8N12YN2Y4N2YN4Y2N13Y2N2YN8Y2N9YN5Y3N12Y3N8Y3N2YNYN4YN6YN3YN6Y86N48Y70N5Y8N2Y4N3Y10N3YNY2N3",
   "YN2Y10N227Y12N4YN283Y47NY10NY185N112Y13N3Y11N3Y57NYN4Y16N2Y12N4Y10"]

def emojiComponentRuns : List Run := readRuns [
   "N35YN6YN5Y10N8147YN213YN56619YN62422Y26N507Y5N1456Y4N788076Y96"]

def emojiModifierRuns : List Run := readRuns [
   "N127995Y5"]

def emojiModifierBaseRuns : List Run := readRuns [
   "N9757YN219YN16Y4N117879YN60Y3N2YN2Y3N117Y2N2Y11N21Y19N3YN4Y3NY3N7YNYN24YN201Y2N4YN21YN4Y2",
   "N174Y3N3Y5N83YN16Y3N9YN11YN575YN2YN8Y8N6YN9Y10N2Y3N56YN61Y2NY2NYN17Y3NY13N229Y3N42Y9"]

def emojiPresentationRuns : List Run := readRuns [
   "N8986Y2N205Y4N3YN2YN521Y2N21Y2N50Y12N43YN19YN13YN8Y2N17Y2N5Y2N8YN5YN21YN7Y2NYN4YN2YN7YN4Y2",
   "N28YN35YNYN4Y3NYN61Y3N24YN14YN859Y2N51YN4YN115886YN202YN190YN2Y10N75Y26NYN24YN20YN2Y5NY3N21",
   "Y2N174Y33N12Y9NY70NY22N12Y43N4Y5N12Y17N3YN3Y71NYNY187N2Y63N13Y4NY24N18YN26Y2N13YN86Y85N48",
   "Y70N6YN3Y3N2Y4N3Y4N11Y2N7Y9N227Y12N4YN283Y47NY10NY185N112Y13N3Y11N3Y57NYN4Y16N2Y12N4Y10"]

def pictographicRuns : List Run := readRuns [
   "N169YN4YN8077YN12YN216YN22YN90Y6N15Y2N367Y2N12YN166YN25Y11N4Y3N199YN231Y2N10YN9YN58Y4NY5N9Y",
   "N2YN2Y2N2YN4YN2YNY2N2YN3YN3Y2N8Y3N5YNYN5Y12N11Y2N2YNY2NYN18YN2Y2N18Y6NYNY2N3Y2N5YN2Y2N4Y2",
   "N11Y2N5Y2N2YN5Y2NYNY2N20Y2N5Y6NY4N2YN4YN2YN2Y6NYN2YNYNYN6YN3YN6YN10Y2N15YN2YN4YNYN4Y3NYN11",
   "Y2N48Y3N9YN14YN14YN372Y2N463Y3N19Y2N51YN4YN1242YN12YN601YNYN114026YN39Y4N100Y12N15Y2N15YN14",
   "Y2N37Y10N112Y2N12Y2N14YN2Y10N19Y56N27Y15N10YN20YN2Y9NY4N9Y23N6Y188N2Y112N2Y2NY3N2Y83N2Y3NY4",
   "N5Y254NY63N11Y6NY24N7Y2N2Y8N12YN2Y4N2YN4Y2N13Y2N2YN8Y2N9YN5Y3N12Y3N8Y3N2YNYN4YN6YN3YN6Y86",
   "N48Y70N5Y8N2Y17N3YNY6N2Y13N218Y38N12Y4N56Y8N10Y6N40Y8N30Y2N12Y4N2Y14N9Y39N12Y47NY10NY185N88",
   "Y8N14Y146N256Y1022"]

def extenderRuns : List Run := readRuns [
   "N183YN536Y2N878YN441YN630YN137YN89YN752YN127YN2371YN56YN611YN398YN68YN5001YN43Y5N103Y2N93Y3",
   "N28438YN1526YN962YN22YN137YN108YN21Y2N21627YN2064Y2N1483YN27YN4YN1223YN293YN116Y2N498Y3",
   "N1231YN832YN19816Y2N1180Y2NYN14Y2N29000Y2N1201YN852Y3"]

def hexDigitRuns : List Run := readRuns [
   "N48Y10N7Y6N26Y6N65193Y10N7Y6N26Y6"]

def idsBinaryRuns : List Run := readRuns [
   "N12272Y2N2Y10N497Y"]

def idsTrinaryRuns : List Run := readRuns [
   "N12274Y2"]

def ideographicRuns : List Run := readRuns [
   "N12294Y2N25Y9N14Y3N965Y6592N64Y20992N22784Y366N2Y106N29962YN13Y5N9Y7382N41Y32N97Y115N9085",
   "Y396N19716Y42720N32Y4382N2Y5774N2Y7473N15Y622N2466Y542N1506Y4939N5Y8490"]

def joinControlRuns : List Run := readRuns [
   "N8204Y2"]

def logicalOrderExceptionRuns : List Run := readRuns [
   "N3648Y5N123Y5N2800Y3N2YN37114Y2N2YNY2"]

def mathRuns : List Run := readRuns [
   "N43YN16Y3N31YN29YNYN45YN4YN37YN31YN728Y3N2YN26Y2N2Y3N527Y3N6669YN27Y3N11YN3YN13YN14Y4N21Y5",
   "N11Y5N65Y13N4YN3Y2N4Y5N18YN4YN2Y10NYN2Y6N6YN3Y2N2Y2NY3NY6N3Y14NYN68Y24NY6NY2N4Y2N4Y32NYN6Y2",
   "N14Y268N8Y4N20Y2N90YN30Y27NYN24YN11Y7N445Y2N12Y10N4Y6N4Y2N2Y2N3Y5N14YNYN2Y6N11Y8N5Y2N57YNY",
   "N29Y4N9Y3N336Y64N256Y512N48Y21N2Y6N53212YN823Y6NYN162YN16Y3N29YNYN29YNYN131YN6Y4N3489Y2",
   "N49504YN1295Y85NY71NY2N2YN2Y2N2Y4NY12NYNY7NY65NY4N2Y8NY7NY28NY4NY5NYN3Y7NY340N2Y292N2Y50",
   "N5632Y4NY27NY2NYN2YNY10NY4NYNYN6YN4YNYNYNY3NY2NYN2YNYNYNYNYNY2NYN2Y4NY7NY4NY4NYNY10NY17N5Y3",
   "NY5NY17N52Y2N2526Y9"]

def noncharacterRuns : List Run := readRuns [
   "N64976Y32N526Y2N65534Y2N65534Y2N65534Y2N65534Y2N65534Y2N65534Y2N65534Y2N65534Y2N65534Y2",
   "N65534Y2N65534Y2N65534Y2N65534Y2N65534Y2N65534Y2N65534Y2"]

def patternSyntaxRuns : List Run := readRuns [
   "N33Y15N10Y7N26Y4NYN26Y4N34Y7NYNY2NYNY2N4YN4YN3YN23YN31YN7960Y24N8Y15N2Y19NY10N305Y720N160",
   "Y630N30Y1132N512Y128N385Y3N4Y25N15YN52493Y2N261Y2"]

def patternWhiteSpaceRuns : List Run := readRuns [
   "N9Y5N18YN100YN8072Y2N24Y2"]

def quotationMarkRuns : List Run := readRuns [
   "N34YN4YN131YN15YN8028Y8N25Y2N3591YN457Y4N13Y3N52769Y4N189YN4YN90Y2"]

def radicalRuns : List Run := readRuns [
   "N11904Y26NY89N12Y214"]

def regionalIndicatorRuns : List Run := readRuns [
   "N127462Y26"]

def sentenceTerminalRuns : List Run := readRuns [
   "N33YN12YN16YN1353YN147Y3N180YN43Y3N246YN61YNYN3Y2N293Y2N1764Y2N790YN4Y2N773YN198Y2N157Y2N45",
   "YN5YN314Y2N354Y4N162Y2N10Y2N2Y2N29Y3N187Y2N65Y2N932YN23Y2N9Y3N3247Y3N306YN13YN22Y2N429Y",
   "N29948YN270Y2N227YN3YN382Y2N86Y2N95YN152Y2N147Y3N144Y2N249YN21030YN2Y2N59YN3Y2N169YN12YN16Y",
   "N65YN2804Y2N1277Y5N44Y4N189Y2N117Y4N127Y3N129Y2N6YN16Y2N88Y2NY2N108YN298Y2N117Y2N373Y2N5Y15",
   "N105Y2N249Y3N517YNYN251Y2N87Y2N420Y2N692Y2N74Y2N19241Y2N133YN65Y2N11YN553Y2N296YN19974Y",
   "N7656Y"]

def softDottedRuns : List Run := readRuns [
   "N105Y2N196YN281YN30YN52YN20YN320YN98YNYN6409YN51YN13YN3YN132YN157YN421YN214Y2N2866YN108453",
   "Y2N50Y2N50Y2N50Y2N50Y2N50Y2N50Y2N50Y2N50Y2N50Y2N50Y2N50Y2N50Y2N2182YN305Y2N26Y"]

def terminalPunctuationRuns : List Run := readRuns [
   "N33YN10YNYN11Y2N3YN830YN8YN513YN57YN72YN14YNY3N180YN43Y11NYN235Y2N54Y6NY8N31YN261Y2N1268Y2",
   "N172YN4Y6N311Y2N789Y8N773YN124Y3N71Y2N157Y3N3YN39Y4N2Y2N314Y2N354Y4N162Y2N10Y2NY3N29Y3N187",
   "Y5N62Y2N932YN23Y2N9Y3N3247Y3N306YN13YN4YN10YNY2N3Y2N428Y2N29947Y2N269Y3N227Y5N382Y2N86Y2N95",
   "YN151Y3N147Y3N127YN16Y2N249YN21030YN2Y2N57Y3NY4N169YN10YNYN11Y2N3YN65YN2YN1082YN48YN1158Y",
   "N199YN310Y2N152Y6N68Y6N89Y4N952Y5N44Y4N189Y7N112Y4N127Y3N129Y2N6YN16Y2N88Y5N108YN298Y2N117",
   "Y3N12Y2N358Y4N3Y15N105Y2N249Y3N517YNYN251Y2N87Y2N4Y2N414Y3N45YN645Y2N74Y2N1323Y5N17913Y2",
   "N133YN65Y3N10YN553Y2N295Y2N19974YN7655Y4"]

def unifiedIdeographRuns : List Run := readRuns [
   "N13312Y6592N64Y20992N23054Y2NYNY2N10YNYNY2N2Y3N67030Y42720N32Y4382N2Y5774N2Y7473N15Y622",
   "N4514Y4939N5Y8490"]

def variationSelectorRuns : List Run := readRuns [
   "N6155Y3NYN58864Y16N852720Y240"]

def runs : Trait → List Run
  | .asciiHexDigit => asciiHexDigitRuns
  | .bidiControl => bidiControlRuns
  | .dash => dashRuns
  | .defaultIgnorable => defaultIgnorableRuns
  | .deprecated => deprecatedRuns
  | .diacritic => diacriticRuns
  | .emoji => emojiRuns
  | .emojiComponent => emojiComponentRuns
  | .emojiModifier => emojiModifierRuns
  | .emojiModifierBase => emojiModifierBaseRuns
  | .emojiPresentation => emojiPresentationRuns
  | .pictographic => pictographicRuns
  | .extender => extenderRuns
  | .hexDigit => hexDigitRuns
  | .idsBinary => idsBinaryRuns
  | .idsTrinary => idsTrinaryRuns
  | .ideographic => ideographicRuns
  | .joinControl => joinControlRuns
  | .logicalOrderException => logicalOrderExceptionRuns
  | .math => mathRuns
  | .noncharacter => noncharacterRuns
  | .patternSyntax => patternSyntaxRuns
  | .patternWhiteSpace => patternWhiteSpaceRuns
  | .quotationMark => quotationMarkRuns
  | .radical => radicalRuns
  | .regionalIndicator => regionalIndicatorRuns
  | .sentenceTerminal => sentenceTerminalRuns
  | .softDotted => softDottedRuns
  | .terminalPunctuation => terminalPunctuationRuns
  | .unifiedIdeograph => unifiedIdeographRuns
  | .variationSelector => variationSelectorRuns

def holds (c : Char) (trait : Trait) : Bool := kindAt trait.runs c.toNat = "Y"

end Trait

def traitNames : List (Trait × List String) := [
  (.asciiHexDigit, ["asciihexdigit", "ahex"]), (.bidiControl, ["bidicontrol", "bidic"]),
  (.dash, ["dash"]), (.defaultIgnorable, ["defaultignorablecodepoint", "di"]),
  (.deprecated, ["deprecated", "dep"]), (.diacritic, ["diacritic", "dia"]), (.emoji, ["emoji"]),
  (.emojiComponent, ["emojicomponent", "ecomp"]), (.emojiModifier, ["emojimodifier", "emod"]),
  (.emojiModifierBase, ["emojimodifierbase", "ebase"]),
  (.emojiPresentation, ["emojipresentation", "epres"]),
  (.pictographic, ["extendedpictographic", "extpict"]), (.extender, ["extender", "ext"]),
  (.hexDigit, ["hexdigit", "hex"]), (.idsBinary, ["idsbinaryoperator", "idsb"]),
  (.idsTrinary, ["idstrinaryoperator", "idst"]), (.ideographic, ["ideographic", "ideo"]),
  (.joinControl, ["joincontrol", "joinc"]),
  (.logicalOrderException, ["logicalorderexception", "loe"]), (.math, ["math"]),
  (.noncharacter, ["noncharactercodepoint", "nchar"]),
  (.patternSyntax, ["patternsyntax", "patsyn"]),
  (.patternWhiteSpace, ["patternwhitespace", "patws"]),
  (.quotationMark, ["quotationmark", "qmark"]), (.radical, ["radical"]),
  (.regionalIndicator, ["regionalindicator", "ri"]),
  (.sentenceTerminal, ["sentenceterminal", "sterm"]), (.softDotted, ["softdotted", "sd"]),
  (.terminalPunctuation, ["terminalpunctuation", "term"]),
  (.unifiedIdeograph, ["unifiedideograph", "uideo"]),
  (.variationSelector, ["variationselector", "vs"])]

def traitNamed? (name : String) : Option Trait :=
  (traitNames.find? (·.2.contains name)).map (·.1)

end StubServer.Text

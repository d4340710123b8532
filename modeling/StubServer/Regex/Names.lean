import StubServer.Regex.CharClass

namespace StubServer.Regex

def plainName (name : String) : String :=
  let cs := (name.toList.filter fun c => !" -_\t\n\r".toList.contains c).map Char.toLower
  match cs with
  | ['i', 's', 'c'] => "isc"
  | 'i' :: 's' :: rest => String.ofList rest
  | _ => String.ofList cs

def categoryNames : List (Property × List String) := [
  (.any, ["any"]), (.assigned, ["assigned"]),
  (.casedLetter, ["lc", "casedletter"]),
  (.group 'C', ["c", "other"]), (.category "Cc", ["cc", "control", "cntrl"]),
  (.category "Cf", ["cf", "format"]), (.category "Cn", ["cn", "unassigned"]),
  (.category "Co", ["co", "privateuse"]),
  (.group 'L', ["l", "letter"]), (.category "Ll", ["ll", "lowercaseletter"]),
  (.category "Lm", ["lm", "modifierletter"]), (.category "Lo", ["lo", "otherletter"]),
  (.category "Lt", ["lt", "titlecaseletter"]), (.category "Lu", ["lu", "uppercaseletter"]),
  (.group 'M', ["m", "mark", "combiningmark"]), (.category "Mc", ["mc", "spacingmark"]),
  (.category "Me", ["me", "enclosingmark"]), (.category "Mn", ["mn", "nonspacingmark"]),
  (.group 'N', ["n", "number"]), (.category "Nd", ["nd", "decimalnumber", "digit"]),
  (.category "Nl", ["nl", "letternumber"]), (.category "No", ["no", "othernumber"]),
  (.group 'P', ["p", "punctuation", "punct"]),
  (.category "Pc", ["pc", "connectorpunctuation"]), (.category "Pd", ["pd", "dashpunctuation"]),
  (.category "Pe", ["pe", "closepunctuation"]), (.category "Pf", ["pf", "finalpunctuation"]),
  (.category "Pi", ["pi", "initialpunctuation"]), (.category "Po", ["po", "otherpunctuation"]),
  (.category "Ps", ["ps", "openpunctuation"]),
  (.group 'S', ["s", "symbol"]), (.category "Sc", ["sc", "currencysymbol"]),
  (.category "Sk", ["sk", "modifiersymbol"]), (.category "Sm", ["sm", "mathsymbol"]),
  (.category "So", ["so", "othersymbol"]),
  (.group 'Z', ["z", "separator"]), (.category "Zl", ["zl", "lineseparator"]),
  (.category "Zp", ["zp", "paragraphseparator"]), (.category "Zs", ["zs", "spaceseparator"])]

def propertyNames : List (Property × List String) := [
  (.alphabetic, ["alpha", "alphabetic"]), (.uppercase, ["upper", "uppercase"]),
  (.lowercase, ["lower", "lowercase"]), (.blank, ["wspace", "whitespace", "space"]),
  (.cased, ["cased"]), (.caseIgnorable, ["caseignorable", "ci"]),
  (.nameStart, ["idstart", "ids"]), (.namePart, ["idcontinue", "idc"]),
  (.plainNameStart, ["xidstart", "xids"]), (.plainNamePart, ["xidcontinue", "xidc"])]

def named? (table : List (Property × List String)) (name : String) : Option CharClass :=
  (table.find? (·.2.contains name)).map (.property ·.1)

def categoryNamed? (name : String) : Option CharClass :=
  if name = "ascii" then some .ascii else named? categoryNames name

def scriptNamed? (name : String) : Option CharClass :=
  (Text.scriptNamed? name).map fun code => .property (.script code)

def traitNamed? (name : String) : Option CharClass :=
  (Text.traitNamed? name).map fun t => .property (.trait t)

def classNamed? (name : String) : Option CharClass :=
  named? propertyNames name <|> traitNamed? name <|> categoryNamed? name <|> scriptNamed? name

def classValued? (property value : String) : Option CharClass :=
  if ["gc", "generalcategory"].contains property then categoryNamed? value
  else if ["sc", "script", "scx", "scriptextensions"].contains property then scriptNamed? value
  else none

def ofRanges (ranges : List (Char × Char)) : CharClass :=
  .unions (ranges.map fun (first, last) => .range first last)

def digitRange : Char × Char := ('0', '9')
def smallRange : Char × Char := ('a', 'z')
def capitalRange : Char × Char := ('A', 'Z')

/-- The classes that are written as a name between colons; they hold ASCII characters only. -/
def bracketNames : List (String × CharClass) := [
  ("alnum", ofRanges [digitRange, capitalRange, smallRange]),
  ("alpha", ofRanges [capitalRange, smallRange]),
  ("ascii", .ascii),
  ("blank", ofRanges [('\t', '\t'), (' ', ' ')]),
  ("cntrl", ofRanges [('\x00', '\x1f'), ('\x7f', '\x7f')]),
  ("digit", ofRanges [digitRange]),
  ("graph", ofRanges [('!', '~')]),
  ("lower", ofRanges [smallRange]),
  ("print", ofRanges [(' ', '~')]),
  ("punct", ofRanges [('!', '/'), (':', '@'), ('[', '\x60'), ('\x7b', '~')]),
  ("space", ofRanges [('\t', '\r'), (' ', ' ')]),
  ("upper", ofRanges [capitalRange]),
  ("word", ofRanges [digitRange, capitalRange, smallRange, ('_', '_')]),
  ("xdigit", ofRanges [digitRange, ('A', 'F'), ('a', 'f')])]

def shorthand? (ascii : Bool) : Char → Option CharClass
  | 'd' => if ascii then bracketNames.lookup "digit" else some (.property (.category "Nd"))
  | 's' => if ascii then bracketNames.lookup "space" else some (.property .blank)
  | 'w' => if ascii then bracketNames.lookup "word" else some (.property .word)
  | _ => none

end StubServer.Regex

import RoutePattern.Regex.Boundary
import RoutePattern.Text
import RoutePattern.Unicode.Age
import RoutePattern.Unicode.SharedScript

/-!
# Properties by name

A regex names sets of characters by their Unicode properties. Names are compared loosely: case,
spaces, underscores, hyphens and a leading `is` do not matter.
-/

namespace RoutePattern.Regex.Property

/-- A name without an `is` that it starts with, if it does. -/
def dropIs? : Text → Option Text
  | c :: d :: rest => if c.toLower = 'i' ∧ d.toLower = 's' then some rest else none
  | _ => none

/-- The characters of a name that count, in lower case. -/
def letters (name : Text) : String :=
  String.ofList
    ((name.filter fun c => c.toNat < 0x80 && c != ' ' && c != '_' && c != '-').map Char.toLower)

/-- The part of a name that counts when names are compared; `isc` is a name of its own. -/
def normalize (name : Text) : String :=
  match dropIs? name with
  | some rest => if letters rest = "c" then "isc" else letters rest
  | none => letters name

/-- The general categories that a normalized name stands for. -/
def categories? (name : String) : Option (List Unicode.Category) :=
  match name with
  | "l" | "letter" => some Unicode.Category.letters
  | "lc" | "casedletter" => some Unicode.Category.casedLetters
  | "lu" | "uppercaseletter" => some [.lu]
  | "ll" | "lowercaseletter" => some [.ll]
  | "lt" | "titlecaseletter" => some [.lt]
  | "lm" | "modifierletter" => some [.lm]
  | "lo" | "otherletter" => some [.lo]
  | "m" | "mark" | "combiningmark" => some Unicode.Category.marks
  | "mn" | "nonspacingmark" => some [.mn]
  | "mc" | "spacingmark" => some [.mc]
  | "me" | "enclosingmark" => some [.me]
  | "n" | "number" => some Unicode.Category.numbers
  | "nd" | "decimalnumber" | "digit" => some [.nd]
  | "nl" | "letternumber" => some [.nl]
  | "no" | "othernumber" => some [.no]
  | "p" | "punctuation" | "punct" => some Unicode.Category.punctuation
  | "pc" | "connectorpunctuation" => some [.pc]
  | "pd" | "dashpunctuation" => some [.pd]
  | "ps" | "openpunctuation" => some [.ps]
  | "pe" | "closepunctuation" => some [.pe]
  | "pi" | "initialpunctuation" => some [.pi]
  | "pf" | "finalpunctuation" => some [.pf]
  | "po" | "otherpunctuation" => some [.po]
  | "s" | "symbol" => some Unicode.Category.symbols
  | "sm" | "mathsymbol" => some [.sm]
  | "sc" | "currencysymbol" => some [.sc]
  | "sk" | "modifiersymbol" => some [.sk]
  | "so" | "othersymbol" => some [.so]
  | "z" | "separator" => some Unicode.Category.separators
  | "zs" | "spaceseparator" => some [.zs]
  | "zl" | "lineseparator" => some [.zl]
  | "zp" | "paragraphseparator" => some [.zp]
  | "cc" | "control" | "cntrl" => some [.cc]
  | "cf" | "format" => some [.cf]
  | "co" | "privateuse" => some [.co]
  | "cn" | "unassigned" => some [.cn]
  | _ => none

/-- The characters of the general category, or group of them, with the given normalized name. -/
def categorySet? (name : String) : Option CharSet :=
  match name with
  | "any" => some .all
  | "assigned" => some (.compl (.category .cn))
  | "ascii" => some AsciiClass.ascii.set
  | "c" | "other" => some (.union (.categories Unicode.Category.others) .surrogates)
  | _ => (categories? name).map .categories

/-- The characters used with the script with the given normalized name: those of the script, unless
they are listed as shared with other scripts only, and those listed as shared with it. -/
def sharedScriptSet? (name : String) : Option CharSet :=
  (Unicode.scripts.find? (·.names.contains name)).map fun script =>
    let shared := Unicode.sharedScripts
    let others := shared.filter fun table => !table.names.any script.names.contains
    let own := shared.filter fun table => table.names.any script.names.contains
    .union (.diff (.ofRuns script.runs) (.ofRuns (others.flatMap (·.runs))))
      (.ofRuns (own.flatMap (·.runs)))

/-- The code points that editions up to and including the one with the given name added. -/
def ageSet? (name : String) : Option CharSet :=
  let later := Unicode.ages.dropWhile fun age => !age.names.contains name
  if later = [] then none
  else
    let count := Unicode.ages.length - later.length + 1
    some (.ofRuns ((Unicode.ages.take count).flatMap (·.runs)))

/-- The characters of the property with the given name: one that a character has or has not, a
general category, or a script. -/
def named? (name : Text) : Option CharSet :=
  let name := normalize name
  ((traitSet? name).or (categorySet? name)).or (scriptSet? name)

/-- The characters for which the property `name` has the given value. -/
def valued? (name value : Text) : Option CharSet :=
  match normalize name with
  | "gc" | "generalcategory" => categorySet? (normalize value)
  | "sc" | "script" => scriptSet? (normalize value)
  | "scx" | "scriptextensions" => sharedScriptSet? (normalize value)
  | "age" => ageSet? (normalize value)
  | "gcb" | "graphemeclusterbreak" => graphemeBreak? (normalize value)
  | "wb" | "wordbreak" => wordBreak? (normalize value)
  | "sb" | "sentencebreak" => sentenceBreak? (normalize value)
  | _ => none

end RoutePattern.Regex.Property

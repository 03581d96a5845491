import RoutePattern.Regex.CharSet
import RoutePattern.Unicode.CaseTrait
import RoutePattern.Unicode.Emoji
import RoutePattern.Unicode.Script
import RoutePattern.Unicode.Trait

/-!
# Derived properties

Many properties of characters follow from general categories and a few characters that the
categories miss. The others are tabulated.
-/

namespace RoutePattern.Regex

namespace Property

/-- The characters with a tabulated property. -/
def tabulated? (name : String) : Option CharSet :=
  (((Unicode.runsNamed? name Unicode.traits).or (Unicode.runsNamed? name Unicode.caseTraits)).or
    (Unicode.runsNamed? name Unicode.emojiTraits)).map .ofRuns

/-- The characters with a tabulated property, which is known to be there. -/
def tabulated (name : String) : CharSet := (tabulated? name).getD .none

/-- The characters of the script with the given normalized name. -/
def scriptSet? (name : String) : Option CharSet :=
  (Unicode.runsNamed? name Unicode.scripts).map .ofRuns

/-- The characters of a script, which is known to be there. -/
def script (name : String) : CharSet := (scriptSet? name).getD .none

/-- Small letters and what looks like them. -/
def lowercase : CharSet := .union (.category .ll) (tabulated "otherlowercase")

/-- Capital letters and what looks like them. -/
def uppercase : CharSet := .union (.category .lu) (tabulated "otheruppercase")

/-- The characters that have case. -/
def cased : CharSet := .unions [lowercase, uppercase, .category .lt]

/-- The characters that do not end a word for the purposes of case. -/
def caseIgnorable : CharSet :=
  .union (.categories [.mn, .me, .cf, .lm, .sk])
    (.ofRanges [⟨0x27, 0x27⟩, ⟨0x2E, 0x2E⟩, ⟨0x3A, 0x3A⟩, ⟨0xB7, 0xB7⟩, ⟨0x387, 0x387⟩,
      ⟨0x55F, 0x55F⟩, ⟨0x5F4, 0x5F4⟩, ⟨0x2018, 0x2019⟩, ⟨0x2024, 0x2024⟩, ⟨0x2027, 0x2027⟩,
      ⟨0xFE13, 0xFE13⟩, ⟨0xFE52, 0xFE52⟩, ⟨0xFE55, 0xFE55⟩, ⟨0xFF07, 0xFF07⟩, ⟨0xFF0E, 0xFF0E⟩,
      ⟨0xFF1A, 0xFF1A⟩])

/-- The characters that some change of case changes. -/
def caseMapped : CharSet :=
  .unions [tabulated "changeswhenlowercased", tabulated "changeswhenuppercased",
    tabulated "changeswhentitlecased"]

/-- The characters of formulas. -/
def math : CharSet := .union (.category .sm) (tabulated "othermath")

/-- The characters that attach to the one before them. -/
def graphemeExtend : CharSet :=
  .union (.categories [.me, .mn]) (tabulated "othergraphemeextend")

/-- The characters that stand for themselves. -/
def graphemeBase : CharSet :=
  .compl (.unions [.categories [.cc, .cf, .co, .cn, .zl, .zp], .surrogates, graphemeExtend])

/-- The characters that patterns reserve for themselves. -/
def patternCharacters : CharSet :=
  .union (tabulated "patternsyntax") (tabulated "patternwhitespace")

/-- The characters that identifiers start with. -/
def idStart : CharSet :=
  .diff (.union (.categories (Unicode.Category.letters ++ [.nl])) (tabulated "otheridstart"))
    patternCharacters

/-- The characters that identifiers go on with. -/
def idContinue : CharSet :=
  .diff (.unions [idStart, .categories [.mn, .mc, .nd, .pc], tabulated "otheridcontinue"])
    patternCharacters

/-- The characters that identifiers stop going on with once compatible characters are unified. -/
def idUnstable : CharSet :=
  .unions [.ofRanges [⟨0x37A, 0x37A⟩, ⟨0x309B, 0x309C⟩, ⟨0xFC5E, 0xFC63⟩, ⟨0xFDFA, 0xFDFB⟩],
    .ofRuns [⟨0xFE70, 0xFE7E, 2⟩]]

/-- The characters that identifiers stop starting with once compatible characters are unified. -/
def idStartUnstable : CharSet :=
  .union idUnstable (.ofRanges [⟨0xE33, 0xE33⟩, ⟨0xEB3, 0xEB3⟩, ⟨0xFF9E, 0xFF9F⟩])

/-- The characters with the property of the given normalized name. -/
def traitSet? (name : String) : Option CharSet :=
  match name with
  | "alpha" | "alphabetic" => some .alphabetic
  | "oalpha" | "otheralphabetic" => some (.ofRuns Unicode.otherAlphabetic)
  | "space" | "wspace" | "whitespace" => some .whiteSpace
  | "lower" | "lowercase" => some lowercase
  | "upper" | "uppercase" => some uppercase
  | "cased" => some cased
  | "ci" | "caseignorable" => some caseIgnorable
  | "cwcm" | "changeswhencasemapped" => some caseMapped
  | "math" => some math
  | "grext" | "graphemeextend" => some graphemeExtend
  | "grbase" | "graphemebase" => some graphemeBase
  | "ids" | "idstart" => some idStart
  | "idc" | "idcontinue" => some idContinue
  | "xids" | "xidstart" => some (.diff idStart idStartUnstable)
  | "xidc" | "xidcontinue" => some (.diff idContinue idUnstable)
  | name => tabulated? name

end Property

end RoutePattern.Regex

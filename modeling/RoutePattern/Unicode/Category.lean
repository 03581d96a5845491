import RoutePattern.Unicode.Alphabetic
import RoutePattern.Unicode.Letter
import RoutePattern.Unicode.Mark
import RoutePattern.Unicode.Number
import RoutePattern.Unicode.Punctuation
import RoutePattern.Unicode.Recent
import RoutePattern.Unicode.Separator
import RoutePattern.Unicode.Symbol

/-!
# General categories

Every code point has one general category. Categories come in groups such as letters and numbers,
and a code point is alphabetic when it is a letter, a letter number, or one of a few more.
-/

namespace RoutePattern.Unicode

/-- The general categories of characters, by their two-letter names. -/
inductive Category where
  | lu | ll | lt | lm | lo
  | mn | mc | me
  | nd | nl | no
  | pc | pd | ps | pe | pi | pf | po
  | sm | sc | sk | so
  | zs | zl | zp
  | cc | cf | co | cn
  deriving DecidableEq, Repr

namespace Category

/-- The code points of an assigned category; those of no table, the surrogates apart, are
unassigned. -/
def runs : Category → List Run
  | lu => uppercaseLetter
  | ll => lowercaseLetter
  | lt => titlecaseLetter
  | lm => modifierLetter
  | lo => otherLetter
  | mn => nonspacingMark
  | mc => spacingMark
  | me => enclosingMark
  | nd => decimalNumber
  | nl => letterNumber
  | no => otherNumber
  | pc => connectorPunctuation
  | pd => dashPunctuation
  | ps => openPunctuation
  | pe => closePunctuation
  | pi => initialPunctuation
  | pf => finalPunctuation
  | po => otherPunctuation
  | sm => mathSymbol
  | sc => currencySymbol
  | sk => modifierSymbol
  | so => otherSymbol
  | zs => spaceSeparator
  | zl => lineSeparator
  | zp => paragraphSeparator
  | cc => control
  | cf => format
  | co => privateUse
  | cn => []

/-- The letters. -/
def letters : List Category := [lu, ll, lt, lm, lo]

/-- The letters that have case. -/
def casedLetters : List Category := [lu, ll, lt]

/-- The combining marks. -/
def marks : List Category := [mn, mc, me]

/-- The numbers. -/
def numbers : List Category := [nd, nl, no]

/-- The punctuation. -/
def punctuation : List Category := [pc, pd, ps, pe, pi, pf, po]

/-- The symbols. -/
def symbols : List Category := [sm, sc, sk, so]

/-- The separators. -/
def separators : List Category := [zs, zl, zp]

/-- The characters that are none of the above, assigned or not. -/
def others : List Category := [cc, cf, co, cn]

/-- All categories but the unassigned one. -/
def assigned : List Category :=
  letters ++ marks ++ numbers ++ punctuation ++ symbols ++ separators ++ [cc, cf, co]

/-- Whether a code point is of the category, unless that is the unassigned one. -/
def contains (category : Category) (code : Nat) : Bool := inRuns code category.runs

end Category

/-- Whether a character of a name is a letter, a letter number, or alphabetic otherwise. -/
def isAlphabetic (c : Char) : Bool :=
  (Category.letters ++ [Category.nl]).any (·.contains c.toNat) ||
    inRuns c.toNat otherAlphabetic || inRuns c.toNat recentAlphabetic

/-- Whether a character of a name is a number. -/
def isNumeric (c : Char) : Bool :=
  Category.numbers.any (·.contains c.toNat) || inRuns c.toNat recentNumber

/-- Whether a character is white space. -/
def isWhiteSpace (c : Char) : Bool := inRuns c.toNat whiteSpace

end RoutePattern.Unicode

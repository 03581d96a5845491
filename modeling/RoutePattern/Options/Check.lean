import RoutePattern.Options
import RoutePattern.Regex.Reader

/-!
# Checked options

Options are usable when the regex of a parameter is not blank and is a regex when it stands in a
group of its own. Options can also be built from the defaults by a sequence of changes.
-/

namespace RoutePattern

/-- Why options are refused. -/
inductive OptionsError where
  /-- The regex of a parameter is blank. -/
  | blankParamRegex
  /-- The regex of a parameter is refused. -/
  | invalidParamRegex (regex : Text) (error : Regex.Error)
  deriving DecidableEq, Repr

/-- The text that tells a reader that a regex is missing. -/
def OptionsError.blankMessage : String := "variable_pattern must not be empty"

namespace Options

/-- The regex of a parameter, alone in a group and anchored at both ends. -/
def anchoredParamRegex (options : Options) : Text :=
  ['^', '(', '?', ':'] ++ options.paramRegex ++ [')', '$']

/-- Refuses options that no pattern could be compiled with. -/
def check (options : Options) : Except OptionsError Unit :=
  if options.paramRegex.all Unicode.isWhiteSpace then .error .blankParamRegex
  else
    match Regex.compile false options.anchoredParamRegex with
    | .error error => .error (.invalidParamRegex options.paramRegex error)
    | .ok _ => .ok ()

/-- One change on the way from the defaults to other options. -/
inductive Change where
  | caseInsensitive (value : Bool)
  | quantifier (value : Quantifier)
  | paramRegex (value : Text)
  /-- Changes nothing. -/
  | keep
  deriving DecidableEq, Repr

/-- The options after a change. -/
def change (options : Options) : Change → Options
  | .caseInsensitive value => { options with caseInsensitive := value }
  | .quantifier value => { options with quantifier := value }
  | .paramRegex value => { options with paramRegex := value }
  | .keep => options

/-- The options themselves once they are checked. -/
def build (options : Options) : Except OptionsError Options :=
  options.check.map fun () => options

/-- The outcome of building after each of a sequence of changes; a failure ends nothing. -/
def buildEach (options : Options) : List Change → List (Except OptionsError Options)
  | [] => []
  | change :: rest => (options.change change).build :: (options.change change).buildEach rest

end Options

end RoutePattern

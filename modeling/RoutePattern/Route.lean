import RoutePattern.Compiled
import RoutePattern.Options.Check
import RoutePattern.Params
import RoutePattern.Regex.Search
import RoutePattern.Tree.Spine

/-!
# Routes

A route is a compiled pattern whose regex, anchored at the start, has been built. Matching a
haystack gives the matched text, where it stops, and the values of names: groups that the regex
itself names count, but a parameter decides about its own name alone.
-/

namespace RoutePattern

/-- A pattern that is ready to match. -/
structure Route where
  regex : Regex
  groups : GroupTable
  deriving DecidableEq, Repr

/-- Why a pattern cannot be compiled. -/
inductive CompileError where
  | options (error : OptionsError)
  | pattern (error : PatternError)
  | regex (error : Regex.Error)
  deriving DecidableEq, Repr

namespace Compiled

/-- The regex source, anchored at the start. -/
def anchoredSource (compiled : Compiled) : Text := '^' :: compiled.source

/-- Builds the regex of a compiled pattern. -/
def route (compiled : Compiled) : Except Regex.Error Route :=
  (Regex.compile compiled.caseInsensitive compiled.anchoredSource).map fun regex =>
    ⟨regex, compiled.groups⟩

end Compiled

/-- Checks the options, then parses and compiles a pattern. -/
def compile (pattern : Text) (options : Options) : Except CompileError Compiled :=
  match options.check with
  | .error error => .error (.options error)
  | .ok () =>
    match parse pattern with
    | .error error => .error (.pattern error)
    | .ok root => .ok (root.compile options)

/-- Compiles a pattern and builds its regex. -/
def compileRoute (pattern : Text) (options : Options) : Except CompileError (Compiled × Route) :=
  match compile pattern options with
  | .error error => .error error
  | .ok compiled =>
    match compiled.route with
    | .error error => .error (.regex error)
    | .ok route => .ok (compiled, route)

/-- Once the options are checked and the pattern is parsed, all depends on the source. -/
theorem compileRoute_eq_of_parse {pattern : Text} {options : Options} {root : Node}
    (hcheck : options.check = .ok ()) (hparse : parse pattern = .ok root) :
    compileRoute pattern options =
      match Regex.compile options.caseInsensitive (root.compile options).anchoredSource with
      | .error error => .error (.regex error)
      | .ok regex => .ok (root.compile options, ⟨regex, (root.compile options).groups⟩) := by
  have hcompiled : compile pattern options = .ok (root.compile options) := by
    simp [compile, hcheck, hparse]
  have hroute : (root.compile options).route =
      (Regex.compile options.caseInsensitive (root.compile options).anchoredSource).map fun regex =>
        ⟨regex, (root.compile options).groups⟩ := rfl
  unfold compileRoute
  simp only [hcompiled, hroute]
  cases Regex.compile options.caseInsensitive (root.compile options).anchoredSource <;> rfl

/-- The text of a region of a haystack. -/
def Regex.Region.text (region : Regex.Region) (haystack : Text) : Text :=
  (haystack.drop region.start).take (region.stop - region.start)

/-- A match of a route: the matched text, the byte offset where it stops, and the named values. -/
structure RouteMatch where
  matched : Text
  stop : Nat
  params : Params
  deriving DecidableEq, Repr

namespace Params

/-- Adds the groups that a regex names and that took part in the match. -/
def addNamed (params : Params) : List (Option Text × Option Text) → Params
  | [] => params
  | (some name, some value) :: rest => (params.set name value).addNamed rest
  | _ :: rest => params.addNamed rest

/-- Lets each parameter decide about its name: the value of its group, or none. -/
def addParams (params : Params) (values : List (Option Text)) : GroupTable → Params
  | [] => params
  | (name, index) :: rest =>
    match (values[index - 1]?).join with
    | some value => (params.set name value).addParams values rest
    | none => (params.erase name).addParams values rest

/-- The named values of a match, given the values of all groups and the names of the regex's own. -/
def merge (names values : List (Option Text)) (table : GroupTable) : Params :=
  (addNamed [] (names.zip values)).addParams values table

end Params

namespace Route

/-- Whether the route matches a haystack. -/
def isMatch (route : Route) (haystack : Text) : Bool := route.regex.isMatch haystack

/-- The match that the regex found, with its named values. -/
def ofCaptures (route : Route) (haystack : Text) (captures : Regex.Captures) : RouteMatch where
  matched := captures.whole.text haystack
  stop := Text.width (haystack.take captures.whole.stop)
  params :=
    Params.merge route.regex.names (captures.groups.map (·.map (·.text haystack))) route.groups

/-- The match of the route in a haystack. -/
def match? (route : Route) (haystack : Text) : Option RouteMatch :=
  (route.regex.captures? haystack).map (route.ofCaptures haystack)

end Route

end RoutePattern

import RoutePattern.Text

/-!
# Named values

The values that a match gives to names are kept in the order of the names, compared character by
character. Every name has at most one value.
-/

namespace RoutePattern

/-- Whether a text comes before another in the order of code points. -/
def Text.before : Text → Text → Bool
  | [], [] => false
  | [], _ :: _ => true
  | _ :: _, [] => false
  | c :: left, d :: right => c.toNat < d.toNat || (c == d && Text.before left right)

/-- Names with their values, in the order of the names. -/
abbrev Params := List (Text × Text)

namespace Params

/-- Gives a name a value, instead of any value it has. -/
def set (params : Params) (name value : Text) : Params :=
  match params with
  | [] => [(name, value)]
  | entry :: rest =>
    if entry.1 = name then (name, value) :: rest
    else if name.before entry.1 then (name, value) :: entry :: rest
    else entry :: set rest name value

/-- Takes the value of a name away. -/
def erase (params : Params) (name : Text) : Params := params.filter (·.1 != name)

/-- The value of a name. -/
def get? (params : Params) (name : Text) : Option Text :=
  (params.find? (·.1 == name)).map (·.2)

end Params

end RoutePattern

import RoutePattern.Options

/-!
# Options from records

Options are also written as plain data: a record of named fields or a list of the fields in order.
Missing fields take their defaults and unknown fields are ignored; a known field of the wrong type
is refused. Reading does not check the options.
-/

namespace RoutePattern

/-- Plain data. -/
inductive Value where
  | null
  | bool (value : Bool)
  /-- Any number; no option takes one. -/
  | number
  | text (value : Text)
  | list (items : List Value)
  | record (fields : List (Text × Value))
  deriving Inhabited

/-- Options written as data could not be read. -/
inductive RecordError where
  /-- The data is neither a record nor a list. -/
  | notOptions
  /-- The field with this name holds the wrong type of value. -/
  | wrongType (field : Text)
  /-- The list has more items than there are fields. -/
  | tooManyItems
  deriving DecidableEq, Repr

/-- The quantifier with the given name. -/
def Quantifier.ofName? (name : Text) : Option Quantifier :=
  if name = "OneOrMore".toList then some .oneOrMore
  else if name = "ZeroOrMore".toList then some .zeroOrMore
  else none

/-- The name of a quantifier in data. -/
def Quantifier.name : Quantifier → Text
  | .oneOrMore => "OneOrMore".toList
  | .zeroOrMore => "ZeroOrMore".toList

/-- A quantifier is its name, or a record whose only field has that name and holds nothing. -/
def Value.quantifier? : Value → Option Quantifier
  | .text name => Quantifier.ofName? name
  | .record [(name, .null)] => Quantifier.ofName? name
  | _ => none

/-- The truth value, if the data is one. -/
def Value.bool? : Value → Option Bool
  | .bool value => some value
  | _ => none

/-- The text, if the data is one. -/
def Value.text? : Value → Option Text
  | .text value => some value
  | _ => none

/-- The names of the fields, in the order of the list form. -/
def Options.fieldNames : List Text :=
  ["case_insensitive".toList, "wildcard_quantifier".toList, "variable_pattern".toList]

namespace Options

/-- Sets the field with the given name; an unknown name changes nothing. -/
def setField (options : Options) (name : Text) (value : Value) : Except RecordError Options :=
  if name = "case_insensitive".toList then
    match value.bool? with
    | some flag => .ok { options with caseInsensitive := flag }
    | none => .error (.wrongType name)
  else if name = "wildcard_quantifier".toList then
    match value.quantifier? with
    | some quantifier => .ok { options with quantifier := quantifier }
    | none => .error (.wrongType name)
  else if name = "variable_pattern".toList then
    match value.text? with
    | some text => .ok { options with paramRegex := text }
    | none => .error (.wrongType name)
  else .ok options

/-- Sets fields one after the other. -/
def setFields (options : Options) : List (Text × Value) → Except RecordError Options
  | [] => .ok options
  | (name, value) :: rest =>
    match options.setField name value with
    | .error error => .error error
    | .ok options => options.setFields rest

/-- Reads options from data. -/
def ofValue : Value → Except RecordError Options
  | .record fields => setFields {} fields
  | .list items =>
    if fieldNames.length < items.length then .error .tooManyItems
    else setFields {} (fieldNames.zip items)
  | _ => .error .notOptions

/-- The options as a record of all fields. -/
def toValue (options : Options) : Value :=
  .record (fieldNames.zip
    [.bool options.caseInsensitive, .text options.quantifier.name, .text options.paramRegex])

end Options

end RoutePattern

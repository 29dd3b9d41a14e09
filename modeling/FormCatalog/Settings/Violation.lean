import FormCatalog.Json.Value
import FormCatalog.Number.Decimal
import FormCatalog.Text.Quoted

/-!
Settings that cannot be read.

A violation names the setting, the rule that the given value breaks, and the value. `report` shows a
list of them, one after the other, with a long value cut in its middle.
-/

set_option autoImplicit false
set_option relaxedAutoImplicit false

namespace FormCatalog.Settings

/-- The rules for given values. -/
inductive Rule where
  | truthValue
  | truthWord
  | text
  | integer
  | integerText
  | integerTextLength
  | wholeNumber
  | finiteNumber
  | number
  | numberText
  | atLeastOne
  | aboveZero
  | signInScheme
  | updateMode
  | path
  deriving DecidableEq, Repr

/-- The name of the rule in reports. -/
def Rule.name : Rule → String
  | truthValue => "bool_type"
  | truthWord => "bool_parsing"
  | text => "string_type"
  | integer => "int_type"
  | integerText => "int_parsing"
  | integerTextLength => "int_parsing_size"
  | wholeNumber => "int_from_float"
  | finiteNumber => "finite_number"
  | number => "float_type"
  | numberText => "float_parsing"
  | atLeastOne => "greater_than_equal"
  | aboveZero => "greater_than"
  | signInScheme => "literal_error"
  | updateMode => "enum"
  | path => "path_type"

/-- What the rule asks for. -/
def Rule.message : Rule → String
  | truthValue => "Input should be a valid boolean"
  | truthWord => "Input should be a valid boolean, unable to interpret input"
  | text => "Input should be a valid string"
  | integer => "Input should be a valid integer"
  | integerText => "Input should be a valid integer, unable to parse string as an integer"
  | integerTextLength => "Unable to parse input string as an integer, exceeded maximum size"
  | wholeNumber => "Input should be a valid integer, got a number with a fractional part"
  | finiteNumber => "Input should be a finite number"
  | number => "Input should be a valid number"
  | numberText => "Input should be a valid number, unable to parse string as a number"
  | atLeastOne => "Input should be greater than or equal to 1"
  | aboveZero => "Input should be greater than 0"
  | signInScheme => "Input should be 'basic' or 'digest'"
  | updateMode => "Input should be 'manual', 'previously_downloaded_only' or 'match_exactly'"
  | path => "Input is not a valid path for <class 'pathlib.Path'>"

/-- A setting whose given value breaks a rule. -/
structure Violation where
  field : String
  rule : Rule
  /-- The value, if it was given as a text. -/
  given : Option String

/-- How many characters from the front fit into a number of bytes. -/
def charsWithin : Nat → List Char → List Char
  | _, [] => []
  | n, c :: rest => if c.utf8Size ≤ n then c :: charsWithin (n - c.utf8Size) rest else []

/-- A text of more than 50 bytes, cut to its first 25 and last 24. -/
def shorten (s : String) : String :=
  if s.utf8ByteSize > 50 then
    let cs := s.toList
    String.ofList (charsWithin 25 cs) ++ "..."
      ++ String.ofList (charsWithin 24 cs.reverse).reverse
  else s

/-- Where the pages on the rules are, without the scheme. -/
def rulePages : String := "errors.pydantic.dev/2.14/v/"

/-- One violation in a report. -/
def Violation.lines (v : Violation) : String :=
  v.field ++ "\n  " ++ v.rule.message ++ " [type=" ++ v.rule.name ++ ", input_value="
    ++ shorten (Text.quoted (v.given.getD "")) ++ ", input_type=str]\n"
    ++ "    For further information visit https://" ++ rulePages ++ v.rule.name

/-- A report on violations. -/
def violationReport (violations : List Violation) : String :=
  Number.textOfNat violations.length ++ " validation error"
    ++ (if violations.length = 1 then "" else "s") ++ " for Settings\n"
    ++ "\n".intercalate (violations.map (·.lines))

end FormCatalog.Settings

import FormCatalog.Number.Binary64
import FormCatalog.Settings.Basic
import FormCatalog.Settings.Violation
import FormCatalog.Text.Blank

/-!
Reading given values as settings.

A value is a JSON value: settings from the environment and from settings files are texts, and
arguments may be of any kind. Texts are read as truth words, integers and numbers; numbers are taken
for truth values and integers where they are equal to one.
-/

set_option autoImplicit false
set_option relaxedAutoImplicit false

namespace FormCatalog.Settings

open Number

/-- Reading ends with a value, or with the rule that the given one breaks. -/
abbrev Reading (α : Type) := Except Rule α

/-- The words for true and false, in any case. -/
def readTruthWord (s : String) : Reading Bool :=
  let word := String.ofList (s.toList.map Char.toLower)
  if ["1", "on", "t", "true", "y", "yes"].contains word then .ok true
  else if ["0", "off", "f", "false", "n", "no"].contains word then .ok false
  else .error .truthWord

/-- The number that a numeral writes. -/
def numeralValue : Numeral → Binary64
  | .integer n => Binary64.ofInt n
  | .decimal d => Binary64.ofDecimal d
  | .infinite negative => .infinite negative
  | .notANumber => .notANumber

/-- A truth value. -/
def readBool : Json → Reading Bool
  | .bool b => .ok b
  | .string s => readTruthWord s
  | .number n =>
    match n with
    | .integer 0 => .ok false
    | .integer 1 => .ok true
    | .integer _ => .error .truthWord
    | n =>
      match (numeralValue n).toInt? with
      | some 0 => .ok false
      | some 1 => .ok true
      | some _ => .error .truthWord
      | none => .error .truthValue
  | _ => .error .truthValue

/-- A text. -/
def readText : Json → Reading String
  | .string s => .ok s
  | _ => .error .text

/-- Drops leading zeros, and underscores among them, but keeps the last zero where no other digit
follows. `none` where no number begins. -/
def dropLeadingZeros (cs : List Char) : Option (List Char) :=
  match cs with
  | '0' :: rest =>
    let (zeros, after) := rest.span fun c ↦ c = '0' || c = '_'
    let last := [(zeros.getLast?).getD '0']
    match after with
    | [] => some last
    | '.' :: _ => some (last ++ after)
    | c :: _ => if isDigit c then some after else none
  | c :: _ => if isDigit c || c = '-' then some cs else none
  | [] => none

/-- Drops a point with one or more zeros from the end. -/
def dropZeroFraction (cs : List Char) : List Char :=
  match cs.span (· ≠ '.') with
  | (whole, '.' :: fraction) =>
    if !fraction.isEmpty && fraction.all (· = '0') then whole else cs
  | _ => cs

/-- Whether a text has two underscores in a row. -/
def hasDoubleUnderscore : List Char → Bool
  | '_' :: '_' :: _ => true
  | _ :: rest => hasDoubleUnderscore rest
  | [] => false

/-- Drops single underscores between other characters. -/
def dropUnderscores (cs : List Char) : Option (List Char) :=
  if cs.head? = some '_' || cs.getLast? = some '_' || !cs.contains '_' || hasDoubleUnderscore cs
  then none
  else some (cs.filter (· ≠ '_'))

/-- An integer without leading zeros, perhaps negative. -/
def plainInt? (cs : List Char) : Option Int :=
  let (negative, digits) : Bool × List Char := match cs with
    | '-' :: rest => (true, rest)
    | rest => (false, rest)
  if digits.length > 1 && digits.head? = some '0' then none
  else (natOfDigits? digits).map fun n ↦ if negative then -(n : Int) else n

/-- An integer written as a text. -/
def readIntText (s : String) : Reading Int :=
  if s.utf8ByteSize > 4300 then .error .integerTextLength
  else
    let cs := Text.trim Text.isWhiteSpace s.toList
    let cs := match cs with
      | '+' :: rest => rest
      | cs => cs
    match dropLeadingZeros cs with
    | none => .error .integerText
    | some cs =>
      let cs := dropZeroFraction cs
      match plainInt? ((dropUnderscores cs).getD cs) with
      | some n => .ok n
      | none => .error .integerText

/-- The largest integer that a number with a fraction is taken for. -/
def largestWhole : Int := Int.ofNat (Nat.pow 2 63) - 1

/-- An integer. -/
def readInt : Json → Reading Int
  | .bool b => .ok (if b then 1 else 0)
  | .string s => readIntText s
  | .number (.integer n) => .ok n
  | .number n =>
    match numeralValue n with
    | .finite negative m e =>
      match (Binary64.finite negative m e).toInt? with
      | none => .error .wholeNumber
      | some n =>
        if -largestWhole - 1 ≤ n ∧ n ≤ largestWhole + 1 then .ok (min n largestWhole)
        else .error .integerTextLength
    | _ => .error .finiteNumber
  | _ => .error .integer

/-- A number in the usual notation: digits with an optional point, and an optional power. -/
def readUnsigned? (negative : Bool) (cs : List Char) : Option Binary64 :=
  let (whole, rest) := spanDigits cs
  let (fraction, rest) : List Char × List Char := match rest with
    | '.' :: rest => spanDigits rest
    | rest => ([], rest)
  if whole.isEmpty && fraction.isEmpty then none
  else
    let value (power : Int) : Binary64 :=
      Binary64.ofDecimal ⟨negative, natOfDigits (whole ++ fraction), power - fraction.length⟩
    match rest with
    | [] => some (value 0)
    | rest =>
      match exponentPart rest with
      | some (power, []) => some (value power)
      | _ => none

/-- A number written as a text: the usual notation, or a word for infinity or for no number. -/
def readNumber? (cs : List Char) : Option Binary64 :=
  let (negative, cs) : Bool × List Char := match cs with
    | '-' :: rest => (true, rest)
    | '+' :: rest => (false, rest)
    | cs => (false, cs)
  let word := String.ofList (cs.map Char.toLower)
  if word = "inf" ∨ word = "infinity" then some (.infinite negative)
  else if word = "nan" then some .notANumber
  else readUnsigned? negative cs

/-- A number. -/
def readNumber : Json → Reading Binary64
  | .bool b => .ok (Binary64.ofInt (if b then 1 else 0))
  | .number n => .ok (numeralValue n)
  | .string s =>
    match readNumber? (Text.trim Text.isWhiteSpace s.toList) with
    | some x => .ok x
    | none =>
      match (dropUnderscores s.toList).bind readNumber? with
      | some x => .ok x
      | none => .error .numberText
  | _ => .error .number

/-- An integer of one or more. -/
def readCount (v : Json) : Reading Int := do
  let n ← readInt v
  if n ≥ 1 then .ok n else .error .atLeastOne

/-- A number that is not zero or less. -/
def readPositive (v : Json) : Reading Binary64 := do
  let x ← readNumber v
  if x.isZeroOrLess then .error .aboveZero else .ok x

/-- The address of the server, trimmed. -/
def readAddress (v : Json) : Reading String := do
  let s ← readText v
  .ok (ServerAddress.normalize s)

/-- One of the sign-in schemes. -/
def readScheme : Json → Reading SignInScheme
  | .string "basic" => .ok .basic
  | .string "digest" => .ok .digest
  | _ => .error .signInScheme

/-- One of the update modes. -/
def readMode : Json → Reading UpdateMode
  | .string s =>
    match UpdateMode.ofName? s with
    | some mode => .ok mode
    | none => .error .updateMode
  | _ => .error .updateMode

/-- A path. -/
def readPath : Json → Reading Path
  | .string s => .ok (Path.ofText s)
  | _ => .error .path

end FormCatalog.Settings

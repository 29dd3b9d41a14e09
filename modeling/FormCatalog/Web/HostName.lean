import FormCatalog.Text.Composition
import FormCatalog.Text.Direction
import FormCatalog.Text.Joining
import FormCatalog.Text.NameChars
import FormCatalog.Text.Quoted
import FormCatalog.Text.Script
import FormCatalog.Web.HostLiteral
import FormCatalog.Web.Punycode

/-!
International host names.

A name is cut into labels at its dots. A label is a list of code points in composed form that begins
with no mark and has no hyphen where none may stand. It holds characters that may stand anywhere,
and some that depend on those around them, and it keeps to one direction of writing. A label in
plain letters is sent as it is, any other as `xn--` with its plain form. A name that is sent is read
back label by label.
-/

set_option autoImplicit false
set_option relaxedAutoImplicit false

namespace FormCatalog

open Text

/-- Why a text is not an international host name. Positions count from one. -/
inductive HostFault where
  | nameTooLong
  | emptyName
  | labelTooLong
  | emptyLabel
  /-- There is nothing behind the mark of a label in plain form. -/
  | nothingMarked
  /-- A label in plain form ends with a hyphen. -/
  | markedHyphen
  | notPlainForm
  | notComposed
  | innerHyphens
  | outerHyphen
  | firstMark
  | joiner (point position : Nat) (label : List Nat)
  | context (point position : Nat) (label : List Nat)
  | character (point position : Nat) (label : List Nat)
  | noDirection (position : Nat) (label : List Nat)
  | firstDirection (label : List Nat)
  | direction (position : Nat) (toLeft : Bool)
  | mixedNumbers
  | lastDirection
  deriving DecidableEq, Repr

namespace HostFault

/-- A code point in hexadecimal digits, at least four of them. -/
def pointText (n : Nat) : String :=
  String.ofList ('U' :: '+' :: (hexPadded 4 n).map Char.toUpper)

/-- Code points in quotes; those that are no characters are shown by their numbers. -/
def shown (label : List Nat) : String :=
  let quote := quoteFor (label.map Char.ofNat)
  String.ofList (quote :: (label.flatMap (fun n ↦
    if 0xd800 ≤ n ∧ n < 0xe000 then '\\' :: 'u' :: hexPadded 4 n
    else quotedChar quote (Char.ofNat n)) ++ [quote]))

/-- The text of a fault. -/
def message : HostFault → String
  | nameTooLong => "Domain too long"
  | emptyName => "Empty domain"
  | labelTooLong => "Label too long"
  | emptyLabel => "Empty Label"
  | nothingMarked => "Malformed A-label, no Punycode eligible content found"
  | markedHyphen => "A-label must not end with a hyphen"
  | notPlainForm => "Invalid A-label"
  | notComposed => "Label must be in Normalization Form C"
  | innerHyphens => "Label has disallowed hyphens in 3rd and 4th position"
  | outerHyphen => "Label must not start or end with a hyphen"
  | firstMark => "Label begins with an illegal combining character"
  | joiner point position label => "Unknown codepoint adjacent to joiner " ++ pointText point
      ++ " at position " ++ toString position ++ " in " ++ shown label
  | context point position label => "Codepoint " ++ pointText point
      ++ " not allowed at position " ++ toString position ++ " in " ++ shown label
  | character point position label => "Codepoint " ++ pointText point ++ " at position "
      ++ toString position ++ " of " ++ shown label ++ " not allowed"
  | noDirection position label => "Unknown directionality in label " ++ shown label
      ++ " at position " ++ toString position
  | firstDirection label => "First codepoint in label " ++ shown label
      ++ " must be directionality L, R or AL"
  | direction position toLeft => "Invalid direction for codepoint at position "
      ++ toString position ++ " in a "
      ++ (if toLeft then "right-to-left" else "left-to-right") ++ " label"
  | mixedNumbers => "Can not mix numeral types in a right-to-left label"
  | lastDirection => "Label ends with illegal codepoint directionality"

end HostFault

namespace HostName

/-! ### Characters that depend on others -/

/-- Whether a joiner may stand between the code points before it, which are given backwards, and
those after it: behind a sign that joins by itself, or for the one that keeps characters apart,
between two that would join. -/
def joinerFits (n : Nat) (before after : List Nat) : Bool :=
  let passed (n : Nat) : Bool := joining? n = some .transparent
  let joins (side : Joining) (points : List Nat) : Bool :=
    match points.dropWhile passed with
    | [] => false
    | m :: _ => joining? m = some side || joining? m = some .dual
  (before.head?.map combiningClass = some 9)
    || (n = 0x200c && joins .left before && joins .right after)

/-- The figures of Arabic, and those of languages east of it. -/
def isArabicFigure (n : Nat) : Bool := 0x660 ≤ n && n ≤ 0x669

/-- The figures of languages east of Arabic. -/
def isEasternFigure (n : Nat) : Bool := 0x6f0 ≤ n && n ≤ 0x6f9

/-- Whether what a code point needs around it is there, none for one that may not stand anywhere:
a middle dot stands between two letters `l`, a Greek sign before a Greek letter, a Hebrew one after
a Hebrew letter, a Japanese dot in a label with Japanese letters, and the two kinds of Arabic
figures exclude each other. -/
def contextFits? (label : List Nat) (n : Nat) (before after : List Nat) : Option Bool :=
  if n = 0xb7 then some (before.head? = some 0x6c && after.head? = some 0x6c)
  else if n = 0x375 then some (after.head?.bind script? = some .greek)
  else if n = 0x5f3 ∨ n = 0x5f4 then some (before.head?.bind script? = some .hebrew)
  else if n = 0x30fb then
    some (label.any fun m ↦ m ≠ 0x30fb &&
      [some .hiragana, some .katakana, some .han].contains (script? m))
  else if isArabicFigure n then some !label.any isEasternFigure
  else if isEasternFigure n then some !label.any isArabicFigure
  else none

/-- Checks the code points of a label that stand after others, which are given backwards. -/
def checkPoints (label before : List Nat) : List Nat → Except HostFault Unit
  | [] => .ok ()
  | n :: after => do
    if isNamePoint n then .ok ()
    else if n = 0x200c ∨ n = 0x200d then
      if joinerFits n before after then .ok () else .error (.joiner n (before.length + 1) label)
    else
      match contextFits? label n before after with
      | some true => .ok ()
      | some false => .error (.context n (before.length + 1) label)
      | none => .error (.character n (before.length + 1) label)
    checkPoints label (n :: before) after

/-! ### Directions -/

/-- Checks a label from right to left, whose first characters have been checked, perhaps with
figures among them. -/
def checkToLeft (position : Nat) (mayEnd : Bool) (figures : Option Direction) :
    List Direction → Except HostFault Unit
  | [] => if mayEnd then .ok () else .error .lastDirection
  | d :: rest =>
    if d = .left then .error (.direction position true)
    else if (d = .number ∨ d = .arabicNumber) ∧ figures.any (· ≠ d) then .error .mixedNumbers
    else
      checkToLeft (position + 1)
        (d = .right || d = .arabic || d = .number || d = .arabicNumber || (d = .mark && mayEnd))
        (if d = .number ∨ d = .arabicNumber then some d else figures) rest

/-- Checks a label from left to right, whose first characters have been checked. -/
def checkToRight (position : Nat) (mayEnd : Bool) : List Direction → Except HostFault Unit
  | [] => if mayEnd then .ok () else .error .lastDirection
  | d :: rest =>
    if d = .right ∨ d = .arabic ∨ d = .arabicNumber then .error (.direction position false)
    else checkToRight (position + 1) (d = .left || d = .number || (d = .mark && mayEnd)) rest

/-- Checks that a label keeps to one direction, if it has characters from right to left. -/
def checkDirections (label : List Nat) : Except HostFault Unit :=
  let directions := label.map Text.direction
  match directions.findIdx? (· = .unknown) with
  | some i => .error (.noDirection (i + 1) label)
  | none =>
    if directions.any fun d ↦ d = .right || d = .arabic || d = .arabicNumber then
      match directions with
      | .right :: _ => checkToLeft 1 false none directions
      | .arabic :: _ => checkToLeft 1 false none directions
      | .left :: _ => checkToRight 1 false directions
      | _ => .error (.firstDirection label)
    else .ok ()

/-! ### Labels -/

/-- Checks a label. -/
def checkLabel (label : List Nat) : Except HostFault Unit := do
  if label.isEmpty then .error .emptyLabel
  else if !isComposed label then .error .notComposed
  else if (label.drop 2).take 2 = [0x2d, 0x2d] then .error .innerHyphens
  else if label.head? = some 0x2d ∨ label.getLast? = some 0x2d then .error .outerHyphen
  else if label.head?.any isMark then .error .firstMark
  else
    checkPoints label [] label
    checkDirections label

/-- The mark of a label in plain form. -/
def mark : List Char := "xn--".toList

/-- Reads a label in plain letters, whose case does not matter. -/
def decodeLabel (label : List Char) : Except HostFault (List Nat) := do
  let label := label.map Char.toLower
  if mark.isPrefixOf label then
    let rest := label.drop mark.length
    if rest.isEmpty then .error .nothingMarked
    else if rest.getLast? = some '-' then .error .markedHyphen
    else
      match Punycode.decode? rest with
      | none => .error .notPlainForm
      | some points =>
        checkLabel points
        .ok points
  else
    checkLabel (label.map Char.toNat)
    .ok (label.map Char.toNat)

/-- The most characters of a label that is sent. -/
def labelLimit : Nat := 63

/-- A label as it is sent. -/
def encodeLabel (label : List Char) : Except HostFault (List Char) := do
  if label.all fun c ↦ c.toNat < 128 then
    let _ ← decodeLabel label
    if label.length ≤ labelLimit then .ok label else .error .labelTooLong
  else
    checkLabel (label.map Char.toNat)
    let sent := mark ++ Punycode.encode label
    if sent.length ≤ labelLimit then .ok sent else .error .labelTooLong

/-! ### Names -/

/-- The most characters of a name with a dot at its end. -/
def nameLimit : Nat := 254

/-- The characters that separate labels. -/
def isDot (c : Char) : Bool :=
  c = '.' || c.toNat = 0x3002 || c.toNat = 0xff0e || c.toNat = 0xff61

/-- The labels of a name, and whether it ends with a dot. -/
def labels (name : List Char) : Except HostFault (List (List Char) × Bool) :=
  let parts := HostLiteral.splitAt '.' (name.map fun c ↦ if isDot c then '.' else c)
  if name.length > nameLimit then .error .nameTooLong
  else if parts = [[]] then .error .emptyName
  else if parts.getLast? = some [] then .ok (parts.dropLast, true)
  else .ok (parts, false)

/-- A host name as it is sent. -/
def encode (name : List Char) : Except HostFault (List Char) := do
  let (labels, isClosed) ← labels name
  let sent ← labels.mapM encodeLabel
  let text := List.intercalate ['.'] sent ++ if isClosed then ['.'] else []
  if text.length ≤ (if isClosed then nameLimit else nameLimit - 1) then .ok text
  else .error .nameTooLong

/-- The code points of the name that was sent as plain letters. -/
def decode (name : List Char) : Except HostFault (List Nat) := do
  let (labels, isClosed) ← labels name
  let read ← labels.mapM decodeLabel
  .ok (List.intercalate ['.'.toNat] read ++ if isClosed then ['.'.toNat] else [])

/-- The code points of a host that was sent: a host that begins with a label in plain form is read
back, any other one stands for itself. -/
def read (host : List Char) : Except HostFault (List Nat) :=
  if mark.isPrefixOf host then decode host else .ok (host.map Char.toNat)

end HostName

end FormCatalog

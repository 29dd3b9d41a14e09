import FormCatalog.Number.Decimal
import FormCatalog.Json.Parser

/-!
Hosts written as numbers.

`isFourPart` accepts the dotted form of four decimal numbers up to 255 without leading zeros, and
`isColonForm` the colon form of eight hexadecimal groups, of which one run of zeros may be left out,
the last two groups may be in dotted form, and a zone may follow a percent sign.
-/

set_option autoImplicit false
set_option relaxedAutoImplicit false

namespace FormCatalog.HostLiteral

open Number

/-- Splits a text at every occurrence of a character. -/
def splitAt (mark : Char) (cs : List Char) : List (List Char) :=
  cs.foldr (fun c pieces ↦
    if c = mark then [] :: pieces
    else
      match pieces with
      | p :: rest => (c :: p) :: rest
      | [] => [[c]]) [[]]

/-- One of the four numbers of the dotted form. -/
def isOctet (cs : List Char) : Bool :=
  !cs.isEmpty && cs.all isDigit && cs.length ≤ 3 && (cs = ['0'] || cs.head? ≠ some '0')
    && natOfDigits cs ≤ 255

/-- Four numbers with dots between them. -/
def isFourPart (cs : List Char) : Bool :=
  let parts := splitAt '.' cs
  parts.length = 4 && parts.all isOctet

/-- A group of the colon form: one to four hexadecimal digits. -/
def isGroup (cs : List Char) : Bool :=
  !cs.isEmpty && cs.length ≤ 4 && cs.all fun c ↦ (Json.hexValue? c).isSome

/-- The groups, a dotted form at the end counting as two. -/
def groups? (cs : List Char) : Option (List (List Char)) :=
  let parts := splitAt ':' cs
  match parts.getLast? with
  | some last =>
    if parts.length < 3 then none
    else if last.contains '.' then
      if isFourPart last then some (parts.dropLast ++ [['0'], ['0']]) else none
    else some parts
  | none => none

/-- Whether groups fill an address, where one empty group inside stands for a run of zeros. -/
def groupsFill (parts : List (List Char)) : Bool :=
  let count := parts.length
  let inner := (List.range count).filter fun i ↦
    0 < i && i + 1 < count && (parts.getD i []).isEmpty
  match inner with
  | [] => count = 8 && parts.all isGroup
  | [skip] =>
    let startsEmpty := (parts.getD 0 []).isEmpty
    let endsEmpty := (parts.getD (count - 1) []).isEmpty
    let high := if startsEmpty then skip - 1 else skip
    let low := if endsEmpty then count - skip - 2 else count - skip - 1
    count ≤ 9 && (!startsEmpty || high = 0) && (!endsEmpty || low = 0) && high + low ≤ 7
      && (parts.take high).all isGroup && (parts.drop (count - low)).all isGroup
  | _ => false

/-- The colon form, perhaps with a zone. -/
def isColonForm (cs : List Char) : Bool :=
  let (address, zone) := cs.span (· ≠ '%')
  let zoneFits := match zone with
    | [] => true
    | _ :: name => !name.isEmpty && !name.contains '%'
  !cs.contains '/' && zoneFits && (match groups? address with
    | some parts => groupsFill parts
    | none => false)

end FormCatalog.HostLiteral

import FormCatalog.Digest.Bytes
import FormCatalog.Number.Decimal
import FormCatalog.Text.Quoted

/-!
Where bytes stop being UTF-8.

`firstFault?` finds the first place at which bytes are not the encoding of a text: how many bytes
the broken sequence has there, and what is wrong with it.
-/

set_option autoImplicit false
set_option relaxedAutoImplicit false

namespace FormCatalog.Utf8

/-- What is wrong with a sequence. -/
inductive Cause where
  | start
  | continuation
  | cutOff
  deriving DecidableEq, Repr

/-- The text of a cause. -/
def Cause.message : Cause → String
  | start => "invalid start byte"
  | continuation => "invalid continuation byte"
  | cutOff => "unexpected end of data"

/-- A broken sequence. -/
structure Fault where
  position : Nat
  byte : UInt8
  /-- How many bytes of the sequence are spoilt. -/
  length : Nat
  cause : Cause
  deriving DecidableEq, Repr

/-- The text of a broken sequence. -/
def Fault.message (f : Fault) : String :=
  "'utf-8' codec can't decode byte" ++
    (if f.length = 1 then
      " 0x" ++ String.ofList (Text.hexPadded 2 f.byte.toNat) ++ " in position "
        ++ Number.textOfNat f.position
    else
      "s in position " ++ Number.textOfNat f.position ++ "-"
        ++ Number.textOfNat (f.position + f.length - 1))
    ++ ": " ++ f.cause.message

/-- The bytes that may come second after a given first one, for a sequence of more than one. -/
def secondRange (first : Nat) : Nat × Nat :=
  if first = 0xe0 then (0xa0, 0xbf)
  else if first = 0xed then (0x80, 0x9f)
  else if first = 0xf0 then (0x90, 0xbf)
  else if first = 0xf4 then (0x80, 0x8f)
  else (0x80, 0xbf)

/-- How long a sequence with this first byte is; zero if none begins so. -/
def sequenceLength (first : Nat) : Nat :=
  if first < 0x80 then 1
  else if first < 0xc2 then 0
  else if first < 0xe0 then 2
  else if first < 0xf0 then 3
  else if first < 0xf5 then 4
  else 0

/-- Counts the bytes that go on with a sequence, at most `needed`. The first of them must be in the
given range. -/
def goodTail : Nat → Nat × Nat → Bytes → Nat
  | 0, _, _ => 0
  | _, _, [] => 0
  | needed + 1, (low, high), b :: rest =>
    if low ≤ b.toNat ∧ b.toNat ≤ high then goodTail needed (0x80, 0xbf) rest + 1 else 0

/-- Looks at the bytes from a position on. `skip` bytes belong to a sequence already seen. -/
def scan : Nat → Nat → Bytes → Option Fault
  | _, _, [] => none
  | skip + 1, position, _ :: rest => scan skip (position + 1) rest
  | 0, position, b :: rest =>
    match sequenceLength b.toNat with
    | 0 => some ⟨position, b, 1, .start⟩
    | n + 1 =>
      let good := goodTail n (secondRange b.toNat) rest
      if good = n then scan n (position + 1) rest
      else if good = rest.length then some ⟨position, b, good + 1, .cutOff⟩
      else some ⟨position, b, good + 1, .continuation⟩

/-- The first broken sequence, if there is one. -/
def firstFault? (bs : Bytes) : Option Fault := scan 0 0 bs

end FormCatalog.Utf8

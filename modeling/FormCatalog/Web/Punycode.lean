/-!
Labels of host names in plain characters.

A label is written with its plain characters first and then the others, each as a count of the
places it has to be moved on from the one before, in digits of base 36 whose weights adapt to what
was written. Reading goes back from there to code points, some of which need be no characters.
-/

set_option autoImplicit false
set_option relaxedAutoImplicit false

namespace FormCatalog.Punycode

/-- Divides while the number is large, counting the steps. -/
def reduce : Nat → Nat → Nat → Nat × Nat
  | 0, k, delta => (k, delta)
  | fuel + 1, k, delta => if delta > 455 then reduce fuel (k + 36) (delta / 35) else (k, delta)

/-- The bias after a number has been written. -/
def adapt (delta count : Nat) (first : Bool) : Nat :=
  let delta := if first then delta / 700 else delta / 2
  let (k, delta) := reduce (delta + 1) 0 (delta + delta / count)
  k + 36 * delta / (delta + 38)

/-- The weight at which a digit ends a number. -/
def threshold (k bias : Nat) : Nat :=
  if k ≤ bias + 1 then 1 else if k ≥ bias + 26 then 26 else k - bias

/-! ### Writing -/

/-- A digit of base 36: letters first, then figures. -/
def digit (n : Nat) : Char := if n < 26 then Char.ofNat (97 + n) else Char.ofNat (22 + n)

/-- Writes a number, the least digit first. -/
def digits (bias : Nat) : Nat → Nat → Nat → List Char
  | 0, _, _ => []
  | fuel + 1, k, q =>
    let t := threshold k bias
    if q < t then [digit q]
    else digit (t + (q - t) % (36 - t)) :: digits bias fuel (k + 36) ((q - t) / (36 - t))

/-- How far the writing of a label has come. -/
structure Progress where
  /-- The code point being written. -/
  point : Nat
  delta : Nat
  bias : Nat
  /-- How many characters have been written. -/
  done : Nat
  /-- How many plain characters there are. -/
  plain : Nat
  /-- What has been written, backwards. -/
  text : List Char

/-- Goes over the label once, for one code point. -/
def Progress.pass (label : List Char) (p : Progress) : Progress :=
  label.foldl (fun p c ↦
    if c.toNat < p.point then { p with delta := p.delta + 1 }
    else if c.toNat = p.point then
      { p with
        text := (digits p.bias (p.delta + 1) 36 p.delta).reverse ++ p.text
        bias := adapt p.delta (p.done + 1) (p.done = p.plain)
        delta := 0
        done := p.done + 1 }
    else p) p

/-- Goes over the label for each of its code points in turn, which are given in increasing order. -/
def Progress.passes (label : List Char) (p : Progress) : List Nat → Progress
  | [] => p
  | point :: rest =>
    let p := { p with delta := p.delta + (point - p.point) * (p.done + 1), point := point }
    let p := p.pass label
    Progress.passes label { p with delta := p.delta + 1, point := point + 1 } rest

/-- The code points of a label that are not plain, each once, in increasing order. -/
def points (label : List Char) : List Nat :=
  ((label.map Char.toNat).filter (· ≥ 128)).mergeSort.eraseDups

/-- A label in plain characters. -/
def encode (label : List Char) : List Char :=
  let plain := label.filter fun c ↦ c.toNat < 128
  let start : Progress := ⟨128, 0, 72, plain.length, plain.length, []⟩
  let rest := (start.passes label (points label)).text.reverse
  if plain.isEmpty then rest else plain ++ '-' :: rest

/-! ### Reading -/

/-- The value of a digit of base 36, whose letters are taken in any case. -/
def digitValue? (c : Char) : Option Nat :=
  if 'a' ≤ c ∧ c ≤ 'z' then some (c.toNat - 97)
  else if 'A' ≤ c ∧ c ≤ 'Z' then some (c.toNat - 65)
  else if '0' ≤ c ∧ c ≤ '9' then some (c.toNat - 22)
  else none

/-- The number that is being read. -/
structure Numeral where
  value : Nat
  /-- What the next digit counts. -/
  weight : Nat
  /-- The place of the next digit, in steps of 36. -/
  place : Nat

/-- A number before its first digit. -/
def Numeral.start : Numeral := ⟨0, 1, 36⟩

/-- How far the reading of a label has come. -/
structure Reading where
  /-- The code points so far. -/
  text : List Nat
  /-- The last code point that was put in. -/
  point : Nat
  /-- Where the next one goes if it has to be moved on by no place. -/
  position : Nat
  bias : Nat
  numeral : Numeral
  isFirst : Bool

/-- Puts in a code point that has to be moved on by so many places. The highest code point is the
limit. -/
def Reading.insert (r : Reading) (delta : Nat) : Option Reading :=
  let size := r.text.length + 1
  let point := r.point + (r.position + delta) / size
  let position := (r.position + delta) % size
  if point > 0x10ffff then none
  else some
    { text := r.text.take position ++ point :: r.text.drop position
      point := point
      position := position + 1
      bias := adapt delta size r.isFirst
      numeral := .start
      isFirst := false }

/-- Reads one digit, which may be the last one of a number. -/
def Reading.step (r : Reading) (c : Char) : Option Reading :=
  match digitValue? c with
  | none => none
  | some d =>
    let value := r.numeral.value + d * r.numeral.weight
    let t := threshold r.numeral.place r.bias
    if d < t then r.insert value
    else some { r with numeral := ⟨value, r.numeral.weight * (36 - t), r.numeral.place + 36⟩ }

/-- Reading begins with the plain characters. -/
def Reading.start (plain : List Char) : Reading :=
  ⟨plain.map Char.toNat, 128, 0, 72, .start, true⟩

/-- The code points that a text in plain characters stands for. The last hyphen ends those that
stand for themselves. -/
def decode? (cs : List Char) : Option (List Nat) :=
  let digits := (cs.reverse.takeWhile (· ≠ '-')).reverse
  let plain := cs.take (cs.length - digits.length - 1)
  match digits.foldlM Reading.step (Reading.start plain) with
  | none => none
  | some r => if r.numeral.place = 36 then some r.text else none

end FormCatalog.Punycode

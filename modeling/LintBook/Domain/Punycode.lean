import LintBook.Text.Basic

/-! Punycode: the characters of a label beyond ASCII as a row of ASCII letters and digits behind its
ASCII characters. Each number in the row says how far the next character lies from the last, over
pairs of a code point and a place in the text, in that order. -/
namespace LintBook.Domain.Punycode

/-- The number that a digit stands for: letters of either case, and then 0 to 9. -/
def digit? (c : CodePoint) : Option Nat :=
  let n := c.lowerAscii.val
  if 0x61 ≤ n ∧ n ≤ 0x7A then some (n - 0x61)
  else if 0x30 ≤ n ∧ n ≤ 0x39 then some (n - 0x30 + 26)
  else none

def ofDigit (d : Nat) : CodePoint :=
  if h : d < 26 then ⟨0x61 + d, by omega⟩ else ⟨0x30 + (d - 26) % 10, by omega⟩

/-- The least digit that does not close a number, at the place with a weight of `k` steps. -/
def threshold (k bias : Nat) : Nat := max 1 (min 26 (k - bias))

theorem one_le_threshold (k bias : Nat) : 1 ≤ threshold k bias := Nat.le_max_left ..

/-- Divides by thirty-five as long as the number is large; `steps` grows with each division. -/
def shrink (delta steps : Nat) : Nat × Nat :=
  if 455 < delta then shrink (delta / 35) (steps + 36) else (delta, steps)
termination_by delta
decreasing_by omega

/-- The bias after a number, by which the next one is expected to be as large. -/
def adapt (delta count : Nat) (isFirst : Bool) : Nat :=
  let scaled := if isFirst then delta / 700 else delta / 2
  let (rest, steps) := shrink (scaled + scaled / count) 0
  steps + 36 * rest / (rest + 38)

def digits (bias k n : Nat) : Text :=
  let t := threshold k bias
  if n < t then [ofDigit n]
  else ofDigit (t + (n - t) % (36 - t)) :: digits bias (k + 36) ((n - t) / (36 - t))
termination_by n
decreasing_by
  have := one_le_threshold k bias
  have := Nat.div_le_self (n - threshold k bias) (36 - threshold k bias)
  omega

/-- A row under way: its digits, the distance from the last character, the bias, and how many
characters of the label are written. -/
structure Writer where
  row : Text
  delta : Nat
  bias : Nat
  written : Nat

/-- Passes a character of the label in search of `next`. -/
def Writer.pass (basic next : Nat) (w : Writer) (c : CodePoint) : Writer :=
  if c.val < next then { w with delta := w.delta + 1 }
  else if c.val = next then
    { row := w.row ++ digits w.bias 36 w.delta
      delta := 0
      bias := adapt w.delta (w.written + 1) (w.written = basic)
      written := w.written + 1 }
  else w

/-- Writes the characters of the label with the given code points, which are in order. -/
def Writer.write (label : Text) (basic : Nat) (w : Writer) (last : Nat) : List Nat → Writer
  | [] => w
  | next :: rest =>
    let reached := { w with delta := w.delta + (next - last) * (w.written + 1) }
    let passed := label.foldl (Writer.pass basic next) reached
    Writer.write label basic { passed with delta := passed.delta + 1 } (next + 1) rest

/-- The ASCII characters of a label, a hyphen if there are any, and the row for the others. -/
def encode (label : Text) : Text :=
  let basic := label.filter CodePoint.isAscii
  let others := ((label.filter fun c => !c.isAscii).map Fin.val).mergeSort.eraseDups
  let w := Writer.write label basic.length ⟨[], 0, 72, basic.length⟩ 0x80 others
  (if basic = [] then [] else basic ++ [('-' : CodePoint)]) ++ w.row

/-- A row as it is read: the text so far, the last code point and the place behind it, the bias,
and the number under way with the weight and the step of its next digit. -/
structure Reader where
  text : Text
  last : Nat
  place : Nat
  bias : Nat
  number : Nat
  weight : Nat
  step : Nat
  isFirst : Bool

def Reader.insert? (r : Reader) (number : Nat) : Option Reader :=
  let count := r.text.length + 1
  let place := r.place + number
  (CodePoint.ofNat? (r.last + place / count)).map fun c =>
    { text := r.text.take (place % count) ++ c :: r.text.drop (place % count)
      last := c.val
      place := place % count + 1
      bias := adapt number count r.isFirst
      number := 0
      weight := 1
      step := 36
      isFirst := false }

def Reader.read? (r : Reader) (c : CodePoint) : Option Reader :=
  (digit? c).bind fun d =>
    let t := threshold r.step r.bias
    let number := r.number + d * r.weight
    if d < t then r.insert? number
    else some { r with number := number, weight := r.weight * (36 - t), step := r.step + 36 }

/-- The label that a text stands for: what is behind its last hyphen is the row. A number that is
not closed stands for nothing, nor does one that leads beyond the last code point. -/
def decode? (t : Text) : Option Text :=
  let row := (t.reverse.takeWhile fun (c : CodePoint) => c ≠ '-').reverse
  let basic := t.take (t.length - row.length - 1)
  (row.foldlM Reader.read? ⟨basic, 0x80, 0, 72, 0, 1, 36, true⟩).bind fun r =>
    if r.step = 36 then some r.text else none

end LintBook.Domain.Punycode

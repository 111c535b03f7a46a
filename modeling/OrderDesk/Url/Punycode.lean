/-!
# Url/Punycode — characters beyond ASCII, written in ASCII

A text is written as its ASCII characters, a hyphen, and a sequence of digits in base 36 that says
where the other characters stand: they are inserted in the order of their numbers, and each digit
group is the distance from one insertion to the next.  `encode` writes, `decode?` reads.
-/

namespace OrderDesk.Url.Punycode

/-! ## Digits of varying weight -/

/-- A digit in base 36: letters first. -/
def digit (d : Nat) : Char := if d < 26 then Char.ofNat (97 + d) else Char.ofNat (22 + d)

/-- The value of a digit of either case. -/
def value? (c : Char) : Option Nat :=
  let n := c.toNat
  if 97 ≤ n ∧ n ≤ 122 then some (n - 97)
  else if 65 ≤ n ∧ n ≤ 90 then some (n - 65)
  else if 48 ≤ n ∧ n ≤ 57 then some (n - 22)
  else none

/-- The threshold of a digit: a digit below it is the last one of its group. -/
def threshold (position bias : Nat) : Nat :=
  if position ≤ bias then 1 else if bias + 26 ≤ position then 26 else position - bias

theorem threshold_pos (position bias : Nat) : 1 ≤ threshold position bias := by
  unfold threshold
  split
  · omega
  · split <;> omega

/-- A distance as digits of varying weight. -/
def distanceDigits (bias position q : Nat) : List Char :=
  let t := threshold position bias
  if q < t then [digit q]
  else digit (t + (q - t) % (36 - t)) :: distanceDigits bias (position + 36) ((q - t) / (36 - t))
termination_by q
decreasing_by
  have hpos := threshold_pos position bias
  have hle : (q - threshold position bias) / (36 - threshold position bias)
      ≤ q - threshold position bias := Nat.div_le_self _ _
  omega

/-- The position of the first digit of a group. -/
def firstPosition : Nat := 36

/-- The bias before the first distance. -/
def firstBias : Nat := 72

/-- The number of the first character that is not ASCII. -/
def firstNumber : Nat := 128

/-- A distance brought down to where the digits' weights are settled, and how often. -/
def settled (delta steps : Nat) : Nat × Nat :=
  if h : 455 < delta then settled (delta / 35) (steps + 36) else (delta, steps)
termination_by delta
decreasing_by exact Nat.div_lt_self (by omega) (by omega)

/-- The bias behind a distance, in a text that has `count` characters then. -/
def nextBias (delta count : Nat) (first : Bool) : Nat :=
  let scaled := if first then delta / 700 else delta / 2
  let (rest, steps) := settled (scaled + scaled / count) 0
  steps + 36 * rest / (rest + 38)

/-- Whether a character is ASCII. -/
def isAscii (c : Char) : Bool := c.toNat < firstNumber

/-! ## Writing -/

/-- A text that is being written. -/
structure Writing where
  digits : List Char
  delta : Nat
  bias : Nat
  /-- How many characters are written. -/
  count : Nat

/-- One character of the text, while the character with number `current` is placed. -/
def Writing.pass (basic current : Nat) (w : Writing) (c : Char) : Writing :=
  if c.toNat < current then { w with delta := w.delta + 1 }
  else if c.toNat = current then
    { digits := w.digits ++ distanceDigits w.bias firstPosition w.delta
      delta := 0
      bias := nextBias w.delta (w.count + 1) (w.count = basic)
      count := w.count + 1 }
  else w

/-- Every character of the text, for each of the numbers to be placed. -/
def Writing.place (text : List Char) (basic : Nat) : List Nat → Nat → Writing → Writing
  | [], _, w => w
  | current :: rest, reached, w =>
    let w := { w with delta := w.delta + (current - reached) * (w.count + 1) }
    let w := text.foldl (Writing.pass basic current) w
    Writing.place text basic rest (current + 1) { w with delta := w.delta + 1 }

/-- **Writing a text.** -/
def encode (text : List Char) : List Char :=
  let basic := text.filter isAscii
  let numbers := ((text.filter fun c => !isAscii c).map Char.toNat).mergeSort.eraseDups
  let written := Writing.place text basic.length numbers firstNumber ⟨[], 0, firstBias, basic.length⟩
  basic ++ (if basic.isEmpty then [] else ['-']) ++ written.digits

/-! ## Reading -/

/-- A text that is being read. -/
structure Reading where
  /-- The characters so far. -/
  text : List Char
  /-- The number of the character that is inserted next. -/
  number : Nat
  /-- Where it is inserted. -/
  index : Nat
  /-- Where the last distance began. -/
  start : Nat
  /-- The weight of the next digit. -/
  weight : Nat
  /-- The position of the next digit in its group. -/
  position : Nat
  bias : Nat

/-- Before the first digit. -/
def Reading.begin (basic : List Char) : Reading :=
  ⟨basic, firstNumber, 0, 0, 1, firstPosition, firstBias⟩

/-- The numbers that can be counted to. -/
def limit : Nat := Nat.pow 2 32

/-- The character with a number. -/
def char? (n : Nat) : Option Char := if n.isValidChar then some (Char.ofNat n) else none

/-- A distance has ended: a character is inserted. -/
def Reading.insert? (r : Reading) : Option Reading :=
  let count := r.text.length + 1
  let number := r.number + r.index / count
  let index := r.index % count
  (char? number).map fun c =>
    { text := r.text.insertIdx index c
      number := number
      index := index + 1
      start := index + 1
      weight := 1
      position := firstPosition
      bias := nextBias (r.index - r.start) count (r.start = 0) }

/-- One digit is read. -/
def Reading.step? (r : Reading) (c : Char) : Option Reading :=
  match value? c with
  | none => none
  | some d =>
    let t := threshold r.position r.bias
    let r := { r with index := r.index + d * r.weight }
    if limit ≤ r.index then none
    else if d < t then r.insert?
    else
      let weight := r.weight * (36 - t)
      if limit ≤ weight then none
      else some { r with weight := weight, position := r.position + 36 }

/-- The ASCII characters of a written text, and its digits: what stands before and behind the last
hyphen. -/
def atLastHyphen (cs : List Char) : List Char × List Char :=
  let digits := (cs.reverse.takeWhile (· ≠ '-')).reverse
  let front := cs.take (cs.length - digits.length)
  if front = ['-'] then ([], cs) else (front.dropLast, digits)

/-- **Reading a written text.** -/
def decode? (cs : List Char) : Option (List Char) :=
  let (basic, digits) := atLastHyphen cs
  match digits.foldlM Reading.step? (Reading.begin basic) with
  | some r => if r.position = firstPosition then some r.text else none
  | none => none

end OrderDesk.Url.Punycode

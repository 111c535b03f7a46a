/-!
# Text/Base64 — bytes in the standard alphabet of sixty-four characters

Three bytes make four characters; a shorter last group is padded with `=`.
-/

namespace OrderDesk.Base64

/-- The character of a value below sixty-four. -/
def character (n : Nat) : Char :=
  if n < 26 then Char.ofNat (65 + n)
  else if n < 52 then Char.ofNat (71 + n)
  else if n < 62 then Char.ofNat (n - 4)
  else if n = 62 then '+' else '/'

/-- The first characters of a number that is read as four digits in base sixty-four. -/
def group (count n : Nat) : List Char :=
  [n / 262144, n / 4096 % 64, n / 64 % 64, n % 64].take count |>.map character

/-- The text of a byte string. -/
def encode : List UInt8 → List Char
  | [] => []
  | [a] => group 2 (a.toNat * 65536) ++ ['=', '=']
  | [a, b] => group 3 (a.toNat * 65536 + b.toNat * 256) ++ ['=']
  | a :: b :: c :: rest => group 4 (a.toNat * 65536 + b.toNat * 256 + c.toNat) ++ encode rest

end OrderDesk.Base64

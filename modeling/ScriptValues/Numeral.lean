/-!
Numerals: lists of digits in a base, most significant digit first, and the characters that write
them. Digits above nine are letters.
-/

namespace ScriptValues

namespace Numeral

/-- Puts the digits of `n` in front of `later`, at most `fuel` of them. -/
def digitsOnto (base : Nat) : (fuel n : Nat) → (later : List Nat) → List Nat
  | 0, _, later => later
  | fuel + 1, n, later =>
    if n = 0 then later else digitsOnto base fuel (n / base) (n % base :: later)

/-- The digits of `n` without leading zeros; zero has none. -/
def digits (base n : Nat) : List Nat := digitsOnto base (n.log2 + 1) n []

/-- Digits filled up with leading zeros to at least `width` of them. -/
def padded (width : Nat) (ds : List Nat) : List Nat := List.replicate (width - ds.length) 0 ++ ds

/-- The number that a list of digits stands for. -/
def value (base : Nat) (ds : List Nat) : Nat := ds.foldl (fun n d => n * base + d) 0

/-- One more digit behind a number, if the new number fits into a word of 64 bits. -/
def pushDigit? (base n d : Nat) : Option Nat :=
  if n * base + d < UInt64.size then some (n * base + d) else none

/-- The number of a list of digits, put together in words; none as soon as it does not fit into
one. -/
def word? (base : Nat) (ds : List Nat) : Option Nat := ds.foldlM (pushDigit? base) 0

/-- The character of a digit below 36; letters are lower case. -/
def digitChar (d : Nat) : Char :=
  if d < 10 then Char.ofNat (48 + d) else if d < 36 then Char.ofNat (87 + d) else '0'

/-- The value of an ASCII digit or letter of either case that is a digit in this base. -/
def digitValue? (base : Nat) (c : Char) : Option Nat :=
  let n := c.toNat
  let d :=
    if 48 ≤ n ∧ n ≤ 57 then n - 48
    else if 97 ≤ n ∧ n ≤ 122 then n - 87
    else if 65 ≤ n ∧ n ≤ 90 then n - 55
    else base
  if d < base then some d else none

def isDigit (base : Nat) (c : Char) : Bool := (digitValue? base c).isSome

/-- The digits of the longest run of digits at the start of a text, and the text after it. -/
def span (base : Nat) (cs : List Char) : List Nat × List Char :=
  (cs.takeWhile (isDigit base) |>.filterMap (digitValue? base), cs.dropWhile (isDigit base))

/-- The numeral of a natural number; zero is written with one digit. -/
def natChars (base n : Nat) : List Char :=
  if n = 0 then ['0'] else (digits base n).map digitChar

/-- The decimal text of a natural number. -/
def natText (n : Nat) : String := String.ofList (natChars 10 n)

/-- The decimal text of an integer, with a minus sign below zero. -/
def intText (n : Int) : String :=
  if n < 0 then "-" ++ natText n.natAbs else natText n.natAbs

end Numeral

end ScriptValues

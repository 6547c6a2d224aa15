import CSwitch.Machine

/-! Text of the host: a string is the list of its scalar values, with the functions of
`str` that the parsers call. -/

set_option autoImplicit false

namespace CSwitch.Host

abbrev Text := List Char

/-- `char::is_whitespace`: the property White_Space. -/
def isWhitespace (char : Char) : Bool :=
  let code := char.toNat
  (9 ≤ code && code ≤ 13) || code == 32 || code == 133 || code == 160 || code == 5760 ||
    (8192 ≤ code && code ≤ 8202) || code == 8232 || code == 8233 || code == 8239 ||
    code == 8287 || code == 12288

/-- `str::trim`. -/
def trim (text : Text) : Text := (text.dropWhile isWhitespace).rdropWhile isWhitespace

/-- A line that ends in a newline, without it, may end in a carriage return too. -/
def stripReturn (line : Text) : Text :=
  if line.getLast? = some '\r' then line.dropLast else line

/-- `str::lines`. What follows the last newline is a line unless it is empty. -/
def lines (text : Text) : List Text :=
  let parts := text.splitOn '\n'
  parts.dropLast.map stripReturn ++ parts.getLast?.toList.filter fun last => !last.isEmpty

/-- `str::strip_prefix`. -/
def stripPrefix (start text : Text) : Option Text := start.isPrefixOf? text

/-- `str::split_once` for one character. -/
def splitOnce (char : Char) (text : Text) : Option (Text × Text) :=
  if char ∈ text then
    some (text.takeWhile (· ≠ char), (text.dropWhile (· ≠ char)).tail)
  else none

def parseDigits (digits : Text) : Option Nat :=
  if digits.isEmpty || !digits.all Char.isDigit then none
  else
    let value := Nat.ofDigitChars 10 digits 0
    if value ≤ u32Max then some value else none

/-- `str::parse::<u32>`: digits, after one plus sign at most. -/
def parseU32 : Text → Option Nat
  | '+' :: digits => parseDigits digits
  | digits => parseDigits digits

/-- A number as it is printed. -/
def decimal (value : Nat) : Text := Nat.toDigits 10 value

example : lines "ccm0\r\nccx0\n\nmissing".toList =
    ["ccm0".toList, "ccx0".toList, [], "missing".toList] := by decide

example : (parseU32 "+007".toList, parseU32 "4294967296".toList, parseU32 "-1".toList) =
    (some 7, none, none) := by decide

end CSwitch.Host

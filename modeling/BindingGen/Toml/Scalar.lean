import BindingGen.Toml.Value

/-!
# Numbers, booleans and dates in TOML

A value without quotes and brackets is one token.  The token decides alone what it stands for,
except that a date may be followed by one space and a time.
-/

namespace BindingGen
namespace Toml
namespace Scalar

/-- The characters of a token. -/
def isTokenChar (c : Char) : Bool :=
  c.isAlphanum || c == '_' || c == '+' || c == '-' || c == '.' || c == ':'

/-! ## Numbers -/

/-- The digits of a run in which single underscores may stand between digits. -/
def ungroup (isDigit : Char → Bool) : List Char → Option (List Char)
  | [] => none
  | [c] => if isDigit c then some [c] else none
  | c :: '_' :: cs => if isDigit c then (ungroup isDigit cs).map (c :: ·) else none
  | c :: cs => if isDigit c then (ungroup isDigit cs).map (c :: ·) else none

/-- A run of decimal digits without a zero in front of other digits. -/
def decimalRun (cs : List Char) : Option (List Char) :=
  if cs.head? == some '0' && 1 < cs.length then none else ungroup Char.isDigit cs

def digitValue (c : Char) : Nat :=
  if c.isDigit then c.toNat - 48
  else if 'a' ≤ c && c ≤ 'z' then c.toNat - 87
  else c.toNat - 55

/-- The number with some digits. -/
def ofDigits (base : Nat) (digits : List Char) : Nat :=
  digits.foldl (fun n c => n * base + digitValue c) 0

/-- Splits a sign from a token; the result says whether it was a minus. -/
def splitSign : List Char → Bool × List Char
  | '-' :: cs => (true, cs)
  | '+' :: cs => (false, cs)
  | cs => (false, cs)

/-- An integer, if it has at most sixty-four bits. -/
def ofInteger? (n : Int) : Option Value :=
  if -Int.pow 2 63 ≤ n && n < Int.pow 2 63 then some (.integer n) else none

def isHexDigit (c : Char) : Bool :=
  c.isDigit || ('a' ≤ c && c ≤ 'f') || ('A' ≤ c && c ≤ 'F')

def isOctalDigit (c : Char) : Bool :=
  '0' ≤ c && c ≤ '7'

def isBinaryDigit (c : Char) : Bool :=
  c == '0' || c == '1'

def integer? (token : List Char) : Option Value :=
  match token with
  | '0' :: 'x' :: cs => do ofInteger? (ofDigits 16 (← ungroup isHexDigit cs))
  | '0' :: 'o' :: cs => do ofInteger? (ofDigits 8 (← ungroup isOctalDigit cs))
  | '0' :: 'b' :: cs => do ofInteger? (ofDigits 2 (← ungroup isBinaryDigit cs))
  | _ => do
    let (negative, cs) := splitSign token
    let n := ofDigits 10 (← decimalRun cs)
    ofInteger? (if negative then -n else n)

def isExponentMark (c : Char) : Bool :=
  c == 'e' || c == 'E'

/-- The exponent of a float, nothing standing for zero. -/
def exponent? : List Char → Option Int
  | [] => some 0
  | _ :: cs => do
    let (negative, cs) := splitSign cs
    let n := ofDigits 10 (← ungroup Char.isDigit cs)
    return if negative then -n else n

/-- The digits after the point of a float, if there is a point. -/
def fraction? : List Char → Option (List Char)
  | [] => some []
  | _ :: cs => ungroup Char.isDigit cs

/-- A float: an integer with a point and digits, an exponent, or both.  One that is too large is
refused, unless it is negative. -/
def float? (token : List Char) : Option Value := do
  let (negative, cs) := splitSign token
  if cs = ['i', 'n', 'f'] then return .float (.infinite negative)
  if cs = ['n', 'a', 'n'] then return .float .nan
  let mantissa := cs.takeWhile fun c => !isExponentMark c
  let exponent := cs.dropWhile fun c => !isExponentMark c
  let whole := mantissa.takeWhile (· != '.')
  let point := mantissa.dropWhile (· != '.')
  if exponent.isEmpty && point.isEmpty then none
  let digits ← decimalRun whole
  let places ← fraction? point
  let power ← exponent? exponent
  let all := digits ++ places
  let number := Binary64.ofDecimal negative (ofDigits 10 all) all.length (power - places.length)
  if number = .infinite false then none
  return .float number

/-! ## Dates and times -/

/-- Two digits that make a number between two bounds. -/
def pair? (low high : Nat) : List Char → Option Nat
  | [a, b] =>
    let n := ofDigits 10 [a, b]
    if a.isDigit && b.isDigit && low ≤ n && n ≤ high then some n else none
  | _ => none

def isLeapYear (year : Nat) : Bool :=
  year % 4 == 0 && (year % 100 != 0 || year % 400 == 0)

def daysOfMonth (year month : Nat) : Nat :=
  if month == 2 then if isLeapYear year then 29 else 28
  else if month == 4 || month == 6 || month == 9 || month == 11 then 30
  else 31

/-- Whether a text is year, month and day. -/
def isDate : List Char → Bool
  | [y1, y2, y3, y4, '-', m1, m2, '-', d1, d2] =>
    let year := [y1, y2, y3, y4]
    match pair? 1 12 [m1, m2] with
    | none => false
    | some month =>
      year.all Char.isDigit && (pair? 1 (daysOfMonth (ofDigits 10 year) month) [d1, d2]).isSome
  | _ => false

/-- The rest after hour, minute, second and any digits after a point. -/
def afterTime? : List Char → Option (List Char)
  | h1 :: h2 :: ':' :: m1 :: m2 :: ':' :: s1 :: s2 :: rest =>
    if (pair? 0 23 [h1, h2]).isSome && (pair? 0 59 [m1, m2]).isSome
        && (pair? 0 60 [s1, s2]).isSome then
      match rest with
      | '.' :: digits =>
        if (digits.takeWhile Char.isDigit).isEmpty then none
        else some (digits.dropWhile Char.isDigit)
      | _ => some rest
    else none
  | _ => none

/-- Whether a text is the distance from universal time, or nothing. -/
def isOffset : List Char → Bool
  | [] => true
  | ['Z'] => true
  | ['z'] => true
  | [sign, h1, h2, ':', m1, m2] =>
    (sign == '+' || sign == '-') && (pair? 0 23 [h1, h2]).isSome && (pair? 0 59 [m1, m2]).isSome
  | _ => false

/-- Whether a text is a time without a date. -/
def isTime (cs : List Char) : Bool :=
  afterTime? cs == some []

/-- Whether a text is a time as it follows a date. -/
def isZonedTime (cs : List Char) : Bool :=
  match afterTime? cs with
  | some rest => isOffset rest
  | none => false

/-- Whether a text is a date, a time, or both with the letter T between them. -/
def isDatetime (token : List Char) : Bool :=
  isDate token || isTime token ||
    (isDate (token.take 10) && (token[10]? == some 'T' || token[10]? == some 't') &&
      isZonedTime (token.drop 11))

/-! ## Tokens -/

/-- What a token stands for. -/
def ofToken? (token : List Char) : Option Value :=
  if token = ['t', 'r', 'u', 'e'] then some (.boolean true)
  else if token = ['f', 'a', 'l', 's', 'e'] then some (.boolean false)
  else if isDatetime token then some .datetime
  else
    match float? token with
    | some v => some v
    | none => integer? token

/-- Reads a value without quotes and brackets. -/
def read? (cs : List Char) : Option (Value × List Char) :=
  let token := cs.takeWhile isTokenChar
  let rest := cs.dropWhile isTokenChar
  match ofToken? token with
  | none => none
  | some v =>
    match rest with
    | ' ' :: more =>
      if isDate token && isZonedTime (more.takeWhile isTokenChar) then
        some (v, more.dropWhile isTokenChar)
      else some (v, rest)
    | _ => some (v, rest)

end Scalar
end Toml
end BindingGen

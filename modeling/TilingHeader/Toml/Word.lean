import TilingHeader.Toml.Quotation
import TilingHeader.Toml.Value

namespace TilingHeader.Toml

/-! Values without quotes or brackets: truth values, numbers, dates and times.
Each is one word, save that a blank may part a date from its time. -/

def isWordPart (character : Char) : Bool :=
  character.isAlphanum || "_+-.:".toList.contains character

namespace Word

/-- The digits of a number; single underscores may stand between them. -/
def grouped? (isDigit : Char → Bool) (word : List Char) : Option (List Char) :=
  let groups := word.splitOn '_'
  if groups.all fun group => group != [] && group.all isDigit then
    some groups.flatten
  else none

def ofDigits (base : Nat) (digits : List Char) : Nat :=
  digits.foldl (fun value digit => value * base + (hexDigit? digit).getD 0) 0

def decimal? (word : List Char) : Option (List Char) :=
  grouped? Char.isDigit word

/-- Without a zero in front of other digits. -/
def whole? (word : List Char) : Option (List Char) := do
  let digits ← decimal? word
  if digits.length = 1 ∨ digits.head? ≠ some '0' then some digits else none

/-- A sign, if there is one: true for minus. -/
def sign : List Char → Bool × List Char
  | '-' :: rest => (true, rest)
  | '+' :: rest => (false, rest)
  | word => (false, word)

def signed (negative : Bool) (value : Nat) : Int :=
  if negative then -value else value

/-- The integers from here up to its negative, that one left out, have 64
bits. -/
def leastInteger : Int := -9223372036854775808

def integer? (number : Int) : Option Value :=
  if leastInteger ≤ number ∧ number < -leastInteger then some (.integer number)
  else none

def isDigitOf (base : Nat) (character : Char) : Bool :=
  match hexDigit? character with
  | some digit => digit < base
  | none => false

def inBase? (base : Nat) (word : List Char) : Option Value := do
  let digits ← grouped? (isDigitOf base) word
  integer? (ofDigits base digits)

/-- The fraction behind a point; none without one. -/
def fraction? : List Char → Option (List Char)
  | [] => some []
  | '.' :: rest => decimal? rest
  | _ => none

/-- The exponent behind its mark; zero without one. -/
def exponent? : List Char → Option Int
  | [] => some 0
  | mark :: rest =>
      if mark = 'e' ∨ mark = 'E' then do
        let (negative, digits) := sign rest
        let digits ← decimal? digits
        some (signed negative (ofDigits 10 digits))
      else none

def isExponentMark (character : Char) : Bool :=
  character == 'e' || character == 'E'

/-- A decimal number with a fraction or an exponent.  One that is too large is
refused, unless it is negative. -/
def float? (word : List Char) : Option Value := do
  let (negative, unsigned) := sign word
  let mantissa := unsigned.takeWhile (!isExponentMark ·)
  let exponent ← exponent? (unsigned.dropWhile (!isExponentMark ·))
  let whole ← whole? (mantissa.takeWhile (· != '.'))
  let fraction ← fraction? (mantissa.dropWhile (· != '.'))
  let number := Binary64.ofDecimal negative
    (ofDigits 10 (whole ++ fraction)) (exponent - fraction.length)
  if number = .infinite false then none else some (.float number)

def number? (word : List Char) : Option Value :=
  match word with
  | '0' :: 'x' :: digits => inBase? 16 digits
  | '0' :: 'o' :: digits => inBase? 8 digits
  | '0' :: 'b' :: digits => inBase? 2 digits
  | _ =>
      let (negative, unsigned) := sign word
      if unsigned = ['i', 'n', 'f'] then some (.float (.infinite negative))
      else if unsigned = ['n', 'a', 'n'] then some (.float .nan)
      else
        match whole? unsigned with
        | some digits => integer? (signed negative (ofDigits 10 digits))
        | none => float? word

/-- A number of exactly the given digits that lies between two bounds. -/
def bounded? (low high : Nat) (digits : List Char) : Option Nat :=
  let value := ofDigits 10 digits
  if digits.all Char.isDigit ∧ low ≤ value ∧ value ≤ high then some value
  else none

def isLeapYear (year : Nat) : Bool :=
  year % 4 == 0 && (year % 100 != 0 || year % 400 == 0)

def daysIn (year month : Nat) : Nat :=
  if month = 2 then if isLeapYear year then 29 else 28
  else if [4, 6, 9, 11].contains month then 30
  else 31

/-- What is left behind a date. -/
def afterDate? : List Char → Option (List Char)
  | y₁ :: y₂ :: y₃ :: y₄ :: '-' :: m₁ :: m₂ :: '-' :: d₁ :: d₂ :: rest => do
      let year ← bounded? 0 9999 [y₁, y₂, y₃, y₄]
      let month ← bounded? 1 12 [m₁, m₂]
      let _ ← bounded? 1 (daysIn year month) [d₁, d₂]
      some rest
  | _ => none

/-- What is left behind the fraction of a second, if there is one. -/
def afterFraction? : List Char → Option (List Char)
  | '.' :: rest =>
      if rest.takeWhile Char.isDigit = [] then none
      else some (rest.dropWhile Char.isDigit)
  | rest => some rest

/-- What is left behind a time of day. -/
def afterTime? : List Char → Option (List Char)
  | h₁ :: h₂ :: ':' :: m₁ :: m₂ :: ':' :: s₁ :: s₂ :: rest => do
      let _ ← bounded? 0 23 [h₁, h₂]
      let _ ← bounded? 0 59 [m₁, m₂]
      let _ ← bounded? 0 60 [s₁, s₂]
      afterFraction? rest
  | _ => none

/-- Nothing, or the distance from universal time. -/
def isOffset : List Char → Bool
  | [] => true
  | ['Z'] => true
  | ['z'] => true
  | [direction, h₁, h₂, ':', m₁, m₂] =>
      (direction == '+' || direction == '-') &&
        (bounded? 0 23 [h₁, h₂]).isSome && (bounded? 0 59 [m₁, m₂]).isSome
  | _ => false

def isDate (word : List Char) : Bool :=
  afterDate? word == some []

/-- A time of day, with an offset or without. -/
def isOffsetTime (word : List Char) : Bool :=
  (afterTime? word).any isOffset

def isMoment (word : List Char) : Bool :=
  match afterDate? word with
  | some [] => true
  | some (mark :: time) => (mark == 'T' || mark == 't') && isOffsetTime time
  | none => afterTime? word == some []

def value? (word : List Char) : Option Value :=
  if word = "true".toList then some (.boolean true)
  else if word = "false".toList then some (.boolean false)
  else if isMoment word then some .moment
  else number? word

end Word

end TilingHeader.Toml

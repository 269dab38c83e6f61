import WikiPage.Toml.Value
/-!
# Words for values

Values that are written without quotation marks: truth values, numbers, dates and times.  Numbers have
single low lines between digits only, and no needless leading zero; a number that is too large to be held
is refused.
-/

namespace WikiPage.Toml

/-! ## 1. Digits -/

/-- The pieces of a text between separators. -/
def splitAt (separator : Char) : List Char → List (List Char)
  | [] => [[]]
  | c :: rest =>
    if c = separator then [] :: splitAt separator rest
    else match splitAt separator rest with
      | [] => [[c]]
      | piece :: pieces => (c :: piece) :: pieces

/-- Digits in groups that low lines part, without the low lines. -/
def grouped? (isDigit : Char → Bool) (text : List Char) : Option (List Char) :=
  let groups := splitAt '_' text
  if groups.all fun group => !group.isEmpty && group.all isDigit then some groups.flatten else none

/-- The value of a digit in a base of up to sixteen. -/
def digitValue (c : Char) : Nat :=
  if c.isDigit then c.toNat - '0'.toNat
  else if 'a' ≤ c ∧ c ≤ 'f' then c.toNat - 'a'.toNat + 10
  else c.toNat - 'A'.toNat + 10

/-- Whether a character is a digit in base sixteen. -/
def isHexDigit (c : Char) : Bool := c.isDigit || 'a' ≤ c && c ≤ 'f' || 'A' ≤ c && c ≤ 'F'

/-- The number that digits stand for. -/
def ofDigits (base : Nat) (digits : List Char) : Nat :=
  digits.foldl (fun n c => n * base + digitValue c) 0

/-- Digits of a whole number: groups without a needless leading zero. -/
def wholeDigits? (text : List Char) : Option (List Char) := do
  let digits ← grouped? Char.isDigit text
  if digits.head? = some '0' ∧ text.length > 1 then none else some digits

/-- A sign and what follows it. -/
def signed : List Char → Bool × List Char
  | '-' :: rest => (true, rest)
  | '+' :: rest => (false, rest)
  | text => (false, text)

/-! ## 2. Numbers -/

/-- The whole number of a word. -/
def integer? (word : List Char) : Option Int := do
  let inBase (base : Nat) (isDigit : Char → Bool) (text : List Char) : Option Int :=
    (grouped? isDigit text).map fun digits => (ofDigits base digits : Int)
  let n ← match word with
    | '0' :: 'x' :: text => inBase 16 isHexDigit text
    | '0' :: 'o' :: text => inBase 8 (fun c => '0' ≤ c && c ≤ '7') text
    | '0' :: 'b' :: text => inBase 2 (fun c => c == '0' || c == '1') text
    | word =>
      let (negative, text) := signed word
      (wholeDigits? text).map fun digits =>
        if negative then -(ofDigits 10 digits : Int) else (ofDigits 10 digits : Int)
  if -n ≤ Nat.pow 2 127 ∧ n < Nat.pow 2 128 then some n else none

/-- Whether a decimal is so large that no double is near it: `digits` are those of its whole part and
then of its places, of which there are `places`, and it has a power of ten. -/
def tooLarge (digits : List Char) (places : Nat) (power : Int) : Bool :=
  let n := ofDigits 10 digits
  let shift := power - places
  let width := (digits.dropWhile (· == '0')).length + shift
  if n = 0 ∨ width < 309 then false
  else if width > 309 then true
  else n * Nat.pow 10 shift.toNat ≥ (Nat.pow 2 1024 - Nat.pow 2 970) * Nat.pow 10 (-shift).toNat

/-- Whether a word is a fraction. -/
def isFraction (word : List Char) : Bool :=
  let (_, text) := signed word
  if text = "inf".toList ∨ text = "nan".toList then true
  else
    let isPower (c : Char) : Bool := c == 'e' || c == 'E'
    let mantissa := text.takeWhile (!isPower ·)
    let power? : Option (Option Int) := match text.dropWhile (!isPower ·) with
      | [] => some none
      | _ :: power =>
        let (negative, power) := signed power
        (grouped? Char.isDigit power).map fun digits =>
          some (if negative then -(ofDigits 10 digits : Int) else (ofDigits 10 digits : Int))
    let whole? := wholeDigits? (mantissa.takeWhile (· != '.'))
    let places? : Option (Option (List Char)) := match mantissa.dropWhile (· != '.') with
      | [] => some none
      | _ :: places => (grouped? Char.isDigit places).map some
    match whole?, places?, power? with
    | some whole, some places, some power =>
      (places.isSome || power.isSome) &&
        !tooLarge (whole ++ places.getD []) (places.getD []).length (power.getD 0)
    | _, _, _ => false

/-! ## 3. Dates and times -/

/-- The number of two digits. -/
def pair? : List Char → Option Nat
  | [a, b] => if a.isDigit && b.isDigit then some (ofDigits 10 [a, b]) else none
  | _ => none

/-- Days of a month. -/
def daysIn (year month : Nat) : Nat :=
  if month = 2 then
    if year % 4 = 0 ∧ (year % 100 ≠ 0 ∨ year % 400 = 0) then 29 else 28
  else if month = 4 ∨ month = 6 ∨ month = 9 ∨ month = 11 then 30
  else 31

/-- Whether a text is a date. -/
def isDate (text : List Char) : Bool :=
  match splitAt '-' text with
  | [year, month, day] =>
    year.length == 4 && year.all Char.isDigit &&
      match pair? month, pair? day with
      | some m, some d => 1 ≤ m && m ≤ 12 && 1 ≤ d && d ≤ daysIn (ofDigits 10 year) m
      | _, _ => false
  | _ => false

/-- Whether a text is a time of day; its seconds, and their places, may be left out. -/
def isTime (text : List Char) : Bool :=
  let upTo (limit : Nat) (text : List Char) : Bool := (pair? text).any (· ≤ limit)
  match splitAt ':' text with
  | [hour, minute] => upTo 23 hour && upTo 59 minute
  | [hour, minute, second] =>
    upTo 23 hour && upTo 59 minute &&
      match splitAt '.' second with
      | [whole] => upTo 60 whole
      | [whole, places] => upTo 60 whole && !places.isEmpty && places.all Char.isDigit
      | _ => false
  | _ => false

/-- Whether a text is a time of day with the distance from the zero meridian's time. -/
def isZonedTime (text : List Char) : Bool :=
  match text.getLast? with
  | some 'Z' | some 'z' => isTime text.dropLast
  | _ =>
    let isSign (c : Char) : Bool := c == '+' || c == '-'
    match text.dropWhile (!isSign ·) with
    | [] => false
    | _ :: zone =>
      isTime (text.takeWhile (!isSign ·)) &&
        match splitAt ':' zone with
        | [hours, minutes] => (pair? hours).any (· ≤ 23) && (pair? minutes).any (· ≤ 59)
        | _ => false

/-- Whether a word is a date, a time, or both. -/
def isMoment (word : List Char) : Bool :=
  isDate word || isTime word ||
    (isDate (word.take 10) &&
      match word.drop 10 with
      | c :: time => (c == 'T' || c == 't' || c == ' ') && (isTime time || isZonedTime time)
      | [] => false)

/-! ## 4. Words -/

/-- A character of a word. -/
def isWordChar (c : Char) : Bool :=
  c.isAlphanum || c == '_' || c == '-' || c == '+' || c == '.' || c == ':'

/-- The word at the start of a text, and the rest.  A date and a time after one space are one word. -/
def word (text : List Char) : List Char × List Char :=
  let first := text.takeWhile isWordChar
  let rest := text.dropWhile isWordChar
  match rest with
  | ' ' :: more =>
    if isDate first && more.head?.any Char.isDigit then
      (first ++ ' ' :: more.takeWhile isWordChar, more.dropWhile isWordChar)
    else (first, rest)
  | _ => (first, rest)

/-- The value of a word. -/
def scalar? (word : List Char) : Option Value :=
  if word = "true".toList then some (.truth true)
  else if word = "false".toList then some (.truth false)
  else match integer? word with
    | some n => some (.integer n)
    | none => if isFraction word then some .fraction else if isMoment word then some .moment else none

end WikiPage.Toml

import WikiPage.Markdown.Cursor
import WikiPage.Unicode.Named
import WikiPage.Unicode.Symbols
/-!
# Character references and escapes

`&name;`, `&#number;` and `&#xnumber;` stand for characters, and a backslash before ASCII punctuation
takes away its meaning.  Both are resolved in running text by the line lexer, and in link targets,
titles and code information by `unescape`.
-/

namespace WikiPage.Markdown

/-- The value of a hexadecimal digit. -/
def hexDigit? (c : Char) : Option Nat :=
  if c.isDigit then some (c.toNat - 48)
  else if 'a' ≤ c ∧ c ≤ 'f' then some (c.toNat - 87)
  else if 'A' ≤ c ∧ c ≤ 'F' then some (c.toNat - 55)
  else none

/-- The value of a decimal digit. -/
def decDigit? (c : Char) : Option Nat := if c.isDigit then some (c.toNat - 48) else none

/-- Reads at most `limit` digits in a base: how many, their value, and what follows. -/
def readDigits (digit? : Char → Option Nat) (base : Nat) :
    Nat → List Char → Nat → Nat → Nat × Nat × List Char
  | 0, cs, count, value => (count, value, cs)
  | _ + 1, [], count, value => (count, value, [])
  | limit + 1, c :: cs, count, value =>
    match digit? c with
    | some d => readDigits digit? base limit cs (count + 1) (value * base + d)
    | none => (count, value, c :: cs)

/-- The character with a code point; the code point zero is shown as the replacement character. -/
def charOfCode? (n : Nat) : Option Char :=
  if n = 0 then some '\uFFFD'
  else if n < 0xD800 ∨ (0xDFFF < n ∧ n < 0x110000) then some (Char.ofNat n)
  else none

/-- A numeric reference after `&#`: its length without the `&#`, and the character. -/
def numericReference? (cs : List Char) : Option (Nat × List Char) :=
  let (extra, count, value, rest) :=
    match cs with
    | x :: digits =>
      if x = 'x' ∨ x = 'X' then (1, readDigits hexDigit? 16 6 digits 0 0)
      else (0, readDigits decDigit? 10 7 cs 0 0)
    | [] => (0, 0, 0, [])
  if count = 0 then none
  else match rest with
    | ';' :: _ => (charOfCode? value).map fun c => (extra + count + 1, [c])
    | _ => none

/-- The reference at the front of a list: the number of its characters, all of them ASCII, and what it
stands for. -/
def charReference? : List Char → Option (Nat × List Char)
  | '&' :: '#' :: rest => (numericReference? rest).map fun (n, cs) => (n + 2, cs)
  | '&' :: rest =>
    let name := rest.takeWhile Char.isAlphanum
    match rest.drop name.length with
    | ';' :: _ => (Unicode.namedCharacters? (String.ofList name)).map fun cs => (name.length + 2, cs)
    | _ => none
  | _ => none

/-- Resolves escapes and references; carriage returns are dropped.  In a table a pipe is escaped once
more: two backslashes before it stand for none.  The number counts characters that were resolved
already. -/
def unescapeList (inTable : Bool) : List Char → Nat → List Char
  | [], _ => []
  | _ :: cs, skip + 1 => unescapeList inTable cs skip
  | c :: cs, 0 =>
    if c = '\\' then
      match cs with
      | '\\' :: '|' :: _ =>
        if inTable then '|' :: unescapeList inTable cs 2 else '\\' :: unescapeList inTable cs 1
      | x :: _ =>
        if Unicode.isAsciiPunctuation x then x :: unescapeList inTable cs 1
        else c :: unescapeList inTable cs 0
      | [] => [c]
    else if c = '&' then
      match charReference? (c :: cs) with
      | some (n, value) => value ++ unescapeList inTable cs (n - 1)
      | none => c :: unescapeList inTable cs 0
    else if c = '\r' then unescapeList inTable cs 0
    else c :: unescapeList inTable cs 0

/-- A text with its escapes and references resolved. -/
def unescape (inTable : Bool) (cs : List Char) : String := String.ofList (unescapeList inTable cs 0)

end WikiPage.Markdown

import WikiPage.Toml.Scalar
/-!
# Quotations

Texts between quotation marks.  Between double marks a backslash begins an escape; between single ones
everything stands for itself.  Three marks begin a text of several lines, which may hold one or two marks
in a row, and these also just before the three that end it.
-/

namespace WikiPage.Toml

/-- A character that may stand for itself in a line. -/
def isLineChar (c : Char) : Bool := (c ≥ ' ' && c != '\x7f') || c == '\t'

/-! ## 1. Escapes -/

/-- The character with a number that is written with a fixed count of digits, and the rest. -/
def numbered? (width : Nat) (text : List Char) : Option (Char × List Char) :=
  let digits := text.take width
  let n := ofDigits 16 digits
  if digits.length = width ∧ digits.all isHexDigit ∧ n.isValidChar then
    some (Char.ofNat n, text.drop width)
  else none

/-- The character of an escape, after its backslash, and the rest. -/
def escape? : List Char → Option (Char × List Char)
  | '"' :: rest => some ('"', rest)
  | '\\' :: rest => some ('\\', rest)
  | 'b' :: rest => some ('\x08', rest)
  | 'e' :: rest => some ('\x1b', rest)
  | 'f' :: rest => some ('\x0c', rest)
  | 'n' :: rest => some ('\n', rest)
  | 'r' :: rest => some ('\r', rest)
  | 't' :: rest => some ('\t', rest)
  | 'x' :: rest => numbered? 2 rest
  | 'u' :: rest => numbered? 4 rest
  | 'U' :: rest => numbered? 8 rest
  | _ => none

/-- The text after the blanks and line ends at its start. -/
def skipBlankLines : List Char → List Char
  | '\r' :: '\n' :: rest => skipBlankLines rest
  | c :: rest => if c == ' ' || c == '\t' || c == '\n' then skipBlankLines rest else c :: rest
  | [] => []

/-- The text after a line end that a backslash takes away, with the blanks and line ends that follow. -/
def joinLines? (text : List Char) : Option (List Char) :=
  match text.dropWhile (fun c => c == ' ' || c == '\t') with
  | '\n' :: rest => some (skipBlankLines rest)
  | '\r' :: '\n' :: rest => some (skipBlankLines rest)
  | _ => none

/-! ## 2. One line -/

/-- A text up to a closing mark, and the rest; `acc` holds what has been read, the last one first. -/
def lineText? (mark : Char) : Nat → List Char → List Char → Option (String × List Char)
  | 0, _, _ => none
  | _, _, [] => none
  | fuel + 1, acc, c :: rest =>
    if c = mark then some (String.ofList acc.reverse, rest)
    else if c = '\\' ∧ mark = '"' then do
      let (x, rest) ← escape? rest
      lineText? mark fuel (x :: acc) rest
    else if isLineChar c then lineText? mark fuel (c :: acc) rest
    else none

/-! ## 3. Several lines -/

/-- A text up to three closing marks, and the rest. -/
def linesText? (mark : Char) : Nat → List Char → List Char → Option (String × List Char)
  | 0, _, _ => none
  | _, _, [] => none
  | fuel + 1, acc, c :: rest =>
    if c = mark then
      let run := (rest.takeWhile (· == mark)).length + 1
      if run < 3 then linesText? mark fuel (c :: acc) rest
      else
        let inside := min (run - 3) 2
        some (String.ofList ((List.replicate inside mark ++ acc).reverse), rest.drop (inside + 2))
    else if c = '\\' ∧ mark = '"' then
      match joinLines? rest with
      | some rest => linesText? mark fuel acc rest
      | none => do
        let (x, rest) ← escape? rest
        linesText? mark fuel (x :: acc) rest
    else if c = '\r' then
      if rest.head? = some '\n' then linesText? mark fuel (c :: acc) rest else none
    else if c = '\n' || isLineChar c then linesText? mark fuel (c :: acc) rest
    else none

/-- The text without a line end at its start. -/
def afterLineEnd : List Char → List Char
  | '\n' :: rest => rest
  | '\r' :: '\n' :: rest => rest
  | text => text

/-! ## 4. Quotations -/

/-- A quotation of one line at the start of a text, and the rest. -/
def lineQuotation? (text : List Char) : Option (String × List Char) :=
  match text with
  | '"' :: rest => lineText? '"' (rest.length + 1) [] rest
  | '\'' :: rest => lineText? '\'' (rest.length + 1) [] rest
  | _ => none

/-- A quotation at the start of a text, and the rest. -/
def quotation? (text : List Char) : Option (String × List Char) :=
  match text with
  | '"' :: '"' :: '"' :: rest => linesText? '"' (rest.length + 1) [] (afterLineEnd rest)
  | '\'' :: '\'' :: '\'' :: rest => linesText? '\'' (rest.length + 1) [] (afterLineEnd rest)
  | _ => lineQuotation? text

end WikiPage.Toml

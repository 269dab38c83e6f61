import WikiPage.Unicode.Case
import WikiPage.Unicode.Letters
/-!
# Slugs

The form of a text that is used in anchors: its letters and digits in lower case, and a single dash for
every run of blanks, dashes and underscores between them.  Other characters are left out.
-/

namespace WikiPage.Text

/-- A character that a dash stands for. -/
def isSlugBreak (c : Char) : Bool := Unicode.isBlank c || c == '-' || c == '_'

/-- The slug of a list of characters, with a dash at the end where the list ends in a break.  After a
dash, and at the start, there is no dash. -/
def slugChars : (afterDash : Bool) → List Char → List Char
  | _, [] => []
  | afterDash, c :: rest =>
    if Unicode.isAlphanumeric c then Unicode.lowercase c ++ slugChars false rest
    else if !afterDash && isSlugBreak c then '-' :: slugChars true rest
    else slugChars afterDash rest

/-- A list without a dash at its end. -/
def dropLastDash (s : List Char) : List Char :=
  if s.getLast? = some '-' then s.dropLast else s

/-- The slug of a text. -/
def slugify (text : String) : String := String.ofList (dropLastDash (slugChars true text.toList))

end WikiPage.Text

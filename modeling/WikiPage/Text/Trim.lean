import WikiPage.Unicode.Letters
/-!
# Blanks around a text

Removing the blanks at the ends of a text.
-/

namespace WikiPage.Text

/-- A list without the blanks at its start. -/
def trimStart (s : List Char) : List Char := s.dropWhile Unicode.isBlank

/-- A list without the blanks at its end. -/
def trimEnd (s : List Char) : List Char := (trimStart s.reverse).reverse

/-- A list without the blanks at its ends. -/
def trim (s : List Char) : List Char := trimEnd (trimStart s)

/-- A text without the blanks at its ends. -/
def trimmed (s : String) : String := String.ofList (trim s.toList)

theorem trimStart_eq_self {s : List Char} (h : ∀ c ∈ s.head?, Unicode.isBlank c = false) :
    trimStart s = s := by
  cases s with
  | nil => rfl
  | cons c rest => simp [trimStart, h c (by simp)]

end WikiPage.Text

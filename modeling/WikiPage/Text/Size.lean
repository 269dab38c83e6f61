/-!
# The size of a text

How many bytes characters take.  Main statement: `byteLength_append`.
-/

namespace WikiPage.Text

/-- Bytes of a list of characters. -/
def byteLength : List Char → Nat
  | [] => 0
  | c :: rest => c.utf8Size + byteLength rest

/-- A text has the bytes of its parts. -/
theorem byteLength_append (a b : List Char) : byteLength (a ++ b) = byteLength a + byteLength b := by
  induction a with
  | nil => simp [byteLength]
  | cons c rest ih => simp [byteLength, ih, Nat.add_assoc]

end WikiPage.Text

/-! Blanks and trimming. `isBlank` is the White_Space property, the blanks of every
script; `isPlainBlank` are the four that trim markers, line ends and indentation know. -/

namespace ScriptedTask.Text

/-- The White_Space property. -/
def isBlank (c : Char) : Bool :=
  let code := c.toNat
  (0x9 ≤ code && code ≤ 0xD) || code == 0x20 || code == 0x85 || code == 0xA0 || code == 0x1680 ||
    (0x2000 ≤ code && code ≤ 0x200A) || code == 0x2028 || code == 0x2029 || code == 0x202F ||
    code == 0x205F || code == 0x3000

def isPlainBlank (c : Char) : Bool := c == ' ' || c == '\t' || c == '\r' || c == '\n'

def dropTrailing (drop : Char → Bool) (text : List Char) : List Char := (text.reverse.dropWhile drop).reverse

def trimBlanks (text : List Char) : List Char := dropTrailing isBlank (text.dropWhile isBlank)

/-- The text without blanks at either end. -/
def trim (text : String) : String := String.ofList (trimBlanks text.toList)

def isBlankText (text : String) : Bool := text.toList.all isBlank

theorem isBlank_of_isPlainBlank {c : Char} (plain : isPlainBlank c) : isBlank c := by
  simp only [isPlainBlank, Bool.or_eq_true, beq_iff_eq] at plain
  rcases plain with ((rfl | rfl) | rfl) | rfl <;> decide

end ScriptedTask.Text

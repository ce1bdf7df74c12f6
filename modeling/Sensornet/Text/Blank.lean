namespace Sensornet
namespace Text

/-!
# Blank characters

White space is the Unicode property `White_Space`: 25 characters, of which
six are ASCII controls or the space.  Trimming and the cut into lines work on
lists of characters, the form in which every reader of this library takes its
input.
-/

/-- The Unicode property `White_Space`. -/
def isBlank (c : Char) : Bool :=
  let n := c.toNat
  (0x9 ≤ n && n ≤ 0xD) || n == 0x20 || n == 0x85 || n == 0xA0 || n == 0x1680 ||
    (0x2000 ≤ n && n ≤ 0x200A) || n == 0x2028 || n == 0x2029 || n == 0x202F ||
    n == 0x205F || n == 0x3000

theorem isBlank_of_isWhitespace {c : Char} (white : c.isWhitespace = true) :
    isBlank c = true := by
  simp only [Char.isWhitespace, Bool.or_eq_true, decide_eq_true_eq] at white
  rcases white with ((rfl | rfl) | rfl) | rfl <;> decide

/-- Drop the blanks in front. -/
def trimStart (text : List Char) : List Char :=
  text.dropWhile isBlank

/-- Drop the blanks at both ends. -/
def trim (text : List Char) : List Char :=
  ((trimStart text).reverse.dropWhile isBlank).reverse

/-- The pieces between the occurrences of a separator; one piece more than
there are separators, so the empty text is one empty piece. -/
def pieces (separator : Char) : List Char -> List (List Char)
  | [] => [[]]
  | c :: rest =>
    if c = separator then [] :: pieces separator rest
    else
      match pieces separator rest with
      | [] => [[c]]
      | piece :: others => (c :: piece) :: others

theorem pieces_ne_nil (separator : Char) (text : List Char) : pieces separator text ≠ [] := by
  cases text with
  | nil => simp [pieces]
  | cons c rest =>
    unfold pieces
    split
    · simp
    · split <;> simp

/-- The non-blank lines of a text, each trimmed.  A carriage return before a
line feed is a blank, so it needs no rule of its own. -/
def filledLines (text : List Char) : List (List Char) :=
  ((pieces '\n' text).map trim).filter fun line => !line.isEmpty

end Text
end Sensornet

import IteratedDilemma.Text.Basic

/-! White space as the Unicode standard has it, and texts freed of it at both ends. -/
namespace IteratedDilemma.Text
set_option autoImplicit false

/-- The white space outside the first 128 code points. -/
def isWideBlank (c : CodePoint) : Bool :=
  let n := c.val
  n == 0x85 || n == 0xa0 || n == 0x1680 || (0x2000 ≤ n && n ≤ 0x200a) || n == 0x2028 ||
    n == 0x2029 || n == 0x202f || n == 0x205f || n == 0x3000

/-- White space: the wide blanks, the space, tabulator to carriage return, and the four
separators of files, groups, records and units. -/
def isBlank (c : CodePoint) : Bool :=
  let n := c.val
  n == 0x20 || (0x09 ≤ n && n ≤ 0x0d) || (0x1c ≤ n && n ≤ 0x1f) || isWideBlank c

/-- A text without those code points at its end that satisfy `p`. -/
def trimEnd (p : CodePoint → Bool) (t : Text) : Text :=
  (t.reverse.dropWhile p).reverse

/-- A text without the white space at its two ends. -/
def trimmed (t : Text) : Text :=
  trimEnd isBlank (t.dropWhile isBlank)

/-- The blank test contains that for characters. -/
theorem isBlank_of_isWhitespace {c : Char} (h : c.isWhitespace = true) :
    isBlank (.ofChar c) = true := by
  simp only [Char.isWhitespace, Bool.or_eq_true, decide_eq_true_eq] at h
  rcases h with ((h | h) | h) | h <;> subst h <;> decide

end IteratedDilemma.Text

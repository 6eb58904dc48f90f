import IteratedDilemma.Text.Printable

/-! A text in quotes, the way messages show it: one of two quote marks is chosen, and what cannot
be printed is written as a numbered escape. -/
namespace IteratedDilemma.Text
set_option autoImplicit false

/-- The lower-case hexadecimal digit of a number below 16. -/
def hexDigit (n : Nat) : Char :=
  Nat.digitChar n

/-- The last `width` hexadecimal digits of `n`, most significant first. -/
def hexDigits (width n : Nat) : List Char :=
  match width with
  | 0 => []
  | width + 1 => hexDigits width (n / 16) ++ [hexDigit (n % 16)]

/-- An escape by number: a backslash, a letter for the number of digits, and the digits. -/
def numberedEscape (letter : Char) (width : Nat) (c : CodePoint) : Text :=
  ofChars ('\\' :: letter :: hexDigits width c.val)

/-- One code point between quotes: the backslash and the quote in use are escaped, three controls
have short escapes, others that cannot be printed are numbered with two, four or eight digits. -/
def quotedChar (quote c : CodePoint) : Text :=
  if c = quote ∨ c = '\\' then ['\\', c]
  else if c = '\n' then ['\\', 'n']
  else if c = '\r' then ['\\', 'r']
  else if c = '\t' then ['\\', 't']
  else if isPrintable c then [c]
  else if c.val < 0x100 then numberedEscape 'x' 2 c
  else if c.val < 0x10000 then numberedEscape 'u' 4 c
  else numberedEscape 'U' 8 c

/-- Single quotes, unless the text holds one and no double quote. -/
def quoteMark (t : Text) : CodePoint :=
  if t.contains '\'' && !t.contains '"' then '"' else '\''

/-- The text in quotes. -/
def quoted (t : Text) : Text :=
  let mark := quoteMark t
  mark :: t.flatMap (quotedChar mark) ++ [mark]

end IteratedDilemma.Text

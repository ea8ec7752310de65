/-
Integers in base sixteen as people write them: with blanks around, a sign, a mark in front and
underscores between the digits. Only the form is judged; the value is of no interest here.
-/
import TokenOverlay.Text.Hex
import TokenOverlay.Unicode.Property

namespace TokenOverlay.HexInteger

/-- One or more groups of digits with single underscores between them. -/
def isGrouped : List Char → Bool
  | [] => false
  | [c] => Hex.isDigit c
  | c :: '_' :: rest => Hex.isDigit c && isGrouped rest
  | c :: rest => Hex.isDigit c && isGrouped rest

/-- Leaves out blanks at both ends. -/
def trim (cs : List Char) : List Char :=
  ((cs.dropWhile Unicode.space.contains).reverse.dropWhile Unicode.space.contains).reverse

/-- Leaves out a sign. -/
def afterSign : List Char → List Char
  | '+' :: rest | '-' :: rest => rest
  | cs => cs

/-- Leaves out a mark of the base and one underscore after it. -/
def afterMark : List Char → List Char
  | '0' :: 'x' :: '_' :: rest | '0' :: 'X' :: '_' :: rest => rest
  | '0' :: 'x' :: rest | '0' :: 'X' :: rest => rest
  | cs => cs

/-- Whether a text is an integer in base sixteen. -/
def accepts (s : String) : Bool :=
  isGrouped (afterMark (afterSign (trim s.toList)))

end TokenOverlay.HexInteger

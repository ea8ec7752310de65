/-
Proof-of-work requirements on transaction ids: the displayed id must begin with a stem, and the hex
digit after the stem may have a least value. A stem may be of any lower-case letters and digits and
may end in a newline, so a requirement can be one that no id meets.
-/
import TokenOverlay.Json.Value
import TokenOverlay.Text.Hex
import TokenOverlay.Text.Line

namespace TokenOverlay

/-- A requirement: the text it was written as, the stem, and the least value of the next digit. -/
structure Bitwork where
  text : String
  stem : String
  extension? : Option Nat
  deriving DecidableEq, Repr

namespace Bitwork

inductive Error
  | empty
  | tooManySeparators (text : String)
  | badStem (stem : String)
  | badExtension (extension : String)
  deriving DecidableEq, Repr

def Error.message : Error → String
  | .empty => "bitwork string is empty"
  | .tooManySeparators text => s!"bitwork string '{text}' contains more than one '.'"
  | .badStem stem => s!"bitwork prefix '{stem}' must match [a-z0-9]\x7b1,64\x7d"
  | .badExtension ext => s!"bitwork extension '{ext}' must be a decimal integer in [0, 15]"

/-- The most characters of a stem. -/
def maxStemLength : Nat := 64

/-- The largest extension: the value of the last hex digit. -/
def maxExtension : Nat := 15

/-- One to sixty-four lower-case letters and digits, and perhaps a newline. -/
def isStem (cs : List Char) : Bool :=
  let core := Line.core cs
  !core.isEmpty && core.length ≤ maxStemLength && core.all Line.isLowerOrDigit

/-- The value of an extension: digits of a number up to fifteen. -/
def extensionValue? (cs : List Char) : Option Nat :=
  (Decimal.read? cs).filter (· ≤ maxExtension)

/-- Reads a stem and, after a point, an extension. -/
def ofText (s : String) : Except Error Bitwork :=
  let stem := s.toList.takeWhile (· != '.')
  let extension := s.toList.dropWhile (· != '.')
  if s.isEmpty then .error .empty
  else if '.' ∈ extension.drop 1 then .error (.tooManySeparators s)
  else if !isStem stem then .error (.badStem (String.ofList stem))
  else match extension with
    | [] => .ok ⟨s, String.ofList stem, none⟩
    | _ :: ext =>
      match extensionValue? ext with
      | some n => .ok ⟨s, String.ofList stem, some n⟩
      | none => .error (.badExtension (String.ofList ext))

/-- Whether a displayed transaction id meets the requirement. A least value of 0 asks for nothing,
not even for a next digit. -/
def isMetBy (w : Bitwork) (id : List Char) : Bool :=
  w.stem.toList.isPrefixOf id &&
    match w.extension? with
    | none => true
    | some 0 => true
    | some least =>
      match (id.drop w.stem.length).head?.bind Hex.value? with
      | some digit => least ≤ digit
      | none => false

def toJson (w : Bitwork) : JsonValue :=
  .str w.text

end Bitwork

end TokenOverlay

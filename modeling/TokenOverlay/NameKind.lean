/-
The names a token can claim. Realms, subrealms and containers share a base rule on the whole text
and differ in their first character; tickers have a grammar of their own. All grammars leave a
single final newline out of account.
-/
import TokenOverlay.Text.Line

namespace TokenOverlay

inductive NameKind
  | realm
  | subrealm
  | container
  | ticker
  deriving DecidableEq, Repr

namespace NameKind

def all : List NameKind :=
  [realm, subrealm, container, ticker]

def text : NameKind → String
  | realm => "realm"
  | subrealm => "subrealm"
  | container => "container"
  | ticker => "ticker"

instance : ToString NameKind := ⟨text⟩

/-- The argument under which a mint requests a name of this kind. -/
def requestKey : NameKind → String
  | realm => "request_realm"
  | subrealm => "request_subrealm"
  | container => "request_container"
  | ticker => "request_ticker"

/-- Whether a claim to a name of this kind needs work on its commit transaction. -/
def needsWork : NameKind → Bool
  | subrealm => false
  | _ => true

/-! ## Grammars -/

/-- The most bytes of a realm, subrealm or container name, a newline included. -/
def maxLength : Nat := 64

/-- The most characters of a ticker before its newline. -/
def maxTickerLength : Nat := 21

/-- A name is not empty, not too long, and has no hyphen at either end. -/
def isBase (s : String) : Bool :=
  !s.isEmpty && s.utf8ByteSize ≤ maxLength && s.toList.head? != some '-' && s.toList.getLast? != some '-'

/-- A lower-case letter, a digit or a hyphen. -/
def isNameChar (c : Char) : Bool :=
  Line.isLowerOrDigit c || c == '-'

/-- A first character of the given class, up to sixty-three further name characters, and perhaps a
newline. -/
def isWord (first : Char → Bool) (cs : List Char) : Bool :=
  match Line.core cs with
  | [] => false
  | c :: rest => first c && rest.length < maxLength && rest.all isNameChar

/-- One to twenty-one lower-case letters and digits, and perhaps a newline. -/
def isTicker (cs : List Char) : Bool :=
  let core := Line.core cs
  !core.isEmpty && core.length ≤ maxTickerLength && core.all Line.isLowerOrDigit

/-- Whether a text is a name of this kind. -/
def accepts (kind : NameKind) (s : String) : Bool :=
  match kind with
  | realm => isBase s && isWord Line.isLower s.toList
  | subrealm => isBase s && isWord Line.isLowerOrDigit s.toList
  | container => isBase s && isWord Line.isLowerOrDigit s.toList
  | ticker => isTicker s.toList

end NameKind

end TokenOverlay

/-
The kinds of operation an envelope can carry, and the codes they are written with. Codes are
pairwise different, so `ofCode?` undoes `code`.
-/
import TokenOverlay.Json.Value

namespace TokenOverlay

/-- What an operation does. -/
inductive OpKind
  /-- Mints a non-fungible token. -/
  | nft
  /-- Mints a directly issued fungible token. -/
  | ft
  /-- Deploys a decentralised fungible token. -/
  | dft
  /-- Modifies a token. -/
  | modify
  /-- Emits an event. -/
  | event
  /-- Claims units of a deployed token. -/
  | claim
  /-- Stores data. -/
  | data
  /-- Moves a token to the first output. -/
  | extract
  /-- Skips outputs before fungible units are placed. -/
  | skip
  /-- Locks a token for good. -/
  | lock
  deriving DecidableEq, Repr

namespace OpKind

def all : List OpKind :=
  [nft, ft, dft, modify, event, claim, data, extract, skip, lock]

/-- The code an operation is written with. -/
def code : OpKind → String
  | nft => "nft"
  | ft => "ft"
  | dft => "dft"
  | modify => "mod"
  | event => "evt"
  | claim => "dmt"
  | data => "dat"
  | extract => "x"
  | skip => "y"
  | lock => "sl"

/-- The kind with the given code. -/
def ofCode? (s : String) : Option OpKind :=
  all.find? fun k => k.code == s

/-- What is said of a code that no kind has. -/
def unknownMessage (s : String) : String :=
  s!"unknown operation '{s}'"

/-- Whether the operation creates a token when found at the first input. -/
def isMint : OpKind → Bool
  | nft | ft | dft => true
  | _ => false

def toJson (k : OpKind) : JsonValue :=
  .str k.code

/-- Reads the code, or an object whose only member has the code as its name and no content. -/
def ofJson? : JsonValue → Option OpKind
  | .string s => s.bind ofCode?
  | .object [(key, .null)] => key.bind ofCode?
  | _ => none

instance : ToString OpKind := ⟨code⟩

end OpKind

end TokenOverlay

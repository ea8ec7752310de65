/-
What a mint asks for besides a token: a name, and for a deployed token the terms under which units
of it can be claimed.
-/
import TokenOverlay.Bitwork
import TokenOverlay.Chain.Outpoint
import TokenOverlay.NameKind

namespace TokenOverlay.Mint

/-- How a subrealm is claimed. -/
inductive ClaimKind
  /-- By the owner of the parent realm. -/
  | direct
  /-- By anyone who pays as the rules of the parent realm ask. -/
  | rule
  deriving DecidableEq, Repr

namespace ClaimKind

def text : ClaimKind → String
  | direct => "direct"
  | rule => "rule"

def ofText? (s : String) : Option ClaimKind :=
  [direct, rule].find? fun k => k.text == s

/-- What is said of a text that names no kind. -/
def unknownMessage (s : String) : String :=
  s!"unknown claim type '{s}'"

def toJson (k : ClaimKind) : JsonValue :=
  .str k.text

end ClaimKind

/-- A claim to a name. -/
inductive Request
  | realm (name : String)
  | subrealm (name : String) (parent : TokenId) (claim : ClaimKind)
  | container (name : String)
  | ticker (name : String)
  deriving DecidableEq, Repr

namespace Request

def name : Request → String
  | realm name | subrealm name _ _ | container name | ticker name => name

def kind : Request → NameKind
  | realm _ => .realm
  | subrealm .. => .subrealm
  | container _ => .container
  | ticker _ => .ticker

def toJson (r : Request) : JsonValue :=
  let common := [("type", .str r.kind.text), ("name", .str r.name)]
  match r with
  | subrealm _ parent claim =>
    .members (common ++ [("parent_realm", .str parent.compact), ("claim_type", claim.toJson)])
  | _ => .members common

end Request

/-- The terms of a deployed token. The work is asked of every claim and not of the deployment. -/
structure Deployment where
  height : UInt64
  amount : UInt64
  claims : UInt64
  commitWork? : Option Bitwork
  revealWork? : Option Bitwork
  deriving DecidableEq, Repr

def Deployment.toJson (d : Deployment) : JsonValue :=
  .members
    [ ("mint_height", .nat d.height.toNat),
      ("mint_amount", .nat d.amount.toNat),
      ("max_mints", .nat d.claims.toNat),
      ("mint_bitworkc", .orNull Bitwork.toJson d.commitWork?),
      ("mint_bitworkr", .orNull Bitwork.toJson d.revealWork?) ]

end TokenOverlay.Mint

/-
Why a located operation creates no token. The gates run in a fixed order, so an operation with
several faults is always refused for the same one.
-/
import TokenOverlay.Bitwork
import TokenOverlay.Chain.Outpoint
import TokenOverlay.NameKind
import TokenOverlay.Operation
import TokenOverlay.Params

namespace TokenOverlay.Mint

inductive Refusal
  | notAMint (kind : OpKind)
  | notAtFirstInput (index : Nat)
  | noOutputs
  | fieldNotAMap (field : String)
  | workNotText (argument : String)
  | badWork (argument : String) (error : Bitwork.Error)
  | workNotDone (argument : String) (work : String) (txid : Digest)
  | manyNames (count : Nat)
  | nameWithoutWork (kind : NameKind)
  | nameWorkTooShort (kind : NameKind) (length least : Nat)
  | parentsNotAMap
  | nothingSpent
  | badParent (text : String) (error : Outpoint.Error)
  | badParentMinimum (parent : TokenId)
  | parentNotSpent (parent : TokenId)
  | parentTooSmall (parent : TokenId) (total : Nat) (minimum : UInt64)
  | badName (kind : NameKind) (name : String)
  | nameNotText (kind : NameKind)
  | badClaimKind
  | badParentRealm
  | outOfBounds (argument : String) (bounds : Bounds)
  deriving DecidableEq, Repr

namespace Refusal

def message : Refusal → String
  | notAMint kind => s!"operation {kind} does not mint"
  | notAtFirstInput i => s!"mint operations must be at input 0 but found at input {i}"
  | noOutputs => "mint transaction has no outputs"
  | fieldNotAMap field => s!"payload field '{field}' must be a map"
  | workNotText argument => s!"{argument} must be a bitwork string"
  | badWork argument e => s!"invalid {argument}: {e.message}"
  | workNotDone argument work txid =>
    s!"{argument} '{work}' is not satisfied by transaction {txid.text}"
  | manyNames n => s!"mint requests {n} names while at most one is allowed"
  | nameWithoutWork kind => s!"{kind} name claims require a bitworkc"
  | nameWorkTooShort kind n least =>
    s!"{kind} name claims require a bitworkc prefix of at least {least} chars but got {n}"
  | parentsNotAMap => "parents must be a map of compact atomical ids to minimum values"
  | nothingSpent => "parents are required but no atomicals were spent"
  | badParent text e => s!"invalid parent id '{text}': {e.message}"
  | badParentMinimum parent =>
    s!"parent {parent.compact} minimum value must be a non-negative integer"
  | parentNotSpent parent => s!"parent {parent.compact} was not spent in the mint transaction"
  | parentTooSmall parent total minimum =>
    s!"parent {parent.compact} was spent with a total value of {total} while the minimum is {minimum}"
  | badName kind name => s!"invalid {kind} name '{name}'"
  | nameNotText kind => s!"{kind} name must be a non-empty string"
  | badClaimKind => "subrealm claim_type must be 'direct' or 'rule'"
  | badParentRealm => "subrealm parent_realm must be a compact atomical id"
  | outOfBounds argument b => s!"{argument} must be an integer in [{b.low}, {b.high}]"

/-- Whether the operation was no attempt to mint at all, so that there is nothing to note. -/
def isSilent : Refusal → Bool
  | notAMint _ => true
  | _ => false

/-- Whether the operation stands where no mint can be, so that it is passed over and not refused. -/
def isMisplaced : Refusal → Bool
  | notAtFirstInput _ | noOutputs => true
  | _ => false

end Refusal

end TokenOverlay.Mint

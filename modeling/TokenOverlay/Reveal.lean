/-
What a reveal transaction yields: the operation it carries, the token that the operation mints, the
ticker it claims units of, and the tokens spent at its inputs as the index records them.
-/
import TokenOverlay.Claim
import TokenOverlay.Mint.Judge

namespace TokenOverlay

structure Reveal where
  operation? : Option Located
  mint? : Option Mint.Record
  claimed? : Option String
  spent : ByInput SpentToken

namespace Reveal

/-- What comes of an operation. -/
def ofOperation (c : Config) (tx : Transaction) (spent : ByInput SpentToken) (op : Located) :
    Except Fault (Reveal × List Log) :=
  match Mint.accept? c op tx spent with
  | .error fault => .error fault
  | .ok (mint?, logs) =>
    let claim := Claim.accept? op
    .ok (⟨some op, mint?, claim.1, spent⟩, logs ++ claim.2)

/-- What comes of a transaction whose spent tokens are known. -/
def ofSpent (c : Config) (tx : Transaction) (spent : ByInput SpentToken) :
    Except Fault (Reveal × List Log) :=
  match tx.locate with
  | (none, logs) => .ok (⟨none, none, none, spent⟩, logs)
  | (some op, logs) => (ofOperation c tx spent op).map fun r => (r.1, logs ++ r.2)

/-- What comes of a transaction. A record that is too short means that the index is corrupt, and
nothing is looked at. -/
def process (c : Config) (tx : Transaction) (records : ByInput SpentRecord) :
    Except SpentRecord.TooShort (Except Fault (Reveal × List Log)) :=
  (SpentRecord.readAll c.params.recordValueOffset records).map (ofSpent c tx)

end Reveal

end TokenOverlay

/-
The history of the rules of a parent realm. Updates are handed over with the latest in front. Within
a block only the last update counts, and an update takes effect a delay after its height.
-/
import TokenOverlay.Chain.Outpoint
import TokenOverlay.Payload.Value
import TokenOverlay.Window

namespace TokenOverlay.Subrealm

/-- An update of the rules of a parent realm. -/
structure Update where
  txid : Digest
  height : UInt64
  /-- The number of the transaction in the order of the whole ledger. -/
  txNum : UInt64
  data : Payload.Value

/-- Whether an update may stand right after another one in a history. -/
def Update.precedes (a b : Update) : Bool :=
  a.height ≤ b.height && a.txNum < b.txNum

/-- An update that stands after one that it does not precede. -/
structure Disorder where
  update : Update
  before : Update

def Disorder.message (d : Disorder) : String :=
  s!"rule history is out of order: (height {d.update.height}, tx_num {d.update.txNum}) " ++
    s!"follows (height {d.before.height}, tx_num {d.before.txNum})"

/-- Updates, the latest first. -/
abbrev History := List Update

namespace History

/-- The first place where a history is out of order. -/
def disorder? : History → Option Disorder
  | b :: a :: rest => if a.precedes b then disorder? (a :: rest) else some ⟨a, b⟩
  | _ => none

/-- The foremost update of each height. -/
def foremost : History → History
  | [] => []
  | u :: rest => u :: (foremost rest).filter fun v => v.height != u.height

/-- The last update of each height, the latest first. -/
def collapse (h : History) : Except Disorder History :=
  match h.disorder? with
  | some d => .error d
  | none => .ok h.foremost

/-- The foremost update that is in effect at a height. -/
def inEffect? (p : Params) (height : UInt64) : History → Except Fault (Option Update)
  | [] => .ok none
  | u :: rest => do
    let first ← heightAfter u.height p.rulesDelay
    if first ≤ height then return some u else inEffect? p height rest

end History

end TokenOverlay.Subrealm

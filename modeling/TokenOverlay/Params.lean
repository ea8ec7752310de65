/-
The numbers of the protocol. Every rule takes its delays, bounds and sizes from a value of `Params`,
so that a network with other numbers needs no other rules. A document of parameters names every
entry exactly once, or lists all of them in order.
-/
import TokenOverlay.Json.Reader

namespace TokenOverlay

/-- A closed interval of words. -/
structure Bounds where
  low : UInt64
  high : UInt64
  deriving DecidableEq, Repr

def Bounds.contains (b : Bounds) (n : UInt64) : Bool :=
  b.low ≤ n && n ≤ b.high

structure Params where
  /-- The most blocks between the commit and the reveal of a mint. -/
  revealDelay : UInt64
  /-- The most blocks between the commit and the reveal of a claim to a name. -/
  nameRevealDelay : UInt64
  /-- The blocks after its commit during which a subrealm may be paid for. -/
  paymentDelay : UInt64
  /-- The blocks after which an update of subrealm rules takes effect. -/
  rulesDelay : UInt64
  /-- The path that subrealm rules are published under. -/
  rulesPath : String
  /-- The least payment a subrealm rule may ask for. -/
  minPayment : UInt64
  /-- The most bytes a list of subrealm rules may take. -/
  maxRulesSize : UInt64
  /-- The heights a deployed token may open at. -/
  deployHeight : Bounds
  /-- The units that one claim of a deployed token may yield. -/
  deployAmount : Bounds
  /-- The claims a deployed token may allow. -/
  deployClaims : Bounds
  /-- The largest output index of a compact token id. -/
  maxOutputIndex : UInt32
  /-- The least length of the work stem of a claim to a name. -/
  minNameWork : UInt64
  /-- Where the value stands in a record of a spent token. -/
  recordValueOffset : UInt64
  deriving DecidableEq, Repr

namespace Params

/-- The parameters of the main network. -/
def mainnet : Params where
  revealDelay := 100
  nameRevealDelay := 3
  paymentDelay := 15
  rulesDelay := 3
  rulesPath := "/subrealms"
  minPayment := 0
  maxRulesSize := 1000000
  deployHeight := ⟨0, 10000000⟩
  deployAmount := ⟨546, 100000000⟩
  deployClaims := ⟨1, 100000⟩
  maxOutputIndex := 100000
  minNameWork := 4
  recordValueOffset := 43

instance : Inhabited Params := ⟨mainnet⟩

/-! ## Documents -/

/-- A parameter as it stands in a document. -/
structure Entry where
  name : String
  get : Params → JsonValue
  set? : JsonValue → Params → Option Params

/-- An entry that is a word. -/
def Entry.word (name : String) (get : Params → UInt64) (set : UInt64 → Params → Params) : Entry where
  name := name
  get p := .nat (get p).toNat
  set? v p := (v.asNat? UInt64.size).map fun n => set (UInt64.ofNat n) p

/-- The entries in the order in which they are written. -/
def entries : List Entry :=
  [ .word "general_commit_reveal_delay_blocks" revealDelay fun n p => { p with revealDelay := n },
    .word "name_commit_reveal_delay_blocks" nameRevealDelay fun n p => { p with nameRevealDelay := n },
    .word "subrealm_payment_delay_blocks" paymentDelay fun n p => { p with paymentDelay := n },
    .word "subrealm_rules_effective_delay_blocks" rulesDelay fun n p => { p with rulesDelay := n },
    { name := "subrealm_mint_path"
      get := fun p => .str p.rulesPath
      set? := fun v p => v.asText?.map fun s => { p with rulesPath := s } },
    .word "subrealm_min_payment" minPayment fun n p => { p with minPayment := n },
    .word "max_subrealm_rule_size_bytes" maxRulesSize fun n p => { p with maxRulesSize := n },
    .word "dft_mint_height_min" (·.deployHeight.low) fun n p => { p with deployHeight.low := n },
    .word "dft_mint_height_max" (·.deployHeight.high) fun n p => { p with deployHeight.high := n },
    .word "dft_mint_amount_min" (·.deployAmount.low) fun n p => { p with deployAmount.low := n },
    .word "dft_mint_amount_max" (·.deployAmount.high) fun n p => { p with deployAmount.high := n },
    .word "dft_max_mints_min" (·.deployClaims.low) fun n p => { p with deployClaims.low := n },
    .word "dft_max_mints_max" (·.deployClaims.high) fun n p => { p with deployClaims.high := n },
    { name := "compact_id_max_output_index"
      get := fun p => .nat p.maxOutputIndex.toNat
      set? := fun v p => (v.asNat? UInt32.size).map fun n => { p with maxOutputIndex := UInt32.ofNat n } },
    .word "name_bitworkc_min_prefix_len" minNameWork fun n p => { p with minNameWork := n },
    .word "spent_record_value_offset" recordValueOffset fun n p => { p with recordValueOffset := n } ]

def toJson (p : Params) : JsonValue :=
  .members (entries.map fun e => (e.name, e.get p))

/-- The content of the only member of a name. -/
def member? (name : String) (ms : List (Option String × JsonValue)) : Option JsonValue :=
  match ms.filter fun m => m.1 == some name with
  | [(_, v)] => some v
  | _ => none

/-- Reads a document. Members of other names do not matter, but every name must be readable. -/
def ofJson? : JsonValue → Option Params
  | .object ms =>
    if ms.all fun m => m.1.isSome then
      entries.foldlM (fun p e => (member? e.name ms).bind (e.set? · p)) mainnet
    else none
  | .array items =>
    if items.length = entries.length then
      (entries.zip items).foldlM (fun p e => e.1.set? e.2 p) mainnet
    else none
  | _ => none

end Params

/-- Parameters, and whether invariants of what was already judged are looked at once more. -/
structure Config where
  params : Params := .mainnet
  sanityChecks : Bool := false
  deriving DecidableEq, Repr

end TokenOverlay

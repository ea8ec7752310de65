/-
Sets of subrealm rules. An update holds one under the rules path. If any part of it is malformed
there are no rules at all, and the update before it does not come back into effect.
-/
import TokenOverlay.Log
import TokenOverlay.Payload.Encoding
import TokenOverlay.Subrealm.History
import TokenOverlay.Subrealm.Rule
import TokenOverlay.Text.HexInteger

namespace TokenOverlay.Subrealm

open Payload (Map Value)

/-- Why an update holds no set of rules. Rules are counted from zero. -/
inductive Refusal
  | notAMap
  | wrongPath (path : String)
  | rulesNotAList
  | rulesTooLarge (size : Nat) (most : UInt64)
  | unwritable (e : Payload.Error)
  | malformedRule (i : Nat)
  | patternNotScalar (i : Nat)
  | badPattern (i : Nat)
  | noOutputs (i : Nat)
  | badValue (i : Nat) (scriptHex : String)
  | badScript (i : Nat) (scriptHex : String)
  deriving DecidableEq, Repr

def Refusal.message : Refusal → String
  | notAMap => "rule record data is empty or not a map"
  | wrongPath path => s!"rule record path is missing or not '{path}'"
  | rulesNotAList => "rules must be a non-empty list"
  | rulesTooLarge size most => s!"rules serialize to {size} bytes while the maximum is {most}"
  | unwritable e => s!"rules could not be serialized: {e.message}"
  | malformedRule i => s!"rule {i} must be a map with 'p' and 'o' entries"
  | patternNotScalar i => s!"rule {i} pattern must be a string or a number"
  | badPattern i => s!"rule {i} pattern does not compile"
  | noOutputs i => s!"rule {i} outputs must be a non-empty map"
  | badValue i script => s!"rule {i} output '{script}' must pay at least the minimum payment"
  | badScript i script => s!"rule {i} output script '{script}' is not hex"

/-! ## Rules -/

variable [Pattern.SizeLimit]

/-- The price that an entry of the outputs of rule `i` asks for. -/
def readPrice (p : Params) (i : Nat) (entry : String × Value) : Except Refusal Price :=
  let (scriptHex, value) := entry
  match value.asWord? with
  | none => .error (.badValue i scriptHex)
  | some least =>
    if least < p.minPayment then .error (.badValue i scriptHex)
    else if !HexInteger.accepts scriptHex then .error (.badScript i scriptHex)
    else .ok ⟨scriptHex, least⟩

/-- An entry that is there and not null. -/
def given? (m : Map) (key : String) : Option Value :=
  (m.get? key).filter fun v => !v.isNull

/-- A map with at least one entry. -/
def filledMap? (v : Value) : Option Map :=
  v.asMap?.filter fun m => !m.isEmpty

/-- The pattern and the outputs of a rule as its value gives them. -/
def parts? (v : Value) : Option (Value × Value) := do
  let rule ← v.asMap?
  let pattern ← given? rule "p"
  let outputs ← given? rule "o"
  return (pattern, outputs)

/-- Reads rule `i`. -/
def readRule (p : Params) (i : Nat) (v : Value) : Except Refusal Rule :=
  match parts? v with
  | none => .error (.malformedRule i)
  | some (pattern, outputs) =>
    match filledMap? outputs with
    | none => .error (.noOutputs i)
    | some entries => do
      let prices ← entries.mapM (readPrice p i)
      match patternOf? pattern with
      | none => .error (.patternNotScalar i)
      | some text =>
        match Rule.ofPattern? text prices with
        | some rule => .ok rule
        | none => .error (.badPattern i)

/-- Reads rules, the first of which is rule `i`. -/
def readRules (p : Params) (i : Nat) : List Value → Except Refusal (List Rule)
  | [] => .ok []
  | v :: rest => do
    let rule ← readRule p i v
    let rules ← readRules p (i + 1) rest
    return rule :: rules

/-! ## Sets -/

/-- The rules of an update. -/
structure RuleSet where
  txid : Digest
  height : UInt64
  /-- The first height at which the rules are in effect. -/
  validFrom : UInt64
  rules : List Rule
  deriving BEq

namespace RuleSet

/-- The values of the rules that an update holds, after all checks on the update as a whole. -/
def ruleValues (p : Params) (data : Value) : Except Refusal (List Value) :=
  match filledMap? data with
  | none => .error .notAMap
  | some entries =>
    if (entries.get? "$path").bind Value.asText? ≠ some p.rulesPath then
      .error (.wrongPath p.rulesPath)
    else match (entries.get? "rules").filter fun v => !v.isBlank with
      | some (.seq items) =>
        match (Value.seq items).encode with
        | .error e => .error (.unwritable e)
        | .ok b =>
          if p.maxRulesSize.toNat < b.length then .error (.rulesTooLarge b.length p.maxRulesSize)
          else .ok items
      | _ => .error .rulesNotAList

/-- The rules that an update holds. -/
def rulesOf (p : Params) (data : Value) : Except Refusal (List Rule) := do
  let values ← ruleValues p data
  readRules p 0 values

/-- The set of rules that an update holds. -/
def ofUpdate (p : Params) (u : Update) : Except Fault (Except Refusal RuleSet) :=
  match rulesOf p u.data with
  | .error e => .ok (.error e)
  | .ok rules => (heightAfter u.height p.rulesDelay).map fun first =>
    .ok ⟨u.txid, u.height, first, rules⟩

/-- The first rule that is for a name, and its number. -/
def ruleFor? (s : RuleSet) (name : String) : Except Fault (Option (Rule × Nat)) :=
  s.rules.zipIdx.findM? fun (rule, _) => rule.accepts name

end RuleSet

/-! ## Effect -/

def disorderNote (d : Disorder) : Log :=
  .warn s!"subrealm rules are disabled: {d.message}"

def refusalNote (u : Update) (r : Refusal) : Log :=
  .debug (s!"subrealm rules recorded by tx {u.txid.text} at height {u.height} are disabled: " ++
    r.message)

/-- The rules in effect at a height: those of the latest update that has taken effect, if it is well
formed. A history out of order and a malformed update are noted. -/
def rulesAt (p : Params) (height : UInt64) (history : History) :
    Except Fault (Option RuleSet × List Log) :=
  match history.collapse with
  | .error d => .ok (none, [disorderNote d])
  | .ok updates => do
    match ← updates.inEffect? p height with
    | none => return (none, [])
    | some u =>
      match ← RuleSet.ofUpdate p u with
      | .ok rules => return (some rules, [])
      | .error r => return (none, [refusalNote u r])

end TokenOverlay.Subrealm

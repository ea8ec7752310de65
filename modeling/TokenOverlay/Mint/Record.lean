/-
The record of an accepted mint: the token, where it was committed and revealed, what the operation
said of it, and what it was granted.
-/
import TokenOverlay.Chain.Transaction
import TokenOverlay.Mint.Request
import TokenOverlay.Payload.Value
import TokenOverlay.Sha256

namespace TokenOverlay.Mint

/-- Whether the units of a token can be told apart. -/
inductive Fungibility
  | unique
  | fungible
  deriving DecidableEq, Repr

def Fungibility.code : Fungibility → String
  | unique => "NFT"
  | fungible => "FT"

/-- Who issues the units of a fungible token. -/
inductive Issue
  /-- The mint itself issues all of them. -/
  | direct
  /-- Anyone may claim some of them under the terms of the deployment. -/
  | decentralized
  deriving DecidableEq, Repr

def Issue.code : Issue → String
  | direct => "direct"
  | decentralized => "decentralized"

/-- The four maps of a payload that describe a token; a map that is absent is empty. -/
structure Fields where
  args : Payload.Map
  metadata : Payload.Map
  ctx : Payload.Map
  init : Payload.Map

/-- The work that a mint asks of its own transactions. -/
structure Work where
  commit? : Option Bitwork
  reveal? : Option Bitwork
  deriving DecidableEq, Repr

def Work.isEmpty (w : Work) : Bool :=
  w.commit?.isNone && w.reveal?.isNone

def Work.toJson (w : Work) : JsonValue :=
  .members
    [ ("bitworkc", .orNull Bitwork.toJson w.commit?),
      ("bitworkr", .orNull Bitwork.toJson w.reveal?) ]

structure Record where
  /-- The outpoint the token was committed at. -/
  token : TokenId
  fungibility : Fungibility
  issue? : Option Issue
  /-- The place of the commit as the index knows it. -/
  commitLocation : Outpoint
  /-- The outpoint that receives the token. -/
  reveal : Outpoint
  /-- The output that receives the token. -/
  output : Output
  fields : Fields
  work : Work
  request? : Option Request
  /-- The tokens that had to be spent, and the least value of each. -/
  parents? : Option (Assoc TokenId UInt64)
  deployment? : Option Deployment

namespace Record

/-- The display-only reference: the commit transaction with the index of the reveal output. -/
def reference (r : Record) : String :=
  (⟨r.token.txid, r.reveal.index⟩ : Outpoint).reference

/-- The digest of the receiving script. -/
def scriptHash (r : Record) : Digest :=
  Sha256.doubleHash r.output.script

/-- The key of the receiving script. -/
def scriptKey (r : Record) : Bytes :=
  Sha256.scriptKey r.output.script

def parentsToJson (parents : Assoc TokenId UInt64) : JsonValue :=
  .members (parents.map fun p => (p.1.compact, .nat p.2.toNat))

def toJson (r : Record) : JsonValue :=
  .members
    [ ("atomical_id", .str r.token.compact),
      ("atomical_ref", .str r.reference),
      ("atomical_type", .str r.fungibility.code),
      ("subtype", .orNull (fun i => .str i.code) r.issue?),
      ("commit_txid", .str r.token.txid.text),
      ("commit_index", .nat r.token.index.toNat),
      ("commit_location", .str r.commitLocation.compact),
      ("reveal_location_txid", .str r.reveal.txid.text),
      ("reveal_location_index", .nat r.reveal.index.toNat),
      ("reveal_location", .str r.reveal.compact),
      ("reveal_location_scripthash", .str r.scriptHash.text),
      ("reveal_location_hash_x", .str (Hex.text r.scriptKey)),
      ("reveal_location_value", .nat r.output.value.toNat),
      ("reveal_location_script", .str (Hex.text r.output.script)),
      ("args", r.fields.args.toJson),
      ("meta", r.fields.metadata.toJson),
      ("ctx", r.fields.ctx.toJson),
      ("init", r.fields.init.toJson),
      ("bitwork", r.work.toJson),
      ("request", .orNull Request.toJson r.request?),
      ("parents", .orNull parentsToJson r.parents?),
      ("dmint", .orNull Deployment.toJson r.deployment?) ]

end Record

end TokenOverlay.Mint

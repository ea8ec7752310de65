/-
The gates a mint passes through. Each either yields its part of the record or a refusal. An optional
argument that is blank counts as not given; names and terms count only as values of the right kind.
-/
import TokenOverlay.Located
import TokenOverlay.Mint.Record
import TokenOverlay.Mint.Refusal
import TokenOverlay.Spent

namespace TokenOverlay.Mint

open Payload (Map Value)

/-! ## Arguments -/

/-- The value under a key unless it is absent or blank. -/
def given? (args : Map) (key : String) : Option Value :=
  (args.get? key).filter fun v => !v.isBlank

def textArg? (args : Map) (key : String) : Option String :=
  (args.get? key).bind Value.asText?

/-- The map under a field of a payload; an absent one is empty. -/
def fieldMap (payload : Map) (field : String) : Except Refusal Map :=
  match payload.get? field with
  | none => .ok []
  | some (.map m) => .ok m
  | some _ => .error (.fieldNotAMap field)

def Fields.ofPayload (payload : Map) : Except Refusal Fields := do
  let metadata ← fieldMap payload "meta"
  let args ← fieldMap payload "args"
  let ctx ← fieldMap payload "ctx"
  let init ← fieldMap payload "init"
  return ⟨args, metadata, ctx, init⟩

/-! ## Place -/

/-- What a mint of the given kind creates. -/
def creates? : OpKind → Option (Fungibility × Option Issue)
  | .nft => some (.unique, none)
  | .ft => some (.fungible, some .direct)
  | .dft => some (.fungible, some .decentralized)
  | _ => none

/-- A mint must be a minting operation at the first input. -/
def checkPlace (op : Located) : Except Refusal (Fungibility × Option Issue) :=
  match creates? op.kind with
  | none => .error (.notAMint op.kind)
  | some created =>
    if op.inputIndex ≠ 0 then .error (.notAtFirstInput op.inputIndex) else .ok created

def firstOutput (tx : Transaction) : Except Refusal Output :=
  match tx.outputs with
  | [] => .error .noOutputs
  | o :: _ => .ok o

/-! ## Work -/

/-- Reads a work requirement, which must be a well-formed text. -/
def readWork (argument : String) (v : Value) : Except Refusal Bitwork :=
  match v.asText? with
  | none => .error (.workNotText argument)
  | some s =>
    match Bitwork.ofText s with
    | .ok w => .ok w
    | .error e => .error (.badWork argument e)

/-- Reads a work requirement that may be left out. -/
def optionalWork (args : Map) (argument : String) : Except Refusal (Option Bitwork) :=
  match given? args argument with
  | none => .ok none
  | some v => (readWork argument v).map some

/-- Reads a work requirement that a transaction must meet. -/
def workDone (args : Map) (argument : String) (txid : Digest) : Except Refusal (Option Bitwork) :=
  match optionalWork args argument with
  | .ok (some w) =>
    if w.isMetBy txid.digits then .ok (some w) else .error (.workNotDone argument w.text txid)
  | other => other

/-- The work asked of the commit and of the reveal, which both must have been done. -/
def checkWork (op : Located) (args : Map) : Except Refusal Work := do
  let commit ← workDone args "bitworkc" op.commit.txid
  let reveal ← workDone args "bitworkr" op.reveal.txid
  return ⟨commit, reveal⟩

/-! ## Names -/

/-- The kinds of name that a mint asks for. -/
def requestedKinds (args : Map) : List NameKind :=
  NameKind.all.filter fun k => (given? args k.requestKey).isSome

/-- At most one name may be asked for. The result is its kind if it needs work. -/
def checkRequestCount (args : Map) : Except Refusal (Option NameKind) :=
  let kinds := requestedKinds args
  if 1 < kinds.length then .error (.manyNames kinds.length)
  else .ok (kinds.find? NameKind.needsWork)

/-- A claim to a name that needs work must ask for enough of it on the commit. -/
def checkNameWork (p : Params) (kind? : Option NameKind) (work : Work) : Except Refusal Unit :=
  match kind?, work.commit? with
  | none, _ => .ok ()
  | some kind, none => .error (.nameWithoutWork kind)
  | some kind, some w =>
    if w.stem.length < p.minNameWork.toNat then
      .error (.nameWorkTooShort kind w.stem.length p.minNameWork.toNat)
    else .ok ()

/-- The subrealm a mint claims under a valid name. -/
def subrealmRequest (p : Params) (args : Map) (name : String) : Except Refusal Request :=
  match (textArg? args "claim_type").bind ClaimKind.ofText? with
  | none => .error .badClaimKind
  | some claim =>
    match (textArg? args "parent_realm").map (Outpoint.ofCompact p.maxOutputIndex) with
    | some (.ok parent) => .ok (.subrealm name parent claim)
    | _ => .error .badParentRealm

/-- A non-fungible token may claim a realm, else a subrealm, else a container, else no name. -/
def nftRequest (p : Params) (args : Map) : Except Refusal (Option Request) :=
  match textArg? args NameKind.realm.requestKey, textArg? args NameKind.subrealm.requestKey,
    textArg? args NameKind.container.requestKey with
  | some name, _, _ =>
    if NameKind.realm.accepts name then .ok (some (.realm name)) else .error (.badName .realm name)
  | none, some name, _ =>
    if NameKind.subrealm.accepts name then (subrealmRequest p args name).map some
    else .error (.badName .subrealm name)
  | none, none, some name =>
    if NameKind.container.accepts name then .ok (some (.container name))
    else .error (.badName .container name)
  | none, none, none => .ok none

/-- A fungible token must claim a ticker. -/
def tickerRequest (args : Map) : Except Refusal Request :=
  match textArg? args NameKind.ticker.requestKey with
  | none => .error (.nameNotText .ticker)
  | some name =>
    if NameKind.ticker.accepts name then .ok (.ticker name) else .error (.badName .ticker name)

/-! ## Parents -/

/-- Checks one listed parent: it must be spent, over all inputs, with at least the listed value. -/
def checkParent (p : Params) (spent : ByInput SpentToken) (entry : String × Value) :
    Except Refusal (TokenId × UInt64) :=
  match Outpoint.ofCompact p.maxOutputIndex entry.1 with
  | .error e => .error (.badParent entry.1 e)
  | .ok parent =>
    match entry.2.asWord? with
    | none => .error (.badParentMinimum parent)
    | some minimum =>
      if (spent.inputsOf parent).isEmpty then .error (.parentNotSpent parent)
      else if spent.total parent < minimum.toNat then
        .error (.parentTooSmall parent (spent.total parent) minimum)
      else .ok (parent, minimum)

/-- Checks the listed parents one after the other. -/
def checkParentList (p : Params) (spent : ByInput SpentToken) (found : Assoc TokenId UInt64) :
    List (String × Value) → Except Refusal (Assoc TokenId UInt64)
  | [] => .ok found
  | entry :: rest =>
    match checkParent p spent entry with
    | .error e => .error e
    | .ok (parent, minimum) => checkParentList p spent (found.insert parent minimum) rest

/-- The parents that a mint lists, if it lists any. -/
def checkParents (p : Params) (args : Map) (spent : ByInput SpentToken) :
    Except Refusal (Option (Assoc TokenId UInt64)) :=
  match given? args "parents" with
  | none => .ok none
  | some v =>
    match v.asMap? with
    | none => .error .parentsNotAMap
    | some entries =>
      if spent.isEmpty then .error .nothingSpent
      else (checkParentList p spent [] entries).map some

/-! ## Terms -/

/-- An integer argument within bounds. -/
def boundedArg (args : Map) (key : String) (b : Bounds) : Except Refusal UInt64 :=
  match ((args.get? key).bind Value.asWord?).filter b.contains with
  | some n => .ok n
  | none => .error (.outOfBounds key b)

/-- The terms of a deployed token. -/
def checkDeployment (p : Params) (args : Map) : Except Refusal Deployment := do
  let height ← boundedArg args "mint_height" p.deployHeight
  let amount ← boundedArg args "mint_amount" p.deployAmount
  let claims ← boundedArg args "max_mints" p.deployClaims
  let commitWork? ← optionalWork args "mint_bitworkc"
  let revealWork? ← optionalWork args "mint_bitworkr"
  return ⟨height, amount, claims, commitWork?, revealWork?⟩

/-- The name and the terms that a mint of the given kind comes with. -/
def checkRequest (p : Params) (kind : OpKind) (args : Map) :
    Except Refusal (Option Request × Option Deployment) :=
  match kind with
  | .nft => (nftRequest p args).map (·, none)
  | .ft => (tickerRequest args).map fun r => (some r, none)
  | .dft => do
    let request ← tickerRequest args
    let deployment ← checkDeployment p args
    return (some request, some deployment)
  | other => .error (.notAMint other)

end TokenOverlay.Mint

import TokenOverlay.Candidate
import TokenOverlay.Chain.Draft
import TokenOverlay.Proofs.Bitwork
import TokenOverlay.Proofs.Coloring
import TokenOverlay.Proofs.Decimal
import TokenOverlay.Proofs.Digest
import TokenOverlay.Proofs.Except
import TokenOverlay.Proofs.FirstInput
import TokenOverlay.Proofs.Locate
import TokenOverlay.Proofs.Mint.Gate
import TokenOverlay.Proofs.Mint.Judge
import TokenOverlay.Proofs.Payload.Decode
import TokenOverlay.Reveal
import TokenOverlay.Subrealm.RuleSet
import TokenOverlay.Transfer
import TokenOverlay.Proofs.Payload.Value
import TokenOverlay.Proofs.Subrealm.Effect
import TokenOverlay.Proofs.Sums
import TokenOverlay.Proofs.Hex
import TokenOverlay.Proofs.Subrealm.RuleSet
import TokenOverlay.Proofs.Subrealm.Payment
import TokenOverlay.Proofs.Chain.Compact
import TokenOverlay.Proofs.Mint.Parents
import TokenOverlay.Proofs.Pattern.InStep
import TokenOverlay.Proofs.Pattern.Anchored
import TokenOverlay.Proofs.Pattern.Language
import TokenOverlay.Proofs.Pattern.Search
import TokenOverlay.Proofs.Pattern.Resumed
import TokenOverlay.Proofs.Pattern.Whole
import TokenOverlay.Proofs.Subrealm.WholeName
import TokenOverlay.Proofs.Chain.Forms
import TokenOverlay.Proofs.Chain.Spelling
import TokenOverlay.Proofs.Assoc
import TokenOverlay.Proofs.Mint.ParentRecord
import TokenOverlay.Proofs.Script.Pushes
import TokenOverlay.Proofs.Script.Envelope
import TokenOverlay.Proofs.Window
import TokenOverlay.Proofs.Candidate.Standing
import TokenOverlay.Proofs.Candidate.Payment
import TokenOverlay.Proofs.Candidate.Leading
import TokenOverlay.Proofs.Script.Encoding
import TokenOverlay.Proofs.Script.Positions
import TokenOverlay.Proofs.Script.Grammar
import TokenOverlay.Proofs.Cbor.Head
import TokenOverlay.Proofs.Cbor.Reread
import TokenOverlay.Proofs.Cbor.Bounds
import TokenOverlay.Proofs.Payload.Parts
import TokenOverlay.Proofs.Related
import TokenOverlay.Proofs.Payload.Items
import TokenOverlay.Proofs.Payload.RoundTrip
import TokenOverlay.Proofs.Mint.Fields
import TokenOverlay.Proofs.Payload.Reencoding
import TokenOverlay.Proofs.Spent
import TokenOverlay.Proofs.Reveal
import TokenOverlay.Proofs.Payload.Offence
import TokenOverlay.Proofs.Mint.Coherent
import TokenOverlay.Proofs.Mint.Blank
import TokenOverlay.Proofs.Subrealm.Reading
import TokenOverlay.Proofs.Cbor.Trailing
import TokenOverlay.Proofs.Payload.Trailing
import TokenOverlay.Proofs.Bitwork.Grammar
import TokenOverlay.Proofs.Text
import TokenOverlay.Proofs.Base32
import TokenOverlay.Proofs.Placement
import TokenOverlay.Proofs.Mint.Reference
import TokenOverlay.Proofs.NameKind
import TokenOverlay.Proofs.Script.Output
import TokenOverlay.Proofs.Script.Builder
import TokenOverlay.Proofs.Script.Iteration
import TokenOverlay.Proofs.Base32.Accumulator
import TokenOverlay.Proofs.Unicode.Ranges
import TokenOverlay.Proofs.HexInteger
import TokenOverlay.Proofs.Hex.Text

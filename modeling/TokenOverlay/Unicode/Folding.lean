/-
Simple case folding. Characters that differ in case alone form an orbit; `folds` lists the orbit of
a character, which for most characters is the character alone.
-/
import TokenOverlay.Unicode.Ranges

namespace TokenOverlay.Unicode

/-- The steps from a character to the next one of its orbit. Four numbers make a run: how far its
first character lies after that of the run before, how many more characters it has, whether it
passes over every second character, and the step, doubled, with the odd numbers for steps back. -/
def foldingText : String :=
  "C1p0C0B090Bva00QLu171Bv121Bv600Qo221BvC000BOebm0C0o60C0700Oxu1f1Bv111Bv400QEc271Bvi2" ++
  "1Bv600Hi1n121n11Bh212121167121711gm121m11Bd00Hh12121211500Sn100M6100N411121111300Ms1" ++
  "0021001110Mq20021001200Eu100Mk100Mm10021001100Mq100Mu100G2100N6100N210021001100K6100" ++
  "CTE2100N6100Na100I4100Nc12121211500Nk10021001100Nk30021001100Nk10021001110Ni21121111" ++
  "300Nm1002100130021001200Dg51022003110220031102200317121711f00Et18121811i102200310021" ++
  "001100G1100Df1j121j11B700I328121811n00VCm10021001100K5100VCg110VDu20021001100M5100Ea" ++
  "100Ee14121411900VBu100VBo100VBs100N3100Mr210Mp300Mj200Ml100CSUu400Mp100CSUm200Mt100C" ++
  "SWe100CSSg100CSU8200N1100N5100CSU8100U_e100CSU2300N5200U_q100N9300Nb800U-e300Nj200CS" ++
  "U6100Nj400CSSk100Nj100E9110Nh200Ed600Nlb00CSRa100CSR4F700F8Bb112111150021001420I4400" ++
  "H8700Cc220Ca400E0210Du200OE61g0C0i00Bu170C0800Cb120C9300OD6111Bv100Bs211Bv100E0200Bv" ++
  "100Bi100OAa100Dc121Bv100BQd200Bv200Bc100D01002120Bv300u110Bv200OVq110Bv200Dv110Dt200" ++
  "g100Dr100C6400Ct100Db100f1b121b11n00Fb100Ev100e100H7100Fn100Fv20021001100d1002100122" ++
  "0I33f0F0gv0C0B010Bv200MEs161Bv100MEq231Bv800ME8200Bv110ME4260Bv700MDo140Bv5f0Evgg121" ++
  "001200MC82e11B5q121q11Bl00u16121611d00t1Bf121Bf11D0B50D0BgB50CvCZvB50OG0B700OG0600OG" ++
  "03Ba0Fy0Bd20Fy0V3Cf0CLz0Cg50g850fCE800MGr100MGp100MG7100MG31002100MG5100MFn100MC9100" ++
  "CEy4100210016Ba0FxvBd20FxvFs00CFA8400HOch00CFDgDiCa121Bf11D000Dk2p11Bo00Dl300Oxt2Bf1" ++
  "21Bf11Cv70g870f850g850f870g870f870g870f850g850f931g831f770g870f810Ek230Fc410G8210I02" ++
  "10H0210Hs470g870f870g870f870g870f810g300i510f210Ej200h200OHh500i530Fb400h410g300OE55" ++
  "10f210G7610g300OD5200e310f210Gv200d700i510Hv210Hr200hJa00OXp400QNt100QGb700Bos00Bnif" ++
  "0B0gf0vj0021001Zip0Bkqp0BjBZgBf0D0BgBf0CvBg0021001100U_d100HOb100U-d100VCl100VCf1212" ++
  "1211500VBn100U_p100VBt100VBr2002100120021001810VDt2Bh121Bh11Da112111160021001dB50OFv" ++
  "B700OFv600OFv-Ijm121411a00CEy52g11Bjd121d11F16121611fu121u11C61121111300CFA714121411" ++
  "c0021001100CSSf31121111300D029121911j00CSU7100CSUt100CSUl100CSU1100CSU7200CSR3100CSS" ++
  "j100CSR9100Bw017121711f00Cv100CSU5100CFDf11121111300CSWd17121711f00CTE1p0021001wt00B" ++
  "ZvtCf0CLyvTyl0021001BArp0C0B0p0BvBFvB70CgB8B70CfE8B30CgB8B30CfEoi1Ce141Cec61Ceg21Ce8" ++
  "00Ce2i1Cd141Cdc61Cdg21Cd800CdBW4Bi0E0C0Bi0DvEgl0C0B0l0BvCZgv0C0B0v0BvVM0v0C0B0v0BvC0" ++
  "o0Bmro0Bl-S5B10C4B2B10C3"

/-- Characters at regular distances that have the same step. -/
structure FoldingRun where
  first : Nat
  more : Nat
  stride : Nat
  step : Int

/-- The runs that a list of numbers stands for. -/
def foldingRuns (previous : Nat) : List Nat → List FoldingRun
  | gap :: more :: skip :: step :: rest =>
    let first := previous + gap
    let step : Int := if step % 2 = 0 then (step / 2 : Nat) else -((step / 2 + 1 : Nat) : Int)
    ⟨first, more, skip + 1, step⟩ :: foldingRuns first rest
  | _ => []

def folding : List FoldingRun :=
  foldingRuns 0 (numbers foldingText)

def FoldingRun.contains (r : FoldingRun) (n : Nat) : Bool :=
  r.first ≤ n && n ≤ r.first + r.more * r.stride && (n - r.first) % r.stride == 0

/-- The next character of an orbit. -/
def nextFold (c : Char) : Char :=
  match folding.find? fun r => r.contains c.toNat with
  | some r => Char.ofNat (c.toNat + r.step).toNat
  | none => c

/-- A character and the others that differ from it in case alone. No orbit has more than four. -/
def folds (c : Char) : List Char :=
  let c1 := nextFold c
  let c2 := nextFold c1
  let c3 := nextFold c2
  [c, c1, c2, c3].eraseDups

end TokenOverlay.Unicode

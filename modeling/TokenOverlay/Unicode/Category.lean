/-
The general categories of characters. Every character has exactly one; groups of categories have
names of their own. Names are given in the form that look-ups use: lower case, without blanks,
hyphens and low lines.
-/
import TokenOverlay.Unicode.Ranges

namespace TokenOverlay.Unicode

/-- The categories. Surrogates are no characters and have no entry. -/
def categories : List Table :=
  [
    ⟨["lu", "uppercaseletter"],
      "C1pD5m16B101010101010101010101010101010101010101010101010101010102010101010101010201" ++
      "010101010101010101010101010101010101010101011101031101112231112311110101110201112101" ++
      "130702020201010101010101020101010101010101020201210101010101010101010101010101010101" ++
      "010101010101010101010107111201310101010J10103080601210111g18B30223010101010101010101" ++
      "010105020112BiBg01010101010101010101010101010101090101010101010101010101010101010101" ++
      "010101010101010101011101010101010201010101010101010101010101010101010101010101010101" ++
      "0101010101010101010101010101010101010101010102B5Cw9B51050WiClCEj06Ba22K0010101010101" ++
      "010101010101010101010101010101010101010101010101010101010101010101010101010101010101" ++
      "010101010101010101010101010101010101010101010101010109010101010101010101010101010101" ++
      "01010101010101010101010101010101010101010101010101010101010101010109785a78785b010101" ++
      "087C83c3c3c4b3I6040322220346010101323a150Bt0CTsBfBg012201010131020821010101010101010" ++
      "101010101010101010101010101010101010101010101010101010101010101010101010101010101080" ++
      "1040-Kd010101010101010101010101010101010101010101010j010101010101010101010101010E701" ++
      "0101010101030101010101010101010101010101010101010101010101010101010101010a0101110101" ++
      "01040102010301010101010101010101414101010101010101310111010101010101010o0VZbpBG5B7E8" ++
      "B3Esa1e1611BXaBiEtlCZqvVM0vC0oZK7pqpqpq01120212317qpq1132716r113141036rpqpqpqpqpqpuo" ++
      "B1oB1oB1oB1oB10EJlB1"⟩,
    ⟨["ll", "lowercaseletter"],
      "D1pBq0B9n171010101010101010101010101010101010101010101010101010101110101010101010111" ++
      "010101010101010101010101010101010101010101010201012201020314020322020101020111020301" ++
      "021226020201010101010101011101010101010101011201030101010101010101010101010101010101" ++
      "0101010101010101010101016202110401010101C42pG10103032i0rB211321010101010101010101010" ++
      "14102021BjBf101010101010101010101010101010101090101010101010101010101010101010101010" ++
      "101010101010101020101010101011101010101010101010101010101010101010101010101010101010" ++
      "101010101010101010101010101010101010101010BgB8Cw7Ba22Xo5CE2810DlBbBvc1B1D60101010101" ++
      "010101010101010101010101010101010101010101010101010101010101010101010101010101010101" ++
      "010101010101010101010101010101010101010101010101010101810101010101010101010101010101" ++
      "01010101010101010101010101010101010101010101010101010101010101010101885a78785a7878d2" ++
      "787878411603211832187a211Ii03130r04040218340Bl0CVbBf10311010104011155010101010101010" ++
      "101010101010101010101010101010101010101010101010101010101010101010101010101010101011" ++
      "701040cB51050-Ij010101010101010101010101010101010101010101010j0101010101010101010101" ++
      "01010E701010101010121010101010101010101010101010101010101010101010101010101010101017" ++
      "10102010101010401020121010101010101010101050501010101010101040102010101010101010q030" ++
      "ZlBa587CfTw06c4BB9pBGdB7E8B3Era1e1611BY3BiDtlCZqvVM0vBroZK6pq61hqpq310161aqpqpqpqpqp" ++
      "qpqpqpqrso15qo15qo15qo15qo1510BZk91j65CPnB1"⟩,
    ⟨["lt", "titlecaseletter"],
      "O502020B60HMl78787c0f0Bf0"⟩,
    ⟨["lm", "modifierletter"],
      "Vgh4be47010E5050Ou0H60F41Id140v09030F00F70BGk0Dv0Rl0BWq0Db0T30Og5FeBud0B2B4Vh0d0gcC-" ++
      "v1Hh0Fv0Ol0Bb450D11Ct2xYm0BH25Ie0Di0s1Dp8Cg0n0D8331Ol0m0E90Dc0l1D7390VA60Bd1B_051B91" ++
      "8BMj0B00Kl0DYj0TL63Ps2B81R6cC0110e1P_s31611MBhBtG96zd0Qj0Sb0"⟩,
    ⟨["lo", "otherletter"],
      "Fa0f0I0043Gg1Zqq43Bdv19B311D210o1a220g01ttCob0oB0llBao7a5n16gB8BrBl30i079ge47212l161" ++
      "03330g0d112e1a085412l16111111v310j2g8121l16111430i0f1n0b7212l16111430u112f0h01532133" ++
      "1101131323bm0Bk7121m1f30q21121u047121m191430u211f1h8121B820g05282o55h3n181026BqBf11c" ++
      "5Br110141n1019119024n3B00Bv71B3r4DjBak0g5433031724cc0DhK8132610132B8132B0132610132e1" ++
      "Bo132C2B5fDhTb2g1p5Ca677hdiehec12fBjB80C3B21Bk742B1105C5auBht24bBb4pBmm9BkFgBeh7Bmtd" ++
      "1aBbqB3B92atDh3151130BBq3C_nBnom9616161616161616R70Bl04Cl801Cp405Ba1CthvBgfQ0GNvC0UQ" ++
      "k1BDmC3B78Ib4fa1C20BhC5F90D703612131mtBjeBhBu53011bramps7BeBd428a41B8n217kf15303Bh10" ++
      "31242010o13a70e525259616EhB2tKz3cm4BgII4Ld2D9C30191c141011111DbB1LaiBv2BlB8bDk41E6D9" ++
      "91Bc2u35252522B3b1p1i111e2dB2DqM5s3BgBfvdj176B5at2B347E0CdD2B78BjCsBjcJm9la7Eo5201Bb" ++
      "11302mam9uC1i11alap6pB6Bn61C00f3121sBas3sB371rrBlalaidhDeC8FnB3B6310JgB961g211Bosa08" ++
      "lBahBekrmcBkBp120dBcB0oqB3t0208B230cBfe3l010B3h1oj1Bv610131e197BeB67212l16111430i0c4" ++
      "u910201B510p010BcBki3k2uBfk110FoBeB93B4Bfk0BrBad0C7qB56FpBbGj72027111nf010Cu72B6g010" ++
      "s0aB770l0bBdj0iC8G7B0v81B4h0BhtDg6111B5l0p5111ve0nB811I4if01c1B1Ds0CfypH6G3CScD0fBBf" ++
      "h5pDyq5S6GVptBX2Ro7uhCehtiBfBjk5iNjB7MlCa50FfHGlB9vD1DiIQdJ2f0t220e38MbCI4Da5c3879IT" ++
      "g0PlBcB10K1tiBbP4qH5t20Gfu1211162490H1613111e1G4BJr31q111020191310106040101012111020" ++
      "1010101011102316131310191g52141gEK4BJWvB0EIt2FUd2HJgfTdCN2QtBP2Ewa5IJ9"⟩,
    ⟨["mn", "nonspacingmark"],
      "Y0DfIj4I9Bc10111110C8aBgkg0D56252113B30uqCraBq890o3181214Bb2Br8Ban1vBn010474036a1t0B" ++
      "q04380k1q021Bp041412230u130b1Bp0441140k1m510Bq020138071b1u0Bt0c0Bi030Bn012521371b1t0" ++
      "Bq0206051k1s1Bp14380k1t0C807210Cq026c7D2028b6C91r01010Bnd14115a1B390D63151121p142g3d" ++
      "02160f0Vv2zi2t1u1u1C0116802a90Bd210Dl1B20Dm2419062Gr120Bq0161010276920Bgd1u2bk3Bg014" ++
      "1050B88c1B032112Bo0113012Bq721Eo21c16406031G6BvWgc403bC_u2Ed0D0vRa3Db1zOk049B01Cg1Ig" ++
      "03040p150En1qhd0B67paBe2Bg02321B70C352121c080Bf0Bj012215110Ba180He02040TZg0X1fgf-d0H" ++
      "20El4BU621153B8240F51Rt3C14Jt1Cd5C6aBh3Dr0BmeB9021a2Bh32170Bt2B4417Bu0c1Bk8a320Cv220" ++
      "116020Et037l1Bp130B5634C65d01010e1Cl72210n0Ck5104111He36111r1Cl72011Da0102510D501023" ++
      "14I3811I011040Eg32140B09B8523809522Bec11G601210G961510Cil261111Dq530111610C813010Kr1" ++
      "b1Bk45010n0FH506eLG8b32CO04Br6BAo0Bv3Ch0TFo1ET1Bd2mR02h726u3Ek2BzrBm4Bh80e0m41eBKg61" ++
      "g261114D40F06Ln0Bt3Ps3Hu1Hj0207150Oq6Dd6YFzlHf"⟩,
    ⟨["mc", "spacingmark"],
      "CI30Bn0228311Bi1Bq26121a0Bb0Bq2C20Bq28011Bl1Bq0106121a0D61113212a0B92Bt3Bt1Bq0142111" ++
      "91s0e1Bq25212a0Ba1Cb267i1Ka1Bv0Fb1406021p1a226l12520a2BTo0u0E107711Kq3224115H01Bq010" ++
      "901185Eh0Bg0501411Bt0u04120Bs0221031Bg781Fb0l0EZm1z_j120Co1BifEe1Bf0Bg14122De121o0Bd" ++
      "010Dd02150Hd1111110ZAj010Dv0Bd241Dj0o1Br0Bg291d0Ct23110Fa2v1Bq113212290a1Ck270201311" ++
      "10D528130Da2601320Hd26320Dh28110Dd01160D701140I5290Hn511402010Ee28340Ck0t1Bu0G903010" ++
      "G70e0Da07020Gl44110Ku1c0Bg18110QP82DR4BmD81YLj165"⟩,
    ⟨["me", "enclosingmark"],
      "BE81FRk0BQu312BBMb2"⟩,
    ⟨["nd", "decimalnumber", "digit"],
      "Bg9BR69E69G69Ms9Dm9Dm9Dm9Dm9Dm9Dm9Dm9Dm9Dm9D09Dm9C69Im9C69Bw69B69Jc9E09F6969Fm9Cm9E6" ++
      "969BCO69V69B69G69m9Cm9Mm9UYm9BM69CE6969Ys9E09Bs9Eg9Im9Km9Dm9Lm9D696jCc9N69D69Um9Cm9H" ++
      "m9C69Bm9L69QOm9CJ69Cm9E69Qm9Xxm9CWkBhCK09N69Pm9Hn9wl9EUm9"⟩,
    ⟨["nl", "letternumber"],
      "FXe2CTfB223DTu0p8e2zVb9WSgBkOc080E64IBaDeSy52"⟩,
    ⟨["no", "othernumber"],
      "Fi15022CJl5Lo5Do2E56Gp6h8Nh9BBljBDj9P00BUl03569G6fB90WmBrCelTmtBL90BEk3Ea9u71eB09B7e" ++
      "zLg5WGhBcC13h1KlqB43BJk7p6B78Cb4m5F012f2BdC08Bk1u2Cb4D87o7B96Ka5L0uEu9Ba3Dg6E6jLrjBK" ++
      "51Ne8x7iwjkSy66YumZB9jcjDcoFKe8z1Bq1213CcBc1e-2c"⟩,
    ⟨["pc", "connectorpunctuation"],
      "Cv0H-v1j0BXOu1o2Hf0"⟩,
    ⟨["pd", "dashpunctuation"],
      "Bd0BKs0Bj0DS10BA50CA95DQ1020v140s0Nu0j0Df0BTMg1B50a0F90DT00Ju0"⟩,
    ⟨["ps", "openpunctuation"],
      "B80Bi0v0DVu010Bwu0CLu030B60Bn0f0Tq010u0BBu0101010101010Cg0B0010101010Mk0101010101010" ++
      "10101010C0010B10BB50101010p0i0101010Nc0101010103010101020BTJ10Gn0t01010101010101030h" ++
      "01010Fa0Bi0v03020"⟩,
    ⟨["pe", "closepunctuation"],
      "B90Bj0v0DVt010Bwu0CN90Bn0f0Tq010u0BBu0101010101010Cg0B0010101010Mk010101010101010101" ++
      "010C0010B10BB50101010Bc0101010Nc0101010103010101021BTIu0Gp0t01010101010101030h01010F" ++
      "a0Bj0v02020"⟩,
    ⟨["pi", "initialpunctuation"],
      "Fb0Hxc02120p0DO80104020f030"⟩,
    ⟨["pf", "finalpunctuation"],
      "Fr0Hwt030s0DO80104020f030"⟩,
    ⟨["po", "otherpunctuation"],
      "B1212201011a131r0C4050e170Vu080Oi5B90Bm02020Bc1k111d012Ca3D60BbdH92Bmev0I51a0Ec0Do0D" ++
      "p0M60c0Lf0Cq0a1F8e10Dg0Ca441Df5Fb0T48Y50Ds2C71Et212B5513Jp1Go1E0615F01a6s2Ds3Br4Bu1C" ++
      "07b0w21878823223a1019DEq311Dg0Ef1422028111021a41923101c22Nc2Bp0Ft0zA21Id2D30a0Dj5Ls3" ++
      "Cm1B8210Bh1Bf0D1cg1Ds3Du1g1Hp0UR4620m0k1233213726011El212201011a131r0B4021Mq2Us0Bg0M" ++
      "u0X70G70v0Ig8B60Dg6C26Cp3Zj0E44Bc3Ft6Dd113Du3Bg1Cf340d012Co5Db0Ja111Di4a110D80HqmD92" ++
      "scCc0E22Hs0I82Er0Cs7Cj214Ct9Gn0Cv4Ba1U51CacFf0BDg4Cxs1OTr1E50C1480R82J73K70TFs0HP74C" ++
      "xj0wu1"⟩,
    ⟨["sm", "mathsymbol"],
      "Bb0g2Bt010Bd040B50v0Xu0Qf2GRr0d0B72d2Eb0B7460C445140202070v12010vIbB01Cq0uoB85Ol090B" ++
      "m7Df0Kg42uafI0E2mBu4v2I1Bgk25BT-s0Zo012F40g2Bt010E3063DN11BQL00B-g0p0v0p0v0p0v0p0v0p" ++
      "0FZc1COu8"⟩,
    ⟨["sc", "currencysymbol"],
      "B40Dt3BH90Dr0Pi1Pi170Hl0I70S50CMr0CG4B1BBxm0VO30Dc0Eq0Gr131H_m3BQYu0CNg0"⟩,
    ⟨["sk", "modifiersymbol"],
      "Cu010C70604030Q93cd56101gDl0e1BI20FZk012b2d2d2d1EEs1zT3m91D71-g0e1UC6gxr010F20BzAn4"⟩,
    ⟨["so", "othersymbol"],
      "F60204010-h0Ia1Dv1Ge0a0j1Hn0Q30Ll0E2510E40Gf0B90M72f01225k01010E57151153G51Xg9Wj0Wi0" ++
      "EtB1L1998BM311311a0116510101040b1e01110Bq194231111161u21101uIc74j262Cg1tpB76C7maChCd" ++
      "mFm181Bl8De1HnBcBbC0HvQ0Bfl16B62E9H55L51Bep1CocGlqf40d1c0l161Kg149B0B590gubt80fvaB6f" ++
      "JvGO0BvVUgBmx13a110Rt2UK9fLdfC01Bm7Bd2P403041d1Jp8Bpg221c30BfBcBTq1Sf0BA87CD60CEl74g" ++
      "Swa350UKm0Dx3Hfa23Nj6mffD0DjBsHlaB62Br52m17t4BslC130FqCmBF9PvBn3Bi71d11BW80Cws0E10Wh" ++
      "Bb4D3ce2e1e1B4nF0BosdBb4871e5EqHq5Wo3g3c3Gp6b40fb4Bn896B78t2b41BuKn8d2c3a3Bo104f2b49" ++
      "7Ei1Cra0"⟩,
    ⟨["zs", "spaceseparator"],
      "B00Dv0FOv0CLvaB40Bf0Dz00"⟩,
    ⟨["zl", "lineseparator"],
      "IB80"⟩,
    ⟨["zp", "paragraphseparator"],
      "IB90"⟩,
    ⟨["cc", "control", "cntrl"],
      "0vCvB0"⟩,
    ⟨["cf", "format"],
      "Fd0BKi5m0G00Bh0M01Cg0DZb0B_s4q4Bh419BXUf0Hp2EG10f0Ix2fBCD03FGf7YLU60uCv"⟩,
    ⟨["co", "privateuse"],
      "BYA0GHvyBY0B__t2B__t"⟩,
    ⟨["cn", "unassigned"],
      "xo1637010k0Md0B61Bi130Bn7r36aIe0Bs1D5dBr1Bh1f0s110b4B24Hd08121m0701241912147132051p1" ++
      "306321m07020202110532132164016h9309030m0702051a030311e41c670308121m07020519121363320" ++
      "51i9206230422010222232c3523041151dl4d030n0g190304620302141a6m030n0a051903046243041a0" ++
      "3bd030Bj03063g1q030i2o090117213601085a13bBq3tB4201050o010n1501070a14vC80B43B70B40f0d" ++
      "B4G601411Lp041701041B9041B1041701041f0Bp041C31B02q5Cm161Ut2Cp6m8o8kbd0302bCu1a5a5q5C" ++
      "p6Bb4C69v0c3c312Ba15aBc3q5b2Bu1C10t1b5a5e1Be1cjCd0F67Bs2f2Bu4Bb1b7Bb4Qm161B616180101" ++
      "010v1Bl0f0e160j13090D50c1r0d2B2dB1eEc3UqlbkBYk1Lu4Bd01411Bo62do87070707070707070DuB1" ++
      "q0CpbGmpCg0Cm1D74Bb0Cu0Cm8Bg0yTd2Bn8KsjFo7GtjBs2a5Bo7C67c5Dkau2Ce0b3B10Bn8e1a1D7ns96" ++
      "161687070Bs3Du1a5Kz4bn3Bh3ITe1DaB57b54q050102020UavBa5Bj0j04350E7110Fu26161613270795" ++
      "1c0q0j020f1eB1Dr433Bd2Co0d21BeBeE1t2Bhes3B48u4Bb4u0B53eB9Eu1a5B43B43B87Bkac0f07020b0" ++
      "f07022BkbJn8m98n60Ba09C46110Bc02211n0C879Bfj024B12r4rB5Bo3k1Bi0248030t133a696C0vB73c" ++
      "8Bm2t1r4q64b7CfC9BmBjcBj6Be7a5B62t72Gfv0Ba0312f679B0Be7BalqB5sjn8Ce3B48C4911p6a5Bl0i" ++
      "7B78D00kai0BfBt701040f0b5Br4a5408121m0702050a12131151471725aa01110B60a0111040a0272sC" ++
      "s05tC87aF5Bm1B6B1C5aa5diBq5a5krr1f3nFoBsD3Cjb81118020u021c8aC581Be1bqC87CjcC96aCl8Cn" ++
      "B2da590Bd0e9t2B01m0eC87020Bc2102097a56020B502066a5Bc3aHlp6h0B92tCk1eBicyrD5Df05aG4CS" ++
      "bD3cBCm9Dyr4S7GVoBqBW5Rp6v0a3Ch0a5u169C69a070l4jNfBqG5Cr4p1pBbCb3Bp6hBv5a78HGmB8B0D0" ++
      "DjIPs407020J3e1s311d47McCI3Db4d296a18DwrHt2Nk5neheBe1n8DkBrHm9B71G2kC6DpkbkbCn8pE6Cl" ++
      "0C7021112140c01070C10418070s040501270Kk1J41Vue50fBCfv56Gk70h1702054BuB01DfBd2e1a32Jv" ++
      "vgBq41OfBaGlBb31Fvv0m72Gv704020f0G51gB8Cc3a32YgC4CbBtG140r0201110a040101513101010302" ++
      "011101010101020114070404010a0h43050hBj2IdBc3D4bf1f0f0B59FeBntcBc3962d6Ep-p2h2d2Gq5c3" ++
      "1ec3Bo7a5B87u1c32d9B6Ko7e1d2b2Bp013g1c3a6Ej0D7BA4BJX0vEIu1FUe1HJheTeCN1QuBP1Ewb4IJaV" ++
      "Sy61tD0DvHgB_QfB__u1B__u1"⟩ ]

/-- The groups: the names of a group and of the categories in it. -/
def categoryGroups : List (List String × List String) :=
  [ (["l", "letter"], ["lu", "ll", "lt", "lm", "lo"]),
    (["lc", "casedletter"], ["lu", "ll", "lt"]),
    (["m", "mark", "combiningmark"], ["mn", "mc", "me"]),
    (["n", "number"], ["nd", "nl", "no"]),
    (["p", "punctuation", "punct"], ["pc", "pd", "ps", "pe", "pi", "pf", "po"]),
    (["s", "symbol"], ["sm", "sc", "sk", "so"]),
    (["z", "separator"], ["zs", "zl", "zp"]),
    (["c", "other"], ["cc", "cf", "co", "cn"]) ]

/-- The characters of a category, of a group, or of one of three sets that are named like one. -/
def category? (name : String) : Option Ranges :=
  match name with
  | "any" => some .all
  | "ascii" => some (.ofList [(0, 127)])
  | "assigned" => (Table.find? categories "cn").map Ranges.complement
  | _ =>
    match categoryGroups.find? fun g => g.1.contains name with
    | some g => some (.unions (g.2.filterMap (Table.find? categories)))
    | none => Table.find? categories name

end TokenOverlay.Unicode

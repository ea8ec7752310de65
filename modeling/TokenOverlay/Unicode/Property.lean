/-
Yes-or-no properties of characters, the look-up of a set of characters by name, and the sets behind
the short class escapes: words, digits and blanks.
-/
import TokenOverlay.Unicode.Age
import TokenOverlay.Unicode.Boundary
import TokenOverlay.Unicode.Category
import TokenOverlay.Unicode.Script

namespace TokenOverlay.Unicode

/-- The yes-or-no properties. -/
def properties : List Table :=
  [
    ⟨["asciihexdigit", "ahex"],
      "Bg975q5"⟩,
    ⟨["alphabetic", "alpha"],
      "C1p6pBf0a0405m1u1O94be47010Cm0th1123106012101j1Ci1Ea8F51B5206B8B7d101111108q43ta5Bn1" ++
      "6eD5174742a220gBfdD4oB091405n2ijo7a5n16708B9ab366Cb1f124edi17212l1610333721211080411" ++
      "4c1a04215412l16111111444121407310h5b218121l16111438121130f3l34217212l161114372121914" ++
      "114d0g115321331101131323b4432123060B8c121m1f37121281121123s317121m1914371212815213d2" ++
      "cc121B8271212105374m5121h3n181026851017i1dBp5660Bj110141n101i12241060e3B00Bv71B34i4f" ++
      "1B3C3Bm1024gBva32B510502Ba1Kc132610132B8132B0132610132e1Bo132C2B5fgCl253Tb2g1p5Ca3a7" ++
      "jbkcjcc1211cBj2ie040C3Co7Ba5C5au1b48nt24bBb4pBmr4Bu2jBi0n1b2BhBj1e17BjB923aBb1aeBmm2" ++
      "aB32a5Ba22B931511305FvjB1bIl252B525271010101u2Bk1610321633254c5216Dk0d0gcD5040291034" ++
      "601010131a235440hB8ZdBjBYmH46331cB510502Bn70gm96161616161616161vBf0Ol2p874244Cl621Cp" ++
      "135Ba1CthvBgfQ0GNvC0VUcC3Bd2Ic3fa1kBe573DgB782D62Chkk1B0oBjcC310Bc53012aB05B2ds3Bi1b" ++
      "f0gfa41Bm9dim3C41010o22f23b5252596161Ba1d6DqlKz3cm4BgII4Ld2D9B66c45b1c141011111DbB1L" ++
      "aiBv2BlB8bDk41E6B4p6pbCo35252522B3b1p1i111e2dB2DqC5BkIbs3BgBfvdt5Ba5t2B34714BaEtiB34" ++
      "B34B78Bjca1e16111a1e16113BjcJm9la7o51B918C55201Bb11302mam9uC1i11alap6pB6Bn61C0311571" ++
      "21sBas3sB371rrBlalaidhDeC8BnBidBidB7B2r305mHqB91131g5Bi23sa08lBahBekrm9C5Bb4aBo90don" ++
      "Bih38B2309Bv1391a010B3h1B12063Bu610131e197Bon317212l161114372121306056s910201B519102" ++
      "013113010BcC11213k2uC12110FoBl26p5B2Bu1030BrBl20C7q2dl6FpBoD7Bvv72027111t112123Ct72B" ++
      "d251011rBi29hC750iC8D77CoB0v81Bc1610Bht2l1dC96111Bb3011121021o5111B4111310nBbI4m9g1B" ++
      "832Df0CfypD6DehG3CScD0fBBfh5pDyq5S6GVpBeBWhRo7uhCehtiBfg3vk5iNgBcGjBvB0o2oBcCa4Bo7gC" ++
      "0110c69HGlB9vD1DiIPt316111J2f0t220e38MbCI4Da5c387940Fx1Ck1C6112021231b10161C01327161" ++
      "r131410361Kj2o1o1u1o1u1o1u1o1u1o17BZku65Gl61g2611145BtB10DgBca6g0K1tiBbP4rH4t20Gfu1l" ++
      "81H0613111e1G4BrC33030BFk31q1110201913101060401010121110201010101011102316131310191g" ++
      "52141gTkp6p6pDTmBJWvB0EIt2FUd2HJgfTdCN2QtBP2Ewa5IJ9"⟩,
    ⟨["bidicontrol", "bidic"],
      "BQs0GPh1q4Bn3"⟩,
    ⟨["bidimirrored", "bidim"],
      "B81i010s010t010Bd0f0DTu3Bwt1CMs1a1Bm1e1Fh0G033530313313101048501h539110171v2350912i5" ++
      "194214n2f83k171BBtdCa023111253523dMjl251d807530441124401221a521ci13201020135162o1b14" ++
      "311214Ba271B750103452403410I00Q333111e129Bb7Nb927BTRt551F21i010s010t0101111BVxn0Bp0B" ++
      "p0Bp0Bp0"⟩,
    ⟨["caseignorable", "ci"],
      "B7060b0B3010C7040104021PnFv41409110Hr6Gf050BhBc10111110Bc0b5aa10B30akg0D571913B1010u" ++
      "qCraBqa4020onBb2Bc07158B9BpBn010474036a1d0f0Bq04380k1q021Bp041412230u130b1Bp0441140k" ++
      "1m510Bq020138071b1u0Bt0c0Bi030Bn012521371b1t0Bq0206051k1s1Bp14380k1t0C807210Cq026b8D" ++
      "20289016C91r01010Bnd14115a1B390D63151121p142g3d02160f0Cu0T02zi2t1u1u1C0116802a3050Bd" ++
      "4Bj0C11B20Dm2419062Gr120Bq0161010276920B708Bd2bk3Bg0141050B88c1B032112Bo0113012Bq721" ++
      "C05Ci21c16406031BiBud0B2D4Nt012b2d2d2d1c481a02024Bh41910d0gcBjB0Cyb1Dh2Dt0f0D0vBf0Ol" ++
      "0B433450Ct5Ct2xYm0BH25Ie0D231910s3Cg1eB1Ce0n2D6331803040p150En1qhd0B67paBe2Bg02321h0" ++
      "l1C252121c080B30b0Bj012215110r0e15110D4492Dp02040TZg0EjgRtf30cfB2020F907060b0B3010Bf" ++
      "0Bd1C30l2Q10H20El4BA551B918S621153B8240F51Rt3B60q410Jr1o0Bk5C6aBh3Dr0BmeB9021a2Bh321" ++
      "2040a0Bi2B4417Bu0c1Bk8a320Cv220116020Et037l1Bp130B5634C65d01010e1Cl72210n0Ck5104111H" ++
      "e36111r1Cl72011Da0102510D50102314I3811I011040Eg32140B09B8523809522Bec11G601210G96151" ++
      "0Cil261111Dq530111610C813010C10Ip1b1Bk45010n0FGlg6eLG8b32CO04Br693Ps2B81P20BvgC0111d" ++
      "1P_s31611DEu113ESsBd2mR029f26u3Ek2BzrBm4Bh80e0m41eBKg61g2611145BtB10F0dLg0Bt3Pr4Hu1H" ++
      "j020715090Og6Dd7CVf4YDA10uCvE0Hf"⟩,
    ⟨["cased"],
      "C1p6pBf0a0405m1u1G2134Gf2B271u4D00Ba32123106012101j1Ci1Ea8F51B59B8CYnB510502Ba13V0Cl" ++
      "25CE2a5Ba22C0FvC0Il252B525271010101u2Bk1610321633254c5216Dk0d0gcD5040291034601010131" ++
      "540235440hv31ZhBjBYmH46331cB51050-IiBditE4D5331Cck512ZlBa1d6CfTw06c4BA9p6pBF5CfD0B34" ++
      "B3Dka1e16111a1e1611O30221B918BG5BidBiCtlalCYqBvVL0BvB0o2oZJcCk1C6112021231b10161C013" ++
      "27161r131410361Kj2o1o1u1o1u1o1u1o1u1o17BZk91j65I5BtCEiC3B_cp6p6p"⟩,
    ⟨["changeswhencasefolded", "cwcf"],
      "C1pCq0am17B0010101010101010101010101010101010101010101010101010101020101010101010101" ++
      "110101010101010101010101010101010101010101010111010101110111223111231111010111020111" ++
      "210113071111110101010101010102010101010101010102110121010101010101010101010101010101" ++
      "0101010101010101010101010107111201310101010Hm0Ba0103080601210111g18m0c23110101010101" ++
      "0101010101010112110112BiBg0101010101010101010101010101010109010101010101010101010101" ++
      "010101010101010101010101010101110101010101020101010101010101010101010101010101010101" ++
      "01010101010101010101010101010101010101010101010101010102B5Bg0CYoB51050Za5CE296Ba22K0" ++
      "010101010101010101010101010101010101010101010101010101010101010101010101010101010101" ++
      "010101010101010101010101010101010101010101010101010101010101010105120101010101010101" ++
      "010101010101010101010101010101010101010101010101010101010101010101010101010101010978" ++
      "5a78785b010101087gBf22255225b3c45225J903160Bdfj0ZipBZgBfBg01220101013102082101010101" ++
      "010101010101010101010101010101010101010101010101010101010101010101010101010101010101" ++
      "01010801040-Kd010101010101010101010101010101010101010101010j010101010101010101010101" ++
      "010E7010101010101030101010101010101010101010101010101010101010101010101010101010a010" ++
      "111010101040102010301010101010101010101414101010101010101310111010101010101010o0xqCf" ++
      "Tw06c4BA9pBG5B7E8B3Esa1e1611BXaBiEtlCZqvVM0vC0o-S7B1"⟩,
    ⟨["changeswhencasemapped", "cwcm"],
      "C1p6pBq0am1u1Bv1Cj1r2d21104Cs1h6q1110113113142011207020113550a1F60Ba32132106012101j1" ++
      "Be3B0141E48F51B5aB6CYoB510502Ba22V0Cl25CE2a5Ba22Fp030g0DhEr201Dl252B525271010101u2Bk" ++
      "1610321633254c5216J903160r0hv31ZhBjBYmDg11117D57331cB51050-IiBdirE6d2Bt9e32241o1Bco1" ++
      "ws0sCfTw06c4BA9p6pBF5CfD0B34B3Dka1e16111a1e1611BW3BidBiCtlalCYqBvVL0BvB0o2o-RcC3"⟩,
    ⟨["changeswhenlowercased", "cwl"],
      "C1pD5m16B101010101010101010101010101010101010101010101010101010102010101010101010201" ++
      "010101010101010101010101010101010101010101011101031101112231112311110101110201112101" ++
      "130711111101010101010101020101010101010101021101210101010101010101010101010101010101" ++
      "010101010101010101010107111201310101010J10103080601210111g18B30801010101010101010101" ++
      "0105020112BiBg0101010101010101010101010101010109010101010101010101010101010101010101" ++
      "010101010101010101110101010101020101010101010101010101010101010101010101010101010101" ++
      "01010101010101010101010101010101010101010102B5Cw9B51050WiClCEj06Ba22K001010101010101" ++
      "010101010101010101010101010101010101010101010101010101010101010101010101010101010101" ++
      "010101010101010101010101010101010101010101010101010901010101010101010101010101010101" ++
      "010101010101010101010101010101010101010101010101010101010101010109785a78785b01010108" ++
      "7o7878784b4b3c4b4J903160Bdfj0ZipBZgBfBg012201010131020821010101010101010101010101010" ++
      "1010101010101010101010101010101010101010101010101010101010101010101010801040-Kd01010" ++
      "1010101010101010101010101010101010101010j010101010101010101010101010E701010101010103" ++
      "0101010101010101010101010101010101010101010101010101010101010a0101110101010401020103" ++
      "01010101010101010101414101010101010101310111010101010101010o0VZbpBG5B7E8B3Esa1e1611B" ++
      "XaBiEtlCZqvVM0vC0o-S7B1"⟩,
    ⟨["changeswhentitlecased", "cwt"],
      "D1pBq0B9n171010101010101010101010101010101010101010101010101010101020101010101010111" ++
      "010101010101010101010101010101010101010101010201012201020305020322020101020402030102" ++
      "030104011111010101010101010111010101010101010121010301010101010101010101010101010101" ++
      "010101030101010101010101080211040101010151110113113142011207020113550a1F60Bb0103032i" ++
      "0rB21132101010101010101010101014102020BkBf101010101010101010101010101010101090101010" ++
      "101010101010101010101010101010101010101010101020101010101011101010101010101010101010" ++
      "101010101010101010101010101010101010101010101010101010101010101010101010BhB6DTg5CE28" ++
      "10He030g0Di0101010101010101010101010101010101010101010101010101010101010101010101010" ++
      "101010101010101010101010101010101010101010101010101010101010101010101010101650101010" ++
      "101010101010101010101010101010101010101010101010101010101010101010101010101010101010" ++
      "101885a78785a7878d2787878411603211832187a211Km0B1f40wbpBw6Bf10311010106020a010101010" ++
      "101010101010101010101010101010101010101010101010101010101010101010101010101010101010" ++
      "101010801040cB51050-Ij010101010101010101010101010101010101010101010j0101010101010101" ++
      "01010101010E701010101010103010101010101010101010101010101010101010101010101010101010" ++
      "1010a010201010101040401120101010101010101010b01010101010101040102010101010101010q0ws" ++
      "0sCfTw06c4BB9pBGdB7E8B3Era1e1611BY3BiDtlCZqvVM0vBro-SeB1"⟩,
    ⟨["changeswhenuppercased", "cwu"],
      "D1pBq0B9n171010101010101010101010101010101010101010101010101010101020101010101010111" ++
      "010101010101010101010101010101010101010101010201012201020305020322020101020402030102" ++
      "030105111111010101010101011101010101010101011111030101010101010101010101010101010101" ++
      "0101030101010101010101080211040101010151110113113142011207020113550a1F60Bb0103032i0r" ++
      "B21132101010101010101010101014102020BkBf10101010101010101010101010101010109010101010" ++
      "101010101010101010101010101010101010101010102010101010101110101010101010101010101010" ++
      "1010101010101010101010101010101010101010101010101010101010101010101010BhB6Cw8Ba22Xo5" ++
      "CE2810He030g0Di010101010101010101010101010101010101010101010101010101010101010101010" ++
      "101010101010101010101010101010101010101010101010101010101010101010101010101010165010" ++
      "101010101010101010101010101010101010101010101010101010101010101010101010101010101010" ++
      "1010101885a78785a7878d2Bk114010321140332187a21140Kh0B1f40wbpBw6Bf10311010106020a0101" ++
      "010101010101010101010101010101010101010101010101010101010101010101010101010101010101" ++
      "01010101010801040cB51050-Ij010101010101010101010101010101010101010101010j01010101010" ++
      "1010101010101010E7010101010101030101010101010101010101010101010101010101010101010101" ++
      "010101010a010201010101040401120101010101010101010b0101010101010104010201010101010101" ++
      "0q0ws0sCfTw06c4BB9pBGdB7E8B3Era1e1611BY3BiDtlCZqvVM0vBro-SeB1"⟩,
    ⟨["dash"],
      "Bd0BKs0Bj0DS10BA50CA95Bt0B70f0M60DA4020v140s0Nu0j0Df0BTMg1B50a0F90DT00Ju0"⟩,
    ⟨["defaultignorablecodepoint", "di"],
      "Fd0V10Wc0Cw21BSj1Cl4B_r4q4BhfEHk0BTErfHf0F00Cf8BPF73FGf7YLU5D_v"⟩,
    ⟨["deprecated", "dep"],
      "K90BJ90CI3010CB91CG55Vp1xXGm0"⟩,
    ⟨["diacritic", "dia"],
      "Cu010C70604021PnEu1755h14091Ht4Gh0BnBc10111110E3741E614132C3qCraBqaB21Du7B99grBt0g03" ++
      "3s0Ca0g0De0g0De0g0Bf2Bs0g070Dn0De0g0De0g0Dd1g0Ds0Df0c510Db0d4Cb1r0101041C2211Bu0Dg01" ++
      "1B8144p610a1W12zk1u0Eka90Kr2J40k720Bge2a3e2bC80f0B68Bm1Bq0b1C21C05Cio406022BiBuBgB35" ++
      "bB5aNt012b2d2d2d1DHg2Jt0Pq5D93Cv0zLi0c110s1Ci1eB1D62D6061c0B50En0rhBp3B40Cv0c0B40El2" ++
      "C13Bj0D4492E01TZg0Y1fIe010Bf0Bd1C30Xs0BEv51B918Tt240F51Rr5B60q4Mc022C6aBh3G00B90C81D" ++
      "o1Bu0Cc092D81Fi1Cg1g0o634Cp211d1Cv030Dr1Hr1Du0Dm1Dj0Id1I2140Es0Cj0i0Ch0N50I2011Ch0C1" ++
      "0L71n0FHceLGp0CO04Br6Rk1R2gCg1P_u31611HY1Bd2mR02358726u3DU2BtG26Ln0Bt3Xu1X06Dd212"⟩,
    ⟨["emoji"],
      "B306059Df040Hyd0c0Go0m0Cq5f1Lf1c0F60pa42G70H71a090Bq314902021204020112030318250105bb" ++
      "1201110i021i5101131502141b15120511011k155132040202510201010603060a1f02040104210b1Bg2" ++
      "90e0e0Lk1Of2j1Bj040BGq0c0Sp010DPLa0Ga0F01c1e029Cbp11n0k028l1FeB12Df21122Ci221I61Bub5" ++
      "1n7127c0232041d120819052c28220104060306ClBgC557233930113029H3b40IrBe191FoDgc3a3Bo104" ++
      "f2b49"⟩,
    ⟨["emojicomponent", "ecomp"],
      "B306059H-j0Gl0BXJb0By-mpPr4BNg3YBTcCv"⟩,
    ⟨["emojimodifier", "emod"],
      "Dy_r4"⟩,
    ⟨["emojimodifierbase", "ebase"],
      "JQt0Gr0g3DTDn0Bs22022Dl12ali3042127010o0G9140l041Fe234Cj0g290b0Rv02087609922Bo0Bt111" ++
      "10h21cH52Ba8"⟩,
    ⟨["emojipresentation", "epres"],
      "IYq1Gd33020Q91l1BibBb0j0d081h1518050l0711040207041s0B30104210Bt2o0e0wr1Bj040DRFe0Ga0" ++
      "Fu029Cbp10o0k02412l1FeB0c81C51lcBa44cg303C6101Fq2Bud31ni0q1d0CmCkBgC560322333b178H3b" ++
      "40IrBe191FoDgc3a3Bo104f2b49"⟩,
    ⟨["extendedpictographic", "extpict"],
      "F9040Hyd0c0Go0m0Cq5f1Lf1c0F60pa42G70H71a090Bq314902021204020112030318250105bb1201110" ++
      "i021i5101131502141b15120511011k155132040202510201010603060a1f02040104210b1Bg290e0e0L" ++
      "k1Of2j1Bj040BGq0c0Sp010DPLa0B73D4bf1f0e1B59Dg1c1e029jBnrea0k028139m6Fr2Df21122Ci2213" ++
      "5Ht1Bub51n7127c0232041d120819052c28220104060306ClBgC5572g30152cGqB5c3Bo7a5B87u1c32d9" ++
      "B6cBe191FoCo7eEhI0_t"⟩,
    ⟨["extender", "ext"],
      "Fn0Qo1xe0Np0Tm0E90Cp0Xg0Dv0CK30Bo0T30Me0C40Ey90Bb4D71Ct2xYm0BPm0-20m0E90Dc0l1VDr0CAg" ++
      "1BOb0r040BG70J50Dk1Pi2BGf0w00TL81BEs110e1yK81BFh0wk2"⟩,
    ⟨["graphemebase", "grbase"],
      "B0CuB1c1ShDg72546101j1Gv7F51B52Bh22Be01020209q45h9b01Bdlf1D48061204v201ttCob0eBa963n" ++
      "4090307e1o501a5vgB9BpBm10138312792s1117212l1610333011612110d1124n5015412l1611111142o" ++
      "310792210c018121l16111433801130f14b708117212l16111430206121f1124hb015321331101131323" ++
      "b5011321230lk6217121m1f3033j2112149791a121m1914312011n2114912ea121B8201152121142194p" ++
      "211h3n18102691667922cBf11b78cB5110141n1019119024109923B0n2q10101d1B3i05024Bh7151cB5B" ++
      "c4060212o233f4c11251e1B710502Lo132610132B8132B0132610132e1Bo132C25s3p6Cl252Us3Co7hdi" ++
      "319hec12fBj207711b839696a596Co742B1105C5au43224115703B924bBb4p6a3Bo213Bn10901185d969" ++
      "6dCmBfa3371s9b2v416Bn102210dBf815e3Bt5Ba2ab0d0731512205FvC0Il252B525271010101u2Bk1e1" ++
      "d251i22181a5n7Bgg12q1c3B1BuEb4UpmalBYj2Lo315Bc10502Bn71fm9616161616161616B1CtB2p1Coc" ++
      "GlqBp6f1Cl4D45Ba1Ct1Cl9Bf1yTc3Bm9KrkBe40av2Cf258Gskg12131o24496Bn8C3aboc1B58ob0ct6Bf" ++
      "1141211c1a461o1B86121b21710292v1Bi1031242010og27b5252596161Br4Dk1113396Kz3cm4BgII4Ld" ++
      "2D9B66c4501n141011111U9B0fg9mB21i13441E64Es2u352525223616d12b1p1i111e2dB2Dq524Bc3Cn1" ++
      "c30BfBcE3s3Bggq4B39t5B5at1B44dBaEt296B34B34B78Bjbb1e16111a1e16113BjcJm9la7o51B918C55" ++
      "201Bb11302m1C788Bgi115B03q5qB6Bn4j2Bef3121sa8787BvB0B46b9Bl3s2q5p73c6CgC8BnBidBi7B9c" ++
      "96B58n81Ggu1B93021g588B7B78lb8mh43B6rkm901Blf64t1120cBg412113eo799B3509h8B212bBj9017" ++
      "411f1jbh1r314511Bv610131e1a6Be12d98117212l161114301013212130c6s910201B51011f01130121" ++
      "1B7Bn81301k1012uBf11601110202389F6Be1163202qB4Bi811023b96cjBa101181696jsq3011409mFpB" ++
      "e9020D4Cic72027111n1411631299C672B98313r0aB7614790613Bdd028dC879Cn03010CoB1e9681B5e0" ++
      "15as3vp07020Cb6111B5l09965111B4411010796Bb49Hmi239e1B3813mCm0fBhdyqD6De14bG3CScD2dBB" ++
      "fh5pDyq5S6GVptc239BW6Ro7u194Cg196t70aBf7ea9161k5iNgBpG6Cq5o2oBcCa5BnbcC03e49HGlB9vD1" ++
      "DiIPt316111J2f0t220e38MbCI4Da5c38792020Dx0Hs3Nj6mfgCvDjBsHlaB62Br52m17t4BslC130Dqjcj" ++
      "cCm9oE7Ck1C6112021231b10161C01327161r131410361Kj2J32RhBn3Bi71d16BDku65I5BtEiBca62941" ++
      "K0tiBb4950Ogr49Gmt2a40G0u1211162491H0613111e1G428BgC3704941YhC3CcBsG231q111020191310" ++
      "1060401010121110201010101011102316131310191g52141gBk1IeBb4D3ce2e1e1B4aFdBosdBb4871e5" ++
      "Eq-o3g3c3Gp6b40fb4Bn896B78t2b41e8B7Kn8d2c3a3Bo104f2b497Ei1D6BA5BJWvB0EIt2FUd2HJgfTdC" ++
      "N2QtBP2Ewa5IJ9"⟩,
    ⟨["graphemeextend", "grext"],
      "Y0DfIj6I7Bc10111110C8aBgkg0D56252113B30uqCraBq890o3181214Bb2Br8Ban1vBn010474036a1t0B" ++
      "q010238090a1q021Bp041412230u130b1Bp0441140k1m510Bq011138072a1u0Br010c090B8030Bn01252" ++
      "1371b1t0Bq02110321371b1s1Bp110238090a1t0C8040221080Ch026c7D2028b6C91r01010Bnd14115a1" ++
      "B390D63151121p142g3d02160f0Vv2zi3s2t1u1C0116802a90Bd210Dl1B20Dm2419062Gr120Bq0161010" ++
      "276920BgBd2bk3Bg942B68c1B0325Bo0113014Bo721Eo21c16406031G6BvQc0G3B0C_u2Ed0D0vRa5D91z" ++
      "Ok319B01Cg1Ig03040p150En1qhd0B67pa10Bc2Bg0232120B40C352121c080Bf0Bj012215110Ba180He0" ++
      "2040TZg0X1fgfLe1St0H20El4BU621153B8240F51Rt3C14Jt1Cd5C6aBh3Dr0BmeB9021a2Bh32170Bt2B4" ++
      "417Bu0c1Bk8108320Cv2236020Et037l1Bp11010c090e634C30251020124210e1Cl72210n0Ch02510201" ++
      "111Hb0236111r1Cl72011Da01027D50102314I3811Hl0a340Eg32140B09B8523809522Bec11G601210G9" ++
      "61510Cil261111Dq530111610C813010Kr1b1Bk452n0FH506eLG8b32CO04Br6BAo0Bv3Ch0b1TFb1ET1Bd" ++
      "2mQu4358726u3Ek2BzrBm4Bh80e0m41eBKg61g261114D40F06Ln0Bt3Ps3Hu1Hj0207150Oq6Dd6YFWlCvE" ++
      "0Hf"⟩,
    ⟨["graphemelink", "grlink"],
      "CKd0Dv0Dv0Dv0Dv0Dv0Dv0Dv0Dd1g0Ds0Df0Dv0G90Fk1BWp1u0Et0Ud0H30D51C61EMb0-U60B50En0Ee0D" ++
      "c0Jl0Hm0XSh0BQ60B90e0Bp0Dp1Eb0Dk0Fk0D20E02Dh0Dv0Hs0Dv0Dm0Dk0Id0I31F10Cj0i0Ch0N50I41C" ++
      "h0N91QPc0"⟩,
    ⟨["hexdigit", "hex"],
      "Bg975q5B_V9975q5"⟩,
    ⟨["hyphen"],
      "Bd0Dv0BGs0ETr0CA91DQ50X30BTL70F90Cn0"⟩,
    ⟨["idcompatmathcontinue"],
      "Fi150Hzm03a1eLj040m0DNF20p0v0p0v0p0v0p0v0p0"⟩,
    ⟨["idcompatmathstart"],
      "IQ2040m0DNF20p0v0p0v0p0v0p0v0p0"⟩,
    ⟨["idsbinaryoperator", "idsb"],
      "L_g129Ph0"⟩,
    ⟨["idstrinaryoperator", "idst"],
      "L_i1"⟩,
    ⟨["idsunaryoperator", "idsu"],
      "L_u1"⟩,
    ⟨["idcontinue", "idc"],
      "Bg97p401pBf0a010205m1u1O94be47010hDk11231064101j1Ci1Ea142F51B5206B88Bc101111108q43ta" ++
      "5C94D517291i20gBq2D4eBl40202Bdir4a5n167Ca1E0291i17212l1610332821238041142ba010221541" ++
      "2l16111111201441223073107fb218121l16111429121220f329961217212l1611142821227241142910" ++
      "g115321331101131323b4432132060e9gc121m1f2812137112112329g317121m19142812137152132912" ++
      "cc121Bi1214537429a5121h3n181026304510176921dBp5e19B7110141n101m2410161923B00n169b010" ++
      "10491B34j1h1B390BpC96Cd2B510502Ba1Kc132610132B8132B0132610132e1Bo132C22298efgCl253Tb" ++
      "2g1p5Ca3a7l9lbjcc1211cCj304129B121a6Co7Ba5C5au1b4baB724bBb4p6aB5r4Bu1s2a69d08d1u2bkC" ++
      "c39h8cDjcBn893Bg2a5Ba22g21B65Ql252B525271010101u2Bk1610321633254c5216f1Bh1j0s0d0gcBj" ++
      "c403bh0402910256010101f235440hB8CTnH468cB510502Bn70fn96161616161616161vQ52pe14244Cl2" ++
      "61Cu5Ba1CthvBgfQ0GNvC0VUcC3Bd2Ic3rkBf491DiB582D62ChkBm40jBjcC5a96n301Bg2B3cs3C0ea6u1" ++
      "Bm9d296m3C8o22f24a5252596161Ba1d6Dq11296Kz3cm4BgII4Ld2D9B66c45b1c141011111DbB1LaiBv2" ++
      "BlB8b4fgf31o2B041E6j97p401paCp35252522B3b1p1i111e2dB2DqC5BkE80E2s3Bgf0vvdt5Ba5t2B347" ++
      "14BaEt296B34B34B78Bjca1e16111a1e16113BjcJm9la7o51B918C55201Bb11302mam9uC1i11alap6pB6" ++
      "Bn61C031157121s2240B0s3sB371tpBlalaidhDeC8BnBidBidB7896B5341mHqB91131g5BiB2a08B0vlBa" ++
      "krm9C6vf9Br70do796Bk19438B3209C4431c10B3h1B463Bu610131e197Bq596317212l16111419212220" ++
      "60562634b910201B51910201317d1tCa5943uC51089F6Bl28n5B2C030b9B6Bo796jsq2e4966FpBqD5C9l" ++
      "72027111t1128c9C672Bd2711rBu808C930iC8D77CoB0f9681Bc18f9ot2l1dC96111Bb3011188965111B" ++
      "41115796Bb49Hmm9g1B834daCl0CfypD6DehG3CScD0fBBfglaDyq5S6GVpBpBW6Ro7u196Ce196t24bBm93" ++
      "c99k5iNgBc39G6BvB0o2oBcCa4Bo7gC0111b69HGlB9vD1DiIPt316111J2f0t220e38MbCI4Da5c387931E" ++
      "Ch9Q6Bd2mQu4358726u3Ek2NrCk1C6112021231b10161C01327161r131410361Kj2o1o1u1o1u1o1u1o1u" ++
      "1o172BhQ0Bm4Bh80e0m41eBCgu65Gl61g2611145BtB10DgBc3d2940K1uhBpOmB9GmBaG5u1l81H0613111" ++
      "e1G4b6B9Cb49BF631q1110201913101060401010121110201010101011102316131310191g52141gDJk9" ++
      "BA6BJWvB0EIt2FUd2HJgfTdCN2QtBP2Ewa5IJ9VTE6Hf"⟩,
    ⟨["idstart", "ids"],
      "C1p6pBf0a0405m1u1O94be47010E141123106012101j1Ci1Ea8F51B5206B8C7q43BdBaB311D210f171a2" ++
      "20g01ttCob0oB091405l409030no7a5n16gB9BqBl30i079ff47212l16103330g0d112e1a085412l16111" ++
      "111v310j2g8121l16111430i0f1n0b7212l16111430u112f0h015321331101131323bm0Bk7121m1f30q2" ++
      "1121u047121m191430u211f1h8121B820g05282o55h3n181026BqBf11c6Bq110141n101911902410l3B0" ++
      "0Bv71B3r4DjBak0g5433031724cc0hB510502Ba1Kc132610132B8132B0132610132e1Bo132C2B5fgCl25" ++
      "3Tb2g1p5Ca3a7hdiehec12fBjB3040C3Co7B8105C5auBht24bBb4pBmm9BkCi0CtBeh7Bmtd1aBbqB3B92a" ++
      "B32a5Ba22B931511305FvC0Il252B525271010101u2Bk1610321633254c5216Dk0d0gcD5040291025601" ++
      "0101f235440hB8CTnH46331cB510502Bn70gm9616161616161616R62p874244Cl441Cp135Ba1CthvBgfQ" ++
      "0GNvC0VUcC3Bd2Ic3fa1kBegu2CfB782D62Chkg12131mtBjeBhBu53011bramps7Bes0g419a41B8n217km" ++
      "303Bh1031242010o22a72c5252596161Ba1d6DitKz3cm4BgII4Ld2D9B66c450191c141011111DbB1LaiB" ++
      "v2BlB8bDk41E6B4p6pbCo35252522B3b1p1i111e2dB2DqC5BkIbs3BgBfvdt5B5at2B34714BaEtiB34B34" ++
      "B78Bjca1e16111a1e16113BjcJm9la7o51B918C55201Bb11302mam9uC1i11alap6pB6Bn61C00f3121sBa" ++
      "s3sB371rrBlalaidhDeC8BnBidBidB3B6r9mHqB961g5Bosa08lBahBekrmcBkBp120dBcB0oqB3t0208B23" ++
      "0cBfe3l010B3h1oj1Bv610131e197BeB67212l16111430i0c4u910201B510p010BcBki3k2uBfk110FoBe" ++
      "B93B4Bfk0BrBad0C7qB56FpBbDkBvv72027111nf010Cu72B6g010s0aB770l0bBdj0iC8G7B0v81B4h0Bht" ++
      "Dg6111B5l0p5111ve0nBbI4if01c1B1Ds0CfypD6DehG3CScD0fBBfh5pDyq5S6GVptBX2Ro7uhCehtiBfg3" ++
      "vk5iNgBcGjBvB0o2oBcCa50C2cC0110e49HGlB9vD1DiIPt316111J2f0t220e38MbCI4Da5c3879Fx6Ck1C" ++
      "6112021231b10161C01327161r131410361Kj2o1o1u1o1u1o1u1o1u1o17BZku65I5BtEiBca6g0K1tiBbP" ++
      "4rH4t20Gfu1211162491H0613111e1G4BrC370BFk31q1110201913101060401010121110201010101011" ++
      "102316131310191g52141gEK4BJWvB0EIt2FUd2HJgfTdCN2QtBP2Ewa5IJ9"⟩,
    ⟨["ideographic", "ideo"],
      "MA61p8e2-5GNvC0UPvWI0Ld2D9zIa0d49HGlB9vD1DiIxtMbTI4BJWvB0EIt2FUd2HJgfTdCN2QtBP2Ewa5I" ++
      "J9"⟩,
    ⟨["joincontrol", "joinc"],
      "IAc1"⟩,
    ⟨["logicalorderexception", "loe"],
      "DS04Dr4CXg220BEHq12011"⟩,
    ⟨["lowercase", "lower"],
      "D1pBf0a040B4n17101010101010101010101010101010101010101010101010101010111010101010101" ++
      "011101010101010101010101010101010101010101010101020101220102031402032202010102011102" ++
      "030102122602020101010101010101110101010101010101120103010101010101010101010101010101" ++
      "01010101010101010101010101016202110401010101C42B271u4D00Bb0103023i0rB211321010101010" ++
      "10101010101014102021BjBf101010101010101010101010101010101090101010101010101010101010" ++
      "101010101010101010101010101020101010101011101010101010101010101010101010101010101010" ++
      "101010101010101010101010101010101010101010101010101010BgB8Cw7Ba13Xo5CE2810DlFvC10101" ++
      "010101010101010101010101010101010101010101010101010101010101010101010101010101010101" ++
      "010101010101010101010101010101010101010101010101010101010101810101010101010101010101" ++
      "01010101010101010101010101010101010101010101010101010101010101010101010101885a78785a" ++
      "7878d2787878411603211832187a211Dp0d0gcDd03130r04040218340B1f40wbpBw6Bf10311010104011" ++
      "173010101010101010101010101010101010101010101010101010101010101010101010101010101010" ++
      "101010101010101011701040cB51050-Ij010101010101010101010101010101010101010101010j0101" ++
      "01010101010101010101012E501010101010121010101010101010101010101010101010101010101010" ++
      "101010101010101910102010101010401020121010101010101010101050501010101010101040102010" ++
      "101010101010l31012ZlBa1d6CfTw06c4BB9pBGdB7E8B3Era1e1611O30221B918BI5BiDtlCZqvVM0vBro" ++
      "ZK6pq61hqpq310161aqpqpqpqpqpqpqpqpqrso15qo15qo15qo15qo1510BZk91j65I5BtCFkB1"⟩,
    ⟨["math"],
      "Bb0g2v0t010Bd040B50v0Wo220q122Qf2GQd0r2b030d0e3l4b4C1c403144i04029102560312112153d10" ++
      "C4n1511414v1061eIb83k1Cq0uq10o0b6Nt1c945412134e01025b751Bp010t392KgBvI0PvBgk25BT-s0Z" ++
      "n510F20g2t010t010E3063DN11BQL00BIfCk1C6112021231b10161C01327161r131410361Kj2J32BhFQ0" ++
      "31q1110201913101060401010121110201010101011102316131310191g52141gBk1COu8"⟩,
    ⟨["modifiercombiningmark", "mcm"],
      "BSk120E306031P111230v0"⟩,
    ⟨["noncharactercodepoint", "nchar"],
      "B_OgvQe1B__u1B__u1B__u1B__u1B__u1B__u1B__u1B__u1B__u1B__u1B__u1B__u1B__u1B__u1B__u1B" ++
      "__u1"⟩,
    ⟨["otheralphabetic", "oalpha"],
      "w50tcS0d10111110C8aBgc16g0D56432140B30ufD6aD51381213Da0Bsb366jBm12e1152a1t2Bq62121a0" ++
      "a1t2Bq4412140u130b2Bq71211l1m242Bq6212191a1u0Br43212a0B84Bp6121281b1t2Bq6121281b1f0c" ++
      "3Bq61212a0a1t2Cb51017i1Bt026i0D302511g0F3i9a1B3Deb1023n342122633db10a3BTk1u1u1u1C2iF" ++
      "s1B20Dmb48Gu4Bp92jCa1b2Bh4BgeBs2u821BpaBiiMsB1BW1BjCHmv-Dk7B21L2080n4Co1Bif10Bp0B64s" ++
      "bBd3BgbB50C3dc081Bd2Bi0122150Bc450Hd7TZj0CCn4BU621153Yk3C10K11Cd2I32BldBd1b2Bd890Bt2" ++
      "B4bi1Bp2Bgce1Cs8206020Et9n3Bq62121a0a1Ck810201311D7c12DahHd626t1Cie10DaaD7dI1cHn5112" ++
      "13010Ee62540s9Ba413iaBedG87G7716Cjl1dDq53011121030C241113Ks39110Bg632QOtgDR001Bm73Ct" ++
      "1TFc0Ix161g261114D40BSj0207150Sh0B_8p6p6p"⟩,
    ⟨["otherdefaultignorablecodepoint", "odi"],
      "wf0DQf1BSj1CFf0EHu0BTRr0Cf8wAA701tD0DvHgDQf"⟩,
    ⟨["othergraphemeextend", "ogrext"],
      "CNu0o0L60o0D60o0H8010411191D70o0Dn0f0CJl0u0BA00501051D50C71BAo0EB11-J30Dc0VOt1ER00Dk" ++
      "0I80e090D0090201250H00c0Hh0I60Tp0c0BQ30UFe1YLj165YLVdCv"⟩,
    ⟨["otheridcontinue", "oidc"],
      "Fn0Wf0D_18BT80BRh1EHd0BTT90"⟩,
    ⟨["otheridstart", "oids"],
      "GE51CEh0l0Dxc1"⟩,
    ⟨["otherlowercase", "olower"],
      "Fa0f0Pl871u4D00Bk0DM10DBfBud0B2B4Vh0d0gcGjfwgpByi1-Qu1Gi0E0331x2390XAm0221B918BWDlBt"⟩,
    ⟨["othermath", "omath"],
      "Cu0xh220q121HB00r2b0B03o1e1C1c403144i04029103460312112153354Cb4231111101421414h21101" ++
      "61061J23F8110o0h0Nt1c854512134e01025o1Bp010t391Km1v9MjlBv3B01BVD301040Gj010BVG1Ck1C6" ++
      "112021231b10161C01327161r131410361Kj2o1o1u1o1u1o1u1o1u1o172BhFQ031q11102019131010604" ++
      "01010121110201010101011102316131310191g52141g"⟩,
    ⟨["otheruppercase", "oupper"],
      "IL0fw6pDTD0p6p6p"⟩,
    ⟨["patternsyntax", "patsyn"],
      "B1ea6q310q3B2610111011404030n0v0HYon8e2i19JhWfF0TluBDbQ0DvM124of0BTId1I51"⟩,
    ⟨["patternwhitespace", "patws"],
      "94i0D40Hy81o1"⟩,
    ⟨["prependedconcatenationmark", "pcm"],
      "BQ05Gn0Bh0M01Cg0CB-q0f0"⟩,
    ⟨["quotationmark", "qmark"],
      "B2040E30f0Hws7p1DQ70O93d2BTR13Ft040Cq1"⟩,
    ⟨["radical"],
      "LU0p1CocGl"⟩,
    ⟨["regionalindicator", "ri"],
      "DyP6p"⟩,
    ⟨["sentenceterminal", "sterm"],
      "B10c0g0BK90Ej2Fk0Bb2Hm0Bt01031J51BX41Ym041Y50G61Et1Bd050Jq1L23F21a121t2Fr1C11z40n192" ++
      "DFf2Ji0d0m1Nd0zHs0Ie1H3030Lu1Cm1Cv0Eo1Ej2Eg1Hp0UR6021Br031F90c0g0C10CXk1BHt4Bc3Ft1Dl" ++
      "3Dv2E1160g1Co111Dc0Ja1Dl1Ll15eD91Hp2Q5010Hr1Cn1N41Vk1Ca1SZ91E50C11b0R91J80TQ60HP80"⟩,
    ⟨["softdotted", "sd"],
      "D91G40Ip0u0Bk0k0K00D2010GI90Bj0d030E40Et0N50Gm1CZi0DJz51Bi1Bi1Bi1Bi1Bi1Bi1Bi1Bi1Bi1B" ++
      "i1Bi1Bi1CE60Jh1q0"⟩,
    ⟨["terminalpunctuation", "term"],
      "B10a010b130Zu080Q10Bp0C80e012Fk0Bba10Hb1Bm517v0I51BHk1Fc045Jn1Yl7Y50Ds2C71Et230B7321" ++
      "Jq1L23F21a112t2Fr4Bu1z40n192DFf2Ji0d040a01131Nc1zHr1Id2H34Lu1Cm1Cv0En2Ej2Dv0g1Hp0UR6" ++
      "021Bp213F90a010b130C1020BBq0Bg0BE60G70Jm1Eo5C45Cp3zo4Bc3Ft6Dg3Dv2E1160g1Co4Dc0Ja1Dl2" ++
      "c1L633eD91Hp2Q5010Hr1Cn141Mu2Bd0U51Ca1BJb4RPp1E50C12a0R91J71TQ60HP73"⟩,
    ⟨["unifiedideograph", "uideo"],
      "NA0GNvC0UPvWQe11011a0101122CBOmBJWvB0EIt2FUd2HJgfTdEN2Ewa5IJ9"⟩,
    ⟨["uppercase", "upper"],
      "C1pD5m16B101010101010101010101010101010101010101010101010101010102010101010101010201" ++
      "010101010101010101010101010101010101010101011101031101112231112311110101110201112101" ++
      "130702020201010101010101020101010101010101020201210101010101010101010101010101010101" ++
      "010101010101010101010107111201310101010J10103080601210111g18B30223010101010101010101" ++
      "010105020112BiBg01010101010101010101010101010101090101010101010101010101010101010101" ++
      "010101010101010101011101010101010201010101010101010101010101010101010101010101010101" ++
      "0101010101010101010101010101010101010101010102B5Cw9B51050WiClCEj06Ba22K0010101010101" ++
      "010101010101010101010101010101010101010101010101010101010101010101010101010101010101" ++
      "010101010101010101010101010101010101010101010101010109010101010101010101010101010101" ++
      "01010101010101010101010101010101010101010101010101010101010101010109785a78785b010101" ++
      "087C83c3c3c4b3I6040322220346010101323a150qfj0ZipBZgBfBg01220101013102082101010101010" ++
      "101010101010101010101010101010101010101010101010101010101010101010101010101010101010" ++
      "10801040-Kd010101010101010101010101010101010101010101010j010101010101010101010101010" ++
      "E7010101010101030101010101010101010101010101010101010101010101010101010101010a010111" ++
      "010101040102010301010101010101010101414101010101010101310111010101010101010o0VZbpBG5" ++
      "B7E8B3Esa1e1611BXaBiEtlCZqvVM0vC0oZK7pqpqpq01120212317qpq1132716r113141036rpqpqpqpqp" ++
      "qpuoB1oB1oB1oB1oB10EJlB1CAep6p6p"⟩,
    ⟨["variationselector", "vs"],
      "GAb210BZPgfwAXgHf"⟩,
    ⟨["whitespace", "wspace", "space"],
      "94i0D40q0FOv0CLvat150Bf0Dz00"⟩,
    ⟨["xidcontinue", "xidc"],
      "Bg97p401pBf0a010205m1u1O94be47010hDk11321064101j1Ci1Ea142F51B5206B88Bc101111108q43ta" ++
      "5C94D517291i20gBq2D4eBl40202Bdir4a5n167Ca1E0291i17212l1610332821238041142ba010221541" ++
      "2l16111111201441223073107fb218121l16111429121220f329961217212l1611142821227241142910" ++
      "g115321331101131323b4432132060e9gc121m1f2812137112112329g317121m19142812137152132912" ++
      "cc121Bi1214537429a5121h3n181026304510176921dBp5e19B7110141n101m2410161923B00n169b010" ++
      "10491B34j1h1B390BpC96Cd2B510502Ba1Kc132610132B8132B0132610132e1Bo132C22298efgCl253Tb" ++
      "2g1p5Ca3a7l9lbjcc1211cCj304129B121a6Co7Ba5C5au1b4baB724bBb4p6aB5r4Bu1s2a69d08d1u2bkC" ++
      "c39h8cDjcBn893Bg2a5Ba22g21B65Ql252B525271010101u2Bk1610321633254c5216f1Bh1j0s0d0gcBj" ++
      "c403bh0402910256010101f235440hB8CTnH468cB510502Bn70fn96161616161616161vQ52pe14244Cl2" ++
      "1221Cu5Ba1CthvBgfQ0GNvC0VUcC3Bd2Ic3rkBf491DiB582D62ChkBm40jBjcC5a96n301Bg2B3cs3C0ea6" ++
      "u1Bm9d296m3C8o22f24a5252596161Ba1d6Dq11296Kz3cm4BgII4Ld2D9B66c45b1c141011111DbB1Ea6G" ++
      "piBv2BlB896fgf31o2B1010301010101Dtj97p401paCp35252522B3b1p1i111e2dB2DqC5BkE80E2s3Bgf" ++
      "0vvdt5Ba5t2B34714BaEt296B34B34B78Bjca1e16111a1e16113BjcJm9la7o51B918C55201Bb11302mam" ++
      "9uC1i11alap6pB6Bn61C031157121s2240B0s3sB371tpBlalaidhDeC8BnBidBidB7896B5341mHqB91131" ++
      "g5BiB2a08B0vlBakrm9C6vf9Br70do796Bk19438B3209C4431c10B3h1B463Bu610131e197Bq596317212" ++
      "l1611141921222060562634b910201B51910201317d1tCa5943uC51089F6Bl28n5B2C030b9B6Bo796jsq" ++
      "2e4966FpBqD5C9l72027111t1128c9C672Bd2711rBu808C930iC8D77CoB0f9681Bc18f9ot2l1dC96111B" ++
      "b3011188965111B41115796Bb49Hmm9g1B834daCl0CfypD6DehG3CScD0fBBfglaDyq5S6GVpBpBW6Ro7u1" ++
      "96Ce196t24bBm93c99k5iNgBc39G6BvB0o2oBcCa4Bo7gC0111b69HGlB9vD1DiIPt316111J2f0t220e38M" ++
      "bCI4Da5c387931ECh9Q6Bd2mQu4358726u3Ek2NrCk1C6112021231b10161C01327161r131410361Kj2o1" ++
      "o1u1o1u1o1u1o1u1o172BhQ0Bm4Bh80e0m41eBCgu65Gl61g2611145BtB10DgBc3d2940K1uhBpOmB9GmBa" ++
      "G5u1l81H0613111e1G4b6B9Cb49BF631q111020191310106040101012111020101010101110231613131" ++
      "0191g52141gDJk9BA6BJWvB0EIt2FUd2HJgfTdCN2QtBP2Ewa5IJ9VTE6Hf"⟩,
    ⟨["xidstart", "xids"],
      "C1p6pBf0a0405m1u1O94be47010E141132106012101j1Ci1Ea8F51B5206B8C7q43BdBaB311D210f171a2" ++
      "20g01ttCob0oB091405l409030no7a5n16gB9BqBl30i079ff47212l16103330g0d112e1a085412l16111" ++
      "111v310j2g8121l16111430i0f1n0b7212l16111430u112f0h015321331101131323bm0Bk7121m1f30q2" ++
      "1121u047121m191430u211f1h8121B820g05282o55h3n181026BqBf10d6Bq110141n101910a02410l3B0" ++
      "0Bv71B3r4DjBak0g5433031724cc0hB510502Ba1Kc132610132B8132B0132610132e1Bo132C2B5fgCl25" ++
      "3Tb2g1p5Ca3a7hdiehec12fBjB3040C3Co7B8105C5auBht24bBb4pBmm9BkCi0CtBeh7Bmtd1aBbqB3B92a" ++
      "B32a5Ba22B931511305FvC0Il252B525271010101u2Bk1610321633254c5216Dk0d0gcD5040291025601" ++
      "0101f235440hB8CTnH46331cB510502Bn70gm9616161616161616R62p874244Cl621Cp135Ba1CthvBgfQ" ++
      "0GNvC0VUcC3Bd2Ic3fa1kBegu2CfB782D62Chkg12131mtBjeBhBu53011bramps7Bes0g419a41B8n217km" ++
      "303Bh1031242010o22a72c5252596161Ba1d6DitKz3cm4BgII4Ld2D9B66c450191c141011111DbB1Ea6G" ++
      "piBv2BlB89Dn010301010101DtB4p6pbBn2u35252522B3b1p1i111e2dB2DqC5BkIbs3BgBfvdt5B5at2B3" ++
      "4714BaEtiB34B34B78Bjca1e16111a1e16113BjcJm9la7o51B918C55201Bb11302mam9uC1i11alap6pB6" ++
      "Bn61C00f3121sBas3sB371rrBlalaidhDeC8BnBidBidB3B6r9mHqB961g5Bosa08lBahBekrmcBkBp120dB" ++
      "cB0oqB3t0208B230cBfe3l010B3h1oj1Bv610131e197BeB67212l16111430i0c4u910201B510p010BcBk" ++
      "i3k2uBfk110FoBeB93B4Bfk0BrBad0C7qB56FpBbDkBvv72027111nf010Cu72B6g010s0aB770l0bBdj0iC" ++
      "8G7B0v81B4h0BhtDg6111B5l0p5111ve0nBbI4if01c1B1Ds0CfypD6DehG3CScD0fBBfh5pDyq5S6GVptBX" ++
      "2Ro7uhCehtiBfg3vk5iNgBcGjBvB0o2oBcCa50C2cC0110e49HGlB9vD1DiIPt316111J2f0t220e38MbCI4" ++
      "Da5c3879Fx6Ck1C6112021231b10161C01327161r131410361Kj2o1o1u1o1u1o1u1o1u1o17BZku65I5Bt" ++
      "EiBca6g0K1tiBbP4rH4t20Gfu1211162491H0613111e1G4BrC370BFk31q1110201913101060401010121" ++
      "110201010101011102316131310191g52141gEK4BJWvB0EIt2FUd2HJgfTdCN2QtBP2Ewa5IJ9"⟩ ]

/-! ## Look-up -/

/-- The form of a name that look-ups use: ASCII in lower case, without blanks, hyphens, low lines and
a leading `is`. The one name that is nothing but `is` and a `c` keeps both. -/
def canonicalName (s : String) : String :=
  let drop (cs : List Char) : List Char :=
    (cs.filter fun c => c.toNat < 128 && !(c == ' ' || c == '_' || c == '-')).map Char.toLower
  match s.toList with
  | i :: t :: rest =>
    if i.toLower = 'i' ∧ t.toLower = 's' then
      let name := drop rest
      String.ofList (if name = ['c'] then ['i', 's', 'c'] else name)
    else String.ofList (drop (i :: t :: rest))
  | cs => String.ofList (drop cs)

/-- The set with the given name: a property, else a category, else a script. -/
def named? (s : String) : Option Ranges :=
  let name := canonicalName s
  let property? := if ["cf", "sc", "lc"].contains name then none else Table.find? properties name
  property?.or ((category? name).or (script? name))

/-- The set of the characters for which an aspect has the given value. -/
def valued? (aspect value : String) : Option Ranges :=
  let value := canonicalName value
  match canonicalName aspect with
  | "gc" | "generalcategory" => category? value
  | "sc" | "script" => script? value
  | "scx" | "scriptextensions" => extendedScript? value
  | "age" => aged? value
  | "gcb" | "graphemeclusterbreak" => Table.find? graphemeBreaks value
  | "wb" | "wordbreak" => Table.find? wordBreaks value
  | "sb" | "sentencebreak" => Table.find? sentenceBreaks value
  | _ => none

/-! ## Words, digits and blanks -/

/-- Characters of words: letters, marks, decimal digits, connectors and the two joiners. -/
def word : Ranges :=
  .unions (["alphabetic", "joincontrol"].filterMap (Table.find? properties) ++
    ["mn", "mc", "me", "nd", "pc"].filterMap (Table.find? categories))

/-- Decimal digits. -/
def digit : Ranges :=
  (category? "nd").getD .none

/-- Blanks. -/
def space : Ranges :=
  (Table.find? properties "whitespace").getD .none

/-- Letters and numbers of any kind. -/
def alphanumeric : Ranges :=
  .unions ((Table.find? properties "alphabetic").toList ++ (category? "n").toList)

end TokenOverlay.Unicode

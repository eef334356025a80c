/-! Names of characters as numbers of words, part 1. -/
namespace CodeIndex.CharName

/-- Part 1 of the names. -/
def names1 : List String :=
  [
    "#yZRu#####cn#yi0u###$%VR@nr5Twu###%#yje%OG@Twu###&#y@%%OG@_Vu###'#y?d#y?[u###(#mN#y.$u###)#[",
    "X#y.hu###*#y3t#jYu###+#y4y$R-Syu###,$MMSyu###,#yH0u###,#U_%OG@N/u###-#y?au###-#yNxu###-$N/X=",
    "u###-$XiN/u###-#yXw$N/Syu###.$M$Syu###.#yur#mgu###/$&X=$kMZou###0#y:.%ps`;3u###1$ZzR8u###1#P",
    "J%ps`;Mgu###2$ZzNYu###2#P_%lBbz]Cu###3#ln#y<'u###4%X+U83#y<(u###5%X+U80#y<)u###6%X+U8:#y<*u#",
    "##7%X+U8B#yVEu###8$R7[X#ykDu###9$vqoI&OG@_VNFu###:#y?z#RSu###;#[r%OG@Mdu###<#y?c#yjku###=#eQ",
    "#y?ru###>#]C$X?Oqu###?#yB:u###?%XNOqB$b.Oqu###@#yE:u###@%XNOq:50u###A$dYOqu###A#ye)%XNOq3u##",
    "#B$[4Oqu###B#Y4#v=u###C#Q($PB8$Ox8$ND($Vo($Zc(#Uo#U0$,O-$+O-#Ns$M-(#NK$R2[O$NeN4#P`$MQMg,3,0",
    ",:,B,F,M&,M0,M(,M4#Oh#Sw%NMM?($ON(%NLM?($P(8$YbPU&Nf'$/>N#>MU>Mf>4>N<>M[>M_>7>N(>M]>M'>MI>M7",
    ">1>Ms>NQ>M#>M%>MZ>.>M^>N%>Mu>MT>Mq%,M9M5$Q%P`%+M9M5$N$O7$MVN/$N7O7&Nf%$/>N#>MU>Mf>4>N<>M[>M_",
    ">7>N(>M]>M'>MI>M7>1>Ms>NQ>M#>M%>MZ>.>M^>N%>Mu>MT>Mq%,P@M5$M$N/%+P@M5#MS#Yhu##$K#aD#Xnu##$L$y",
    "^FR-%Mzy]Jya3u##$M#o5#y4eu##$N%k=y_^nx#yV^u##$O%O#k=nx#yIQu##$P#MH#rTu##$Q$r]N/#O4u##$R&VR@u",
    "TWm&OG@uTWmu##$S#y?p%R-SyTBu##$T%MMSyTBu##$T#yH2&R-Sy#oju##$U&MMSy#oju##$U#yH1%N/SyTBu##$V%M",
    "$SyTBu##$V#yus%VHN/M)u##$W5Q`u##$W#y`O%VHN/y2vu##$X5Iu##$X#y`T$Q%MHu##$Y-N/X=u##$Y#Qm%N)Zz0u",
    "##$Z-`;M=u##$Z#yif%N)Zz:u##$[-`;Mpu##$[#yig#y<+u##$]%X+U8eM%dJf:3u##$^5Myu##$^#yaR%dJf:0u##$",
    "_5M=u##$_#tR%TByn=yj>u##$`#yj_$[rR-u##$a#y6H$qvfBu##$b#cN#v>u##$c&VR@n^Wmu##$c6tOWm&OG@n^Wmu",
    "##$d6tOWmu##$d#y?e#v:u##$e%VR@eM#ygGu##$f&N)yE0R-bH#yfmu##$g%N)R-bH%U8yg6bHu##$h#y:<#_@u##$i",
    "$eMw/%y]eykPkru##$j#y]t#t=u##$k$ya:qv#y/Lu##$l%j8ya>kr#yViu##$m%O#gFQ(%NBPB8$kW($^h($Yf($[>(",
    "$WyM,$P](#N,$l$(%mesPV0(,N;2NaOx8$NP(#e)u##$z$S.R2$ycr(#N=$].(%M-[O($SR0,:$MbO7$yTA($t.($K9#",
    "P$$SR3%yRxsPV0(+N;2NaOx8&f?QN3O`>M/6:Re%NBP(8(Nf'$/#N7PMbPN$PMSPN,QMW->Ob@MU#P$@4#N7PMbPN$PN",
    ",@7#N7PMbPN$PN,>V)@M7#MS@1#N7PMbPN$PMSPN,$T<((Nf'$1#D@.#N7PMbPN$PN,@MT#Mb>VY/%$XyM%@/#N7PMbP",
    "N$PMSPN,QMW->Ob@MU#P$@4#N7PMbPN$PN,@7#N7PMbPN$PN,>V)@M7#MS@1#N7PMbPN$PMSPN,$V#((Nf%$1#D@.#N7",
    "PMbPN$PN,@MT#Mb>VY@MT#N,0'$/#N=0%$/#N=0'$/#NU0%$/#NU0'$/#Rc0%$/#Rc0'$MU#Mb0%$MU#Mb0'$MU#N$0%",
    "$MU#N$1'$MU#9-1%$MU#9-0'$MU#Nx0%$MU#Nx0'$Mf#Nx0%$Mf#Nx0'$Mf#D0%$Mf#D0'$4#N=0%$4#N=0'$4#NU0%$",
    "4#NU1'$4#9-1%$4#9-0'$4#Rc0%$4#Rc0'$4#Nx0%$4#Nx0'$M[#N$0%$M[#N$0'$M[#NU0%$M[#NU1'$M[#9-1%$M[#",
    "9-0'$M[#P$0%$M[#P$0'$M_#N$0%$M_#N$0'$M_#D0%$M_#D0'$7#MS0%$7#MS0'$7#N=0%$7#N=0'$7#NU0%$7#NU0'",
    "$7#Rc0%$7#Rc1'$7#9-/%$S#7.'O^oK.%O^oK0'$N(#N$0%$N(#N$0'$M]#P$0%$M]#P$>yM;0'$M'#Mb0%$M'#Mb0'$",
    "M'#P$0%$M'#P$0'$M'#Nx0%$M'#Nx1'$M'#K91%$M'#K90'$M'#D0%$M'#D0'$M7#Mb0%$M7#Mb0'$M7#P$0%$M7#P$0",
    "'$M7#Nx0%$M7#NxIya-SaU0.'$Se.%$Se0'$1#N=0%$1#N=0'$1#NU0%$1#NU1'$1#2Mb1%$1#2Mb.'O^O=.%O^O=0'$",
    "M##Mb0%$M##Mb0'$M##P$0%$M##P$0'$M##Nx0%$M##Nx0'$M%#Mb0%$M%#Mb0'$M%#N$0%$M%#N$0'$M%#P$0%$M%#P",
    "$0'$M%#Nx0%$M%#Nx0'$MZ#P$0%$MZ#P$0'$MZ#Nx0%$MZ#Nx0'$MZ#D0%$MZ#D0'$.#MS0%$.#MS0'$.#N=0%$.#N=0",
    "'$.#NU0%$.#NU1'$.#MW-1%$.#MW-1'$.#2Mb1%$.#2Mb0'$.#Rc0%$.#Rc0'$N%#N$0%$N%#N$0'$MT#N$0%$MT#N$0",
    "'$MT#N,@Mq#Mb0%$Mq#Mb1'$Mq#9-1%$Mq#9-0'$Mq#Nx0%$Mq#Nx?MmM%@N##D0'$N##CP_U0%$N##_U/'$M`M&/%$M",
    "`M&/'$Mi1@MU#C0%$MU#C/'$`CMf@Mf#CP_U0%$Mf#_U?MxQ</'$N+4>Tr?Mi4@N<#C0%$N<#C0'$M[#C>Pw.%$]d.'$",
    "Om@7#D@M]#C0%$M]#C@M'#M,@yNI#D/'$MxMIAM7#,C2%$M7#Mm+R#1'$1#KMSPOV0%$1#OV.'$Nku##'j>ZY.%$Nku#",
    "#'k>ZY0'$Ms#C0%$Ms#C-$xo/'$M`0/%$M`0.'$Q_/$N+Q_Qg1%$MZ#P'C0'$MZ#C0%$MZ#C1'$MZ#O/C@.#OV0%$.#O",
    "V.'$P3@M^#C@MT#C0%$MT#C0'$Mq#D0%$Mq#D.'$U?GN+/%$U?N+H#N[/$0#D/'$M`F/%$M`F1$NBP-N4#D5_i6aET16",
    "pUT16j&T16O/T10'$V&#NxDMf#%$Mq#Nx0%$V&#Nx.'$prBM'#%$N(.%$pr.'$roBM7#%$N(.%$ro0'$/#Nx0%$/#Nx0",
    "'$7#Nx0%$7#Nx0'$1#Nx0%$1#Nx0'$.#Nx0%$.#Nx2'$.#N,)N=2%$.#N,)N=2'$.#N,)Mb2%$.#N,)Mb2'$.#N,)Nx2",
    "%$.#N,)Nx2'$.#N,)N72%$.#N,)N7?Mx42'$/#N,)N=2%$/#N,)N=3'$/#9-)N=3%$/#9-)N=0'$Ob#N=0%$Ob#N=0'$",
    "M[#D0%$M[#D0'$M[#Nx0%$M[#Nx0'$M]#Nx0%$M]#Nx0'$1#Rc0%$1#Rc2'$1#Rc)N=2%$1#Rc)N=0'$U?#Nx0%$U?#N",
    "x@N(#Nx.'$V&BMf#%$Mq.%$V&0'$M[#Mb0%$M[#Mb.'$o=>_i@M7#N70%$M7#N73'$/#MW-)Mb3%$/#MW-)Mb0'$Ob#M",
    "b0%$Ob#Mb2'$1#D)Mb2%$1#D)Mb1'$/#2N71%$/#2N71'$/#NBNU1%$/#NBNU1'$4#2N71%$4#2N71'$4#NBNU1%$4#N",
    "BNU1'$7#2N71%$7#2N71'$7#NBNU1%$7#NBNU1'$1#2N71%$1#2N71'$1#NBNU1%$1#NBNU1'$M##2N71%$M##2N71'$",
    "M##NBNU1%$M##NBNU1'$.#2N71%$.#2N71'$.#NBNU1%$.#NBNU1'$M%#NK51%$M%#NK51'$MZ#NK51%$MZ#NK5.'$xn",
    ".%$xn0'$M_#Nx0%$M_#Nx2'$M7#Mm+R#0%$Mf#Pt.'$VC.%$VC0'$Mq#C0%$Mq#C1'$/#9-1%$/#9-0'$4#P$0%$4#P$",
    "2'$1#N,)N=2%$1#N,)N=2'$1#MS)N=2%$1#MS)N=1'$1#9-1%$1#9-3'$1#9-)N=3%$1#9-)N=0'$MT#N=0%$MT#N=@M",
    "'#Pt@M7#Pt@MZ#Pt?S#N(?lDP,?ybPP,0'$/#D@MU#D0%$MU#D0'$M'#M,AMZ#NyD1%$M%#Y+N[AMq#Y+N[/'$P-N4/%",
    "$P-N40'$N##D?.M,?MxM^@4#D0%$4#D0'$N(#D0%$N(#D2'$%NQ#CN[1%$NQ#CN[0'$M##D0%$M##D0'$MT#D0%$MT#D",
    "?Mx/>O[?MxO[@N##C?Mi1@MU#Pt@Mf#N[PC?N+4>TrH#C?Mi4@N+Mi4Z#CAOMN+Mi4AS#N(#D@M[#C?P[M[/$%'M[.%$",
    "Pw?tpOV?MxM_@M_#C@Z(#C@7#D>Om/$%'71%$M'#KMSPT.QO/C>bx?MxMIR#MmR#@MI#CAM7#,CQO/C/$%'M7/%$TT1/",
    "$%'O=/%$OMOC>PQ?MxM#R#MmR#YCAM##MmR#PN[PVuAN+M##Vu/$%'M#HNBM#0%$M%#C>Q_CS#N(#D)C@vGN+Q_@Q_#P",
    "t?MxMZAMZ#O/C?.M,>P3@M^#C?MxM^GN%GMT/$%'MT1%$Mq#O/CPPt>U?H#Pt.$P-N47t(U$yB77NBP-N46eLMU6`[T1",
    "7%'N#0%$OMMi41$%'M[#CGM_1%$N(#PsSY?MxM]/$%'M'0%$NQ#C0$P-N4#D9N+P-N4#D/%$V&P,?]0P,AV&P,#Pt?f)",
    "P,?_LP,Aw&P,#Pt?ajP,?pxP,?q+P,.$`[sx6y45sx1%$MxM_#Vud)N[&Of$%M_H#C>N(>M#?MxM#Q#C@'NBM#>N%>MT",
    "5St62St6MxNK5U06N+NK7+M/MW7,M/MW6P-N47N+P-N46,N26+N26IN26M)N26N$O7#Nx&Of$M$N/5N=6MbO76N7O77M",
    "VM$N/>N=?N7O7?MbO76Q*Oh7M/Q*Oh8Uv+M/MW@,M/MW6IOY6M)OY6M-(6Qh(#NU$9-$MW-#Rc$%MS%2MbO7&Of$yd<C",
    "6NtO76%Pw>M'>M%>Mu@N+P-N48Vq`7M`M,7MzM`M,7UQM`M,7MVM`M,8Vq[NM`M,8UhaFM`88T&aFM`85x@5ypT62U07",
    "MVM)N2?IN2?,N2?+N2>MW7KN7O7@2N7O7HMbO76MVMS6PGOh7UrMzM`7OGMzM`7UrMVM`7OGMVM`5ue6Miue7MV,*%O8",
    "N7O7-MbO7-N$O7,MS,N=,VD,NU-9-,N,-C--MW-.2MbO7,Nx.M$N/-/2M$N/-6N7O7,Og-NBNU.MxNK--NK-.N+NK-.N",
    "K-+.N7O75.MbO75.,OY5.+OY5.,Na-,OV/,M/MW5.IOY5.M)OY5.M-(5.Qh(5.y^QC5.O/C5-95-N,5-MW5-NK5,P$,R",
    "c.M$N/5-Wx5/NB2j:5-Nx5.N$O75-NU5.NBNU5-MS5-N=5-MVN/.2MVN/-MSPj.NNDPj.MmDPj.NNP`Pj.MmP`Pj/+M/",
    "MW5.NBWx5-M95-yfx5-Mu--M$MS-2VD.N7M`8.MbM`8-POO'5bg6RyQU5OF-Wx-.ON(5/2M$N/5.,Na5.NPMS--o4-/R",
    ")MJ>-/,+*5.Me*5#y6pu##,d%O8yE/W(.+N2-/,M/MW-,mf-Mu5.,N25.+N25A)IN257M/MW-.9-+-Ns5.2MW5-Vc-.2",
    "NU55NU5N=>55MS6NBNU7H*5/Nf%$/G4G7G1G.GMUGMfGM_GMIGM#GMZGM^GMu&PO'$nz.%$nz/'$QFXt/%$QFXt-Tn(.",
    "MRTn(/'$s`X./%$s`X.u##-7,OF0%N+TjPIE8O2TjPIE9N+O2TjPIE-P(8.'$[Au##-A,QU-RyQU0'$O[#QU-Upw+0'$",
    "PA#QU@Q2#QU@Om#QUu##-I@Qj#QUu##-K@P3#QU@OC#QU2%$Om#Ry)QU.'$O[>QI>Pw>Q<>PA>SV>Q2>PR>Om>Qd>S'>",
    "O<>O_>Rn>Qj>O.>P<u##-a>PI>Qo>P3>PQ>PW>R$>OC@Om#Ry@P3#Ry0%$O[#QU@PA#QU@Q2#QU@Om#QUBP3#Ry)QU>O",
    "[>QI>Pw>Q<>PA>SV>Q2>PR>Om>Qd>S'>O<>O_>Rn>Qj>O.>P<?6PI>PI>Qo>P3>PQ>PW>R$>OC@Om#Ry@P3#Ry@Qj#QU",
    "@P3#QU@OC#QU.'XTE-QIE-PRE/P3#CEAMb)CEAN,)CE-PQE-O.E-XTE.$QFXZ/%$QFXZ-$eF.%$eF-$X..%$X.-$XZ.%",
    "$XZ-$Xt.%$Xt&PN'$VO.%$VO.'$md.%$md.'$XX.%$XX.'$XK.%$XK.'$XB.%$XB.'$WD.%$WD.'$lS.%$lS%POQdE-P",
    "<E.TjPIE-$[A.'PRE.TjPAE/N+TjPAE.'$TD.%$TD/'TjPIE6$Xu.%$Xu/P<#DE0'N+TjPIE8O2TjPIE9N+O2TjPIE(R",
    "w'$Qx#N7>bI>]2>b)?f5Qx>V'@kFy&)7>P)>Sj>^1>V@>w`>p4@7#N7?NN.>m,>/>RQ>RE>Qb>Pu>Qx>RG>Q->7?NN7>",
    "M6>Pv>Q^>Nj>1>Nq>RX>RY>OD>.>T]>M2>S3>PV>N3>du?Te(>TJ?S.(>4>O6>MC.%$/>RQ>RE>Qb>Pu>Qx>RG>Q->7?",
    "NN7>M6>Pv>Q^>Nj>1>Nq>RX>RY>OD>.>T]>M2>S3>PV>N3>du?Te(>TJ?S.(>4>O6>MC@Qx#N7>bI>]2>b)?f5Qx>V'@",
    "kFy&)7>P)>Sj>^1>V@>w`>p4@7#N7?NN.>m,.'$OC.%$OC.'$Ug.%$Ug/'$R34/%$R34/'$NWP*/%$NWP*0'$R3NWP*0",
    "%$R3NWP*/'$RtP*/%$RtP*0'$R3RtP*0%$R3RtP*.'$^$.%$^$.'$R$.%$R$.'$Vv.%$Vv.'$XQ.%$XQ2'$XQ#2N7O72",
    "%$XQ#2N7O7.'$Y2.%$Y2/'$SMOC/%$SMOC0'$OC#_R0%$OC#_R.'$^V.%$^V.'$XZ.%$XZ-VZ(%O8Rw_R5y^P6N*t>6N",
    "-t>5y`e7M3VZ(6W4()Rw'$NN7#N[1%$NN7#N[/'$uX(/%$uX(0'$RX#Tx0%$RX#Tx0'$Qb#f80%$Qb#f80'$Qb#D0%$Q",
    "b#D1'$Qb#KC1%$Qb#KC0'$RG#O:0%$RG#O:0'$Q-#O:0%$Q-#O:0'$M6#O:0%$M6#O:1'$M6#M$D1%$M6#M$D0'$M6#D",
    "0%$M6#D/'$j_M6/%$j_M60'$Nj#O:0%$Nj#O:/'O^NjQb/%O^NjQb1'$Nq#KC1%$Nq#KC/'$UnM2/%$UnM20'$RY#O:0",
    "%$RY#O:0'$OD#O:0%$OD#O:/'$Pa./%$Pa.1'$Pa.#D1%$Pa.#D0'$M2#O:0%$M2#O:/'O^ODS3/%O^ODS30'$PV#O:0",
    "%$PV#O:1'$PV#M$D1%$PV#M$D.'$_/.%$_//'$UnPV/%$UnPV1'$UnPV#O:1%$UnPV#O:-$s^0'$RG#NU0%$RG#NU0'$",
    "M6#C0%$M6#C0'$Pv#N[0%$Pv#N[0'$Nj#C0%$Nj#C0'$Nj#N[0%$Nj#N[/'$p+PV/%$p+PV0'$Q^#N[0%$Q^#N[>s^0'",
    "$/#NU0%$/#NU0'$/#N,0%$/#N,/'O^/Qx/%O^/Qx0'$Qx#NU0%$Qx#NU.'$Tr.%$Tr0'$Tr#N,0%$Tr#N,0'$RG#N,0%",
    "$RG#N,0'$Q-#N,0%$Q-#N,/'$UnV'/%$UnV'0'$7#N=0%$7#N=0'$7#N,0%$7#N,0'$1#N,0%$1#N,/'$TT1/%$TT11'",
    "$TT1#N,1%$TT1#N,0'$4#N,0%$4#N,0'$.#N=0%$.#N=0'$.#N,0%$.#N,1'$.#2Mb1%$.#2Mb0'$PV#N,0%$PV#N,0'",
    "$Qb#O:0%$Qb#O:0'$TJ#N,0%$TJ#N,2'$Qb#D)C2%$Qb#D)C0'$M2#C0%$M2#C0'$M2#D0%$M2#D/'$R5Pu/%$R5Pu/'",
    "$R5]2/%$R5]2/'$R5y#*/%$R5y#*/'$R5m./%$R5m./'$R5^1/%$R5^1/'$R5V@/%$R5V@/'$R5v)/%$R5v)/'$R5wC/",
    "%$R5wC/'$N+Q-/%$N+Q-0'$Pv#C0%$Pv#C.'$V7.%$V7.'$UX.%$UX.'$[<.%$[<.'$Q@.%$Q@.'$P>.%$P>/'$ixM6/",
    "%$ixM61'$Pv#KC1%$Pv#KC1'$Nj#KC1%$Nj#KC0'$Nq#O:0%$Nq#O:0'$_/#O:0%$_/#O:1'$Nj#,C1%$Nj#,C.'$m3.",
    "%$m3.'$lE.%$lE0'$Pv#O:0%$Pv#O:u##2;&YR'$`Q>`Z>b(>MX>X3>No>T^>S;>>>RG>bF>pq>fP>N9>Z6>P:>N6>nL",
    ">ka>UP>P)>^K>N3>U#>N?>Xo>o^>M<>uR>f>>wB>Op>Sd>f[>d=>b[>ZX>Phu##2d0Of$,M/MW,U0-mJ8-PB8,NK-P(8",
    "-QZ8/%$Mx`Q>`Q>`Z>b(>MX>X3>No>T^>S;>>>RG>bF>pq>fP>N9>Z6>P:>N6>nL>ka>UP>P)>^K>N3>U#>N?>Xo>o^>",
    "M<>uR>f>>wB>Op>Sd>f[>d=>b[>ZX>Ph7O^X3f[8$P)#D-NeN4,R2u##3@'+UjYRab(',UjYRab(%YRlw(u##3D%ntO7",
    "y@$5do5ygP6yz$tZ>yC>5yme5yd65yz&5y_-5yxe5ym)5nB>yUO5nC6yb/sd6w,yCa5y_?6y08yEo5yUG5yRI5yS[>yK",
    "q5y;x5yb*6w,yb37yxd`Zyy$5y]W5yI<5y<V5yzW.8yRzM;-SGygi6yF5do>^]>^l5o*5ynj5do5^]5^l5o1@yF4OAY5",
    "5ybT7PfMrc25ySb-O*yRi-SG^q-O*y_+.SGOy96_69.O*v6y_3.8Mn96MR9.O*NpyEp.SG^ltZu##4,-$MG5Wu5Qv5],",
    "5O)5Y55Rq5ny5WS5U'66Ou5Ou5^,66Q75Q766Np5Np5R>5S566Nq5Nq66f*5f*5dS5Rf5Oy5e_u##4K-U'L/O^xl2Y5?",
    "Y5U'?2U'-O*nB5nCu##4]%PMND(-(yfK-mwV;-(uB5yfI.ND8-.U*a4Zs6]NZs,tr/U*d6r)(@MwMB($y.>($PMNK-lC",
    "Oq.y`af=(-(yT]7uEYLyv`6YLy0(6ycMYL7tmy.py/85ylF.%MzP1CO^MG#OH#M@>Rp5Sf5TZ5S@,Sw#y.qu##4y%PM$",
    "8/OG@Tw8/Nu9O*8-P(8.$ovM@5OJ8MG#UO-HOJ-8O?#OJ-8MG#OJ58M@#OJ-5MG5Q;6QBc35QB5T$5Mv5Mh5N^5Rx5WT",
    "5Op5Rp5P=5QS5Pl5QL5P15TK5OZ5Qu9XW#0M>-I:M>59VsM@#NBM^R0M>-R:M>-,_I-$Ph5PF5Ou5OH5M+5O@5P%5O?6",
    "MGN@5M@,X<,Yg,Z5,Sf,TZ,S@,Xx,WM-qX--OJ-55-WLMG-NBTZ.8O@]S,yzr0MK(%M^-ANB%M^-?95-N+TZ/Sf#0M>.",
    "U%OJ5.U*MQMg>3>0>:>B>F>M&>M0>M(>M4-Zc(-aBOq-VZOq.FOPNS.$S#Q;>PF6SRMG6MGfCA#U%OJ-Y56MzOJGMGGO",
    "?8.#OJ-7MzOJM@5f-5wh5jm7QB#MWJ:M>-MY5Xo5w*5jp8Mh#OJ-J0M>M$-5s95m*9Mh#:M>-5_J5w(5lH7Rx#MWH95[",
    ")%P15l:5lG5m&:Rx#:M>-MYIBM>-5u88Op#%M^GMWH95I%M^5K95)9-I0M>-5o]9Op#BM>-;P=#95)9-I:M>5f):M>-9",
    "Pl#0M>5I:M>-9P1#:M>-9OZ#:M>-6S#Ph9Ph#9yU,5P55x69Ph#:M>55sq8PF#9-I:M>-5XW6Y+Ou7Ou#MWH9-5QQ9Ou",
    "#:M>55XA?#MW5ri9XA#0M>55n_9XA#:M>-8OH#%M^H9-I:M>-Y58O@#95>]S5u.7O@#MWI:M>-6P%lo8_J#9-8P%#M@-",
    ">]UI#OJ-7QBc3]U7O?#MW6Z:O=5O=5.5O66Z:O69O?#0M>-5RE6VsM@7M@#N[H%M^8O?#9-549M@#:M>5>[jI#OJ--Ne",
    "N4-$Ob4%MzO^Pl#OH#MGN@LPF#OH#MGN@@M+G&?OHMG>Mv?:M>>P=.OG@jM0VR@u:PvyFt/%MzTpMg@ypgtuMgAS#Q=@",
    "N^@M+?&6MVP=6MzUO5O?5M@6MzM@>O@.W;@yf9/VpNVMVN4?MzN41TpMzN4#yAWNV.%MVM+0$Rx#NBM^8Op#NBM^'V*P",
    "MU*MQMgG3G0G:GBGFGM&GM0GM(GM4(PM$QS#958QL#958Qu#95.(yhVUo?y`uUP0$P%#NBM^&_GOG@Za.eSNeN4.ePNe",
    "N4-eSOh-ePOh-MMOh.Ohe.,>+/eSOhe.,/ePOhe.,u##7aG+,y9k-yF2y]>5ySd5y0*u##7g-QZ8-$iv6SRiv5Qs5yCC",
    ">n65l;7S#l;da5O)5O?5Rp5RZ5Tv>n65yy3>O)5R45yNH5^;5Np5uY66uY545Nq6N+Nq5Rh5yb-5da5Oy5RC6szju>yD",
    ":>y<w-yaQ-555O2-yze-555O2-ycd-55.O2yz^MM>y/5-yF>-556z,ZO2-y?q-55,yeD-me9,ybf,ye1/0M$M>-G5.:M",
    ">->5.RbN/->5,r;,y3>u##8M.$e8yz3>p,>Sg*PM$Q;#:M>yH(5L95):M>-K:M>N8Me5p5)0M>-L0M>5)9-JNB%M^5H%",
    "M^9Mh#0M>-K:M>N8Me5=Rx#0M>W[5)%P1JNB%M^57Op#D9P=#BM>-9OZ#0M>-K:M>N8MY-J0M>W[-9Ph#0M>5K:M>N8M",
    "e58XW#9-I:M>-[N8Me58M+#9-P59O@#0M>5H%P1PM^7OH#M,:Op#0M>W[-HOJ-:P=#0M>W[-;Mh#%PM$P15n)0M>=P=#",
    "%PM$P1)0M>=Op#%PM$P1)0M>;Mh#%PM$P1-<MG#V*PMU*MQ0-m:-=VsM@#V*PMU*MQ0-nMQ:-nMQB5<O?#V*PMU*MQ0-",
    "m:-=M@[j#V*PMU*MQ0-nMQ:-<Mh#V*PMU*MQB5<P=#V*PMU*MQB-HNBM^9Ou#0M>-%ym,$UD5ygY5yYJ5Zl5[e5yNz5y",
    "K95y.k5yr$5ySI5yA)5y<t5[)5yN35yC<5yDk5yg&5y<$5yz(5yl]5Y;5y_<5yJ65y7(5wf5o$5p)5ym+5y##5yg^5yf",
    "15y;a5>5T'5y.U5yD95yb(5yvO,y-t,y,m,yI),y?2,yp9,y]_,y?.,y@9,y]B,y]:,WM-$Xeu##9j%yXuMQMg53505:",
    "5B5F5M&5M05M(5M4-$/5O,57545.5Nn515y;h5M75Mj5M:5MP5N65N?5MX5M<5QA5MO5b#5O35M65MF6MExT5MD5NA5M",
    "E5M25N.5MC6NAxT6yJeN6>N?>M</O8NNMzM`?MVM`?SLM`7MmaGM`?MzM`?MVM`?SLM`6cU8729-.MzM`U0.MVM`U0.E",
    "Nny<b5yCS,NK-PB8,yNEu##:O,y;v-y=v(-ylJ(%uG$y._5k$5yCD5y;o5bN5[e5[C5bM5w@5_o5om5yN75^;5Np5yhX",
    "5NY5T55yng5ybW5da5TC5yl5-8NY>z,A5y]G5Pf/Of$mQ_o.8mQ_o/MK(Mm4>4?sUMl?MmMl>Ml?sU/?Mm/>//Of$NN/",
    "/MK(NN/?Mm.>..Of$7/MK(Mm7>7>1>WM-8rWu##;+-O*rW5y.@5y/.5y3F5y075ygq-QZ8.O*ySPt]5yzZ5t]5yyr5yo",
    "?5y/c6v6yRy5y/?u##;;%yR[$yEy5U/5[Z5Wi5SZ5yps5jO5bM5y0:5y.[5[[5T-5TR5OT5Q:5NY5j05y015YP5Wl5Nw",
    "5PU5y>=5yK?5OZ-y.=8-yrd8-Z#8u##;Y,O*u##;[&_G$q_N1>N6>NA>Nh>Nz>ZT>O%>M<>P.>W0>O4u##;l(PM$MG#W",
    "nSfRO$+SfI+KDI,KDHWnS@ROU+S@RSM9-R+SM9R,SM9RSM95H9-MWnO$+Sf)9-L+KD)9-MWnOU+S@)9-UO$+Sf),MWL+",
    "KD),MWMWnOU+S@),MWQ+OJQ,OJ/_I#y^+OJGO?@0M>5.$_NM@.j^SM9.PGSM91$O@#NB%M^:Mh#NB%M^58P1#95I:M>5",
    ":XW#0M>W[5-M$N[u##<4.^h8-.y`,8-u##<<0%MzRlT-z,j7MVRlyJ#GyI>GylW-UOyvN.SRMGyTm-]5UO/M/UOMAUO1",
    "$Q;#%M^5HOJ-9Mv#0M>-9P1#0M>-<Ph#95):M>-8PF#958OH#2M,9M+#:M>-<M@#0M>5)OJ-m9-7Op#Qg8O?#9W`6u1M",
    "@6MVMG9Rx#:M>59Pl#:M>58XA#NBD6PaO?9Rp#NBM^-9OZ#:M>58Ou#95<PF#95)O#M>-9Q;#%M+-9Xo#%M+-9QB#%QB",
    "-9Op#%O@-=M@#0M>5)%O@-6`CPh>PF>O@8Xo#%M^8QB#%M^8f-#%M^8_J#%M^8XW#%M^9Qu#:M>-:`CPF#:M>-9Mv#:M",
    ">-Y5;OH#%PM$P1-5yE+.%VsM@7MzVsM@CM@[j#0M>5?RluC>TK/N:SM9-G5-WM5.N:M;59SM9QOM;5.%MVO?8MzRlWlz",
    "-?>Pl>OZ>PF@O@#S@8MVO@#S@8MzRly02z-QHQ:z-AHOTz-(Gyf?GybGGyv[?mwV;?(uB/y=POG@jM.MxTZ5-P@Sf5TZ",
    "5S@5X<5Yg5Z5/M`39-70M>-6Qg-739570M>56Qg5-MiX<5Yg5Z5.%MzO?.Sf#MW?9-/S@#95.,N2-.+N2-.,N25.+N25",
    "/2+N2-Q#90+N2-#9.TZ#9/8U[O@]S&aH(NBOg5Og5Ng5OL.$NN/5/5Ml575N'5.5N56NTM#>M'6RT46NN4545N&6RT16",
    "NN1515N05M65NC5Ma5Nk5N15N95N?5N65OK5NA5Nh5O15Ni5O95Nz5MP5NO5MX5Nl5ME5ZT5M:5NZ5Mj5O%5MD5MC5M<",
    "5QA5MF5P.5W05N`5N35O45MO5M2.MK(O=>sN-(PP5R,.MK(Ml>7>N'>.>N5?NTM#GO>?RT4?NN4>4>N&?RT1?NN1>1>N",
    "0-(O5/MK(dI4>`O,SE.eK(_`>YN-N7O7-MbO70MK(RTMm4>Po>f;-$Q@5p-5b&5No5lI5UX5O35_p6NTO>>OO/MK(NTM",
    "'GOO,Os-2Os-MQMg53505:5B5F5M&5M05M(5M4-QZ(/(Mze;9.$RT/5O=5sN5`O5Po5f;6yRuNi5Q.6JMC5XC5Z36P-N",
    "45]-5Vj$y3x`K-(Og5Ng5OLu##?$-$/5Ml575N'5.5N56NTM#>M'u##?.545N&u##?2515N05M65NC5Ma5Nk5N15N95N",
    "?5N65OK5NA5Nh5O15Ni5O95Nz5MP5NO5MX5Nl5MEu##?I5M:5NZ5Mj5O%5MD5MC5M<u##?Q5MFu##?U5N35O45MO5M2u",
    "##?[-(PP5R,.MK(Ml>7>N'>.>N5?NTM#GO>u##?g>4>N&u##?k>1>N0-(O5.$yL4MPu##?w.N0R68u##@$-$QA5UXu##",
    "@'5_p6NTO>>OO/MK(NTM'GOOu##@.-MQMg53505:5B5F5M&5M05M(5M40$M<#KNyHMRNy-W@85(.Yfs,3>0>:>BB3NMY",
    "-OElV6lVTt,oU-yCG8.$[6Ng-QZ(-Zu8u##@I&yEM(y.&jy5jy5OLu##@M-$/5Ml575N'5.5N5u##@W5O,5N&u##@[5N",
    "n5N05M65NC5Ma5Nk5N15N95N?5N65OK5NA5Nh5O15Ni5O95Nz5MP5NO5MX5Nl5MEu##@s5M:5NZ5Mj5O%5MD5MC5M<u#",
    "#A#5MF5P.u##A&5N`5N3u##A)5MO5M2u##A--(PPu##A/.MK(Ml>7>N'>.>N5u##A8>O,>N&u##A<>Nn>N0-(O5u##AB",
    "5yp:u##AJ-$p-5b&5No5QAu##AO5O3u##AW-MQMg53505:5B5F5M&5M05M(5M4,ymf,y.',yIu,ypk-X4y]]-(yxL-QZ",
    "(u##As%yED(Og5Ng5OLu##Aw-$/5Ml575N'5.5N56NTM#>M'.MKRT4u##B)-$45N&.MKRT1u##B--$15N05M65NC5Ma5",
    "Nk5N15N95N?5N65OK5NA5Nh5O15Ni5O95Nz5MP5NO5MX5Nl5MEu##BD5M:5NZ5Mj5O%5MD5MC5M<u##BL5MF5P.u##BO",
    "5N`5N35O45MO5M2u##BV-(PP5R,.MK(Ml>7>N'>.>N5?NTM#GO>?RT4u##Bb>4>N&?RT1u##Bf>1>N0-(O5u##Bk,SEu",
    "##C#.$NTO>>OO/MK(NTM'GOOu##C)-MQMg53505:5B5F5M&5M05M(5M4-QZ(-W@(u##C<-$Q.-(WM5Xx5qX8:z,WPP-7",
    "M;PP-80Q/PP-u##CD%y]n(Og5Ng5OLu##CH-$/5Ml575N'5.5N56NTM#>M'u##CR545N&u##CV515N05M65NC5Ma5Nk5",
    "N15N95N?5N65OK5NA5Nh5O15Ni5O95Nz5MP5NO5MX5Nl5MEu##Cn5M:5NZ5Mj5O%5MD5MC5M<u##Cv5MF5P.u##Cy5N`",
    "5N35O45MO5M2u##D(-(PP5R,.MK(Ml>7>N'>.>N5?NTM#GO>u##D3>4>N&u##D7>1>N0-(O5u##DA5VD.N&R68.N0R68",
    "u##DH-$QA5UXu##DK5_p6NTO>>OO/MK(NTM'GOOu##DR-MQMg53505:5B5F5M&5M05M(5M4,oU-$N..QN3O`>M/6:Re6",
    "3WI>P86:_7u##Do%WQ(Ng5OLu##Dr-$/5Ml575N'5.5N5u##E#545O,5N&u##E'515Nn5N05M6u##E.5N15N9u##E15N",
    "6u##E35NA5Nhu##E85Nz5MPu##E=5ME5ZT5M:u##EC5MD5MC5M<5QA5MF5P.5W05N`5N35O45MO5M2u##ES.MK(Ml>7>",
    "N'>.>N5u##E[>4>O,>N&u##E`>1>Nn>N0-(O5u##Ef,SEu##Em.N0R68u##F$-MQMg53505:5B5F5M&5M05M(5M4-NDM",
    "w63M3>MB-a>(-cE(-xj(-y<K(-a1(.Q:-(-W@(-ND(u##F>'ylp(O8Og-5Og5Ng5OL7O8Ng--$/5Ml575N'5.5N56NTM",
    "#>M'u##FL545O,5N&u##FP515Nn5N05M65NC5Ma5Nk5N15N95N?5N65OK5NA5Nh5O15Ni5O95Nz5MP5NO5MX5Nl5MEu#",
    "#Fi5M:5NZ5Mj5O%5MD5MC5M<5QA5MF5P.5W05N`5N35O45MO5M2u##G#-(PP5R,.MK(Ml>7>N'>.>N5?NTM#GO>u##G-",
    ">4>O,>N&u##G1>1>Nn>N0-(O5u##G<-R68.N&R68u##G?-$Oz5S95ydru##GD6rEtAu##GG6NTO>>OO/MK(NTM'GOOu#",
    "#GM-MQMg53505:5B5F5M&5M05M(5M4u##G_-(WG3QNMQMgOAW8W=@BC3OAW8W=@BC0OAW8W=@BC:OAW8W=@BC3OAX:W=",
    "@BC0OAX:W=@BC:OAX:W=@B-(yoD&yKN(e;Og5Og5Ng5OL5WG-$/5Ml575N'5.5N56NTM#>M'u##Gv545O,5N&u##Gz51",
    "5Nn5N05M65NC5Ma5Nk5N15N95N?5N65OK5NA5Nh5O15Ni5O95Nz5MP5NO5MX5Nl5MEu##H:5M:5NZ5Mj5O%5MD5MC5M<",
    "5QA5MF5P.u##HE5N`5N35O45MO5M2u##HL-(PP5R,.MK(Ml>7>N'>.>N5?NTM#GO>u##HV>4>O,>N&u##HZ>1>Nn>N0-",
    "(O5u##Hf-R68.N&R68u##Hn.$rEtA5O3u##Ho5W0u##Hq6NTO>>OO/MK(NTM'GOOu##Hw-MQMg53505:5B5F5M&5M05M",
    "(5M4u##I*-(XS5Y3u##I9'q_(O8Ng-5Og5Ng5OL.$[6Ng5/5Ml575N'5.5N56NTM#>M'u##IG545O,5N&u##IK515Nn5",
    "N05M65NC5Ma5Nk5N15N95N?5N65OK5NA5Nh5O15Ni5O95Nz5MP5NO5MX5Nl5ME5ZT5M:5NZ5Mj5O%5MD5MC5M<5QA5MF",
    "5P.5W05N`5N35O45MO5M25wl/(M$M,O56Y_O55R,.MK(Ml>7>N'>.>N5?NTM#GO>u##J(>4>O,>N&u##J,>1>Nn>N0-(",
    "O5.$9yd)-(sdu##J6.$keMI>MT>yOR.N0R681QN33gKgEy%x>mz6:mA63wr>ed6:ws63ak.$QFN'6NTO>>OO/MK(NTM'",
    "GOOu##JH-MQMg53505:5B5F5M&5M05M(5M4-NDMw63M3>MB.QN3O`>M/6:Re63WI>P86:_7-lC8.$keZS>M7>O>>M'>O",
    "O>M]u##Jd%v$(Og5y/G5yr]u##Jh-$y0T5y,v5y.;5y.35yJ+5yI45yq(5yq%5yIw5yIv5yI=5yI;5y@85y?65y.X5y^",
    ".5y]c5y0Ku##K%6TQox6Tkox6TQay6Tkay6yKOrC6_'ay6TQkQ6TkkQ6TQbO6TkbO6vrrC?yfRyV?6_'bO6TQwg6Tkwg",
    "6TQa@6Tka@6cMrM6_'a@6TQw%6Tkw%6TQa?6Tka?6a<rMu##K>6_'a?6TQsk6Tksk6TQ`X6Tk`X5yS06y.y`X5yx]5yc",
    "au##KH6a<pYu##KK5yr66vrdk6cMdk6a<dk5yF=6cMpY5yAAu##KU.(T-z,qu##KZ/MK(`BTM@b]inTM@X-inTM@b]V1",
    "TM@X-V1TM@b]XmTMu##Kb@X-XmTMu##Kd?n2TM>be?X-be?yM'y<XAbeUD`BTMRX-`BTMPaz>azu##Kr.yOJMQMg>3>0",
    ">:>B>F>M&>M0>M(>M4u##L&0MK(X-n2TMGaz-O*yMNu##L5&ym.R-PDXT6W,p*>yLD>yLG>yL?>ycS6W7yX,6U7y6y>y",
    "7C>y6z6PJPJ6U7y7O6OIyxw6Q1y6r6>y_56RDY->yVI>y`)6O#c]6Q1y<W6>ylP6RDymI>ym->w:6O#O_6S`y3,6Qk^c",
    "6T?y`(6T8O36T?y_t6T8mb6T?yfH6PiMD6OIfU6P0ye,5Pk6Q>pl5PZ6PTyvQ6PJyf@>ye?>eO6P:Z*6Q>y7Y61S[6P:",
    "yYF5y^O6dh/7SCb2z,@6dhMl>TR>7>N'>Po>yp?>.>N55y_yu##Lt.YfEy3+.R-dh4>Ob>1?N&yROGyRN5yNG5yRR5yR",
    "Q6SCX4>RD>ynF>y7&5ym25yXF5yxO5yAz-MQMg53505:5B5F5M&5M05M(5M4-R-y/15yL>u##M_%yNN$PD6W,Y*u##Mb",
    ">WPu##Md6VFNk5W75Sd6VFN?6PJWPu##Mj6VFOK5UT6VFNA>Nh>O1>Ni>O9>Nz5Q15>6RDY*>WP6VFNl5O#5S`5Qk6T?",
    "Y*6T8mtu##N#>WP6T?WP6T8yA@u##N%>Y*6VFO%5Pi5OI6Q>plu##N)5P0u##N+5Q>u##N+>pvu##N-5PT6yfPN3>O46",
    "PJY*6P:Y*6VFP.516P:WP,V(.MK(/?SCXU>Ml>TR>7>N'>MT>fa>.>N5.(VFO5/MK(SCp8.yg,(Q>>UTu##NF.MK(4>U",
    ":>1>S]>N&u##NL-PDMFu##NN.M`SCX4>RD>QT>y6=-[s8,yX@u##NV-MQMg53505:5B5F5M&5M05M(5M4u##Nc-P:O#5",
    "Pi.$yL<S=>UTu##O/%w<RASE18b0U&S(yn_/TR(z-Vu-jgMDeb0TFMD9GU&S(qlMD9YaU&S(u^MD:TYU&S(t*R?MD9U&",
    "S(TFR?MD6yfdR?7y5$U&S(9k&fge#U&S(6yIjTF7]/TFy5%5R?6^PR?6TFR?7^PTFR?8ydFy72yi_R?7u'nWR?;TYR(y",
    "%`SvOnMmRS6b0TF/yOZ(y6qSv?yNySv2jD(ygIyCZR(z,OSv@R(z,mM:?yfwynn/(^uaRn=GnRGb/?cSn=GnR@aR^ucS",
    "-MQMg53505:5B5F5M&5M05M(5M46M/3>0>:>B>F>M&>M0>M(>M4>Mg.8y4zSv8r^kGS+y#+;TYR(y%`Sv`kr'RS8r^kG",
    "ygHSv6PVS(7OzR(z--7yEASvnjGni7S[yL5njGni.(xfwa6qbwa-$M65NC5Ma5Nk5N15N95N?5N6u##Oy5NA5Nh5O15N",
    "i5O95Nz5MP5NO5MX5Nl5ME5M:5NZ5Mj5O%5MD5Oz5Rj5S95Yn5N.5Q.5No6R(SW5MC5M<5MF5N35O45MO5M25/5Z?7mk",
    "y%cM<5bb5QAu##PI.MK(Ml>7>N'>.>N5?NTM#GO>GM'GOO>4>O,>1>Nn0(ydPQ)N1P06u-jg/MK(N+7GN'0(S+y#+XeM",
    "X6yi%yNa-8b15y^X.(yN^Sv6T&Sv7pZOzRS6^8RS7yE9RSu(?ySEu(7NB^8RS0Y'(pZOzRS?^8RS@NB^8RS6$M6>NC>M",
    "a>Nk>N1>N9>N?>N6u##Pr>NA>Nh>O1>Ni>O9>Nz>MP>NO>MX>Nl>ME>M:>NZ>Mj>O%>MD>Oz>Rj>S9>Yn>N.>Q.>No?R",
    "(SW>MC>M<>MF>N3>O4>MO>M2>/>Z?@mky%cN.PMCPM<u##Q?.Q5PkNCI`kr'RS/y6*(Jjk?MNjk@y6'ODT,@yfeR(z,N"
  ]

/-- Part 2 of the names. -/
def names2 : List String :=
  [
    ".Ey>'QJ6tsu,6y^HyC[8tsu,u'nW6t*M:6T>QJI^PR(gLIb/R(gLI`kR(gLu##QO0(^ucS^uaRGb/28k&fge#PxS(d`u",
    "##QQ:y5#fge#PxS(d`9yTbU&PxS(d`6^PTF;Gk;u/U&S(qlMD;Yak;u/U&S(u^MD&+Uj_E(&,Uj_E((+Uj_E(#M>(,Uj",
    "_E(#M>'w<8yNcqkSv7yn:qkSvu##R*%cR$M65NC5Ma5Nk5N15N95N?5N65OK5NA5yYD5Nh5O15Ni5O95Nz5MP5NO5MX5",
    "Nl5ME5M:5NZ5Mj5O%5MD5MC5M<5MF5N.5MO5M25P.5/6TC/575N'5.5N5546W54515N0/MK([(Ml>Ml>7>N'>.>N5>4>",
    "N&?W5N'G1?4--(Ng6955OL5O55y/x/Pe(MkMCGM<GN.GM2.$XFMO-MQMg53505:5B5F5M&5M05M(5M4.(NWP]5P]-EyO",
    "W5y9W5y.?5yCj-$N35O46NTM#>O>>M'>OO/MK(NTM#GO>GM'GOO.$W5N1>OK>Vj>YU0Pe(W5MkMEPMDPMF/$dsUKN30M",
    "K(dsUKT40M`8dsUKyF7QPyT?0$_fXqUKNOPZh1MK(_fXqUKT4YPo1(_fXqUKM`MyYM=YMpYN>YNR0$m6XqUKNzPf_PyD",
    "M0MK(yC^UK7?owO=G.GO,.$TCM6>NC>Ma>N9>No>NA>MX>ME>NZ>O3>Mj>NO>M20Pe(TCMkN./MK(TCMlG4P-H6MT/(T",
    "CM`M=GMpGNRGNv@y:'M`M=PMpHy?PM`/$u=d,O30(u=d,M`NR.TCMQMg>3>0>:>B>F>M&>M0>M(>M4/(Z9M`MyGMp/MK",
    "(`E/GN&.ETC3>PB&Z$'$OT>[i>Vz>]4>Nj>_c>[C>_H>NY>XU>^->Q6>ZM>NE>^Z>_s>Xr>Xu>WR>V^>^a>]s>]R>Zi>",
    "Oy>[z>RS>Z2>]%>[v>_j>]k>]Z>O)>Z)>P>>XG>]au##TC>Y=u##TI>Wju##TL-$OT5[i5Vz5]45Nj5_c5[C5_H5NY5X",
    "U5^-5Q65ZM5NE5^Z5_s5Xr5Xu5WR5V^5^a5]s5]R5Zi5Oy5[z5RS5Z25]%5[v5_j5]k5]Z5O)5Z)5P>5XG5]a5T55Y=5",
    "mE6MxVz5OZ-ZaOq&Of$Z$ZM%Z$$Wj6Te(6pJ(%UFkhS&5_=5S*5SS5_?5R=5S)5R;5_>5SO5Y%5R^5T05[%5U65V55VW",
    "5Sr5Tf6S*P65e@6S*QD>P?6SSP66R=Ve5eA6R=Pc5ot6S)P?5bT6R;P6>Ve>QD>OSGP6GQDGP?>`=?OSRO>RO>Ui>T*>",
    "Ul5bV5ou6SOP6>Ve>QD>TN>SX>P?GP6>`=>y%i>RO>Ui>Uk>T*>Ul>Pc5y7J5y7L5y6g5y6i5^X6R^P6>QD>SX>P?>OS",
    ">U,5e?6R^RO>Ui>T*>Ul5Wb6T0y%i5y7I5y7K5y6f5y6h6U6Uk>Pc5y7H5y6e6SrP?5bU5vK5fX6S&QD6S*OS>RO>Pc6",
    "SSTN5T`-oiT`5/5Ob5MC5[<5X7545[?5RF515N.5fA5O=5OI5.5fG5P>5Pp5O65T45P)576/Rs>T,6MCRs>`@6X7Rs>T",
    ",>[K6[?Rs>T,61YD>[I>[U>Rs>T,6OIYI>`?>YJ>Rs>TL6.SW>gD?YD[K>[U>T,6O6SW>YD>[I>YJ>[U>T,>TL6T4T,>",
    "[K6P)T,67SW>YI>Rs>T,>[K>z,C5`M>YD>T,>TL5yii6/[K6MCT,6[?YI61YI>`?-ogS&5_=6S&OS5S*>RO>Pc5SS5R=",
    ">P6>SX>P?>OS>T*>Ul>Pc5S)5R;>OS5SO5Y%5R^5T05U65V55VW5Sr5Tf6S&TN?OSP66S*P6>QD>OS>U,>T*6SSP6>TN",
    "7R=P6OS>Ve>QDGPc5eA7R=SXP6GOS?P?OSGPc>`8>`=>U,>Uk>gX6S)P6>TN>P?>OS>`=>U,>Ui>Pc5bT6R;TN>Ul>Pc",
    "5bV6SOP6>QD>TN>P?5^X6R^P6u##Wd6WbP66R^`<u##We6Wb`<5e?u##Wf5yim6R^Uku##Wg6WbUk5Wb>OS>U,6SrP?5",
    "bU6TfVe>TN>SX>P?5fX6S&Ve>P?>Ui>Uk>Pc5e@%]DRAM25R[5Ot5UD5]_5O)5P:5yGs5MF5PZ5Qf5ZA5^.5Ra5Q>5c+",
    "5UG5yF_5yF]5o$5yF[5yFZ5yF^5o%5MD5O<5Ow5c-5c;5On5Pi5^@5ykT5ykZ5ykX5ykU5ykW5ykV5ykY5yk[5M<5Pk5",
    "Qm5Zl5Zm5QR5P05u>5MO5Q)5P_5_&5VM5Pn5PJ5eV5N35S-5Xz5u`5_.5OQ5TD5e(5Q@5Zk5Zj5dQ5yb25^m5^n5ybL5",
    "ybju##Xk5th5ybk5tg5tfu##Xq5yb55yb=5yb:5yb65yb95yb85yb;u##Xy5yb>u##Y#5ybB5yb?5ybA5yb@u##Y)5Mj",
    "5QJ5RR5[e5Ws5RQ5S`5kC5N`5W]5Ue5x25V`5RE5U#5yv#5MP5PL5QT5WN5Y,5OD5>5f25N95a35]$5`l5kV5U35Sd5a",
    "85Rm5yws5Rn5ywX5yw]5Y:5x]5ywl5ywwu##YS5yx#5ywx5ywz5ywyu##YY5ME5O_5OW5Xe5c[5Oo5O#5^N5NA5ct5S+",
    "5s75s85cr5UT5y['6P-/>.>7>Ml>O,>4>1>N.5M65Q55Pz5]n5bZ5Py5PD5yLv5bju##Z$5^(5^&5pF5^'u##Z*5bk5y",
    "Mn5yMl5yMi5yMk5yMj5yMmu##Z25yMou##Z45yMs5yMp5yMr5yMqu##Z:5N.5TI5Pp5[85_e5P>5PT5yw*6t(/>.>7>M",
    "l>O,>4>1u##ZJ5No5T(5U(5y##5[B5Q-5T'5yzq5Q.5ff5fc5yz25_t5RG5fe5yzI5MC5O65P)5Y;5Y<5RF5OI5yy#5M",
    "X5R.5QM5l85X*5Pu5Q15y>H5Ni5lN5lM5lF5y<05lJ5aA5y<H5N65W)5V25oX5XR5Sj5T:5ok5Ma5R05Px5Yx5Yz5Td5",
    "S=5yDl5neu##[-5nh5yEU5ng5nfu##[35XC5nI5nF5yCs5yCw5b%5nG5yD35NO5ej5WV5[)5[*5OE5RD5el5N?5]#5PW",
    "5k[5[y5PV5U75y7c5NZ5y`'5PQ5t'5y_v5d95T?5y`*5Oz5_[5WX5ynf5w_5S35_Z5ynr5yoT5yo]5yoX5yoU5yoW5yo",
    "V5yoZ5yo[5O35UA5T55]F5Vt5Sg5T85n.5M:5SJ5O.5Xm5UV5Nq5Qk5Zh5yeK5cQ5yBNu##[y1O8Z#)MKR687MKR686Z",
    "#8-P]8,yw1-NeN4,NK,Sw,Oh-ya/Oh-P(8-ZaOq-MQ3505:5B5F5M&5M05M(5M4-NDMw5Nr5P25Q45O]5Q95OX5RV5OB",
    "5M36MwMBu##]D.RA_)^@5^A5r=5cP6_)kC5kE5kD5y5D6_)n.5n15n05yBL6_)Zh5^k5tU5dP.ez8yxz>lX>u*?NNu*>",
    "y=8>yKu>y7F>yFl?lXz,f>yMXu##]e%kc$/5457515.5M^5Ma5M65Td5Px5S=5R05nd5M25O)5Ot5P:5R[5]d5MF5Ra5",
    "Qf5Q>5PZ5q#5MD5On5Ow5Pi5O<5ME5b85cT5Oo5OW5O#5O_5cp5t`5ta5tb5dT5dU5te5MO5M%5Pn5P_5PJ5Q)5eU5MX",
    "5MP5Pu5OD5QM5QT5Q15R.5m(5]35es5et5ev5ew5ex5wG5Oz5S35WX5_Z5_[5wd5N.5P>5Pp5PT5TI5x[5MC5RF5P)5O",
    "I5O65xt5ZJu##^f.%$RF>P)>OI>O6>xt>ZJu##^n%`qeYR2545ie575N'515Nn7MTMLNn6T/O,>75/5Ml5P>7M1MLP>5",
    "Pp7M1MLPp5xP7M1MLxP5PT7M1MLPT5[;7M1ML[;6Tl[;5N.7M1MLN.5[87M1ML[86Tl[85N&7MTMLN%6P-N466Mb>N7@",
    "OUM/MW@O$M/MW@+M/MW>MW?2MbINNM$eN?K9@NNMMD>M-?M)OY5Nj5NY5NE5OT5Nq5y^?5O.5Zd5Qk5Zg7MTMLZg6T/]",
    "_>Ot5M:5Xm5dP7M1MLdP5^k7M1ML^k5tV7M1MLtV5Xq7M1MLXq5tW7M1MLtW5Zh7M1MLZh5dO7M1MLdO7MTMLdO5Ms7M",
    "1MLMs6T/M_5OD5yl65QT5ym[5>5Y07MTMLY06T/X*>QM5MP5WN5[07M1ML[05wt7M1MLwt5wu7M1MLwu507M1ML05wv7",
    "M1MLwv5f27M1MLf25f37M1MLf36Tlf35MZ5[-5wk5f/5Nh5Py5yK:5Pz5yLS5PD5Z=7MTMLZ=5M65]n5^'7M1ML^'5^(",
    "7M1ML^(5pG7M1MLpG5pH7M1MLpH5pI7M1MLpI5bj7M1MLbj5^&7M1ML^&6Tl^&5M]5bi7O(z-Jb[GyLRGyM#Gor5U35y",
    "5j5]$5y7o5Sd5a.7MTMLa.5N95`l5l07M1MLl05a:7M1MLa:5l17M1MLl15l27M1MLl25l37M1MLl35a87M1MLa85a97",
    "M1MLa96Tla95MU6UZUb5On5yR95Ow5yTG5Pi5cF7MTMLcF5MD5c-5cP7M1MLcP5^A7M1ML^A5r>7M1MLr>5r?7M1MLr?",
    "5r@7M1MLr@5^@7M1ML^@5cO7M1MLcO6TlcO5MI7M1MLMI5yT>6jFMI6UZMI5Oo5yV>5OW5rn5O#5ci7MTMLci5ME5Xe5",
    "s17M1MLs15^N7M1ML^N5cq7M1MLcq6Tlcq5M76T/QQ5yX75Ra5yN25Qf5yO55Q>5X^7MTMLX^5MF5ZA5q%7M1MLq%5q&",
    "7M1MLq&5q'7M1MLq'5q(7M1MLq(5q)7M1MLq)5c+7M1MLc+5q$7M1MLq$5M'7M1MLM'6MkM'5Pn5yf25P_5[#5PJ5[$7",
    "MTML[$5MO5_&5vi7M1MLvi5vk7M1MLvk5vl7M1MLvl5vm7M1MLvm5vn7M1MLvn5eV7M1MLeV5eW7M1MLeW6TleW5M%6j",
    "FM%5vg6`^M%7yTxMLyhc6Tlyhi?M%z-X>yi`>yjd>yhj>yfu5OQ5Xz5_15TD5e$5N35u`5Y$7M1MLY$5ur7M1MLur5us",
    "7M1MLus5ut7M1MLut5uu7M1MLuu5e(7M1MLe(5uq7M1MLuq5WC5RF5yx<5P)5yxv5OI5_n7MTML_n5MC5Y;5xu7M1MLx",
    "u5xv7M1MLxv5xw7M1MLxw5xx7M1MLxx5xy7M1MLxy5f_7M1MLf_5f`7M1MLf`6Tlf`5MT7y41MLMT7M1MLMT6UZP)5QR",
    "7M#MLQR7M1MLRa5ycE5Qm5_#5P05u57M1MLQ>5M<5Zl7M1MLMF5u?7M1MLu?5M#7M1MLM#6MkM#5Sg5yA*5T55yAV5T8",
    "5as5O35]F5n/7M1MLn/5N<5OE7M7MLOE5WV7M7MLWV5ef7M7MLef5RD5eg5NO5[)5em7M1MLem5Ub5wi5wj5_]5O15yn",
    "v5yoP5yoQ5yoR5yoN6yZVO)>Ot>o'>P:>Z+>M2>UD>M_6yZWM_5yFu5yb)5Zj5t[5^n5t^5Q@5dQ5NQ5wD5wE5wF5eu7",
    "M1MLQRGQmGP0GM<5yWL5^G5yWq5W75yX(5N15^F5QQ5yY;6UZOQ>Xz>TD>N37xUMLOEGWVGRDGNOGUb5pe5yO%5pf5yO",
    "&5V75pd5by7UbMLOEGWVGefGRDGegGNOG[)GUb6y.WN#6`^4>7>1>/>P>>Pp>PT>N.>Oo>OW>O#>ME>Py>Pz>PD>M66U",
    "ZO)>Ot>P:>M26T/yDL>nN>Qb>yD?>yDH>Nk>Pk>P0>QR>Zm>Qm>M<>TI>PT>P>>_e>Pp>N.>yHJ>yHI>b=>yHG>yHH>y",
    "HE>ej>RD>OE>[*>WV>NO>yo*>f/>[->ynu>wk>Nh>SJ>Qk>Nq>UV>O.>M:>Ms>R0>S=>Td>Yz>Px>Ma>yLC>W,>b^>yL",
    "8>]t>NC>yLk>yLj>yLg>yLh>yLi>bb>]v>O_>O#>Oo>c[>OW>ME>O<>Pi>On>c;>Ow>MD>O6>OI>RF>Y<>P)>MC>W)6U",
    "ZW)6T/T:>Sj>XR>V26UZV26T/N6>oc>ob>yJM>yJN>o`>Z3>PZ>Q>>Ra>^.>Qf>MF>y=g>y=f>ln>y=b>y=e>]3>yO'>",
    "pf>yO#>yO$>pe>V7>ymr>wF>wD>ymp>wE>eu>ex>ew>et>ymo>ev>es>T(>T'>Q->[B>U(>No>Mq?GMq>m0>m/>V'>m+",
    ">m->S9>Q)>PJ>Pn>VM>P_>MO>S->TD>OQ>_.>Xz>N3>WC>_[>_Z>S3>w_>WX>Oz>]#>U7>PV>[y>PW>N?>yo(>yo'>yo",
    "$>yo%>yo&>yo#6PW(6NeN45tY5yWN5yY>5yY?5yY@5yYA5yY<5yY=7xUMLymMGymNGymOGymPGymQGelGemH6Ub6`^N%",
    "%y]SQ(8-$y3s5yOv5yAD5yf75yXK5yp75y;n5ymd5y9J5y6_5yU=5yE$5yWU5yjP5ye05y.S5sM5WZ5y?)5yIp5y?(5M",
    "r5ypG5yI25y?*5y_O-]G8.N+]G8u##fU(ye5$yAHyAKSgN<5M^7ypqWZ.5xo5MT5N%7ymJymKVY5V)6y/B/6sQ16[V/5",
    "ir8MmYCy%q18NNUmy%q1515O=5NE8ycPtlyctM#5yKa5y6c6yK`M]5M[5Se7yC_yE^M[5P97ywD_iN%6yErM_6yEnM_8",
    "MmYCy%fM_8NNUmy%fM_8yVRyZhyVQM78NNUmz-%M76O2z-$8yIyV1yJ%7546yJ<N(5yCm8MmYCy%YOb8NNUmy%Y/6yJ)",
    "y?`7y_by_XMs6y.jy?b6yi=M%9yhOMmYCy%yM%8NNUmy%yM%5MU5Mq8ymleryoSMZ8NNUmz-UMZ5Mf8y4$y3zy4LN#8N",
    "NUmz,IN#6O2U+6MiU+7y?:T^47yRaQ6MI8MmYCy%nMI8NNUmy%nMI8yNYyNAyO[M'6O2z,p5yIW5bE7y;gy;cMf7y]xy",
    "@#15X25yIr5y:N5y5u5y6Y5yj67MmYCgY7NNUmgY6yI*gY5NQ5Mu-N)O*-SDO*-NtO*-y/fE-yoGE-y3uE-$M]5WC5Nn",
    "7yB5y6<sQGV1GT^G[VGiru##g_%yl>$/575.5M65Ma5N15MP5MX5ME5M:5Mj5MD5MC5M<5MF5N.5MO5M2.MK(7>.-(O5",
    "5sau##h&.$QFM<%yF,$/575.5M65Ma5N15MP5MX5ME5M:5Mj5MD5MC5M<5MF5N.5MO5M2.MK(7>.-(sa%y_wN)O*-2O*",
    "u##hG%y5+$/575.5M65Ma5N15MP5MX5ME5M:5Mj5MD5MC5M<5MF5N.5MO5M2.MK(7>.u##hh%yl?$/575.5M65Ma5N15",
    "MP5MX5ME5M:5Mj5MD5MCu##hv5MF5N.5MOu##hz.MK(7>.u##i0%p/$M65NC5PD5W,5W75N95N?5Sd5U75UT5MX5O15Q",
    "15_]5yYC5MP5NO5>5RD5O#5Mj5NZ5Qk5T?5Pi5OI5P05Q>5U#5N35eC5MO5M25MF5Q@.V/MKyb.>dQ>Zj>t[>Zk>yb_>",
    "dU>ybh>u@>yeQ>c,>yP6>^m>tY@t^[13P0>yb0.MKyIYYP>Ml6(Ml>7>N'>MT>fa>.>N5>Y1>O=>MC>Qx>4>Ob>N&>Nn",
    ">N0-(yXE5ycf5yy?5yUX5ynL5y385ydZ5ymw5yKF5y.O6yfJyfO5yr[5y9G5y3E5yL35y3<7y5yZdyM^6p_Y05y4&6y_",
    "zr85yM).YfEyd@-(y0L5y0>u##j9-MQMg53505:5B5F5M&5M05M(5M4u##jI/Ep_y0<yi3GcLGZdG`YG`iGdGP[PP[RP",
    "[GP[Hu##jY$XcTV,V(,NK-NeN4,Oh-BM>.eyS.R2/uvRAy4_V;-ZDNK6NeN4,yXM#yBHu##je'XcYv<;3#yBIu##jf'X",
    "cYv<;0#yBJu##jg'XcYv<;:-MKOqu##jh#yU^#yBKu##ji'XcYv<;B-MQMg53505:5B5F5M&5M05M(5M4u##jz-$/545",
    "7515.5O=5Po5O,5ME5S[5Mj5M:5Q@5Ma5MD5MF5MO5N35MP5MX5N?5N65MC5M<5N.5O35M65NC5Oz5No5UD5yzf5V75f",
    "c5PW8eyMmMK(>4>7>1>.>O=>Po>S[>Mj>M:>Q@>Ma>MD>MP>MX>N?>N6>Oz>MC>N.>M6>Yx>UD>yJD>yX<>S96uv4>7>",
    "bN>Po>.>S[>M6>Ma>M2>M:>N3>MP>MX>N6>O3>Yx>UD>Oz>No>Zl>N?>Q.6ZD7>M6>M<>O3>Q.8N?#0M>u##l+8VgVyN",
    "g3HOL3Gy;qGwyHNBwyGj[H:j[G/G7GM6GN1GN9GNhGO1GNiGNzGMPGMXGM:GNZGO4GQ.GNoGSZ8eyVgVyMPPQ.8ZDVgV",
    "yNkPN1PN9POKPNhPO9PMPPNlPO4Pl5PQ.PNo8VgVyM/.PMC8ZDVgVyO%7VgVyy;f8ZDVgVyV7u##l[%`qeYd*5S]5ig5",
    "[95ya'5y_>5yar5yla5bY5yMd5qe5yYU5yVW5yN[5yi?5uM5ul5yg[5yh?5yy,5xh5tr5s26ZZs25s36ZZs35s46ZZs4",
    "5s56ZZs55yeF5yeG5yeH5yeI5yeJ5u>6ZZMs>MZ>M]>MU>MI>M7>M%>WC6m6N%6_fN%76%MW?PG97M#MLyeE7M1MLX^G",
    "ZA5ymL5el5ynz5ynx5f.5yms5ymq6UZY$>e$>Z+6T/yEV?lUYz>Yx>ne6UZyK%6T/ok7jllUM'GM#7T/aEM%u##mT&yO",
    ";MKz,M$-$M65NC5Ma5Nk5N15N95N?5N65OK5xc5MP5NO5MX5Nl5ME5M:5NZ5Mj5O%5MD5MC5M<5MF5N.5N35O45MO5M2",
    "5yEZ5f#u##mu.MK(/>7>.>O,>N&>Nn>N0>4>1.Y'$MC>M<>N.u##n-.%$M6>N1>Ng>MP>ME>M:>MD>M<>MF-(yU@5yKt",
    "6MOTLu##n=5X^u##nA-PB8-P(8-MQMg53505:5B5F5M&5M05M(5M4&U`Ra$M6>Rm>N1>Oz>MO>MC>MP>NO>MF>M:>NZ>",
    "MD>O3>N`>M2>Q@>NC>Rj>ME>/>7>O,>T^>.>Nn>1>Po>4>jH>N&u##nn?M`M=GMpGN>GNRGNvu##o&(XiU`py$MzQ@HM",
    "VQ@HMzM6PRmPN1HMVM6PRmPN1HMzOzPMOPMCHMVOzPMOPMCHMzMPPNOPMEHMVMPPNOPMEHMzM:PNZPMDHMVM:PNZPMDH",
    "MzO3PN`PMFHMVO3PN`PMFHMzM2PMXPMjHMVM2PMXPMjHMzpEPx^HMVpEPx^HMzeOHMVeOu##oVAMK(MKygyPMlPN'P.P",
    "N5P4PObP1PZWPPoPS]PigPx1Pd*Ps@PypCPbN@$6M^PQQPM7PMIPM]PMfPN#@M`8MyPM=u##ow?MQMgG3G0G:GBGFGM&",
    "GM0GM(GM4@_MMQ3u##p-?(pLGyN@%p/Ey_76cLR_6ZdR_6`YR_6`iR_6dGR_?[PR_?[RR_?[GR_?[HR_6a=R_?[PR_?[",
    "RR_?[GR_?[HR_?y%rR_5yoB6cLRg6ZdRg6`YRg6`iRg6dGRg?[PRg?[RRg?[GRg?[HRg6a=Rg?[PRg?[RRg?[GRg?[HR",
    "g?y%rRg%y5*$M65Ma5N15rf5M:5Mj5MD5r65MP5MX5ME5cj5N95N65NA5yZg5MC5M<5MF5N`5MO5/5M2.MK(7>.>4>1>",
    "Obu##pn,y^U.OG@P]'U`_M$MzM6GNCGbk?MVM6GbkGNC>N1?MzN9GN??MVN9GMOGN?>NA>yc[?MzdX>MX?MVdX>tq?Mz",
    "MPGNO?MVMPGNO>ME>Mj?MzM:GNZGO3?MVM:GO3GNZ>MD?MVMC?MzMC>M<>ye.>MF>py>N.?MzN3GO4GMOGM2>P.>/?MV",
    "M2>7>N'>.>N5>O,>Nn>pL?XFMO8Pe(MkM<PMFIMFylM^*8(SC]p^*8Pe(6N1HMVM:KMzdXMrMVM:GMDGMjGMOu##qX6(",
    "yf>7MK(/HSCdiGMlH[(MlG7GN'GPoGf;G.GN5G1HZW5Gd*G4GObGNnGN&H_MN&HZW-7(SC]p?M`MyGM=@p0M`MpPN>PN",
    "R?M<yEk?SCdg@p0z,tyKTu##qx7O8U997yH'MQMgG3G0G:GBGFGM&GM0GM(GM4u##r17_MMQMgG3G0G:GBGFGM&GM0GM",
    "(GM4u##rA6(yvu>yvv>yf`>yKv>yH,>y=o@N+NHtq?SCyxP>yK;>yK<>yfW>yfX>yF*>y5ku##rQ&O8]5N$O7-N,z-<,",
    "XM-MY*-Nu9.Muz-Z5.Y9N/5.Mi85/2Mi85/MN[uD5/vW[uD5-d1-.2d1--d155Pj0Nf%$N%5IMxN%5/,O--,/+O--+/,",
    "O-5,/+O-5+.M9y4h-.ND(-/NB2j:-.M-(-/2M-(-G5.NuMbO70Nf%$QcM[PM#PMZu##sJ&y3/(x%yd>>RT5y6Z5vd5y4",
    "C-$y.Y>Sz5yI5>Sz5ypO>Sz6M<^yGSz6MFp`GSz5y??5y.R5y]V>Sz5M6>V95Ma>yDx5N15N9>yN;5N6>yJ;5NA6MPyN",
    "U?T=V97MXT=y.sGV96MEycT5MP>yl^5MX>yR;5ME5M:>yKP5Mj>yKs5MD5MC5M<5MF5N.6MOyf4>yfS5MO5M2-(yd,.M",
    "K(Sz>x%GuK>v_GyI:?M<^yPSz?MFp`PSz>vtG^yGSzH^ySz>svGSz-[Y[Y.$OuVK6yLAVK6yoYVK6T]VK6REVK6_qVK6",
    "y00VK6QFofu##tC-MQMg53505:5B5F5M&5M05M(5M4,sc,s_,xR-y64y^_5yhQ5y_#,y^Z.SnElr>y<a>m'>a;Gvd>y=",
    "F>y;d>y<o>y;m?a;yC`?O8yliGy?UGp#GozGbPIp##bPIoz#bPGy3wGyDtA+y%gMiX1Y]+QOMwnYylCA,y%gMiy^eYya",
    "]QOMy`IYy`VQMid<-scpS-s_pSu##tt%v`(y^q5y^i5y^l-$/575.5Ob51545T45M65Q@5Ma5N15N95N65No5NA5MP5M",
    "X5ME5M:5O35N`5Mj5MD5MC5M<5MF5N.5MO5Rm5M2.Pe(y^]>y^o>y^r.MK(y^f>y^s>y^`>y^m>y^[>y^d-(y^Y5O5/P",
    "e(y_*MDGN.-$NC5yk@-MQMg53505:5B5F5M&5M05M(5M4,R,-$yd55pc5O%66M]>MI%y3D$/6TE/5M26TEM26c1M25Mj",
    "6bWMj5M:6TEM:5ME6c1ME5N.6TEN.6s]N.5Ma6TEMa5N65MX5M<6TEM<5MD6TEMD6v<MP6rzMP5MO6TEMO6c1MO5MC6T",
    "EMC5N15MF6TEMF5NA5N95Xh5ZF575.-(yn%.MK(4?s]4>O,>7?bW7>1?bW1>.IOATEMO.Pe(QQ>M_,sb,y^nu##vA/E`",
    "]MEySc>y`9>yJn>sb%yNq$M65yLm5NC5Ma5yDc5N15N95N?5N65NA5MP5NO5MX5ME5M:5^c5NZ5O35yAh5Mj5y4M5MD5",
    "r,5Oz5Rj5S95MC5M<5MF5M25o-5N`5MO5N35N.5/.Y'$MC>M<.MK(Ml>7>1>Nn>.>N5>4.Pe(M]>MI>M'>M7>Ms>M#>M",
    "Z?s;z,V>]p-(ycU5PPu##w).O*MPy%u8csymRMPy%u6kYy&+7wbkYy&+5wb-MQMg53505:5B5F5M&5M05M(5M4u##w;-",
    "$Nh5O15Ni&sFy7>MQMg>3>0>:>B>F>M&>M0>M(>M46$MF>PU>[Z>S[>T->ZA>y,o>y,n>y,p>y,u>Qf>V1>bA>yIn>]g",
    ">PZ>__>QV>x+>x1>Ra>]A>y?/>Nj>]B>Q>>y^$>y]<>sT>ZX6O<yo+6yC=wm7O<z,bwm5ycw5y_o5y.I6O*r9?2r9'Rw",
    "%$TpRE@Mmy%kPu?Xg1?W^RY?[(OD@:y%kOD@[(Te(GUg?ypUY2u##x''Z$yU8'$OTG[iGVzG]4GNjG_cG[CG_HGNYGXU",
    "G^-GQ6GZMGNEG^ZG_sGXrGXuGWRGV^G^aG]sG]RGZiGOyG[zGRSGZ2G]%G[vG_jG]kG]ZGO)GZ)GP>GXGG]aGT5GY=Gm",
    "EHMxVzGOZu##xTGWjHTe(HpJ(&v`O*`]yk/>y^j>yaf>kI?pc_(?M6_(?MX_(?Mj_(u##xh%[6M`yKY5ygT5ya0-(yXC",
    "7fTr%Tu0M`fTy.EV/Tu?V/Tu@bXV/Tu6RT59fTbXV/Tuyfl62Tu6NuTu6bXYN69570M>57:M>58ydCovV/Tu7y03V/Tu",
    ".(OLTu>_`7N+OL_`6OLYN7N+OLYN8OL_`#N[@YN#N[6Ngj,>y3*>yr)H#N[5ymj7yFXMmNg6MmNg7ye+MmNg7Ngyp8yU",
    ">5j;6NHj;.M`RT--(XS5Y35y05.M`MW-72MW-/(2Ngj,u##y@'Nf$%'/GOb/%$MxOb0$%'TTN#GMUGMfGV)G40%$MxMi",
    "4G7/$%'N(GM]IM'#DGMIHN+M7G1HMi1/%$U[1HMi1I1#D?MxO=/$%'VC0%$O$M/1@OUM/1/$%'MsHN+M#HMxM#GMZG./",
    "%$U[.Hy=0.HMxMI/$%'M^GN%GMqGU?7U$yNRyiP5OZ'PO$%'PwGS'GO.GP<GR$'Rw$%'Pv&Of$'/>Ob>N#?TTN#>Mf>4",
    "?N+4>M[>M_>7>N(>M]>M'>MI>M7?N+M7>1>VC>Ms>M#>MZ>.>N%6%/?Mx/>O[?MxOb>N#>Mf>4>Tr?Mi4@MxMi4>M[?M",
    "x7>M]>MI>Se>1?Mi1@O$M/1@OUM/1>Ms>MZ>.?U[.?MxMI>M^>OZ>QI?POPw>Q<?POPQ>PW'NfWL%$7GM#G.GM^'POWL",
    "%$QIGPwGP<GPQGPW&Nf%$PoAN##KMSAMf#KMSAN<#KMSAMI#KMSAM7#KMSAMs#KMSAM##KMSSVu)KMSAM%#KMSAMZ#KM",
    "SAMq#KMS?MxM[&Of$RwNj'Nf%$QcM[@Ub#yj]9'$7#D8$Om#D@Ms#D9'$.#D8$P3#DAN##P'CAMf#P'CAN<#P'CAM[#P",
    "'CAM]#P'CAM'#P'CAMI#P'CAM7#P'CAMs#P'CAM##P'CAM%#P'CAQ_#P'CAM^#P'CAMu#P'CAMq#P'CA/#O/CAO[#O/C",
    "BMf#C)N[A4#O/CBMi4#O/CCN+Mi4#O/CATr#O/CA7#O/CBMi1#O/CAQ_#O/CA.#O/CAU?#O/C'Of$%MxO[>MUH#Pt>V)",
    "@N+Mi4>N<AS#N(#D?P[M[?MxM_@7#D>Om?'7Q#DAN(#PsSYAM'#O/CQP'C?'M'@MI#CBMxMI#MmR#AM7#,CQO/C?'M7?",
    "TT1>PQ@M%#C>Q_AMZ#P'C?.M,>P3?'.@M^#C?MxM^>MqI#O/CPPt>U?>PR&O8O2N7O76MbO7-_85-eT8-N=gC-N7gM-N",
    "=gJ-MbgM.N7gCgJ.MbgJgC0Nf%$M#5-NUgM-N=z,K.2N$--Rc--Vc5-V15-WZ--Y4-2Nf%$]HMi/-GObG[`GWoHMUP$H",
    "QcMfGV)GM[8$%'M[7%$M]GM'8$%'M'PMI7%$M78$%'M7PM#8%$M#ZtGM%HMmM%GMqGO[GN#GQIGTrGN<KM'#2KMSK1#M",
    "N[uDGMsGQ_K.#MN[uDGN%I/#N,I1#N,I.#N,.IOY-.XV-+>,.9-,/W^NBWx5.95,-y<Y8/2NBNU5/R)MJ>5.,N2-1+N2",
    ")M)N25)Nf'$/#MW51%$/#MW51'$N##9-1%$N##9-1'$N##951%$N##951'$N##N/51%$N##N/52'$MU#P$)Mb2%$MU#P",
    "$)Mb1'$Mf#9-1%$Mf#9-1'$Mf#951%$Mf#951'$Mf#N/51%$Mf#N/50'$Mf#P$0%$Mf#P$1'$Mf#N$51%$Mf#N$52'$4",
    "#N=)N72%$4#N=)N72'$4#N=)Mb2%$4#N=)Mb1'$4#N$51%$4#N$51'$4#MS51%$4#MS52'$4#P$)NU2%$4#P$)NU1'$N",
    "<#9-1%$N<#9-0'$M[#N=0%$M[#N=1'$M_#9-1%$M_#9-1'$M_#951%$M_#950'$M_#N,0%$M_#N,0'$M_#P$0%$M_#P$",
    "1'$M_#NU51%$M_#NU51'$7#MS51%$7#MS52'$7#N,)Mb2%$7#N,)Mb0'$M]#Mb0%$M]#Mb1'$M]#951%$M]#951'$M]#",
    "N/51%$M]#N/51'$M'#951%$M'#953'$M'#95)N=3%$M'#95)N=1'$M'#N/51%$M'#N/51'$M'#N$51%$M'#N$50'$MI#",
    "Mb0%$MI#Mb1'$MI#9-1%$MI#9-1'$MI#951%$MI#951'$M7#9-1%$M7#9-1'$M7#951%$M7#951'$M7#N/51%$M7#N/5",
    "1'$M7#N$51%$M7#N$52'$1#MS)Mb2%$1#MS)Mb2'$1#MS)N,2%$1#MS)N,2'$1#N=)N72%$1#N=)N72'$1#N=)Mb2%$1",
    "#N=)Mb0'$Ms#Mb0%$Ms#Mb1'$Ms#9-1%$Ms#9-1'$M##9-1%$M##9-1'$M##951%$M##953'$M##95)N=3%$M##95)N=",
    "1'$M##N/51%$M##N/51'$M%#9-1%$M%#9-1'$M%#951%$M%#953'$M%#Mb)9-3%$M%#Mb)9-3'$M%#Nx)9-3%$M%#Nx)",
    "9-4'$M%#95)9-4%$M%#95)9-1'$MZ#9-1%$MZ#9-1'$MZ#951%$MZ#951'$MZ#N/51%$MZ#N/51'$MZ#N$51%$MZ#N$5",
    "1'$.#N,51%$.#N,51'$.#MS51%$.#MS51'$.#N$51%$.#N$52'$.#MS)Mb2%$.#MS)Mb2'$.#N=)N,2%$.#N=)N,0'$M",
    "^#MS0%$M^#MS1'$M^#951%$M^#950'$N%#N70%$N%#N70'$N%#Mb0%$N%#Mb0'$N%#N,0%$N%#N,1'$N%#9-1%$N%#9-",
    "1'$N%#951%$N%#951'$Mu#9-1%$Mu#9-0'$Mu#N,0%$Mu#N,1'$MT#9-1%$MT#9-0'$Mq#N$0%$Mq#N$1'$Mq#951%$M",
    "q#951'$Mq#N/51%$Mq#N/5AM_#N/5@MZ#N,AN%#MW-AMT#MW-B/#+M/MWBMmM%#9-ZNyDZMzD/'$XyM%.%$Q<1'$/#95",
    "1%$/#951'$/#C-1%$/#C-2'$/#N$)Mb2%$/#N$)Mb2'$/#N$)N72%$/#N$)N73'$/#N$)C-3%$/#N$)C-2'$/#N$)MS2",
    "%$/#N$)MS3'$/#N$)953%$/#N$)952'$/#NU)Mb2%$/#NU)Mb2'$/#NU)N72%$/#NU)N73'$/#NU)C-3%$/#NU)C-2'$",
    "/#NU)MS2%$/#NU)MS3'$/#NU)953%$/#NU)951'$4#951%$4#951'$4#C-1%$4#C-0'$4#MS0%$4#MS2'$4#N$)Mb2%$",
    "4#N$)Mb2'$4#N$)N72%$4#N$)N73'$4#N$)C-3%$4#N$)C-2'$4#N$)MS2%$4#N$)MS3'$4#N$)953%$4#N$)951'$7#",
    "C-1%$7#C-1'$7#951%$7#951'$1#951%$1#951'$1#C-1%$1#C-2'$1#N$)Mb2%$1#N$)Mb2'$1#N$)N72%$1#N$)N73",
    "'$1#N$)C-3%$1#N$)C-2'$1#N$)MS2%$1#N$)MS3'$1#N$)953%$1#N$)952'$1#OV)Mb2%$1#OV)Mb2'$1#OV)N72%$",
    "1#OV)N73'$1#OV)C-3%$1#OV)C-2'$1#OV)MS2%$1#OV)MS3'$1#OV)953%$1#OV)951'$.#951%$.#951'$.#C-1%$.",
    "#C-2'$.#OV)Mb2%$.#OV)Mb2'$.#OV)N72%$.#OV)N73'$.#OV)C-3%$.#OV)C-2'$.#OV)MS2%$.#OV)MS3'$.#OV)9",
    "53%$.#OV)950'$MT#N70%$MT#N71'$MT#951%$MT#951'$MT#C-1%$MT#C-0'$MT#MS0%$MT#MS0'$K`>OO0%$K`>OO0",
    "'$K`>M^0%$K`>M^0'$MT#Qg0%$MT#Qg(PO%$O[#N-PN*RN-)NJRN*)NJRN-)NIRN*)NIRN-)O'RN*)O'0'$O[#N-PN*R",
    "N-)NJRN*)NJRN-)NIRN*)NIRN-)O'RN*)O'0%$PA#N-PN*RN-)NJRN*)NJRN-)NIRN*)NIu#$'N0'$PA#N-PN*RN-)NJ",
    "RN*)NJRN-)NIRN*)NIu#$'V0%$Q2#N-PN*RN-)NJRN*)NJRN-)NIRN*)NIRN-)O'RN*)O'0'$Q2#N-PN*RN-)NJRN*)N",
    "JRN-)NIRN*)NIRN-)O'RN*)O'0%$Om#N-PN*RN-)NJRN*)NJRN-)NIRN*)NIRN-)O'RN*)O'0'$Om#N-PN*RN-)NJRN*",
    ")NJRN-)NIRN*)NIRN-)O'RN*)O'0%$Qj#N-PN*RN-)NJRN*)NJRN-)NIRN*)NIu#$('0'$Qj#N-PN*RN-)NJRN*)NJRN",
    "-)NIRN*)NIu#$(/0%$P3#N-PN*RN-)NJRN*)NJRN-)NIRN*)NIRN-)O'RN*)O'u#$(80'$P3#N*u#$(:Z)NJu#$(<cNI",
    "u#$(>cO'0%$OC#N-PN*RN-)NJRN*)NJRN-)NIRN*)NIRN-)O'RN*)O'0'$OC#N-PN*RN-)NJRN*)NJRN-)NIRN*)NIRN",
    "-)O'RN*)O'0%$O[#NJPNI@PA#NJPNI@Q2#NJPNI@Om#NJPNI@Qj#NJPNI@P3#NJPNI@OC#NJPNIu#$(`BO[#N-)OFRN*",
    ")OFTN-)NJ)OFTN*)NJ)OFTN-)NI)OFTN*)NI)OFTN-)O')OFTN*)O')OF2'$O[#N-)P/RN*)P/TN-)NJ)P/TN*)NJ)P/",
    "TN-)NI)P/TN*)NI)P/TN-)O')P/TN*)O')P/2%$Q2#N-)OFRN*)OFTN-)NJ)OFTN*)NJ)OFTN-)NI)OFTN*)NI)OFTN-",
    ")O')OFTN*)O')OF2'$Q2#N-)P/RN*)P/TN-)NJ)P/TN*)NJ)P/TN-)NI)P/TN*)NI)P/TN-)O')P/TN*)O')P/2%$OC#",
    "N-)OFRN*)OFTN-)NJ)OFTN*)NJ)OFTN-)NI)OFTN*)NI)OFTN-)O')OFTN*)O')OF2'$OC#N-)P/RN*)P/TN-)NJ)P/T",
    "N*)NJ)P/TN-)NI)P/TN*)NI)P/TN-)O')P/TN*)O')P/0%$O[#Y7PN=RNJ)OFPOFRNI)OFu#$)>PO'Z)OF0'$O[#Y7PN",
    "=PNJPNIPP/,bg,P/,N-,O'.Ry)O'2%$Q2#NJ)OFPOFRNI)OFu#$)NPO'Z)OF0'$PA#NJPNI@Q2#NJPNIPP/.N-)NJ>NI",
    ">O'0%$Om#Y7PN=RRy)NJcNIu#$)_PO'RRy)O'0'$Om#Y7PN=PNJPNIu#$)f.N*)NJ>NI>O'0%$P3#Y7PN=RRy)NJcNI@",
    "P<#N-PN*@P3#O'RRy)O'0'$P3#Y7PN=PNJPNI@P<#N*.Ry)NJ>NI,NJu#$*#2%$OC#NJ)OFPOFRNI)OFu#$*'PO'Z)OF",
    "0'$Qj#NJPNI@OC#NJPNIPP/,NI,N*u#$*1$NjS,$Q^S,$NjQ($Q^Q(&:gQ[JQ(&BgQ[JQ(&M&gQ[JQ($YsQ($O*Q($_N",
    "Q($W#Q(%MgW_Q(u#$*<#yzu&MgW_^Jz,iu#$*=#yzt%MgW_W(u#$*>#y#1&,U.[S8u#$*?#yOq&+U.`98u#$*@#ydS#R",
    "2%^Jz,JR2$YsO+$NjO+$Q^O+$MMM,%2M$N/-MVN/&,N)Ox8&+N)Ox8'N)MVRrOx80MzgSRrOx8&,2Ox8&+2Ox8'2MVRr",
    "Ox80MzgSRrOx8#X)$2X)#Ru$Q*Ru%39br%09br$MMV($oBSG$N/Oq$ZaOq&,U.[SmGu#$*[#yOo&+U.`9mGu#$*]#ydQ",
    "#y_Bu#$*^%dClgyB,&,U.[SsVu#$*_#yOr&+U.`9sVu#$*`#ydT&XgO#gFQ(u#$*a#yY9%d6r)(.MwMB(#St$2St$NuS",
    "t$N+St-2St-NuSt#TY(N),N;NaOx80+N;NaOx8$yco8%2PB8#Z/#VD#x($R-Y/%TYbGSG#y0,$R2Ru$QNR@',M9M5#^o",
    "'+M9M5#^o%2P(8%P(PB8%PBP(8%w?(S;%N+t.(%=M.Ru-HRu$MVNs$N+Sw$`zI&0y0+y.lW[%YbQh($yk=O+$NBx(%Yu",
    "O*8%:9O*$T@St%B9O*%F9O*%09O*%B98$O2Nt#wV%M$BM>%MdX`Q(u#$+9#yTa#yw)u#$+:$RlW($avj8$yImM*,Oq,M",
    "-u#$+@&,U.[S]iu#$+@#yOp&+U.`9]iu#$+A#ydR%U@vW]iu#$+B#yB;#y_Cu#$+C%dClg]i%oOvovh%ijvovh&oOPM&",
    "uc&ijPM&uc%rKMQub%yYGMQub$SRMg/Nf%$7u#$+N,B,F,M&,M0,M(,M4-M-(,Qh-ON(-,O--+O-/Nf%$M7$WLMg,3,0",
    ",:,B,F,M&,M0,M(,M4-M-(,Qh-ON(-,O--+O-u#$+k'NfWL%$/G4G1GMuGTrGM_GM]GM'GMIGM7GMsGM%GMZu#$,#%ac",
    "z,R($Oh($y::(%n'yB4($pn($yTO($yVD($y_d($W@($fL(%Xiygb($lr($ac($p2($yo0($aU(%yCny_T($t%($yE=(",
    "$y0G($yH/($y6[(%yOLyn1($yiK($yls(%yIRW@(%yo=pn(%yYL8($yRZ($ye-($yNQ($y4H($v8(u#$,S&O8,NX-.+N",
    "X-/MmM$N/Pj/NNM$N/Pj.QE*-.S7*-.,*-.+*--MWPj.S7MWPj.QEMWPj.:M>-.BM>--mKM;5M95O;6M;Vh/,+*--mKZ",
    "v5p'7x-N8L.Q%P`Pj/2M$DPj-y/@E-NuypX.W^Wx-.M.*Pj/Mm2P`Pj0HNX#McMY0M.NX#McMY.,*5.+*5-Ns-u#$-,$"
  ]

/-- Part 3 of the names. -/
def names3 : List String :=
  [
    "ii@&y.)>OEyjn&2TP'MU$].y6a%NVN/E$y62@$y5pypQ$y@&ky#yft$].yA/%P[%M[-'M_&=[M'M_&2TP'M_$y`Jky7M",
    "A0O.%P['7&=[M'7%P['M'-%M'&M'N#M,E&2TP'M7$yZU(%R&ycll$%P['Msu#$-D%yvky?Jav&2TP'Ms>NQ%P['M#&=[",
    "M'M#&2TP'M#$ya1ylD#u%$yg88$T#(%yn88(#yr?&2TP'Mq$sS($^R(%NB^R(&=[M'Mq'MxPO%$Om$yKr($y/3(%P['N",
    "#&=[M'MU$y?wE%P[%4-'45N<%Mx'N<%P['MI-%1$MGE$WuE$QvE$],E$XNe:%NH'NQ$yA-(&2TP%O.>Pw6'Pw>O.7M7Y",
    "B_B'MxPmPq'M[GM''N+PmPq'M''MxPmPq'MT'2TPT9'Mf?%MfG4G7GN($yaEN/$MxUo$d6(#y.]%Mx%N<&EOAuGe:&f?",
    "QN3yg>>yXJ>ed>S060Uc63ak60al6:al6Bal63e-6Fv&63P86:RU6FRU6M0RU%QNs,3%ZrTn3505:5B5F5M&5M05M(5M",
    "45Mw5S:5Rk5O]63M36FM363MB&%ZrTn3>0>:>B>F>M&>M0>M(>M4>Mw>S:>Rk>O]?3M3?FM3?3MB(ZrTn3MBMUMf6FMB",
    "6MwMB7N+3M3'Nf%$N+MU'ZrTnM&yNT&7O]y?+&>MB73M3MB&f?QNMgUc%MxMQ05:u#$.f$M.*$Me*$H*$MY*%,+*%IM)",
    "*%NmM1*-NG*%O(NG*-M1*&M.*#D&H*#D%M.Q,*%HQ,*&M.0]]*&Me0]]*&H0]]*&MY0]]*&M.*#N[&H*#N[&M.*OjM,&",
    "Me*OjM,&H*OjM,&MY*OjM,'IM)*#[l&M.*#C&H*#C&M.*#Qg&H*#Qg&,+Q,*7*#D%MYVc*'Me*#S2M.GH'MY*#S2M.GH",
    "'H*#OdMY'MY*#OdM.&QEO$Zw*&S7O$Zw*(NmM1*>MmM,+M.*>M,MAH*>M,&QEMiM;*&S7MiM;*'M.NX#McMeGMY'MeNX",
    "#McHGM.'HNX#McMeGMY'MYNX#McHGM.'H*MAM.*(Me*M.@MY*'M.*MAH*-VER+%MeVER+%HVER+%MYVER+'M.NXMAHNX",
    "'HNXMAM.NX'M.2*#D(,+2*#D'H2*#D%M.2*%Me2*%H2*%MY2*&,+2*&IM)2*&NmM12*.NG2*&O(NG2*.M12*%M.Nu*%H",
    "Nu*%M._;*%H_;*'Me*#2D'MY*#2D%M.S8*%MeS8*%HS8*%MYS8*&M.*>M,&H*>M,%M.A*%MeA*%HA*%MYA*'MeA*OjM,",
    "?NEsoR#MMM,ZM$M,62*HNEso'HA*OjTG'NmM1*>Od'O(NG*>Od&IM)A*'+*#%M;(MY*M.@Me*%:HR+'M.*#M$D'H*#M$",
    "D(,+*#M$D(M.*#2M$D(H*#2M$D),+*#2M$D&M.MiMo*&HMiMo*',+MiMo*$OAYM#y9V$VHX,$ym6y@2.T[NPy@1$VpTB",
    "#yIP#Xf$T_@&NPOTT_@%%T_@%UxQ:^:'T[NPa,Q:^:&%UxQ:^:%OG@yaD%M7YBSI5l#5_B$Qh(.z-)z-/($9M-$V#R@$",
    "TBQh$NsO&$MWO&$RuO&$M9Zs$a4Zs$]NZs$yaF>#XM$+Na#Na$ZGNa$vCNa#y=Z%T[NPaN$VG>%NPVG>$SA),Mr#Qy#R",
    "'#QP$2QP$NuQP$a-QP$veQP$yrlQP$S7QP-a-QP%QEa-QP#ym7#y3l#yc]#tN$9Qh#y@,$yCltN#o4$MSO&$N+MS%NBb",
    "qM%$yhWQ,$yw;SI$NPMS$QhMS%jEMJ>&NPjEMJ>%YOMJ>0TXNPikMJ>(ZNYOT>ikMJ>%R)MJ>&NPR)MJ>'R)MJMrMJ>$",
    "NuMS%YMMJ>$RW>%n@RW>$y=9Qt%y/SOEyO=%n@MJ>)YOMJ>MrOEUJ@(UJ@MrYOMJ>$OhON$ONOh&MWNYMJ>-MJ>$y:$>",
    "#y?x$y?j>$NSON%Q<MJ>&MJ>Say<U$ZGSa%ybVMJ>%NPMJ>$]f>%NP]f>%yjYRW>'NMM?MrMJ>'NLM?MrMJ>'NMM?MAM",
    "J>'NLM?MAMJ>(NMM?TXNPMJ>(NLM?TXNPMJ>%cINMM?-NLM?#Qt%NPRW>-NMM?-NLM?(ZNNMM?T>MJ>0NLM?T>MJ>'NM",
    "M?MrRW>'NLM?MrRW>(ZNNMM?T>RW>0NLM?T>RW>'NMM?MrNLM?'NLM?MrNMM?(ZNNMM?T>NLM?0NLM?T>NMM?#SH#SQ&",
    "SHMrMJ>&SQMrMJ>&SHMrRW>&SQMrRW>%T[NPtD5vZ$PK@$Pb@&NP/PK@6Pb@'PK@MrMJ>'Pb@MrMJ>)ZN/PK@T>MJ>9P",
    "b@T>MJ>(PK@#NPMJ>(Pb@#NPMJ>#yUD,T<,R'%M9UJ@-Z^@0UJ@MrMJ>0Z^@MrMJ>,[t,Ye$N]M-,Qh,M*-V#R@-9O&-",
    "MWO&-NsO&,ON,O+$ORM-,Qh,M*-9O&$+OY$,OY$M)OY$IOY#y0)#yTf#f(#yB('NuM$M,+V](2M$M,2+V]%T[NPyaI$N",
    "Pf(%T[NPyB')rS2M$M,2+V]%SHUd^w%SQUd^w%TmVT@&UxQ:TmVT(TmVT@MrMJ>)UxQ:TmVTMrMJ>$Z^@$UJ@#cK%yFT",
    "y9byS)#yIe#ywo#yVG#T>&+Na#R*,L&M7YBSA)>Mr5Qy5R'$O;O&$9O&$NSO&$V#M*#`a',TmahZxSI'+TmahZxSI%,Z",
    "xSI%+ZxSI%N+MSON%P@SAMr5)$2PK,Pb,Qy,R'#t6&MJ)VG>&NMM?#9&NLM?#9&P4cINMM?6NLM?)NMM?MJ>MrNLM?)N",
    "LM?MJ>MrNMM?'MJ>MrNMM??NLM?>SH>SQ'T[NPtDMrMJ7vZMrMJ)NPM9UJ@MrMJ>9Z^@MrMJ>)M9UJ@MrNPMJ>1Z^@Mr",
    "NPMJ>(NMM?TXNPRW>(NLM?TXNPRW>'SHTXNPRW>'SQTXNPRW>&NPTmVT@(T[NPa,Q:TmVT)NPTmVT@MrMJ>*T[NPa,Q:",
    "TmVTMrMJ$M$V(%r%MMV(&I+NyV(&M)+NyV((T_@#MmMMDDM$M,PUOG@MMDv#.%T_@#M$M,PUOG@MMD'T_@#9->SF'%T_",
    "@#SF&T_@#PS@0MMeN'Ux#MmMMD;M$M,PUOG@MMDv#-%Ux#M$M,PUOG@MMD%Ux#SF&%Ux#SF&MqVA[fySR$y=1($]=*#Z",
    "-$IN2$M)N2#yaB#y_a$U%N/$,U4$+U4$,Tc$+Tc%OU+](-,](%O$+](-,](%N+NP($M9SB#R*#dn#yg#$T#yck$^eV0$",
    "yrQM9&W;@yIf(%MxNP(#xG#]b%O$,Od-+Od%OU,Od-+Od%O$M/QP%OUM/QP#n)#e4(IN2Qt0MM[k$y]iUL&mT>OE+'Mu",
    "NY/W?P7#Z8&,N;NaM5&+N;NaM5&mT>OE,$jrMW#y:R%YM[cz-2#ykC$wLye7$y=Ay]m$y9aylR#yhu#y:(#y:)'j2n,E",
    "7z,H?yidS,?S,MJGaNGO;GV3GM;?M;Y&GV3?R@M,?VhM,?S,R@GVhHNMM?HNLM??M._b?H_b@S,M.*HH*?M;Vh@M)OYP",
    "S?Q<Y&@S,M)TYGQ<@M)OYV3?Me_b@S,Me*@IOYSF?YhY&@S,ITYGYh@IOYV3?MY_b@S,MY*?tdPS?Q<PS?O;PS?V3PS?",
    "M;PS@IWEV3?tdS,?M;NS?S,Oh@IOYN,?YhN,?NSN,?V3N,?M;N,@M)WEY&@,WEY&?MSN,@NLM?N,?NKM,?YhMS>yzV?Y",
    "&MS?SwPS@S,NPMJGP(@M)TYMS@ITYMS>Om>P<>OC?O[PS?PAPS?OmPS?OCPS>O[%NPSc8(+Na#MYVc*%yh%MiP7$WtE'",
    "M$N/#K9$bGE%y9ix'E%y=Mx'E$mJE$a)E(AM9#NVM$N/$mOE%`HULE$yFNE'N]MMM,#s#-LM)'WyM;#yYN*$ypYE$yTs",
    "E$yHdE(Miz,PgPM_y&(E@M'y&(E'y_1z-3y%_gPE7y&*gPE'aMa5E&0%yi/z,`E&j2n,ES,&aBOqULE$ya6UU$r]UU%t",
    "IZvE%y8)ZvE&,O-MnC5V+6MRC&+O-MnC5V+6MRC',M9M5MnOd>V+?MROd'+M9M5MnOd>V+?MROd',P@M5MnC?KVI?MRC",
    "%P@M5V+'+P@M5MnC?KVI?MRC$QPV+%MMN/V+*Mn,MrMR+P@M5P]2+MrMR,P@M5P]$_BO$,OU%O$M9M5%OUM9M5AMAO$M",
    "9M5%^pEOU&,M$P7N/&+M$P7N/&MMyfgN/My>Mp>Oa>Rr)y<cEMNM$)O$+QOU+H#M;BM))MM#M;BI)MM#M;@M$#LBM))M",
    "M#LBI)MM#L@M$)Q,BM))MM#Q,BI)MM#Q,@M))MM@I)MMAM$)O$,QOU,$M9]L$ZoE$y?=E%M$N/V+$ySgNU.MmMANN.NN",
    "MAMm/MmMA0e&/0e&MAMm>Z4,wX,w2,st$S$nZ#yBE$O$O-$OUO-%O$P@M5%OUP@M5&O$QpP^M5&OUQpP^M5$AynA&jrM",
    "W#M;#yjQ#yAl$[Va5$y?DQy%aBy@4E'=+N;2L/,N;2L/IN;2L/M)N;2L2+N;2L#M$M,2,N;2L#M$M,2+N;L#2M$M,$y.",
    "a]&#yjM$ym_]&&]b#yAryfL'=Md,N;L7+N;L7IN;L7M)N;L%2M$M,&=M9OAN4.M;OAdY$dFE.NEy%pE5E-yhnE%y]DU>",
    "E%EOAcn7VR@nrGTw7OG@TwG_V5mN5[X5Wt5jY6MMSy6N/X=6M$Sy6&X=6kMZo6ZzR8>NY7lBbz]C7X+U83G0G:GB6R7[",
    "X6vqoI8OG@_VNF5[r7OG@Md5eQ5]C6X?Oq6b.Oq6dYOq6[4Oq5Q(5aD$k)E$MiP7%EOArZ7aD&07eQ&0u#$6^$cvC,k]",
    ",]M-NB]M-T.y5'-WwY/.`b`VoG.y/%@Sc&r#NEY4Eu#$6f$cvO+%r#O+Eu#$6g&cvy:KiiND-2Vhu#$7&%N]MQ3505:5",
    "B5F5M&5M05M(5M4-NDMw5S:5Rk5VX5V,5T65Tt5VN5U;5V>5Nr%^[MQ3505:5B5F5M&5M05M(5M4-NDMw5S:5Rk5VX5V",
    ",5T65Tt5VN5U;5V>5Nr&MQ3NeN4.0NeN4.:NeN4.BNeN4.FNeN4.M&NeN4.M0NeN4.M(NeN4.M4NeN4&NDMwNeN4.S:N",
    "eN4.RkNeN4.VXNeN4.V,NeN4.T6NeN4.TtNeN4.VNNeN4.U;NeN4.V>NeN4.NrNeN4'^[Nf%$/GN#GMUGMfG4GN<GM[G",
    "M_G7GN(GM]GM'GMIGM7G1GMsGNQGM#GM%GMZG.GM^GN%GMuGMTGMq'N]Nf'$/GN#GMUGMfG4GN<GM[GM_G7GN(GM]GM'",
    "GMIGM7G1GMsGNQGM#GM%GMZG.GM^GN%GMuGMTGMq7%$/GN#GMUGMfG4GN<GM[GM_G7GN(GM]GM'GMIGM7G1GMsGNQGM#",
    "GM%GMZG.GM^GN%GMuGMTGMq-MQMg&R7N]NDS:>Rk>VX>V,>T6>Tt>VN>U;>V>>Nr&2N]MQ3>0>:>B>F>M&>M0>M(>M46",
    "NDMw&R7N]MQMg&P7lyMNMM6JMM6MNM$6JM$8MNNuO+MM8JNuO+MM8MNNuO+M$8JNuO+M$8MNT@O+MM8JT@O+MM8MNT@O",
    "+M$8JT@O+M$8MNM))+9M)MN)+JAJ)+MN8JM))+8MNM)),9M)MN),JAJ),MN8JM)),8MNI)+9IMN)+JAJ)+MN8JI)+8MN",
    "I),9IMN),JAJ),MN8JI),8MNM$)+9M$MN)+J:IJ)+M)MN:M)J)+IMN9M$J)+MN:M)MN)+IJ:IMN)+M)J8JM$)+8MNM$)",
    ",9M$MN),J:IJ),M)MN:M)J),IMN9M$J),MN:M)MN),IJ:IMN),M)J8JM$),8MNM))MM:,J)+M)MN:+J),M)MN9M)MN)M",
    "MJAJ)MMMN:+MN),M)J:,MN)+M)J8JM))MM8MNI)MM:,J)+IMN:+J),IMN9IMN)MMJAJ)MMMN:+MN),IJ:,MN)+IJ8JI)",
    "MM8MNM$)MM:,J)+M$MN:+J),M$MN9M$MN)MMJ:IJ)M)MMMN:M)J)IMMMN9M$J)MMMN;,IJ)+M)MN;+IJ),M)MN;,M)J)",
    "+IMN;+M)J),IMN:M)MN)IMMJ:IMN)M)MMJ:+MN),M$J:,MN)+M$J8JM$)MM8MN2O+MM8J2O+MM8MN2O+M$8J2O+M$62M",
    "M>M$9M)N))+2A2)+N)82M))+9M)N)),2A2),N)82M)),9IN))+2A2)+N)82I)+9IN)),2A2),N)82I),9M$N))+2A2)+",
    "N)82M$)+9M$N)),2A2),N)82M$),9M)N))MM2A2)MMN)82M))MM9IN))MM2A2)MMN)82I)MM9M$N))MM2A2)MMN)82M$",
    ")MM9MNR*M))+Y,II),Y+CNyMn+>MR,S,>MR+GNt>,>I>+>M)6J,>I>+>M)9MN,)J+AI)JM)9J,)MN+AI)MNM)%MnM/NF",
    "&MR3P8NF6O`NF.:RUNF-M/NF.FRUNF.:ReNF.M0RUNF$NeNF&,M0RUNF.:ReNF.FRUNF-M/NF.:RUNF.3O`NF6P8NF%+",
    "M/NF$MNRi$MdRi$l?Ri&Mn3P8NF&+3P8NF%RdMR,5+-Mn,C)MR,)MR+P+KMn+)MR,l+5+@)MR,[)MR+$=M9$AM97#TpX",
    "&8Vm=%M9&M9#MMS%6M$S%7y]rl*S%:Mn,>MR+S%B+>MR,S%7Nyl*S%%=%M9%A%M9$=W?$AW?%=M$W?%AM$W?$=se$Ase",
    "&=IN;L&AIN;L'=IN;%L'AIN;%L&=+N;L&A+N;L'=+N;%L'A+N;%L&=+N;Ze&A+N;Ze&=M)N;L&AM)N;L'=M)N;%L'AM)",
    "N;%L&=,N;L&A,N;L'=,N;%L'A,N;%L&=,N;Ze&A,N;Ze$=O;$AO;8Vm=%O;#yAa#SB$AM;$O2M;&M;#M$S%#y50$=M;'",
    "M;#,M/=7+M/=7MRM/=7MnM/=@+Rd=:YMTXMn,Rd=&,M/=M;&+M/=M;$TgRu-AM;'MnM/TgAM;'MRM/TgAM;'Mn,RdY_R",
    "*/+RdY_R*'MR+RdY_R*/,RdY_R*%MnM/M;%MRM/M;&=MR+L6,L.Mn,L6+L$ARu'M9#,M/=7+M/=9Mn,NyM/=9MR+NyM/",
    "=(AM9#M$y4DN/0IN;L#9)IN;L#,M/=I+M/=$N:M;(AM9#Mn,Rd@MR,RdH+Rd@Mn+Rd0M;#Mn,Rd@MR,RdH+Rd@Mn+Rd%",
    "Mn,L-+L%MR,L%AMdM9%=MdM9&AMd%M9&=Md%M9%MR+L&=Sx#Xs#X##[3#e7#y9Q$=NS$ANS#^0#ymH#Sx$j@ry$aGry#",
    "y9c#cz$=T#$AT#$ViP76#Sc>Mu#TA&[3#W>y>*$Z,jt%A_2VI%=_2VI#ygQ'N+NHaoOkRu&=,N8MH.+N8MH&A,N8MH.I",
    "N8MH.+N8MH.M)N8MH%e0)l)$y6A($ycH($y4?(#kH#y/=$y]qNt$PWP<%Nt@yOe5yJ=%NS)X'$VsE$y.+ygN%][)yhH$",
    "d5E$UhT&%ynKOA]^5pM5T75ek5TH5SU5V<5S$%_g@y<z%A]OM8-R%M8%=R%M8&ASx#Xs%U@O`PE%bpO`PE#qr$X>(#S$",
    "$V:(#yJy#yfY#x.#rV#t<#y/b#yl[#yCe#y6##yNn#yrZ#yO+#yfp#yf5#y6.#y/X#y`C%AOcQe5R<5Su5S_5Ov5Sq%=",
    "OcQe5R<5Su5S_5Ov5Sq-v?U^%AOkU^-O;U^%=]'U^%Av?U^%=OkU^-O;U^%A]'U^$Z,yi]$O`Q?$P8Q?%jiP8ZU-WIZU",
    "%r;X@(-rL(-Xy(%M1_GNt%NG_GNt%x)dZE(dZEOA[1MyW<HM=W<HMpW<HN>W<HNRW<HNvW<HOaW<?yCgyS(&=x)dZE%y",
    "cn^YE&y_(z-9^YE%y_]^Y($fIE%aJM8My5M=5Mp5N>5NR5Nv'AM;#9+?0M>(=M;#A9+@0AM>%XdOAT&5Uh&lbOANLT&6",
    "yNrUh>T&6NLUh$AS<$=S<%][)t,#j($Psyk<%VQ@y.:#yff#iw#Yu#n>%VQ@yFS$y09E%yAmz,Sz,s%W:ANS&:pky9n+",
    ">,$yv^(%Mzyrk(%]5X>(-V:('yIhX>)V:(&V:)X>(.#D(B)V:)X>('M$V:#D('MMV:#D(%MdAM;-=M;.%AM;$yRqE$y=",
    "]E%ypbshE#y9H$yBAypo#yWH#y6m#y^T#yJs#yrB#y7G%=PEyO7#ygD#yg+#ybZ#yg9$yi+S^#y3@$ORUL%AlxQ65Qe%",
    "=lxQ65Qe%e7[:e5%SxjqX##W>$=e7&ekX#)W>&MxA_2VI.=_2VI&AO;NYM9$OipR$y=LUu#y]f#t,$Uuyhs&]`#ANt%N",
    "]OipR#y6s$O#]@(Pd3gW,[9[,(=0gW,[9[,(A0gW,[9[,&=,pQqs&A,pQqs%m$v.('JAM)N;L%,OM]@$ORTA*VrNyNYA",
    "M;NY=M9$=f'&yd0,]@My>M=&y0/EOAx.*JM;#D)0M>-#^_&+y%hoS^_&,y%hoS^_$NB^_&=NtNEdx$ygnyh+#kj#`r$y",
    "Fsyhb%n>[:yH6-#yF(&ZEEOAyO4#V<%[3NEnZ#n#%S<NYo2#yAM#yf8%M9BX&#yhe$V.v+%R:#S^#ec%W'`VE%nsyE3E",
    "$yB=yaZ&YeNE=M9)AS<#MMK=yj^%=dfXw%Mnk(Xw$=Xw%MRk(Xw$AXw.JSc8%T#c&($vzm$#Vf#U<$PGam,Oe$x9Oe$x",
    "YOe%MR+^^#^^%Mn+^^$Arm$=rm$Sc8%JSc8$T<Mu%JT<Mu$ViMu%JViMu%W:PONt%JPONt%MiNVNt&JMiNVNt$NfNt&S",
    "NANfNt%W:NfNt$yRWNt%NS@y<#&BUaTONs.WqTONs'JBWqTONs&B]'TONs&=BOPNS&ABOPNS#yiC&eKW:ANS%N]ANS&M",
    "iNV=NS&=NVANS%W:=NS&JW:=NS$UWNS%SNANS$JNs%MiNVNs%M(QnNs.OP=NS6UWNS&M&OP=NS'M(OPtv=NS(JM(OPtv",
    "=NS&RkOP=NS%TtOPNs%UaTONs'MiNVUaTONs&JUaTONs(M&t&=)A]J$=]J$A]J'M(t&W:=]J(N]MiNVM(OPNS'JUaTOU",
    "WNs#e6%enynHe6%Jkde6#v@$Jv@%WqTONs'M(UaTOtMNs(JM(UaTOtMNs$Nt8%SNAM;&R7ORNt8(MR+aVYGAM9(Mn+aV",
    "YGAM9'MR+SNAM9'Mn+SNAM9&=P(8Nd&AP(8Nd.PB8Nd'=O;QhAMu&JPB8E%MNM$M,%MdM$M,%JM$M,1N)MxNKOx8Nd8N",
    "KOx8Nd12MxNKOx8Nd8NKOx8Nd1MVN)NKOx8Nd92NKOx8Nd'T2U]Za(Nd&JPB8Nd/OkPB8Nd-=Ok'NHJ=OkRu$aoOk&NH",
    "aoOkRu&Md,O-Nd.+O-Nd/]H,O-Nd7+O-Nd0,N;NaM5Nd0+N;NaM5Nd)J,N;NaOx8Nd1+N;NaOx8Nd0,N;NaM5Nd0+N;N",
    "aM5Nd(MN,QpP^M5Nd0+QpP^M5Nd'Md,P@M5Nd/+P@M5Nd'leR7N]MQ3G0G:GBGFGM&GM0GM(GM4?NDMw0N]PmPqMQ3P0",
    "P:PBPFPM&PM0PM(PM4HNDMw1R7N]PmPqMQ3Y0Y:YBYFYM&YM0YM(YM4QNDMw'JW^MoH*-M-(-Qh(-V#(.O(NG*-H*.Nm",
    "NG*&y>%SGH*'JSMz-RH*&LMoH*'JLMoH*'S8LMoH*(JS8LMoH*%=H*(:`5O$YFHN28OUYFHN2%=HN2)J=T2MY)H*AMe)",
    "H*&vG=H*(Jkuz-0=H*'+WhAH*',WhAH*(RPYHSNAH*(SiYHSNAH*)JMR+YGAH*1Mn+YGAH*)URMR+YGAH*$P@Qg)URMn",
    "+YGAH*'N]JAH*&AgHH*'=gHO(NG*6H*7NmNG*(J=gHO(NG*?H*@NmNG*&Uaz,FH*'JUaz-FH*&fFy&%H*'JfFy&%H*&M",
    "iz-+H*%2P@Qg%:y=BNa(ALVm%AL#d7$MiPK,Pb',M%S4[f]/'+M%S4[f]/&Mr#9QO&Q%P`tEPK%PbtEP`'M$M,#MMD%X",
    "`SLNy$MmV#%X`VrNy%ORSA)5Mr'AO;#Uv9%)#9&T_@Z]Me'MR+Od#9'Mn,Od#9%,d%]l%+d%]l%Ned%]l%N:IOY-M)OY",
    "',)+2V]>OY,cK%Mm+OY-,OY'IOY#M;-'SBaOSaMMu;&Akuz-HO;I#M.TxQHTx/M9#M.Tx?HTx'X`,AM9M5/+AM9M5.,N",
    "aM5.+NaM5/,2NaM5/+2NaM50,AQpP^M50+AQpP^M5.,]HO-.+]HO-%MeT@*%MYT@*&QEn5M;*&S7n5M;*'+*#N]M-%Mm",
    "M.*-H*.,+*.M.2*.H2*/,+2*/M.*OjM,/H*OjM,0M.2*OjM,0H2*OjM,6_;*%y4jsik)6M>My>M=>Wd>Mp>We>[E>_v>",
    "N>>Wf>[F>_w>g.>_z>`(>y#W>NR>Y?>`->_x>g3>fo>`)>y#Z>`1>`$>`,>y#^>g/>y#f>y$e>y#X>Nv>Y@>`/>_y>`0",
    ">`#>`*>y#]>g:>`%>g*>y#`>g0>y#h>y$g>y#Y>gB>`&>`.>y#a>g4>y#i>y$h>y#[>g8>y#p>y$o>y#_>y%+>y#g>y$",
    "f>z$@>Oa>[D>g->fl>g5>fp>g)>z$V>g;>fs>g+>z$c>g1>z$y>z%E>z$J>y%J>fu>y$w>z$i>y%,>z%'>z%K>z$P>g9",
    ">z%0>z%U>z$]>z&`>z$s>z%?>z$D>y%S>fw>y%#>z$l>y%.>z%)>z%N>z$S>y%;>z%3>z%X>z$`>z&c>z$v>z%B>z$G>",
    "y%H>z%7>z%]>z$f>z&n>z%$>z%H>z$M>z'v>z%->z%R>z$Y>z&]>z$p>z%<>z$A>QW>YA>y%&>fm>g6>fq>`+>z$X>g<",
    ">ft>g,>z$e>g2>z%#>z%G>z$L>y%L>fv>y$x>z$k>y%->y#j>z%M>z$R>y%:>z%2>z%W>z$_>z&b>z$u>z%A>z$F>y%U",
    ">fx>y%$>z$n>y%/>z%+>z%P>z$U>y%<>z%5>z%Z>z$b>z&e>z$x>z%D>z$I>y%I>z%9>z%_>z$h>z&p>z%&>z%J>z$O>",
    "z'x>z%/>z%T>z$[>z&_>z$r>z%>>z$C>y%X>fy>y%%>z$o>y%0>z%,>z%Q>z$W>y%>>z%6>z%[>z$d>z&f>z$z>z%F>z",
    "$K>y%K>z%:>z%`>z$j>z&q>z%(>z%L>z$Q>z'y>z%1>z%V>z$^>z&a>z$t>z%@>z$E>y%T>z%;>z%g>z$m>z&z>z%*>z",
    "%O>z$T>z(*>z%4>z%Y>z$a>z&d>z$w>z%C>z$H>z)<>z%8>z%^>z$g>z&o>z%%>z%I>z$N>z'w>z%.>z%S>z$Z>z&^>z",
    "$q>z%=>z$B)H0Mo*#M$DR2M$D(M.2*#M$D(H2*#M$D),+2*#M$D(H0Mo*OjM,'M.2*OjM,'H2*OjM,'MY*#MMD'Me*#M",
    "MD-Nu*%MYNu*&M.2O+*&H2O+*&M.NuO+*&HNuO+*00MoNuO+*/*#O2U]&Me*>M,&MY*>M,)H*#N[#M$DR2M$D00Mo*#N",
    "[[#M$De2M$D%M.*SY%H*SY&M.2*SY&H2*SY'M.*>=O;'H*>=O;)M.*OjM,>=O;)H*OjM,>=O;(NmM1)O(NG*0NG)O(M1",
    "*/M1*#C/NG*#C'O(NG*#C/M1*#C)NmM1*)NmNG*1NG*)O(NG*)O(NG*)O(M1*1M1*)NmM1*'SLNyOiVrNy'VrNyOiSLN",
    "y)O(NG*OiNmNG*)NmNG*OiO(NG*(VrNyOiNmNG*(SLNyOiO(NG*)NmNG*OiNmM1*1M1*OiNmNG*'Q,*N8lh+(*N8HWUa",
    "6MePMY8MYWUa6M.PH'+y%wR*S7*',y%wR*QE*&O$R*QE*&OUR*QE*(O$R*S7*#Qh8QE*#M-'MR+dqS7*/,dqQE*&QEOM",
    "M;*&S7OMM;*(H*-NNM.*(M.*-NNH*(NNH*-M.*'H*#M-5'M.*#M-5&H*S1Mu(,+*S1%M;)Me0Mo*Oj%M;),McI+McM)N",
    "X9M)+McINX)IMc+M)Mc,NX9,M)Mc+NX),McI+McINX)IMc+M)Mc+NX),McM)+McM)NX)IMc,M)Mc,NX)M.NX#McI>M,)",
    "HNX#McI>M,)MeNX#Mc+>M,)MYNX#Mc+>M,)M.NX#McM)>M,)HNX#McM)>M,)MeNX#Mc,>M,)MYNX#Mc,>M,)M.NX#McI",
    "OjM,)HNX#McIOjM,)MeNX#Mc+OjM,)MYNX#Mc+OjM,)M.NX#McM)OjM,)HNX#McM)OjM,)MeNX#Mc,OjM,)MYNX#Mc,O",
    "jM,v#.M.NX#McI-M.NX#McM)v#.MeNX#Mc,TUMeNX#Mc+v#.HNX#McI-HNX#McM)v#.MYNX#Mc,TUMYNX#Mc+v#.M.NX",
    "#McI-HNX#McIMM)-HNX#McM)v#.HNX#McI-M.NX#McIMM)-M.NX#McM)*M.NX#McI-MmO+JM)5MmO+*HNX#McI-MmO+J",
    "M)5MmO+v#.MeNX#Mc,TUMYNX#Mc+v#.MYNX#Mc,TUMeNX#Mc+(+2*#TpQ='ON(-H*'MSO&-H*'M.*-MSO&'H*-MSO&@R",
    ")MJ>'NMM?-M.*'M.*S1NMM?'NLM?-H*&PK-H*&M.*S1PK&Pb-M.*%,TaN[%+TaN[%ITaN[%M)TaN[&NuM$M,]/%MqVAy",
    "iX6[1Oh&,AP@M5&+AP@M5%,AO-%+AO-'MqVA,UJM57+UJM57,jzM57+jzM5',M9M5#PS'+M9M5#PS*,M9M5#TxNYO$Od",
    "*+M9M5#TxNYOUOd*,M9M5#TxNYOUOd*+M9M5#TxNYO$Od',NaM5#9'+NaM5#9',R*NMM?M5'+R*NLM?M5(2,R*NLM?M5",
    "0+R*NMM?M5',=QpP^M5'+=QpP^M5$O2Yr%M$VcN/&ZGNaZ],'+NaQ+#M9'ZG+Na#9&Na#M%QO$MbNa&vCNaZ],>I$MxN",
    "a$N+Na%Na#PS&N+Na#PS&RbNaZ]I>M)v#/ZGNa#MiYQy?VNY*N8I)+oN8I),oN8M))+oN8M)),oN8+)IoN8,)IoN8+)M",
    ")oN8,)M)%N+VpTB&VpTB#SF@%M;-@+*-@,*-&M;#MMM,%N]M$M,,VG-Q%P`,d7v#/M;aOSaMMM,)O$M/aOSaM$M,.#yk",
    ")Mu'N]QEz-=V#(&I*S1M;%N]ARu,Ru-NMM?-NLM?)M;#%M;>OE+:0MMeN>OE+&ORSLNyR@.VrNyR@,Ns-%M;,M9%0Z4_",
    ":&L#9-5PS%M%NYL'L#_+PUOU'+L-,L',LTUM$M,'M$M,TU+L'`a#,M/=7+M/=$=`a'M*#,M/=7+M/=$A]b$=]b%,Y9Yr",
    "%+Y9Yr&,2Y9Yr&+2Y9Yr$yINXM%Y/MAXM'XMrS#M$M,%2z,YcK&M9#y9jy^)$yIOQ:$yh3SI'ON()Q'VGR#MS-']f>)Q",
    "'VG$yDeyj:#ym8)M)N;L#,M/=I+M/='=O;#M)*,SB'AM;#M)*'=M;#M)*&y?nz,GAM96=M96AO;6=O;6AM;6=M;$u;z,",
    "T%Q%P`O&%P`#SF'Q%P`#MMD$RtP`-Q%P`$2M-$NuM-',N;T2NaM5'+N;T2NaM5#[+#yTW'M7YBN]9O&?M-O&?M*O&8R'",
    "O&#9PM-7M9QyO&?R'O&&0SA)O&6MrO&&M7YBM*O&%yTk0Y)%_B#QP%T@QPO&%yAZd2QP&QP#2D.y0M#R@$y7sav$QEoQ",
    ")N/oQ#tud4[cZfAdqd4[cZf8NPyILOEZf'QP[c/SGO&%ybSQPO&(QP#M.*#C6M*(5Qy5R'5SF5PS#]l&N:,LO&&MqVAy",
    "fja)>y`?>yaA(M-(#%M;-@N$O7-?MS-?95?MS5?WL0?=L'Qh(#NK-?95?VrM>?SLM>(M-(NY,M/M;@+M/M;&yr8MrNtS",
    "I'T<(#9->PS'ZxSI#OUOM$v1SI(T<(NY,M/M;@+M/M;(N]T<(#N$O7'T<(NY2M;%N]V#(&M-(NYL&Qh(NYL&T<(NYL$o",
    "RSI%ydBoRSI&MqVAycxa)%y.xMrl#%Qy#9&R'#Qh(5SF%Qy#SF6SA)&R'#SAMr--Qy%Qy-R''R'-M,-Qy'Qy-M,-R'(R",
    "'TU)Z4#R'(QyTU)Z4#Qy&OMR'#_+.Qy#_+%2M9Qy5R')OMR'#_+)v1SI'SA)#9-/Mr#9-%2SA)5Mr&0yIiSA)>Mr%yhv",
    "N:Mr5)'SAMrd)SA)/)#KU]/Mr#KU]/)#MMO+/Mr#MMO+/)#2SF>PS?2PS&%V`#PS'SAMr#2SFGPS&MqVAy=rj/6dVj/'",
    "ON(#95&]f#9-)NuMMM,#2M$DINuM$D'MSO&#9-?SLM>%WHQhWH&y9`#9-%ON#Ns(R)MJ>#N$O7'YOMJMrMJ>'ON(-M-(",
    "'M-(-ON('ON(-MSO&%2OhMJ&0kxONuy&:kxONuyv#-ON(#0M>-)0M>5'RW#BM>-'NMM?#M;QO'NLM?#M;QO(NMM?#P(8",
    "-(NLM?#P(8-(NMM?MrQ'MJ>(NLM?MrQ'MJ>+NMM?MrQ'MJ>#9QO+NLM?MrQ'MJ>#9QO+NMM?MrQ'MJ>#9-+NLM?MrQ'M",
    "J>#9-v#-NMM?MrQ'MJ>#9-+v#-NLM?MrQ'MJ>#9-,&NMM?Mr[b&NLM?Mr[b*NMM?)N)QqNPMJ>*NLM?)N)QqNPMJ>'NM",
    "M?)NP[b'NLM?)NP[b+NMM?-2QqMJ-NLM?+NLM?-2QqMJ-NMM?(NMM?-WHMrMJ(NLM?-WHMrMJ)NMM?-WH-NLM?)NLM?-",
    "WH-NMM?+NMM?-NLM?-2QqMJ+NLM?-NMM?-2QqMJv#.NMM?-Q'MJ-NLM?-Q'MJv#.NLM?-Q'MJ-NMM?-Q'MJ(Q'MJ>MrN",
    "MM?HNLM?KNMM?#9QOKNLM?#9QO)2QqMJ>MrNMM?QNLM?:Q'MJ>MrNMM?ZNLM?&WHMrNMM?6NLM?1-NMM?-ON(9NLM?-O",
    "N(&2rYNMM?6NLM?8NMM?#PS'NLM?d)NMM?7TUNMM?'NMM?OMSaQ]'NLM?OMSaQ]*NMM?OMSaQ]-Q'MJ*NLM?OMSaQ]-Q",
    "'MJ$v0Y-$pTY-'v0Y-MrMJ>'pTY-MrMJ>'ON(#y51-(SH-N)QqON((SQ-N)QqON()SH-N)QqNPMJ>)SQ-N)QqNPMJ>&S",
    "H-ON(&SQ-ON('SH-NPMJ>'SQ-NPMJ>'SH-R)MJ>'SQ-R)MJ>(SH-NPR)MJ>(SQ-NPR)MJ>$2SH,SQ%PK#9%Pb#9'PK#M",
    "-(5'Pb#M-(5'PK#T<(5'Pb#T<(5*PK@MrMJ>#9-*Pb@MrMJ>#9-'PK@-ON('Pb@-ON('PK@-MSO&'Pb@-MSO&(PK@-R)",
    "MJ>(Pb@-R)MJ>(PK@-NPMJ>(Pb@-NPMJ>'M9,MiP7O&/+MiP7O&$OMPK,Pb/PKMrMJ>/PbMrMJ>%PK-Pb%Pb-PK%PK-P",
    "K%Pb-Pb-TUPK:)Z4SaO+#PK&T_@Z]MY&t6#Y,O$$yn?Qy#yB*#yYI%NN,OY-M)OY-IOY%d7#M%'M$M,Nu+V]'2M$M,,V",
    "]'M$M,2,V](2M$M,2,V]*MmO+Oj,^:@2M$'NNM)OY#SF/IOY#PSA-NNM)OY%2M)OY-IOY.DNP('N+2DNP()T[NPaN#N+",
    "yW?R@'M$N/#M;-G5'M)OY#M;5&VG#MMD6MSO&'NuM$M,jx^w@#MMD-OhO&.rYNMM?6NLM?*2QqQ'NMM?MrMJ>BNLM?Mr",
    "MJ>&NuP`jx^w'N:NuM$M,O&%2P`O&%AM$M,'M7YBAM$M,&NmNGA*.M1A*&O(NGA*.M1A*&,+A*%M.=*%Me=*%MY=*&Nm",
    "NG=*.M1=*&O(NG=*.M1=*&,+=*&IM)=*'H*#S2MYGMe'M.*#S2MYGMe'M9#O$M/=7OUM/=9Mn+NyM/=9MR,NyM/='O;#",
    ",M/=7+M/=7O$M/=7OUM/=$O2M9%=N:M9%AN:M9&=P4%M9&AP4%M9$=Zb$AZb,b6$=b6%MM=b6%=N:M;-MdO;%AMdO;%=",
    "MdSB%AMdSB%=%O;5SB%A%SB%=MM]>%AMM]>%=M$]>%AM$]>',*#%M;%:M.R+',*#N]M-&MmM._;*)M.0Mo*#M$DR2M$D",
    "HOjM,@NuO+*/*#O2U]AN[#M$DR2M$D00Mo*#N[[#M$De2M$D.*S1Mu'Q,*N8lh,'ON(-M.*(Q%MSO&-M.*)M.*-Q%R)M",
    "J>'H*S1NLM?>Pb%M.T@*%HT@*(Q%MSO&-H*)H*-Q%R)MJ>'MSO&-M.*(M.*-R)MJ>@Q%MSO&(H*-Q%MSO&'MYLMoVc*&",
    "NNQ'Nm*.`SO(*%AMdNS%=%NS%A%NS&=+N;Zb&A+N;Zb%JN:M;/d&#d&QO/M;#M;QO,M;-N]TA(Q'Nm*#XJQ=(`SO(*#X",
    "JN[(Q'Nm*#MMN[(`SO(*#MMN[)Or*N8MYWUNmNG*NNOr*N8MYWUNmNG&M.LMo*&MeLMo*&HLMo*&MYLMo*',+LMo*'IM",
    ")LMo*'NmM1LMo*/NGLMo*'O(NGLMo*/M1LMo*'M.LMoS8*'MeLMoS8*'HLMoS8*'MYLMoS8*(S7LMoMiM;*(QELMoMiM",
    ";*(M.LMo*>M,(MeLMo*>M,(HLMo*>M,(MYLMo*>M,u#$Kq)NmM1LMo*>M,1NGLMo*>M,)O(NGLMo*>M,1M1LMo*>M,*M",
    ".LMo*#2MMDu#$KuZM$D*MeLMo*#2MMD*HLMo*#2MMDu#$KwZM$D*MYLMo*#2MMD%MMU_UL%M$U_UL+M.LMo*MAHLMo*v",
    "#-MeLMo*M.@MYLMo*+HLMo*MAM.LMo*v#-MYLMo*M.@MeLMo*'M.LMoVER+'MeLMoVER+'HLMoVER+'MYLMoVER+'M.=",
    "N]A*'Me=N]A*'H=N]A*'MY=N]A*)QELMo+.S4*AOU.S4*A,.S4*AO$.S4*$Zo,,+$rZ,,+'BOdR+klQE%H=*u#$L:'EO",
    "A[1/y?E):`5O$YFM.PXN29+YFMePXN29O$YFHPXN29,YFMYPXN2&=M.PXN2.MePXN2.HPXN2.MYPXN2*MYLMo*#MmS2M",
    ".cH*MeLMo*#MmS2M.cH*M.LMo*#MmS2Me*HLMo*#MmS2Me*M.LMo*#MmS2MY*HLMo*#MmS2MY(=T2MY)M.*HH*8Me)M.",
    "*HH*8M.)Me*8H)Me*8M.)MY*8H)MY*&^z*M),>+6I,>+6,I6+I6,M)6+M)*MeA*OjM,#MMM,(IN2NY/W?P7%d)A_:7)=",
    "_:-=_:'ViP7#MNMu$N]Mu-P#Mu%=M9Uv-O;Uv%Mx=Zb%MM=sA$=sA0MdIN;LUv8M)N;LUv8,N;LUv8+N;LUv%rV&0&O$",
    "M/=M;&OUM/=M;'MNBOP=]*(NHMNBOP=]*&ABOP]*'NHABOP]*%M9^eV0$ypV($b.8%t<&05:5B5F#yn>#yaG#y0.#yHa",
    "#y`%#yWD%APEyg)&=O;NENt&f(MNPEy/r#y:C#yEm#yz.#yMA#y/O#y.-#yuu#y`r&,M/=NS&+M/=NS'NS#,M/=7+M/=",
    ")M.0Mo*#L[d)Me0Mo*#L[d)H0Mo*#L[d)MY0Mo*#L[d%y?m&350#yg$&ye@jDEyrU>yYR>yb^>y4>>yg/>ynC'ON(#XM",
    "5$yp_E$yg3E$]5E$y_.E%N++Na%yFMy_;E&nP'$`R>`g>f<>b*>aS>fY>fd>]8>fb>XP?GXP>7>aQ>bR>c%>ZK>cV>cx",
    ">d?>db>e3>f1>f6>at>b5>sR>Nq>e'>WX>Y]>N3>TJ>_l>fV?vDM2>O6?%P*Q#N[>OI@XO%P*?RtP*@XORtP*>Vv>XQ>",
    "uo?w[/?pVZK?kOY].%$`R>`g>f<>b*>aS>fY>fd>]8>fb>XP?GXP>7>aQ>bR>c%>ZK>cV>cx>d?>db>e3>f1>f6>at>b",
    "5>sR>Nq>e'>WX>Y]>N3>TJ>_l>fV?vDM2>O6?%P*Q#N[>OI@XO%P*?RtP*@XORtP*>Vv>XQ>uo?w[/?pVZK?kOY])Nf'",
    "$M'#2M,1%$M'#2M,1'$M'#KMS@Ms#D@M##N[0%$/#DAMZ#NyD0'$M_#O:0%$M_#O:0'$M]#O:0%$M]#O:0'$Mq#O:0%$",
    "Mq#O:.'$O[@MI#C?Mx/GO[1%$M^#+C0'$N%#C0%$N%#C@M^#Pt/'$M/M_/%$M/M_?ylAPQ@4#s#AMxM##N[B1#MVMWQO",
    "0$%'Mx4/WL%$N(&Of$'M^)Nf'$M%#Y+N[AMq#Y+N[&PN'$iy.%$iy.'$x:.%$x:.'$Pw.%$Pw.'$l<.%$l<.'$];.%$]",
    ";.'$v;.%$v;.'$_r.%$_r.'$no.%$no.'$w9.%$w9.'$oE.%$oE.'$]q.%$]q.'$pW.%$pW.'$Ow.%$Ow.'$OW.%$OW.",
    "'$^$.%$^$.'$1.%$1.'$O..%$O..'$P0.%$P0.'$e,.%$e,.'$Qo.%$Qo.'$Y1.%$Y1.'$T5.%$T5.'$]t.%$]t.'$R$",
    ".%$R$.'$^U.%$^U0'$UzU+MG0%$UzU+MG0'$N_PNOZ0%$N_PNOZ/'$U9];/%$U9];0'$UzU+]q0%$UzU+]q0'$UzU+OW",
    "0%$UzU+OW/'$U9OW/%$U9OW0'$N_PN^U0%$N_PN^U.'$Xt.%$Xt/'$PsVO/%$PsVO0'$N_PNVO0%$N_PNVO0'$N_PNQ_",
    "0%$N_PNQ_/'$iuXX/%$iuXX0'$UzU+XK0%$UzU+XK0'$N_PNXK0%$N_PNXK0'$N_PNM20%$N_PNM20'$M'S4M20%$M'S",
    "4M20'$N_PNnu0%$N_PNnu0'$N_PNW$0%$N_PNW$0'$N_PNXB0%$N_PNXB0'$N_PNlm0%$N_PNlm0'$N_PNWD0%$N_PNW"
  ]

/-- Part 4 of the names. -/
def names4 : List String :=
  [
    "D0'$N_USWD0%$N_USWD0'$N_US^G0%$N_US^G0'$N_USS+0%$N_USS+0'$N_USfD0%$N_USfD-EXT6OwP06O.P05yjA6",
    "QoP06]tP06WDe,/'$U9VO/%$U9VO/'$U9XB/%$U9XB.O8OW-6yiQy0&>pa/'$k1XX/%$k1XXu#$P@/N_USNeN4@aMP(8",
    "@yITP(8?f=X/.QN3M/-NeN4-yTzX/&Z$%$OT>[i>Vz>]4>Nj>_c>[C>_H>NY>XU>^->Q6>ZM>NE>^Z>_s>Xr>Xu>WR>V",
    "^>^a>]s>]R>Zi>Oy>[z>RS>Z2>]%>[v>_j>]k>]Z>O)>Z)>P>>XG>]au#$Po>Y=u#$Pu>Wju#$Px%ymZ$MC5yx>5yx?5",
    "yxH5yxI7jsihfS5fS5yxA5yxD5yxB5yxC5yxm5yxF5fU6WYfU5yxM5_k7jsih_k6WY_k5yxK5Y;5xa6WYxa5xe6WYxe5",
    "P)5fW6y.JfW6WYfW5yxN5xb5xc6WYyxJ>T&5xd5O65xf5yxR5fR6WYfR6y0UfR5yxS5yxU5yxT5Ug5yxV5yx@5yxW5yx",
    "Y5yxZ5xh5xi6yl_xi5yx_5RF5OIu#$Q`/Of$yN98-Oq8u#$Qp-PeW(%]DRAyOU5yTc5ydW5yi*5ygr5y4S5ymv5y9A5y",
    "YE5yZr6P-ZW5yza5y=j5y<=5yJc5ymC5y7M5y`#5y`[5yD25yD65yD55yD4u#$R95O45eD5eB5yih5yiq5vL5eCu#$RA",
    "5y6D5y6X5y6V5y6E5y6G5y6F5y6Wu#$RI5_u5y#75y#45z#$5z#(5y#35y#6u#$RQ5y6I5y6U5y6S5y6J5y6K5`s5y6T",
    "u#$RY5ybm5ybw5ybq5ybn5ybp5ybo5ybru#$Rb5bl5yMz5yMw5yMt5^)5yMv5yMyu#$Rj5x_5yx05yx(5yx%5yx&5x`5",
    "yx)u#$Rr5yEX5yEa5yE_5yEY5yE]5yE[5yE`u#$Rz&O8Rw$RQ>RE>Qb>Pu>RG>Q->M6>Pv>Q^>Nj>1>Nq>RX>RY>OD>M",
    "2>S3>PV>N3>du>Vv?RYy&&>/>Qx>aP?cDY2>Ug>O6?R3/?NWP*?RtP*@R3RtP*&+NaY(V;7O2Y(V;%,Y(M5%+Y(M5&,O",
    "2Y(M5&+O2Y(M5%PGoTV;.O2oTV;%O2f$V;%,f$M5%+f$M5$PGM9&,PGsKM5&+PGsKM5$y?1y9x#d.$mxd.%N+mxd.#yH",
    "c$O2y]=$MYj)$Mej)&O2+N;Na%2RbR2$NBZ/$Z``b%R2#N,&MS#MW-&,MVsfM5&+MVsfM5&MS#9->5',M$M,#^o'+M$M",
    ",#^o&O$,M/M5.+M/M5&OU,M/M5.+M/M5&,U[.M5&+U[.M5%,2O-%+2O-(0M>MA39O*(39MA0M>O*&ORB9O*%F98%N+P(",
    "8$M$MS$MWSG&RlOqK9$MxNK$PG9,NK$MxSw&X)#,n]6+n]$MxX)&O$M/P](%0[JO+%:[JO+%yjENeN4%M$M&M>%Y9M$N",
    "/#y6+$2R2$N+NK(2MVgSRrOx8&O+#,f8%2eT8%NBMVXV@#XV-$MVXV6#9%2yj3NK$O2P`$NuX)$qmNK$y^y8%ya[y?G8",
    "%y9wf=X/'Nty_8#+l(?,l(&w?('S;%qmPB8-P(8',M9M5#D'+M9M5#D(,M9M5#2D(+M9M5#2D&O$M/,O-6+O-&OUM/,O",
    "-6+O-$RbR2u#$Tl%Y`^pZn5`y6WB3>0>:5R:5P75e[6Z<3>05lk5dm6%3>06pN3>0>:>B5_85ei6v33>06Ok3>05Oe5d",
    "Wu#$U/5y7P5Sx5PE5lP5r25y7x6SU3>05T76sj3>08_5M/Tyw^5Yc5X05oY7`_@a#5U>6e=3>05`U5e+7MUQXe+6c^3>",
    "0>:>B5qt5dv5^s5m[5N_6`e3>05^95r16nX3>0>:5_O5a$6M13>07MUQXVM6_5OV5OV7MUQXWKGP^5]L7MUQXkN6_5_d",
    "6_d3>05km7MUQX]V6Mm3>07MUQXMmGn76r43>05W>5Us8MUQXvybsGQ#GTHGap6]93>0>:7MUQX]95Q=7MUQXUH5[p5b",
    "'7MUQXTaG[oGTq6_5fH>[=7MUQXau7N(QXX:7MUQXX:7N(QX_T7MUQX_T7N(QXV%7MUQXV%5[/7N(QX[/7MUQX[/u#$V",
    "=%yKM^p35N/595R@5WB5C505pg5Q65yNi5mO5M(6M)P75a/5V.5e[6MiP75Z<5dF5yw95e>7+MiP76yFma_5Mw5lk5dm",
    "5`y5dJ5y.B5Q85a_5S$5yfk5S=>yhy5y@(5Rt5Va5`u5ydb5yIK5%5pN5y9z5yi^5V<5ydO5fN5y]Z5wq5aW6NNei6O2",
    "`y6MmyjZ60UE5ygv5Ww5v35y4u5eE5Ok5yEw5lt5Oe5`b5dW5P[5y=I5`P5M95NP5Sx5uM5PE5Ty5yN<5N45lP5yvg6Q",
    "1NP5y9T5n-5ko5vR5SU5T75y8(5mc62Mu7M/Tyw^5v-5yA95Yc5X05ya=5oY5qq5ep5vj5yO15f:5mh7`_@a#5yhI6O2",
    "ec5A5yhf5Pg5U>5vA5*5eH5e=5wP5yE,5y6B5yj75`U5Zp5e+5oZ5c^5dv5]G5N_5)5y`S5X25`e5^95yTU5uU5y/n5r",
    "15WW5y]g5k/5yjL5y9L5nX5_O5yIb5k+6_da_5a$5M15VM5OV5WK5yr(5y3h5^b5jZ5P^5SK5ye45]L5k05kN5y4J5yT",
    "y5_d5km5_h5y=S5yrV5]V5Mm5n75r45yhk7NNvs[o5W>5Us5yw=5M85bs6vybs5yNg5R&5Q#5TH5ap5]95Q=5yB25UH5",
    "[p5[(5W#5yAU6yf3_h5kP5b'5Ta5[o5Tq5aC5fH5yFO5[=5yTP5=5y?O5au5ynQ5Yl5^t5Xk5X:5_T5V%5[/5mqu#$Y(",
    "(R]y<iR-,>+@->5B,>K)+B->K)5?Nevf@vfOj-P5P,QMn,Y+QMR,>d'u#$Y8,Q(,NK-NeN4$y=V8&W'yIUvOE%R]Th8-",
    "Ya8-NDMg%,NaM5%+NaM5&,2NaM5&+2NaM5%,OdM5%+OdM5&,AOdM5&+AOdM5&,=V6M5&+=V6M5$^f8$yCp8&,QpP^M5&",
    "+QpP^M5&,AV6M5&+AV6M5',AQpP^M5'+AQpP^M5&,AM9M5&+AM9M5$Q,O+'N+2StOx8&2StOx8'MV2StOx8%^f8M8%nm",
    "Tn3505:5B5F5M&5M05M(5M4&R]bwM`8.SLM`8.aFM`8.y?]M`8'UFN)9M`8/29M`8$U%O+&M$yKJZn8A#U$R&8@8MnM/",
    "C#U$R&8MnM/@8MRM/%N]^f8(R]_KN/X=OqE%nmTnMw5Nr5P2&M$R]Th8$yS%8%d2y.u8%R]<V0.M/S%Q(u#$Yz&XH$%/",
    "5/6%7576%.5.6%4546%1515M65Ma5Pz5Px5Q55R05Py5Td5PD5S=5MO5No5P_5U(5Q)5T(5Pn5Q-5PJ5T'5MP5MX5QT5",
    "QM6%PL5PL5R.5OD5Pu5>5Q15ME5OW5O_5Oo5O#5M25Mj5M:5Ot5RR5O.5R[5QJ5SJ5O)5RQ5Nq5P:5S`5Qk5MD5Ow5O<",
    "5On5Pi6%MC5MC6%O65O66%OI5OI5M<5Qm5Pk5QR5P06%N.5N.5Pp5P>5PT5M75W]6%M6>Pyu#$[#(O8T;[LU$R&8Adpg",
    "VR&8'T;[LU$R&88dpgVR&8%XHTh8.U$Th8-P,yy&&T;[L2R2.$%/5/6%7576%.5.6%4546%1515M65Ma5Pz5Px5Q55R0",
    "5Py5Td5PD5S=5MO5No5P_5U(5Q)5T(5Pn5Q-5PJ5T'5MP5MX5QT5QM6%PL5PL5R.5OD5Pu5>5Q15ME5OW5O_5Oo5O#5M",
    "25Mj5M:5Ot5RR5O.5R[5QJ5SJ5O)5RQ5Nq5P:5S`5Qk5MD5Ow5O<5On5Pi6%MC5MC6%O65O66%OI5OI5M<5Qm5Pk5QR5",
    "P06%N.5N.5Pp5P>5PT5M75W]6%M6>Py5N`5Ue5RE5U#-K9/[LtLR&8-Th8.U$Th8-P,p;u#$]8%k6$N#5Ms5MI5N<5Mf",
    "5MZ5M75M'5M[5M]5M_5N(5NQ5Mu5yz15kZ5WC5M#5Mq5MU5M%5/51545T^5N&5U:5N05VC5OT5Nj5S[5Se5RX575.5Z0",
    "5M^5QQ5yDj5bA81#9-5ZSu#$]e%UF$S&5_=6S&OS5S*>RO>Pc5SS5_?5R=>P6>SX>P?>OS>T*>Ul>Pc5S)5R;5_>6R;O",
    "S5SO5Y%5R^5T05[%5U65V55VW5Sr5Tf5/5Ob5MC5[<5X7545[?5RF515N.5fA5O=5OI5.5fG5P>5Pp5O65T45P)57,T`",
    "-$e@6S*QD>OS>U,7R=P6OS>QD?P?OS>U,>gX6S)P?>OS>U,5bT6R;P6>QD?OSP6GQD>RO>T*5bV5ou6SOP6>Ve>QD>P?",
    ">RO5^X5e?5Wb>OS>U,5bU5vK5fX6OIYI>`?>TL6O6YJ>[U>TL5`M5y/Zu#$^m&R]j+yOD86Q%86386086:86B86O$86K",
    "86OU86U@86WB86S086]N86]^86S$86Q68%k6$QJ5U(5V25R05O,5a`5Nn5sM5]g5y/>5yI]5x+5UI5yWY5y.T5y0C5TR",
    "5SE5sL5yI^.6$Ms>MZ>M]>M_-$yD75by5y#2.6$M[-$yET5bi5O=5SZ%Y`DMZ5yvr5yw`5y5E5vg5yHi5yHe5]c5yHh5",
    "yk]5yHf5yHj5yH.5yHg5yHk5M75M_5M%5Ms5v=5Mf5oC5o#5ykS5yk>5_@5ygF5y_A5yax5ymu5yk^5yk75yH`5yHl5y",
    "_m5NQu#$_v&T;$%Q5>P_>Q)>>>O_>M2>Ot>R[>O)>P:>O<>M<>Qm>Pk>QR>P0%^[UFS&5S*5SS5R=5S)5R;5SO5R^5T0",
    "5U65V55VW5Sr5Tf6S&/6S*/6SS/6R=/6S)/6R;/6SO/6R^/6T0/6U6/6V5/6VW/6Sr/6Tf/6T0..bfR-y]U?1R[u#$`N",
    "-W&3505:5B5F5M&5M05M(5M45Mw5PE5T75SU5fM5qw5S$5Sx5eG5nq5v55ZL5vB5mj5kv5pK5yd+5`o5vX5vc5mP5u$5",
    "j%5yAN5Ql5uU5tt%N]W&P(5yLX5dl5p;0NDMwNE=M98NrNE=M98P2NE=M98Q4NE=M98O]NE=M98Q9NE=M98OXNE=M98R",
    "VNE=M9$sh(&N]NDNr3>0>:>B>F>M&>M0>M(>M45P2>3>0>:>B>F-UFS&5S*5SS5R=5S)5R;5SO5R^5T05U65V55VW5Sr",
    "5Tf6S&/6S*/6SS/6R=/6S)/6R;/6SO/6R^/6T0/6U6/6V5/6VW/6Sr/6Tf/.bfR-y6x>yJo.UFR^.%bfvOE%N]W&3505",
    ":5B5F5M&5M05M(5M45Mw5PE5T75SU5fM5qw5S$5Sx5eG5nq5v55ZL5vB5mj5kv5pK5yfz5V:5X>5yju5y@+5tI5y0=5y",
    "J&5Ql5y9s5y:#5Mz5NV5MV5,5+5ySH5ycz5vX5vc5mP5u$5j%5^H.NDP2M&>M0>M(>M45Q4>3>0>:>B>F>M&>M0>M(>M",
    "45O]'R]_KEOAyJ3GyAEGyRlGy/TGqeGyJrGyJqGy0BGyg4Gy]KGyYQGy<M$M9o#,y?l,ad%yO?yO)(%N]T;/575.5451",
    "5M65Pz5Q55Py5PD5MO5P_5Q)5Pn5PJ5MP5QT5PL5OD5>5ME5OW5O_5Oo5O#5M25Ot5R[5O)5P:5MD5Ow5O<5On5Pi5MC",
    "5O65OI5M<5Qm5Pk5QR5P05N.5Pp5P>5PT&M9mSZLycu,y/J,y/v,y/A,y,s,yIZ,yIk,ypd,y?y,y?4,y]^,y]a,yKC,",
    "yKU,yKX,yCM,yCH,yDW,yDX,yN#,yD_,yL[,yL],yL^,yL_,yEK,yEL,yMZ,yMW,yKo,yM/,yM*,yf6,yfQ,yh^,yg0,",
    "yg1,y;b,y<l,y=w,yn&,yVJ,yYP,yEv,y^B,y^C,y2u,y`-,y`6,y`5,y4B,yH5,yH7,y5=,yH@,yFJ,t%,y_S,yFU,y",
    "_V,y_N,y3o,y`c,y4Z,b9,y`j,yH%,yH#,yRM,yRP,yRJ,yRt,yRd,yTK,yTZ,yT[,c=,ySM,ySJ,yx;,yx=,yy2,ydM",
    ",ydL,ye<,yeB,yd%,yd&,yve(R]_KEOAo9MgP3P0P:PBPFPM&PM0PM(PM4PMwPS:PRkPVXPV,PT6PTtPVNPU;PV>PNrY",
    "gOYgUYy&'Yy%d$M9yH-,MX,N0,M,,sT,y_@,y=h5OR5Yd,Z0.mSZLyFI>ykI>ylB>ySN,y9y-M:y/',ME-O</,MD,M6,",
    "yKi,c5,yCR,y5t,yKj,y_l,yWK-O<N<5M[,ySt,p(,oC,yLH,yT?,yDN,ymS-O<M',yT`,y=a,yLl,yAt,yY7-O<MI,^",
    "=,a&,]x-^=OR-a&OR-MIOR-]xOR-^=Yd-a&Yd-MIYd-]xYd.MIMAM%GOR,M:,Z>,r6,yE(,tl6MAM%GOR,yaJ,yYs-O<",
    "M%,yU7,yap,cp-O<M^,ZJ,yMb-ZJc=,yaq,yZb-O<N%,cN,bi-cNc=-M]^R-MI^R,TR,y4f,kS,kT.MUMAp(,Sd,lD,y",
    "EW,M2,]c,NY,]v-]x',yMD,yOS,yOT,yOY,yP+-c5%,yTL,yTn,y_n,t=,ya),ya+,yie,eU,yvf.M^MAMI./MAMI(R]",
    "_KEOAa>3P0P:PBPFPM&PM0PM(PM4PMwPS:PRkPVXPV,PT6PTtPVNPU;PV>PNrYgOYgUYy&'Yy%dYU)Yz-IYz-EYz,XYz",
    "-'PP2YgO$M9Vxu#%Yh'yFWOAOEy:2]^?yciS$8y=;PUOEy3r6yy(yAx5fB5y9]6OEy/i6XI_S6%vv5ynB5d55yj95yAI",
    "6XFtB5yTi5y?^5ms8fNNEOEy<L5y/R5y9e6k%S15nV6yiSy/K5Zo5yI_6XFvv6Q8X&6XFtH7OEy-wSU?y8-T75yIV5y>",
    ";5yd46XFdF5ya?8l@@OEMN6OEma5cz5y]E5y<[5lR5bD5y4o7y9R>qo6ax_S6yaix-5y]h6OEyvl5yd86OEkP?y/kek@",
    "oyyjHV<5y<p7OEyRryRL5y-v6OEyvY?yCkTH?yJjpM5y=O5yO>6oPyn`6%tH6y.Aa(6y3pa(u#(Fj%P)RAbM5oV575yI",
    "s5yI/5yI05Qx5yI.5PU5jL5/5j05ypf5x,5ype5^V5^W515cy5]E546Th8u#(G'5TI5k$5y4K5RR5y4@5y485y495y46",
    "5y475`W5y3G5Mj5y395y565y545y555y4^5P75S`5y4X5y4%5RQ5y4#5TX5y5C5QJ5y585y5;5TW5y5I5y5K5Sa5y5F5",
    "y5H5y5G5t55y`E5O.5t05y`45t-5y`25y_45y_=5M:5R95yaa5ya_5ya`5^g5ya&5Qk5dC5dN5yan5SJ5tT5yah5yac5",
    "tX5yaw5yas5yat5yav5yau5y3U5y3V5jc5y3T5y3R5y3S5y3P5y3Q5y3K5y3L5Vj5y3J5y3]5y3Z5y3[5y3X5y3Y5jd5",
    "y3W5y3O5YU5y3N5jf5y3a5je5y3^5y3`5y3_5y3d5y3e5y3b5y3c5yVc5yVd5yV_5yVb5yVa5rN5yV`5yV[5yV]5yVY5",
    "yVZ5yVg5yVh5yVe5yVf5yVn5yVo5yVj5yVk5yVm5yVl5yVt5yVu5yVp5yVq5yVs5yVr5yGI5yGJ5yGD5yGH5yGG5yGE5",
    "yGF5yGA5yGB5yG?5yG@5yGQ5yGO5yGP5yGL5yGM5o.5yGK5yGU5yGV5yGN5yGR5yGT5yGS5yG[5yGW5yGX5yGZ5yGY5c",
    "A5yT^5Ow5yTX5yTF5yTD5yTE5yS&5yS,5MD5ZE5yUL5yUM5yUI5yUK5yU&5yU/5Pi5r05ySk5On5yUV5yUZ5O<5yUN5y",
    "US5yUP5yUa5yUb5rA5yU`5yAd5yAf5T55yA[5yA>5ai5O35yA:5n$5T85yB&5yBF5yBG5UA5yBB5yBC5n-5yBP5yBQ5y",
    "BM5yBO5yr^5yrb5Ue5yrX5x<5yrT5yrN5yrO5yr25yr55N`5yr+5yrq5yrs5U#5yrp5yrG5x85yux5yuy5W]5yuv5yuw",
    "5xC5yv)5yv*5f@5yv&5yv(5yv'5y=U5y=^5QM5y=G5y=75aJ5y=55lA5y<&5MX5a=5y>55y>4595y>$5Q15y=u5y<q5P",
    "u5y<d5y>?5y>A5R.5y>65y><5y>95w@5ymn5QT5S25ymY5Y/5ymX5w#5yl`5MP5ylQ5wo5yo95yo75yo85wK5yn45>5O",
    "$5ym*5OD5ylu5yoA5yoE5PL5wp5yo@5[.5y<;5y<<5lM5y<:5y<95y<75y<85y<.5y</5Ni5y<-5y<C5y<A5y<B5y<?5",
    "y<@5aA5y<>5y<25lJ5y<15y<F5y<G5lN5y<D5y<E5lO5yW/5yW05cY5yW-5yW,5yW+5yVz5yW#5Xh5cW5yW45yW55cZ5",
    "yW35yW(5^D5yW$5yW:5yW;5^E5yW75yW95yW85yGj5yGk5yGd5yGi5yGg5yGh5yGe5yGf5yG^5yG`5b85yG]5yGq5yGp",
    "5yGm5yGn5yGl5yGc5yGa5yGb5yGr5yXO5yXQ5OW5yXL5yX?5yX=5yX>5yVU5ME5yVM5yZZ5yZX5yZY5NP5yYT5O#5yYK",
    "5yWJ5Oo5yWB5s/5yZa5O_5yZ[5yZ^5yZ]5yG*5yG+5b75yG)5yG(5yG&5yG'5yFx5yFz5o-5yFw5yG25yG05yG15yG.5",
    "yG,5yG-5yG%5yG#5yG$5yG65yG75yG/5yG35yG55yG45yG<5yG=5yG85yG95yG;5yG:5yOI5yOM5Qf5c#5yO/5yO05ph",
    "5yO.5yNS5yNZ5MF5bo5yP#5yP$5yOy5yOz5yOi5yOn5Q>5yOd5yNw5Ra5yNp5yP)5yP*5PZ5yP%5yP'5yP&5yP45yP55",
    "c,5yP25yP35q*5yDa5yDb5Px5yDY5yDS5yDT5yDQ5yDR5yCO5yCQ5Ma5Yy5yEH5yEI5yEF5yEG5nU5yE'5S=5yDw5yCo",
    "5yCq5Td5nA5yEQ5yER5R05yEJ5yEP5]Y5p35yLf5Pz5p25yLQ5yLM5yLO5yKZ5yKg5M65os5yMS5yMP5bh5yM05yM45P",
    "D5yM,5W+5yL/5Py5yKw5^%5yM`5Q55yMT5yM[5Qz5yD&5yD'5nF5yD%5yD#5yD$5yCu5yCv5XC5yCt5yD+5yD,5nJ5yD",
    "*5yD(5yD)5nG5nH5yCy5yCz5b%5yCx5yD05yD15nI5yD-5yD/5yD.5yT15yT05ySw5ySx5ySu5ySv5yT85yT65yT75yT",
    "35yT45S(5yT25yT/5yT-5yT.5yT<5yT=5yT55yT95yT;5yT:5o>5yHX5yHR5yHW5yHU5yHV5yHS5yHT5yHM5yHN5yHK5",
    "yHL5yH^5yH_5o@5yH]5yHZ5yH[5yHY5o?5yHQ5yHO5yHP5yWp5yWn5yWo5yWS5yWT5N15yWQ5yX35yX45yX25yX*5yX+",
    "5W75rk5yWX5r_5yWV5o+5yFo5Z)5W$5yF;5M25yF.5yH>5yH?5yH<5yH=5Z,5yH+5P:5o55yFV5O)5yFP5yvc5xI5N.5",
    "xE5ywF5xZ5ywE5yw85PT5yw05yvq5P>5yvn5yz[5yz]5U(5yzX5yzT5yzR5yzS5yz'5yz)5No5yyz5yzm5yzk5yzl5y#",
    "-5yzd5T'5yzc5yz05Q-5yz-5yzo5yzp5T(5y#/5yzn5y#05yzz5z##5y#25yzw5yzy5yzx5y7u5y7y5]$5kk5y7m5y7n",
    "5y7k5y7l5Sb5y6C5N95[t5y:A5y:@5l.5y:%5y:-5Sd5y9r5y6o5U35y6j5a75y:M5a35Ye5y:I5y:D5l75y:Y5l45l6",
    "5y:X5y:V5z#/5z#05y#45z#.5y#55z#-5z#+5z#,5z#&5z#'5_u5z#%5z#25y#65z#15z#*5y#35z#)5z#85y#75z#55",
    "z#75z#65z#>5z#?5z#95z#;5z#=5z#<5y[45y[55y[/5y[35y[25y[05y[15y[*5y[+5cu5y[(5y[;5y[:5y[75y[65y",
    "[.5y[,5y[?5y[85s?5y[>5y[=5y[D5y[E5y[@5y[A5y[C5y[B5yha5M&5P_5yh]5yhN5yhK5yhM5di5yfa5MO5uJ5yk$",
    "5yjz5yk#5e95yi>5PJ5yi75ygA5Pn5yg25yk15yk35Q)5yk%5yk.5_C5ykQ5ykR5yk?5ykJ5ykO5ykK5yiz5yj#5eB5y",
    "iy5yix5yiv5yiw5yio5yip5O45yin5yj%5yj&5eC5yj$5yis5vL5yir5yj(5yj)5eD5yj'5yj.5yj/5yj*5yj+5yj-5y",
    "j,5yz55yz65Q.5yz45yzC5yzA5yzB5yz?5yz@5fe5yz>5yz95yz:5RG5yz85yzG5yzH5ff5yzD5yzF5yzE5yzN5yzO5y",
    "zJ5yzK5yzM5yzL5k_5y7)5N?5y7$5y7]5y7^5y7Z5y7[5y7T5y7U5U75y7Q5y795y7:5PV5y735y7b5]#5y7_5y7a5y7",
    "`5y7i5y7j5y7e5y7f5y7h5y7g5ydk5QA5ydu5ydt5ydp5ydq5u95ydo5ydm5ydn5u75ydl5ydy5ydz5yds5ydv5ydx5y",
    "dw5ye'5ye(5ye#5ye$5ye&5ye%5yY[5yY]5cj5yYZ5yYe5yYc5yYd5yYa5yYb5yY^5yY_5yYk5yYl5yYf5yYh5yYj5yY",
    "i5yYq5yYr5yYm5yYn5yYp5yYo5ud5ygZ5N35ygR5yh85yh65yh75yh#5yh'5TD5uj5uf5ygj5OQ5yga5yh;5yh=5S-5y",
    "h95yh:5up5yhE5yhF5e)5yhB5yhD5yhC5^t5yc`5M<5dW5ye:5ye85ye95ydh5ydj5P05yde5yd95QR5yd'5yeA5yeC5",
    "Pk5ye;5ye>5ye=5yeO5yeP5u@5yeL5yeN5yeM5yJK5yJL5V25yJJ5yJG5yJH5yJE5yJF5yJv5yJw5yJt5yJu5V35yJi5",
    "T:5yJg5yK$5yK&5W)5yJx5yK#5yJz5yK+5yK,5yK'5yK(5yK*5yK)5ybI5ybJ5Zj5ybH5ybE5ybF5ybC5ybD5yba5ybb",
    "5dT5yb`5t_5ybO5^n5ybM5ybg5ybi5Zk5ybc5ybe5ybd5ybv5ybx5ybl5ybs5ybu5ybt5yJS5yJT5o`5yJR5yJP5yJQ5",
    "oa5yJO5yJZ5yJX5yJY5yJV5yJW5ob5yJU5od5yJ_5oc5yJ[5yJ^5yJ]5yJa5yJb5oe5yJ`5yX`5yXa5ZR5yX_5yX]5yX",
    "^5yXY5yX[5yXf5yXe5yXc5yXd5rt5yXb5yXk5ch5yXg5yXj5yXi5yXp5yXq5yXl5yXm5yXo5yXn5s=5yZp5S+5s<5yZm",
    "5yZn5yZk5yZl5y[#5yZy5yZz5yZu5yZv5UT5s>5y[%5y[&5ct5y[$5ywj5ywk5Rn5ywh5ywf5ywg5ywd5ywe5ywu5ywt",
    "5ywp5ywq5x]5ywm5yx/5yx15yx$5yx,5yx.5yx-5fZ5yxy5P)5yxx5yxs5yxt5xm5yxr5yy:5yy;5yy85xr5[A5yy+5O",
    "I5yy%5_o5yy@5O65yy<5yy>5yy=5yyF5yyG5fa5yyC5yyE5yyDu#(T7-^pt_5Qf5p35s<5l65eB5nH5nA5Ow5o>5q*5j",
    "f5r05OI5dN5o@5w#5Ma5y#/5l75lO5TW5nJ5s>5PL5cy5od5y#-5tX5o.5fZ5xC5e)5x85No5T:5s?5oe5nU5oa5PT5R",
    ".5up5ph5l45l.5kk5o?5ud5y#05uj5PV5y#55rN5Pyu#(Tx%po$Mj5M:5NZ5MX5MP5NO5Ma5M65NC5N65N95N?5S95Oz",
    "5Rj5MD5ME5MF5MO5Q.5No5N15M25Rm5UG5O35N.5N35MC5Nk5/5Ob545T457515.5Po5f45O=7M`cQQT?MEQk?cQl5GS",
    "`GMEGyJ>-O*NK6NeN4%yr%RAO,5y?55]_5_e5yvj5UV5y4,5Ws5^75p>5yT$5n95Vt5V`5Y,5[*5y=#5y=&5^.5Zm5X*",
    "5cX5VM5_.5[B5_t5kV5XR5ZQ5Y<5bZ5rb5Yz5c;5c[5s8575NY5Ot5o(5Pp5yw#5O.5y4-5RR5c65p?5yT'5n:5T55Ue",
    "5QT5WV5y=+5y='5Qf5Qm5QM5cY5P_5Xz5U(5fc5]$5V25ZR5P)5Pz5rd5Px5Ow5OW5S+5/5OT5yWO5M25b25N.5yvV5M",
    ":5O%5Mj5ZF5Z>5yM65qy5b#5O35N`5MP5NO5Nl5y=$5MF5M<5MX5Xh5MO5N35No5Q.5N95N65rp5MC5M65XU5ZP5Ma5M",
    "D5ME5NA5Nn5y]b5Z+5[;5yw/5Zg5y4.5k25c95p@5yT+5n<5as5xA5Y05eg5y=-5y=)5X^5u55ls5rQ5[$5e$5y#,5yz",
    "=5a.5oh5ru5_n5Z=5cb5yDu5cF5ci5yZt5.5V^5R[5o<5TI5ywC5SJ5y4/5QJ5c:5pA5yT,5b$5UA5W]5PL5ej5y=/5y",
    "=*5PZ5Pk5R.5^E5Q)5S-5T(5ff5a35W)5ch5O65Q55cc5R05O<5O_5ct515NE5rj5P:5b95PT5fL5Qk5jv5S`5c85]z5",
    "yT)5n;5yCY5T85U#5>5RD5l^5y=(5Q>5P05Q15cZ5PJ5TD5T'5fe5Sd5T:5rt5OI5PD5ca5S=5Pi5O#5UT545Nj5r`5O",
    ")5nv5P>5yvm5Nq5[n5RQ5^65p=5yM85yT#5]Q5yCU5Sg5RE5OD5OE5Yi5y=%5Ra5QR5Pu5^D5Pn5OQ5Q-5RG5U35Sj5V",
    "@5RF5Py5c_5c`5Td5yCf5On5Oo5cr5QQ5^/,NK-NeN4-P(8.RArPO3>M6>[$-EyAG5yKn5ymc5rn5y355]F5WN5a;5y=",
    "t5yMO5yn'6Q1Rs5yJf-MQMg53505:5B5F5M&5M05M(5M4.RArPMD>Q1u#(Y4&Rw'$y#&.%$y#&.'$]8.%$]8/'$N+V'/",
    "%$N+V'.'$Om.%$Om.'$aP.%$aP/'$cDY2/%$cDY2/'$kAOC/%$kAOC/'$Q$[@/%$Q$[@1'$TJ#RP[@1%$TJ#RP[@/'$R",
    "3Ug/%$R3Ug/'$N+O6/%$N+O6/'$R3//%$R3/0'$OMNWP*0%$OMNWP*/'$k*P*/%$k*P*1'$R3OMNWP*1%$R3OMNWP*.'",
    "$Y=.%$Y=/'$N+S3/%$N+S3/'$S.Pu/%$S.Pu/'$S.Pv/%$S.Pv/'$S.Q^/%$S.Q^/'$^?1/%$^?1/'$k#1/%$k#10'$2",
    "^?10%$2^?1.$yUC1%O8Rwyv,7MwW4(7M3W4(7MBW4($yhlNs'O8Rw$f5Qx>7>P)>.?Te(>TJ?S.(>OC5XV5sl$RwXV,s",
    "l.'$aZ.%$aZ.'$m1.%$m1.'$y#'.%$y#'.'$`s.%$`s.'$m2.%$m21'$OD#KC1%$OD#KC.'$[0.%$[0.'$we.%$we.'$",
    "wc.%$wc.'$w'.%$w'.'$b=.%$b=.'$Y$.%$Y$/'$21/%$21/'$Ps1/%$Ps1'Of$RwTe(?S.(&O8Rw$T]?R34%j]$/5M6",
    "5.5Q55O,5Zm5e]515S+575MF5M:5_#5u)5p[5c<5WN5^C5cg5MI5_D5O<5_15P_5ug5dr5^)5W+5s*5O_5rv5f]5S-5f",
    "^5MC5ck5p&5d85ZQ5cm5tS5fO5UV5Vt5Pk5PZ5Ow5OW5d_5Xr5Z65rh5ZP5N15TD5dK5UA5ar5N.5ME5Qf5O.5^35PD5",
    "qh5^x5UP5MD5QT5Pz5Pi5Xa5WS5Z>5Mw5s)5uH5yA+5yM35yLz.O88yM->yo1,rq-NeN4,Oh,NK,Sw-P(8u#([F(Of$k",
    "fM`Uhd<HT&d<HUhuaHT&uaHUhZkHT&ZkHUhPkHT&Pk9Vq`7O2M`M,8MzO2M`M,8UQO2M`M,8MVO2M`M,9Vq[NO2M`M,C",
    "`7O2,U-M`M,:MzO2,U-M`M,:UQO2,U-M`M,:MVO2,U-M`M,;Vq[NO2,U-M`M,B`7,U-M`M,9Mz,U-M`M,9UQ,U-M`M,9",
    "MV,U-M`M,:Vq[N,U-M`M,79M$M,>R@?MMM,8MR+OdNa7PGI*?M)*?PB8@NBPB88MVNBPB88eK)MzM`HMVM`'Nf'$]:MG",
    "/%$]:MG/'$]:OZ/%$]:OZ.'$Z(.%$Z(.'$ww.%$ww.'$wU.%$wU.'$]).%$])0'$])#NK0%$])#NK/$%'N<GM%.'$Ml.",
    "%$Ml.'$[`.%$[`.'$N0.%$N0.'$Wo.%$Wo1'$Wo#MMM,1%$Wo#MMM,.'$S].%$S]1'$N+MU#91%$N+MU#90'$M]#D0%$",
    "M]#D1'$M]#NyD1%$M]#NyD3'$M]#D)NyD3%$M]#D)NyD/'$WyM'/%$WyM'1'$M'#MzD1%$M'#MzD2'$1#MmDPj2%$1#M",
    "mDPj0'$1#Qg0%$1#Qg.'$Nn.%$Nn2'$Ms#DS1O:2%$Ms#DS1O:0'$Ms#Yt0%$Ms#Yt1'$Ms#vIN[1%$Ms#vIN[2'$NQ#",
    "DS1O:2%$NQ#DS1O:1'$NQ#NyD1%$NQ#NyD/'$M#Zt/%$M#Zt/'$_%Zt/%$_%Zt1'$M^#NyD1%$M^#NyD.'$f@.%$f@/'",
    "$x>Mq/%$x>Mq0'$VY#D0%$VY#D2'$VY#DS1O:2%$VY#DS1O:.'$x7.%$x7.'$S;.%$S;.'$V1.%$V1.'$kt.%$kt%Of$",
    "Y4&Nf%$y>1>UN>yUE>yZS>_%/$%'_%.%$_^>[2/'$QcMf/%$QcMf/'$QcN</%$QcN</'$QcM[@MxQcM[0%$MxQcM[/'$",
    "MxM'/%$MxM'/'$QcM#/%$QcM#/'$QcM%/%$QcM%/'$QcMZ/%$QcMZ'Of$MVN$O75Oh7NNON(&Nf'$uF.%$uF/'$MxM_3",
    "%$M'#O/C)T..$yhZ90'$M7#O:0%$M7#O:0'$MU#M,0%$MU#M,QP'CAM_#P'C0'$N##Yt0%$N##Yt0'$N<#D0%$N<#D/'",
    "$Y6Ob/%$Y6Ob/'$Y6O=/%$Y6O=/'$Y6Po/%$Y6Po1'$M[#RbD1%$M[#RbD1'$M]#RbD1%$M]#RbD1'$M7#RbD1%$M7#R",
    "bD1'$M##RbD1%$M##RbD1'$M%#RbD1%$M%#RbD0'$M_#C@N+Mi4?P[M[@M'#T.@%'7/$%'NQ/'$MxM]GMZAN(#PsSY>P",
    "W>QI.%$QI.'$OC.%$OC0'$.#D0%$.#D/'$P-//%$P-//'$P-7/%$P-7/'$P-./%$P-.0'$N_d@10%$N_d@1/'$j*N%/%",
    "$j*N%1'$MU#P'C@M%#CAMq#P'CBMf#NNDPj2%$Mf#NNDPj2'$M%#NNDPj2%$M%#NNDPju#(^i0'$OMQcM[0%$OMQcM[u",
    "#(^l?2VYu#(^nG_i0'$KuPM%0%$KuPM%/'$uxM%/%$uxM%u#(_3&Of$'MU>N<>NQ(Nf'$N+M/M_0%$N+M/M_/mR$U[7(",
    "Of$'M_#D7%O^O=(Nf$%'MxMI/mR$N+N<GMs?NBMI?7c'?QFMI&ykByVB$/>76(y>D6$.>4>16(nn6$PD>W,>S=>nN6(N",
    "g6$Sd>U7>T:>yJB>f/>_]>aA>lL>>>RD>Q1>l^>O#>Qk>T?>S`>jv>Pi>P0>Q>>u9>PJ>P:7MK(/G7G.G4GNn7y`b8My",
    "GM=GMpGN>7(Pdnnu#(_r'NmoNQN3O`GM/?:Re?3WIGP8?:_76O`86d>86W@86ybR8u#(`*&y_qz-,$M6>NC>Ma>N1>N9",
    ">N?>N6>NA>MP>NO>MX>ME>M:>NZ>Mj>MD>Oz>Rj>S9>N.>Q.>No?%/>MC>M<>MF>N3>MO>M2>/>7>.>4>1>Q@>Rm>O3>",
    "XC>O,7Y'$N.GMC6$Nh>O1>Ni>Nz?PdMC?yrfN3?U$M2?y0'O37Y'$M<7yk'$M<6$Og7N)Q=872Q=868R??2R?u#(`k%y",
    "f](Ng5OL-$/5Ml575N'5.5N56NTM#>O>>M'>OO545O,5N&515Nn5N05M65NC5Ma5Nk5N15N95N?5N65OK5NA5Nh5O15N",
    "i5O95Nz5MP5NO5MX5Nl5ME5M:5NZ5Mj5O%5MD5MC5M<5MF5N`5N35O45MO5M25P..Pe(yEl.MK(Ml>7>N'>.>N5?NTM#",
    "GO>GM'GOO>4>O,>N&>1>Nn>N0-(O55Ogu#(ab,Os-2Os-MQMg53505:5B5F5M&5M05M(5M4u#(at&O8aHMQMg>3>0>:>",
    "B>F>M&>M0>M(>M46$/>.>M6>ME>M:>M<>Ue6(R,&aH(e;Og6OgO572OgO56Og0>:>R,5yaj-YyT`,TY,b3-(WG-yJ0SE",
    "-$S].MK(S]&owQfMQMg>3>0>:>B>F>M&>M0>M(>M46$M6>NC>Ma>N1>MO>N3>No>NA>MP>o:>ME>M:>NZ>MD>MX>Mj>M",
    "<>MC>MF>N.>NO>M2>N`>N9>/>O=>7>Nn6MKPo>4>.>O,>16M`t:>y5xGt:6(a:>yh@%ycv$M65Ma5N15MP5MX5ME5M:5",
    "Mj5MD5N95N65NA5MO5M<5MF5MC5N.5M25ZF5ZP5Xh5yZq5/.MK(7>.>4>N&>1>N0>T4>a[.Pe(QQ>M7>M#>M_,O5u#(c",
    "D-P]8&UFkhSSSX>P?>OS>RO6R=P6>`<>QD>z-N>SX>P?>y%z>`8>OS>RO>Uk6S)P6>QD>OS7R;OST*>Uk>Pc6Y%P?6R^",
    "TN>Pc6[%Pc5yik6SrPc6TfOS5yilu#(cf%yJ5(y^p5kU5yN]5yvy-$/67yKe575N'5.6M:y6k6N1yNkGycZ545N&515M",
    "6>VK>T=5Ma>T=5N15N9>T=5N66NAT=6N6V95NA5Nh>V95Ni>V96MET=5MP>T=5MX>V95ME5M:>T=5Mj>T=5MD5MC5M<>",
    "y.H5MF5N.6MOT=>V95MO5M2.(kUylo.MK(ylU>yn#>ywBGySO>v_GySU>vt?y=KyUQ>sv.Pe(yKx>y_Q>kI,y^h-,u#-",
    "+u#-d+y/-5yR<5yOu5xR5y^g5yOB5yOx5[Y>[Y5t4.Mxd+t4u#(d^,y^k-MQMg53505:5B5F5M&5M05M(5M4u#(dm.d+",
    "ymiyo56yIzz,g&cR$TCNk>N?>OK>Nz>O%.(TCdj/Of$TCtw/$U`^+NAGO3GMaGNkGN6GOKGNiGO9GNz/U`^+MQMgG3G0",
    "G:GBGFGM&GM0GM(GM4/$U`^+P.GMXGNlGMjGO%u#(e7%y6u$/575.545N&515M65NC5Ma5Nk5yX05N15N?5y7;5N65OK",
    "5yX:5Xj5yX95MP5NO5MX5Nl5yZQ5ME5Ni5M:5ya(5NZ5Mj5O%5yU:5MD5Vj5MC5M<5MF5N`5O45MO5M2.MK(Ml>7>N'>",
    "U:>.>O=>1>N&>N0>Po.Pe(MC>M<>MF>N.u#(ex.$6M]>M[>QQ/Pe(6QQ.$6kZ>MZ>M7>Ms>MT>M#>M'>_</Pe(6MIGM_",
    "u#(f0-MQMg53505:5B5F5M&5M05M(5M4u#(f<-O*_95Os62Os6NuOs&cR$Z9Ma>N9>N?>N6>OK>NA>Nh>O1>Ni>O9>Nl",
    ">ME>MO>M2>UGu#(fN>P.>O3/Of$Z9tw.$Z9Rm>No>M<.ZBZ9s@>ybK>yG>.E`EPB>3>0.$`EM</(y^tUKM`8U`^+M`M=",
    "PNR/$Y$d,N?GN3'U`x<$MVPD?MzPD?MVW,?MzW,?MVp.?Mzp.?MVS=?MzS=?MVW7?MzW7?MVSd?MzSd?MVU7?MzU7?MV",
    "PJ?MzPJ?MVUT?MzUT?MVQ1?MzQ1?MV>?Mz>?MVRD?MzRD?MVO#?MzO#?MVS`?MzS`?MVQk?MzQk?MVT??MzT??MVT8?M",
    "zT8?MVPi?MzPi?MVOI?MzOI?MVP0?MzP0?MVQ>?MzQ>?MVU#?MzU#?MVP:?MzP:?MV1?Mz16SC]p6MKMl>7>Po>.>4>1",
    "6SCyL:6MK]e>yp=>Y1>jH>S]>OT>TR7M`SCX4Gs+GRDGyi4u#(ge6Ep8>s+>dg?P:yGu?bdbd&qpqf$4>1>N?>NA>Nh>",
    "O1>Ni>O9>Nz>N3>O47MK(N'GN5GieGN0Gy,t5y7.6y.KyLE5`K7RAd^87Rld^87MK(OL5O5u#(h3%]DRAyny5wj5f.5y",
    "nw5wi5_]u#(h;5y<65y<55lK5y<45y<35lLu#(hC5m05m-5y>L5m+5V'5m/u#(hR5y6L5y6R5y6P5y6M5y6O5y6N5y6Q",
    "u#(hZ5Vj5je5jc5y3I5y3M5YU5jdu#(hc'Nf%$TTO[@/N+z-D?k'4?TT4@4#Yt?paN<BP[M[#PsSYBM'#NBbqM%R2KMS",
    "QKMWAMI#PsSYAM7#PsSYASe#PsSY?k'1Q#DAMi1#D?NBO=AMxO=#DZMMDI1MiRsd#D?yjJM#2$%'M##+R#0%$M#[:nl?",
    "2M#AM##PsSYB2M##PsSY?P[M#Q#MW?j^Q_B.#NN+R#KM,#NN+R#>_a?Mx_aA.#,C>PWJ#MV+MWZ,uZBMu#MV+MWRMm,R",
    "#o)MV+MWm#uZBMT#NN+R#'OfNU#NBNU.$%Z(BM'#NBbqM%QKMSA.#,C'Nf%$yf<Ug?R34?MiO=>x,?NBO['PO$%'OC*N",
    "f%$V&P,#O/CBf)P,#O/CBMxM##KMS'Of$%MxN%6,OY6+OYu#(iK&kc%$/>4>7>1>.>M^>Ma>M6>Td>Px>S=>R0>nd>M2",
    ">O)>Ot>P:>R[>]d>MF>Ra>Qf>Q>>PZ>q#>MD>On>Ow>Pi>O<>ME>b8>cT>Oo>OW>O#>O_>cp>t`>ta>tb>dT>dU>te>M",
    "O>M%>Pn>P_>PJ>Q)>eU>MX>MP>Pu>OD>QM>QT>Q1>R.>m(>]3>es>et>ev>ew>ex>wG>Oz>S3>WX>_Z>_[>wd>N.>P>>"
  ]

/-- Part 5 of the names. -/
def names5 : List String :=
  [
    "Pp>PT>TI>x[>MC&qpqf$p7>dg>^*>cA>M:>ME>y7?>eo>yLB>rl>ymF>yvS>T&>yH8>V^>7>y_s>y06>yDq>yJ@>ycN>",
    "Mj>Z2>y=@>yDK>y=.>y4*?p7V8?^*V8?cAV8?M:V8?MEV8?eoV8?rlV8?7V87MK(y]YGyIIGy/)GyxcGyi;GypSGy70G",
    "co5y7/6UNoW6y/UoWu#(ju6MQMg>3>0>:>B>F>M&>M0>M(>M4u#*<^&UFoi1YJ?RsTL6OISW>gD>YD6.YJ?TLTL6O6gD",
    ">Rs6T4SW>YD>[I>Rs77YIRs>`?>YJ>[U?RsTL>`@>z-^>TL6`MSW>[Iu#*<y.ogS*TN>Ui5_?>P?6SSP?>OSGP6>RO>U",
    "i>T*6R=`<?P6Pc6eAUk7R=SXPc?P?QDGUl>z-[?gXPc5ot6S)Ve>z-M5yij7S)P?OS>RO6R;QD?TNUl>SX5_>7R;OSQD",
    ">RO>Ui6SOSX>`86Y%P6>QD6SOU,>RO>Ui>T*>Pc6^XP?>`86WbSX>Pc6T0P?>y%z5[%6SrOS>T*u#+MU&Nf%O^mg>T5>",
    "yAg>yAR>yAS@MmM%MZ>_@u#+Mi'YR%O^UP^KGX3GbF?f>^K?UPfPu#+Ms'nt$U'#o*/SGyJlz-Kyr/0O^xlU'U'^].$`",
    "HS56W^MG>],>O)>Ou>^,?6Q7>Rf>e_7`HM-(8Oy#Oy9H_69JPf)Oy9Z_697MG#^]G^lGc27Wu#Pf7Qv#Pf7],#Pf7O)#",
    "c27Y5#Pf7Rq#Pfu#+N67WS#Pf7U'#Pf86Ou#Pf7Ou#Pf7^,#Pfu#+N<7Q7#Pfu#+N>7Np#Pf7R>#Pfu#+NA86Nq#Pf7N",
    "q#Pfu#+ND7f*#Pf7dS#Pf7Rf#Pf7Oy#Pf7e_#Pf7Y5#o17Wu#^q7Ou#^q7Nq#^q.O^MG^,(PM$MGfC?&H6&7jm?&?6&?",
    "G&?Mk&7Xo?&?6&?G&?Mk&7jp?&?6&?G&?Mk&7wh?&?6&?G&?Mk&7w*?&?6&?G&?Mk&7f-?&?6&?G&?Mk&7x6?&?6&?G&",
    "?Mk&7sq?&?6&?G&?Mk&7m*?&?6&?G&?Mk&7s9?&?6&?G&?Mk&7_J?&?6&?G&?Mk&7w(?&?6&?G&?Mk&7lG?&?6&7l:?&",
    "?6&7m&?&?6&7lH?&?6&7o]?&?6&7u8?&?6&7XW?&?6&?G&?Mk&7XA?&?6&?G&?Mk&7n_?&?6&?G&?Mk&7ri?&?6&?G&?",
    "Mk&8O@]S?&H6&7u.?&?6&?G&?Mk&:P%#M@-?&Z6&@]U?&H6&HG&HMk&@lo?&H6&HG&HMk&8M@[j?&H6&K#OJ-?&d6&.E",
    "9->570M>-G57:M>-G5IN8MY-Y57BM>-G582M$M,580M>W[-P55MW7%P1-G56fC-u#+P#/$QQ?&?6&?G&?Mk&7.?&?6&7",
    "O=?&?6&7O6?&?6&:.#OJ-?&7RE?&?6&8Z:O=?&H6&@O6?&H6&74?&?6&?G&?Mk&;x$yKhZ:MGN@G&dMk&4O^M@#OJ-#M",
    "G?&m6&eOb?&m6&eO??&m6&e.?&m6&eO=?&m6&eO6?&m6&e4?&m6&mG&v%.x$Z:M@#OJ-#MGN@?&p#MGN@6&p#MGN@G&0",
    "$VsM@?&H6&HG&HMk&4O^M@#OJ-#Mv?&eMh?&eM+?&fMGN@?&eM@?&9Q;#Mv?&IMh?&IN^?&IM+?&JMGN@?&IM@?&9QB#",
    "Mv?&IMh?&IN^?&IM+?&JMGN@?&IM@?&9T$#Mv?&IM+?&JMGN@?&IM@?&9Mv#Mh?&IM+?&9Mh#Mv?&IM+?&9N^#Mv?&IM",
    "h?&IM+?&9P=#Mv?&IMh?&IN^?&IM+?&9Pl#Mh?&IM+?&9QL#Mv?&IMh?&IN^?&IM+?&9P1#Mh?&IM+?&9TK#M+?&9OZ#",
    "Mv?&IM+?&9Qu#Mv?&IM+?&9Ph#Mv?&IMh?&IN^?&IM+?&JMGN@?&IM@?&9PF#Mh?&IM+?&JMGN@?&IM@?&9Ou#MG?&IM",
    "v?&IMh?&IN^?&IOH?&IM+?&JMGN@?&IM@?&9OH#Mv?&IMh?&IN^?&IM+?&JMGN@?&IM@?&9M+#Mv?&IMh?&IN^?&IM+?",
    "&JMGN@?&IM@?&9O@#Mv?&IMh?&IN^?&IM+?&JMGN@?&IM@?&9P%#Mv?&IM+?&JMGN@?&IM@?&9M@#Mv?&IMh?&IN^?&I",
    "M+?&JMGN@?&IM@?&:WT#SRMG?&:Op#SRMG?&;MGN@#SRMG?&9Xx#Yg?&IZ5?&ISf?&ITZ?&IS@?&JSRMG?&<M@#OJ-#O",
    "p6&eRp6&eM+6&eO@6&fMGN@6&eM@6&9Q;#Op6&IRp6&IM+6&IO@6&JMGN@6&IM@6&9QB#Op6&IRp6&IM+6&IO@6&JMGN",
    "@6&IM@6&9T$#Op6&IRp6&IM+6&IO@6&JMGN@6&IM@6&:Ph#MGN@6&IM@6&:PF#MGN@6&IM@6&9Ou#MG6&IOH6&IM+6&J",
    "MGN@6&IM@6&9OH#M+6&JMGN@6&IM@6&9M+#MG6&IM+6&9O@#Op6&IRp6&IM+6&IO@6&JMGN@6&IM@6&;MGN@#SRMG6&9",
    "M@#Op6&IRp6&IM+6&IO@6&JMGN@6&IM@6&LOJ-#MvG&eMhG&eN^G&eM+G&eP%G&9Q;#MvG&IMhG&IN^G&IM+G&IP%G&9",
    "QB#MvG&IMhG&IN^G&IM+G&IP%G&9T$#M+G&9Mv#MhG&IM+G&9Mh#MvG&IM+G&9N^#MvG&IM+G&9P=#MvG&IMhG&IN^G&",
    "IM+G&9Pl#MhG&IN^G&IM+G&9QL#MvG&IMhG&IN^G&IM+G&9P1#MhG&9TK#M+G&9OZ#MvG&IM+G&9Qu#MvG&IM+G&9Ph#",
    "MvG&IMhG&IN^G&IM+G&9PF#MhG&IM+G&9Ou#MvG&IMhG&IN^G&IOHG&IM+G&9OH#MvG&IMhG&IN^G&IM+G&IP%G&9M+#",
    "MvG&IMhG&IN^G&IM+G&9O@#MvG&IMhG&IN^G&IM+G&IP%G&9P%#MvG&IM+G&JSRMGG&9M@#MvG&IMhG&IN^G&IM+G&IP",
    "%G&LOJ-#M+Mk&eP%Mk&9Q;#M+Mk&IP%Mk&9QB#M+Mk&IP%Mk&9T$#M+Mk&IP%Mk&9P=#M+Mk&IP%Mk&9QS#M+Mk&IP%M",
    "k&9Ou#OHMk&IM+Mk&9OH#M+Mk&9O@#M+Mk&IP%Mk&9M@#M+Mk&IP%Mk&9Xx#SfMk&ITZMk&IS@Mk&:P1#MGN@?&IM@?&",
    ":OZ#MGN@?&IM@?&:Qu#MGN@?&IM@?&:P=#MGN@?&IM@?&:QS#MGN@?&IM@?&:Mh#MGN@?&IM@?&:Mv#MGN@?&IM@?&:N",
    "^#MGN@?&IM@?&:Pl#MGN@?&IM@?&:QL#MGN@?&IM@?&9QS#Mv?&IMh?&IN^?&IM+?&IOp?&9P=#Op?&9Pl#Op?&9QL#O",
    "p?&:P1#MGN@6&IM@6&:OZ#MGN@6&IM@6&:Qu#MGN@6&IM@6&:P=#MGN@6&IM@6&:QS#MGN@6&IM@6&:Mh#MGN@6&IM@6",
    "&:Mv#MGN@6&IM@6&:N^#MGN@6&IM@6&:Pl#MGN@6&IM@6&:QL#MGN@6&IM@6&9QS#Mv6&IMh6&IN^6&IM+6&IOp6&9P=",
    "#Op6&9Pl#Op6&9QL#Op6&9QS#MvG&IMhG&IN^G&IM+G&9P=#P%G&9QS#P%G&9P1#M+G&9P=#MvMk&IMhMk&IN^Mk&9QS",
    "#MvMk&IMhMk&IN^Mk&9P1#M+Mk&9TK#M+Mk&9MG#X<6&Q?&%y]p,O--+O-&PMO^ycKj#7tmy.ny/6Gy/7Gy/9Gy/:Gy/",
    ";8yfD[]N.z,>7[]Q:[T7y.cQ:[T7y.dQ:[T9[]Q:z-Byv_[T6ybUyh_9yfE[]yvMN.z-C7y.bQ:[T7yl:N.z-P6ycLj#",
    ";QB#Mv#M+G&KMh#Mv6&dG&[M+G&KN^#M+G&KM+#MvG&[MhG&[N^G&;Mv#M+#Mh6&dG&;Mh#M+#M@6&]MGN@6&;P=#Mh#",
    "MvG&KMv#MhG&]MGN@6&KM+#Mh6&dG&[MvG&[M+6&dG&;Pl#Mh#Mh6&dG&KM+#M+6&;QS#Mh#M+6&dG&KMv#M@6&KM+#N",
    "^6&dG&[M+6&dG&<QL#Mh#MGN@6&KN^#M+6&dG&;P1#M+#Mh6&dG&[M+G&[M@6&;OZ#Mv#M+6&KM+#M+6&dG&]MGN@6&;",
    "Qu#M+#M+6&[M@6&]MGN@6&;Ph#N^#M+6&dG&;PF#M+#Mh6&[M+6&;OH#Mh#M+6&[M@6&]MGN@6&KMv#MvG&d6&KN^#M+",
    "6&dG&KM+#Mh6&dG&;M+#Mh#MvG&[M+G&[M@6&KMv#MhG&[M+G&KN^#MvG&[M+G&u#+U/KMv#N^G&;P%#M+#MvG&[M+G&",
    ";O@#Mh#M+G&]MGN@6&KMv#M+6&dG&]MGN@6&KM+#M@6&]MGN@6&;M@#M+#M+6&dG&;Q;#N^#M@6&;QB#Mv#M@6&]MGN@",
    "6&KN^#M@6&]MGN@6&KM+#M@6&]MGN@6&;Mv#M+#M@6&LMh#MGN@6&LM+#MGN@6&<P=#N^#MGN@6&;Pl#Mh#M@6&;QS#M",
    "h#M@6&;QL#Mh#M@6&;OH#Mv#M@6&KM+#M@6&;M@#Mh#M@6&KMv#M@6&KM+#M@6&;M+#M+#M@6&;PF#M+#M@6&;O@#Mh#",
    "M@6&;PF#M+#MhG&;OH#Mh#M+G&;OZ#M+#M@6&;Ou#M+#M@6&;O@#Mv#MhG&;M+#N^#M@6&;OH#Mv#M+G&;Ou#M+#M+6&",
    ";OH#Mv#M+6&;O@#Mv#Mh6&;Mv#Mh#M@6&;Mh#Mv#M@6&;M+#Mv#M@6&;Ph#M+#M@6&;Q;#Mh#M@6&;Ou#M+#M+G&;OZ#",
    "Mv#M+G&;Pl#M+#M+G&;P=#N^#M@6&;O@#Mv#M@6&u#+Um6yfAy.eu#+V6<uDx0Q:p:N4(?&<yb,x0Q:p:N4(?&7y.o?&",
    "7y.Z?&7yTl?&7yfC?&7ycY?&7YL?&7xF?&7uD?&7uEYLxF5yJ2$yd=()PMO^y4EWlz-7Wlz-67yjlN.yl47y0VN.yJ1%",
    "<;Myu#+VF#yrw%<;M=u#+VG#yt7%<;Mpu#+VH#yu$%<;N>u#+VI#yu/%<;NRu#+VJ#yu:%<;Nvu#+VK#yuE%<;Oau#+V",
    "L#yuP%<;QWu#+VM#yu[%<;Rru#+VN#yug%<;Wcu#+VO#yrx%<;Vdu#+VP#ys+%<;Wdu#+VQ#ys6%<;Weu#+VR#ysA%<;",
    "Wfu#+VS#ysL%<;Y?u#+VT#ysW%<;Y@u#+VU#ysc'dH&OAM$NKHR]NKQNeN4GOhGSwHPB8HP(8J,AV6M5J+AV6M5u#+V_",
    "cy4lHMMV(u#+Vg&O8O^,M/6+M//2MS,M/?+M/.N=,M/6+M/-kwN=/O^,M/57+M/5/MS,M/57+M/5/N=,M/57+M/5.kwN",
    "=5/Rw_R,M/?+M/)dH&OAM$09brHQ^O+HNjO+HMVN/IU%MVN/H,O-H+O-I,P@M5I+P@M5J,QpP^M5J+QpP^M5J,=V6M5J",
    "+=V6M5J,2NaM5J+2NaM5I,NaM5I+NaM5I,OdM5I+OdM5J,AOdM5J+AOdM5$u[9%Au[9)dH&OAM$,M9M5I+M9M5$S8VD$",
    "kXVD$U%VD%2U%VD%S8MVN/%kXMVN/%U%MVN/$%NK-R]NK-NeN4u#+WC,Sw,Oh-P(8-PB8-Q^O+-,O--+O-.,P@M5.+P@",
    "M5/,QpP^M5/+QpP^M5-ND(,Uo,Ns-M-(-R2[O.NMM?(.NLM?(-ON(u#+WW-Q%P`-Vo(-Zc(-YbPUu#+W`&PMX<?&/_I#",
    "X<-.Yg?&-N[yB1.Z5?&u#+Wf.Sf?&6Mk&.TZ?&6Mk&.S@?&6Mk&.Xx?&6Mk&.WM?&6Mk&/$OJ?&:MG#UO-?&Z6&JOJ-?",
    "&Z6&:O?#OJ-?&Z6&:MG#OJ5?&Z6&:M@#OJ-?&Z6&ZG&ZMk&7MG?&?6&7Q;?&?6&?G&?Mk&8QBc3?&H6&??&?6&?G&?Mk",
    "&7T$?&?6&?G&?Mk&7Mv?&?6&?G&?Mk&7Mh?&?6&?G&?Mk&7N^?&?6&?G&?Mk&7Rx?&?6&7WT?&?6&7Op?&?6&7Rp?&?6",
    "&7P=?&?6&?G&?Mk&7QS?&?6&?G&?Mk&7Pl?&?6&?G&?Mk&7QL?&?6&?G&?Mk&7P1?&?6&?G&?Mk&7TK?&?6&?G&?Mk&7",
    "OZ?&?6&?G&?Mk&7Qu?&?6&?G&?Mk&7Ph?&?6&?G&?Mk&7PF?&?6&?G&?Mk&7Ou?&?6&?G&?Mk&7OH?&?6&?G&?Mk&7M+",
    "?&?6&?G&?Mk&7O@?&?6&?G&?Mk&7P%?&?6&?G&?Mk&7O??&?6&8MGN@?&H6&7M@?&?6&?G&?Mk&4O^OH#MG#UO-?&m6&",
    "]OJ-?&m6&e5?&m6&Q?&Q6&u#+Y@#y4Tu#+Y@%y5Jy]l8u#+Y@'MgW_O#gFQ(u#+Y@#yzsu#+YB%n+PB8-Ox8-ND(-Vo(",
    "-Zc(,Uo,U0-,O--+O-,Ns-M-(,NK-R2[O-NeN4,P`-MQMg53505:5B5F5M&5M05M(5M4,Oh,Sw.NMM?(-ON(.NLM?(-P",
    "(8-YbPU/Nf'$/GN#GMUGMfG4GN<GM[GM_G7GN(GM]GM'GMIGM7G1GMsGNQGM#GM%GMZG.GM^GN%GMuGMTGMq.,M9M5-Q",
    "%P`.+M9M5-N$O7-MVN/-N7O7/Nf%$/GN#GMUGMfG4GN<GM[GM_G7GN(GM]GM'GMIGM7G1GMsGNQGM#GM%GMZG.GM^GN%",
    "GMuGMTGMq.,P@M5-M$N/.+P@M5,MS.,AO-.+AO-&nkR]NeN4.,OdM5.+OdM5-R]NK.T;K96$PT?%/G7G.G4G1GMCGO6G",
    "OIGPL8[LtLR&86$/>7>.>4>1>M6>Pz>Q5>Py>PD>MO>P_>Q)>Pn>PJ>MP>QT>PL>OD>>>ME>OW>O_>Oo>O#>M2>Ot>R[",
    ">O)>P:>MD>Ow>O<>On>Pi>MC>O6>OI>M<>Qm>Pk>QR>P0>N.>M77U$R&88dpgVR&8-UFT`6$S&>_=?S&OS>S*GROGPc>",
    "SS>_?>R=GP6GSXGP?GOSGT*GUlGPc>S)>R;>_>?R;OS>SO>Y%>R^>T0>[%>U6>V5>VW>Sr>Tfu#+[U>/>Ob>MC>[<>X7",
    ">4u#+[^>[?>RF>1>N.>fA>O=u#+[f>OI>.>fG>P>>Pp>O6u#+[n>T4>P)>7u#+[t%n+kW(-^h(-NP(,N=-WyM,-[>(-f",
    "L(u#+]$&nkyB-MNM$-M.*-Me*-H*-MY*-=M9-AM;u#+]5%yIgj+j(5Oq5w/%y]?tzR-$tzR-u#+]<'pjN#RAjW/?y0t4",
    "?y0k7?y131?y0X.?jPMX?y1#Pu?jVQM?y0]Q1?y1)R.?y1/N6?y1$Sju#+]I?y0rT:?y17W)?y1CM6?y0zPy?y19Pz?y",
    "1<PD?y1GQ5?y1FMD?y0[On?y1?Ow?y0^Pi?y0fO<?jUME?y0gOo?y0mOW?y1*O#?y1-O_?jRM:?y1>Nq?y0uO.?y0YQk",
    "?y1(SJ?y0_Q@?y1D^m?y0dZj?y0o^nu#+]e?y12M<?y0jQR?y1+Qm?jQP0?y0iPk?y0nMO?jXPn?y0wP_?y0ZPJ?y10Q",
    ")?y11MP?jSOD?y0sQT?jT>?y1;PL?y1,N.?y1AP>?y0vPp?y0xPTu#+]y?y0`No?y1@Q-u#+^$?y0cT'?y0h`A?y0yy)",
    "=?y1JN0?y1=aZ?y1Ny>I?y1&^N?y0ltR?y14yaP?y1BycC?y0pycD?y1:ydV?y18yl3?y1L[0?y1O0u#+^56Ey0a>y0b",
    ">y0e>y0q>y1%>y1'>y1.>y15>y16>y1E>y1H>y1I>y1K>y1Mu#+^f7Z.y1PQ6?y1QVa?y1RaC?y1Sy?k?y1TyRn?y1Uy",
    "j5?y1Vm[?y1W^s@y1XOQy%e@y1YO)y%e?y1Zyi<?y1[k.?y1]Yc?y1^y5-?y1_fH?y1`y3=?y1asI?y1byiM?y1cy:S7",
    "Xdy1dyKQ?y1eyKK7Z.y1f^S?y1g_h>y1h7Xdy1iy/_?y1jySY7Z.y1ky4w?y1l]V>y1m?y1nxV>y1o>y1p?y1qOV>y1r",
    ">y1s>y1t7Xdy1vyo>6Z.y1w>y1x?y1ya#>y1z>y2#?y2$yCL?y2%y/g>y2&>y2'>y2(>y2)>y2*>y2+>y2,>y2->y2.?",
    "y2/cE>y20?y21Ty>y22>y23>y24>y25>y26>y27>y28>y29>y2:>y2;>y2<?y2=]`?y2RyB%?y2Uja?y2ZvA?y2[*>y2",
    "]?y2^yk;>y2_>y2`@y2ayvtY[?y2bY[@y2cY[n&?y2d_g>y2e>y2f7Xdy2gy=J6Z.y2h>y2i>y2k>y2l>y2m?y2ny;y>",
    "y2o>y2p>y2q>y2r>y2s?yr@y1uGy2>Gy2?Gy2@Gy2AGy2BGy2CGy2DGy2EGy2FGy2GGy2HGy2IGy2JGy2KGy2LGy2MGy",
    "2NGy2OGy2PGy2QGy2SGy2TGy2VGy2WGy2XGy2YGy2jGy2tu#+`7&y.4RlOqN/>9-Sc8u#+`>-ND3505:5B5F5M&5M05M",
    "(5M45Mw5Nr5P25Q45O]5Q95OX5RV5OB63M360M36:M36BM36FM36M&M36M0M36M(M36M4M363MB60MB6:MB6BMB6FMB6",
    "M&MB6M0MB6M(MB6M4MB6MwMB6NrMB6P2MB6Q4MB6O]MB6Q9MB6OXMB6RVMB6OBMBu#+`o.xN[l[46U@VU6WBVU6S0VU6",
    "]NVU/aWXbU@VU/pmXbU@VU.XbWBVU6S0VU'POy.%y0?3O`GM/GaU>F>O]?FM3GMB?O]MB?FWO?MwWO?O]WO@3M3WO@FM",
    "3WO@3MBWO@FMBWOGVS?MwVS?O]VS@3M3VS@FM3VS@3MBVS@MwMBVS@O]MBVS?MwcB7yFQ3y`Q6Y.36b436aa06Y.07y:",
    "W0lv7aa0lv6f&F>MwHPd&6b4Mw6yS`Mw6Y.Mw>P26f&O]HPd&6b4O]6Y.O]?3M3?:M37aaFM37f&FM37Y.FM37y6;FM3",
    "7yVVFM37Y.3MB?FMB7y<^FcB7yjSO]cB.3M/(HPd&.0Uc(.:Re(-xj(-ylH(-aU(-y]C(.0^Q(.:^Q(.B^Q(.F^Q(-yS",
    "e(.yMu[l(-yOK(-y^'(-yw^(-y/s(-y/j(-yE-(.yne[l(-Mg(.3O`(-yh[(-yIS($yYH(u#+aq%ZrygB(-ypW(-yg.(",
    "-u](.y=Cu](-yhR(-y<`(-ybY(-yg:(-y>8(-Q:(-y6d($y/zEu#+b)&POEQoP<u#+bY&y_r]1(sp?y`XQ=?ylYQ=>y6",
    "/>`u>Va>]`>yCP>ymU>*>Ww>dx>]'>yRY>yS*>dj>pg>k4?kLt8>y=p>y9N>yht>y9M>y3n>dy>OV>yFk?y5/R#>Sb>^",
    "s>m4>lu>yo6>Ws?t8Ty>Uf>y^w>dd>yO8?^WRP>mq>yE2>yjR?%`P?U%y33@O8RbDu#+d[%yP-$/545N#5y4'5M[5Mf5",
    "75N%5Mq5Ub5N(5M]5NQ5M'5MI5M75^=5ZS5.5Ms5]v5M#5M%5MZ5f,5OT5Nj5M_5Muu#+e$%y63$/5y^>5Mf5M'5ypy5",
    "M#5yN_5`A5NQ5N#5MI515y;`5MZ5WC5ygJ5M%6MUYA5.5ZS5Mu5M75ynt5Ms5_<57545yq$5M]5yK55yVx5N55M[5yC;",
    "5_@5yj05QQ5N'6MUg75f,5ypz5O>5c55yS15yS25yS35yN`5Yo5yq#u#+ee&PNy?fVZ86MQ3>0>:>B>F>M&>M0>M(>M4",
    "6NDMw>Nr>P2>Q4>O]>Q9>OX>RV>OB?3M3?0M3?:M3?BM3?FM3?M&M3?M0M3?M(M3?M4M3u#+f-&N_T9$/>RQ>Py>Pu>4",
    ">RE>Q->O)>OE>7>M6>Pv>Q^>Nj>Q_>1>Nq>OQ>Q5>RX>RY>OD>.>y?@>d9>b^>T]>y?o>PV>N'>N5>y?v6Tn3>F>Mw>O",
    "]u#+fZ6$RF?rzS3?v<S3%yE&$y.N5y3-5yDO5y;i5y.Q5yb+5yJ(5yEq5ymB5y?<5yM]5yNB5yR`5yVT5yJ:5ypp5y^N",
    "5OB5ycO5yf[5ylj5yw%5yA15yI35o=5y]w6M4M3u#+g&&N_sy$OT>TW>yC@>lp>4>yz<>y>N>_r>y>O>7>yM%>yNj>yS",
    "V>rU>yro>y_I>ycs>[#>U`>.>y77>ygu>yg]>yy0>TJ>1>Nn>T]>M2>yno>yr<>[@>_l>Ug>Qx>O6>MC>]e'O8N_sy$O",
    "TGlpG_rGrUG[#u#+gV%ypD$y.r5QI5yCF5NC5Q<5P:5PT5SV5yH*5WS5U'5Ou5Oy5S'5Q75y<v5Np5T(5yfG5OZ5SJ5u",
    "A5ybN5ycX5ym15Qu5>575.5eDu#+gv-RlX/&N_sz(/>7>.>M6>Q5>Ma>R0>Rm>N9>N6>V2>MP>PL>MX>QM>R.>NO>M:>",
    "Mj>O3>ME>O_>MD>Ow>O<>MC>N`>Ue>M<>Pk>MF>MO>No>N3>O4>M2u#+hG>y0DGM=>y0E>ywr>y;kGM=>y3$>y5B6RlX",
    "/6ND3>0>Mw>Nr>M3u#+i('y<j'$Mm7G4G/GSZG1GNn?NN7G4G/GSZG1GNn>S]>Z_>TI>Y<>M_>UV>Ws>Y,>X*>[y>XR>",
    "bY>n8>T]>V`>V)>[*>RY>[B>Q_>_t>RX>Pv>Q^>Nj>Se>ZY>ae/%$Mm7G4G/GSZG1GNn?NN7G4G/GSZG1GNn>S]>Z_>T",
    "I>Y<>M_>UV>Ws>Y,>X*>[y>XR>bY>n8>T]>V`>V)>[*>RY>[B>Q_>_t>RX>Pv>Q^>Nj>Se>ZY>ae%ygX$y_L5wK5yLL5",
    "Vt5ym>5PJ5yk,5kj5yx`5yH:5y405y<I5yC?5yrr5ym;5y#,5Xb5yJm5yw+6M2z,c5yO]5yTQ5yI15m:5Nw5y./5NE5x",
    "V5R85SZ5ydX5Np5]95y.D5V.5I5y];5y]d5^S5y0Q5y/^5Mr5`D5]B5y/m5X25oD5yxl%y]u$MG5Mj5MP5N65Rm5NC5y",
    "<R5M<5MO5ygk5Nl5kR5Ma5O35dR5om5yN45yTH5yZ`5O?5M25MC5/5457515.5Ml5O,5Nnu#+jr-MQMg53505:5B5F5M",
    "&5M05M(5M4u#+k*&y]s'$/>N&>OZ>SZ>k9>N?>m<>4>mB>M2>oA>7>M6>m=>bl>MF>MD>ME>1>sD>M:>m>>MO>N3>MP>",
    "m?>Oz>m@>Rj>Nl>.>N.>NC>Nk>No>Q.u#+kR.%$/>N&>OZ>SZ>k9>N?>m<>4>mB>M2>oA>7>M6>m=>bl>MF>MD>ME>1>",
    "sD>M:>m>>MO>N3>MP>m?>Oz>m@>Rj>Nl>.>N.>NC>Nk>No>Q.u#+l#%y?C$/5RQ5U35PV5Pu5^D5Yi5U:545Sg5Td5b)",
    "5O)575Sj5Py5Ra5yOP5On5Oo5ME5V@515Nq5^m5QR5u75Pn5OQ5OD5OE5.5RE5Y:5MT5Q-5RG5Qb5yD;5b^u#+lS&y6?",
    "y.f$y.t>Wu>b(>lA>a]>yz%>m^>yz;>ylV>N?>yy*>Q.>yIt>N3>pP>yIo>yw_>y>J>Uu>yJC>yKS>yP1>yFY>yb1>y/",
    "H>y7V>PW>y:P>qa>Zi>yYS>y>P>ygL>yJ8>NE>yoO>yA7>y>M>k_>Xp>yDG>^t>ygE>yrH>ymm>ul>yJ*>y:O>kR>yx^",
    ">d=>yLdu#+m;6y7v8&yr`'$/>YU>RQ>U3>PV>Pu>Yi>U:>4>Sg>Mau#+mH>M2>UG>7>oL>Sj>M6>MF>P.>On>Oo>V@>1",
    ">Nq>Q@>QRu#+mX>Pn>OQ>OD>OE>.>RE>Y:u#+ma>MT>Q-u#+md.%$/>YU>RQ>U3>PV>Pu>Yi>U:>4>Sg>Mau#+mp>M2>",
    "UG>7>oL>Sj>M6>MF>P.>On>Oo>V@>1>Nq>Q@>QRu#+n(>Pn>OQ>OD>OE>.>RE>Y:u#+n0>MT>Q-u#+nv&pj/(y,y>y,z",
    ">y-#>y-$>y-%>y-&>y-'>y-(>y-)>y-*>y-+>y-,>y-->y-.>y-/>y-0>y-1>y-2>y-3>y-4>y-5>y-6>y-7>y-8>y-9",
    ">y-:>y-;>y&3>y-<>y-=>y->>y-?>y-@>y-A>y-B>y-C>y-D>y-E>y-F>y-G>y-H>y-I>y-J>y-K>y-L>y-M>y-N>y-O",
    ">y-P>y-Q>y-R>y-S>y-T>y-U>y-V>y-W>y-X>y-Y>y-Z>y-[>y-]>y-^>y-_>y-`>y-a>y-b>y-c>y-d>y-e>y-f>y-g",
    "?hJfk>y-h>y-i>y')>y-j>y-k>y-l>y-m>y'6>y-n>y-o>y-p>y-q>y-r>hK>hL>hM>hN>hO>hP>hQ>hR>hS>y)@>y)A",
    ">hT>hU>hV>y)C>y)D>y)E>hW>hX>hY>hZ>h[>h]>h^>h_>h`>ha>hb>hc>hd>he>hf>hg>hh>hi>y)G>hj>hk>hl>hm>",
    "hn>ho>hp>hq>hr>hs>ht>hu>hv>hw>hx>hy>hz>i#>i$>i%>i&>i'>i(>i)>i*>i+>i,>i->i.>i/>i0>i1>i2>i3>i4",
    ">i5>i6>i7>i8?i9QY?i:QY?i;QY?i<QY?i=QY?i>QY?i?QY?i@QY?iAQY?iBQY?iCQY?iDQY?iEQY?iFQY?iGQY?iHQY",
    "?iIQY?iJQY?iKQY>iL>iM>iN>iO>iP>iQ>iR>iS>iT>iU>iV>iW>iX>iY>iZ>i[>i]>i^>i_>i`>ia>ib>ic>id>y*s>",
    "y*t>y*u>y*v>y*w>y*x>y*y>y*z>y+#>y+$>y+%>y+&>y+'>y+(>y+)>y+*>y++>y+,>y+->y+.>y+/>y+0>y+1>y+2>",
    "y+3>y+4>y+5>y+6>y+7>y+8>y+9>y+:>y+;>y+<>y+=>y+>>y+?>y+@>y+A>y+B>y+C>y+D>y+E>y+F>y+G>y+H>y+I>",
    "y+J>y+K>y+L>y+M>y+N>y+O>y+P>y+Q>y+R>y+S>y+T>y+U>y+V>y+W>y+X>y+Y>y+Z>y+[>y+]>y+^>y+_>y+`>y+a>",
    "y+b>y+c>y+d>y+e>y+f>y+g>y+h>y+i>y+j>y+k>y+l>y+m>y+n>y+o>y+p>y+q>y+r>y+s>y+t>y+u>y+v>y+w>y+x>",
    "y+y>y+z>y,#>y,$>y,%>y,&>y,'>y,(>y,)>y,*>y,+>y,,>y,->y,.>y,/u#+rY?y,0/?y,1N#?y,2Mf?y,34?y,4N<",
    "?y,5M_?y,6N(?y,7M]?y,8M'HM=yN.HMpyN/HN>yN0HNvyN1?y,9N%?y,:Mu?y,;MT?y,<OC?y,=y-u?y,>y3H?y,?y<",
    ",?y,@y@>?y,ASju#+rz>y,B>y,C>y,D>y,E>y,F>y,G>y,H>y,Iu#+sB'Of$%'Ml7SRQ*Oh@M/Q*Oh6%Ob?'N#@N##Cu",
    "#+sI?V&P,R#O/CYPt?]0P,@Mf#N[PCZ)N[?N+4AOMN+Mi4?ajP,?tpOV?'M[@M[#CA'M[#C@M_#D?'M_@Z(#CCS#N(#D",
    ")C?pxP,?q+P,@M'#T.A'M'#T.CM'#O/C)T.>bxI#O/C?MxMTQ#T.@1#D?'O=?OMOC>NQBMxM##MmR#n)O/C@M##N[PVu",
    "?'M#Aw&P,#Pt?f)P,R#O/C?_LP,AMZ#O/CAM^#+Cu#+su?'MT8P-N4#D9N+P-N4#D6`[T16aET16pUT16j&T19O/T1#O",
    "/C8%M%#Ptu#+tl%y:TRA/5457515.5N6u#+tt5T:u#+tv5M65Py5Pz5PD5Q55MF5Ra5Qf5Q>5PZ5MD5On5Ow5Pi5O<5M",
    "E5Oo5OW5O#5O_5M:5Nq5O.5Qk5SJ5M<5QR5Qm5P05Pk5MO5Pn5P_5PJ5Q)5MP5OD5QT5>5PL5N.5P>5Pp5PTu#+uK5Rm",
    "5Y:u#+uP5Nou#+uS5T'&yIHy/[$Qr>Qs>Qv>T3>O)>O?>Rq>RZ>Tv>Ro>R4>R`>Q7>Np>R>>S5>Nq>Rh>VJ>Rf>Oy>RC",
    "u#+ul6P](6ND3>0>:>Mw>Nr?3M3GMB?MwMB%y^W$Qr5Qs5Qv5T35O)5O?5Rq5RZ5Tv5Ro5R45R`5Q766Np5Np5R>5S55",
    "Nq5Rh5VJ5Rf5Oy5RC.,N;an.+N;an-ND3505:5B5F5Mw5Nr&yV@$6Qr5Qr66Qs5Qs5Qv5T366O)5O)5O?5Rq5RZ5Tv66",
    "Ro5Ro66R45R466R`5R`66Q75Q766Np5Np5R>5S55Nq5Rh5VJ5Rf66Oy5Oy5RCu#+ve-ND3505:5B.y:8NDB-NDF5Mw5N",
    "r63M3u#+wF%yF8$Qr5Qs5Qv6T3gR5O)5O?5y#%5RZ5Tv5Ro5R45R`5Q75Np5R>5jN5Nq5Rh5VJu#+wZ5Oy5RCu#+wb-N",
    "D35F5Mw5Nr63M3%y`$$y.i5Wu5yCE5y<_5O)5fD5yyt5ny5WS5U'5Ou5yNJ5Q75Np5yg-5OZ5Nq5uA5dS5ydg5Oy5Qo-",
    "ND35Mw5Nr63M3505:u#+x.-RlOq%yP.$/5N#5M[5Mf545M^575MT5M]5M'5MI5M7515M#5_<5MZ5.5N<5NQ5M%5f,5OT",
    "5Nj5c,5ZS5MUu#+xN-Q*8u#+y8&yS]yFn$/>4>7>1>MC>N.>MjGM=>M:>MD>MEGM=>OoGM=>M<GM=>MF>NC>UG>MOGM=",
    ">Pn>M6>Q@>MPGM=>ODGM=>>>MX6EyrMGM=.y:H$/>4>7>1>MC>N.>Mj>M:>MD>ME>Oo>M<>MF>NC>UG>MO?QFMO>Pn>M",
    "6>Q@>MP>OD>>>MXu#+yu7QNS:Tz?3M/6ZBydU>yIE6ND3>0>:>B>F>M&>M0>M(>M4>Mw>Nr>P2>Q4>O]>Q9>OXu#+z3?",
    "3M3?0M3?:M3?BM3?FM3?M&M3?M0M3?M(M3?M4M3?3MB?0MB?:MB?BMB?FMB?M&MB?M0MB?M(MB?M4MB?MwMB?NrMB?P2",
    "MB?Q4MB?O]MB?Q9MB?OXMB?RVMB?OBMB@3M3MB@0M3MB@:M3MB@BM3MB@FM3MB@M&M3MB@M0M3MB@M(M3MB@M4M3MB7Q",
    "N3yoH?0Tz?:Tz?BTz?FTz?M&Tz?M0Tz?M(Tz?M4Tz?MwTz%yL6$/.MK(7>.?NTM#u#+zg>4>1u#+zn6R68/(2MW55Ng5",
    "OL-$M65NC5Ma5Nku#+zw5N95N?5N6u#,##5NA5Nh5O15Ni5O95Nz5MP5NO5MX5Nl5ME5M:5NZ5Mj5O%5MD5MC5M<5MF5",
    "N`5N35O45MO5No5M25bb5yo)5wl5yrJu#,#B.(M,-5y6@695u#,#I,O5-MQ3505:5B-NDMw5Nr63M3>MB.QN3M/u#,#Z",
    "-O*96%M;5M;6X'M,5yR]5^45Os62Os5pku#,#k'N_O(j9$O)GR`GRZGQ7GVJGO?GOyGRfGQsGRCGdiGR4GNpGyL9GRhG",
    "R>GSgGMGGjNGy<uGQvGT3GyD>GTvGy#%Gy<xGRoGym3Gym:?ND3GO]?s-V0/Nmj9$P%GOHGMhGM+GPFGO?HRYM=GOpGQ",
    ";GQBHRYMyGOuGO@GN^GPlHRYMpGPhGMGGOZGQLGyCbGRxGQuGP1GRpGWTGM@GT$GTK?ND3GMwGNru#,$t%yR_$Qr5Qs5",
    "ju5Qv5yDI5T35O)5O?-(QV-$Rq5yz75yJ75yJA5RZ5Tv5Ro5R45ywY5p,5R`5y<y5ym05Q75Np5R>5S55y,w5Nq5Sg5R",
    "h5VJ5ywn5yb<5Rf5Oy5yiu5RC.QZ8->5u#,%G-ND35F5Mw5Nr63M3-O*NS5an829W`979W`95960M>6N/T`u#,%]%y0N",
    "$/5Ml5[`5y,r5OT5if5Ob5io545O,515Nn575N'5.5N55Py5Y:5x`5ywv5Td5b%5Qb5U35Sj5OD5OE5Pu5Yi5[-5Nq5S",
    "g5RQ5[n5r_5yX65yX55Oo5cr5yY:5On5yGC5yyB5RF5RE5QR5Ra5Pn5Q-5OQ5RG5yhA5yit5O)u#,&>-QZ8)[+0M>MA3",
    "9O*)%0M>MA39O*)N:0M>MA39O*139MA0M>O*10u+MA3MWO*13MWMA0u+O*&yIay_'$Qr>Qs>Qv>T3>O)>O?>Rq>RZ>Tv",
    ">Ro>R4>R`>Q7>Np>R>>S5>Nq>Rh>VJ>Rf>Oy>RCu#,&^6ND3>0>:>B>Mw>Nr?3M3GMB.s[$Qr>Qs>Qv>T3>O)@O?`2gR",
    ">Rq>RZ>Tv>Ro>R4>R`?Q7y%s>Np>R>>Nq>Rh>Oy>RCu#,'&6ND3>0>:>B>Mw>Nr?3M3GMB&yaKs[$Qr>Qs>Qv>T3>O)@",
    "O?`2gR>Rq>RZ>Ro>R4>R`?Q7y%s>Np>R>>Nq>Rh>Oy>RCu#,'G6P]87MxP]88BM>#NtP9u#,'W6ND3>0>:>B>Mw>Nr?3",
    "M3u#,(W'N_yo<$P&/?P5/GOb?P&7?P57G4?P&1GO=?P5O=?P&U/?P5U/?P&im?P5im?P&[Z?P5[Z?P&ip?P5ip?P&Wi?",
    "P5Wi?P&y.2GYq?P5Yq?P&S]?P5S]?P&it?P5it?P&iq?P5iq?P&sC?P5sC?P&T-?P5T-?P&y.5Gy?KGQ^GOTGWj?P5Wj",
    "?P&X5?P5X5?P&]??P5]??P&X6?P5X6GS[?P&Se?P5y.6?P&]AGcyGb?GYp?P5Yp?P&YP?P5YP?P&bJ?P5bJ?P&d#?P5d",
    "#?P&Wl?P5Wl?P&y.7GQ:Gy.9GNw?P5Nw?P&Q_?P5Q_?P&PU?P5PU?P&is?P5is?P&^VGy3Au#,*)/yH;'$/GMlGa]Gj'",
    "GYpG]?Gm7Gm8G)G4H`z4GO,GT]Gm9Gm;GT^G7GN'GmCGX4G[[Gx*GPvGmFGQ^GNjGX6G1GNnH^IO=H_$O=GsBG]AGmIG",
    "RXHNNRXGRYGmWGS;GX5GmYGX3G.GN5H^IPoH_$PoGadGYqGm_IX5S4(GY4u#,*j7%$/GMlGa]Gj'GYpG]?Gm7Gm8G)G4",
    "H`z4GO,GT]Gm9Gm;GT^G7GN'GmCGX4G[[Gx*GPvGmFGQ^GNjGX6G1GNnH^IO=H_$O=GsBG]AGmIGRXHNNRXGRYGmWGS;",
    "GX5GmYGX3G.GN5H^IPoH_$PoGadGYqGm_IX5S4(GY4u#,+L6ND3>F>Mw>O]?3M3GMB&yF+u1$/>Mj>M:>MP>Nh>N6>N9",
    ">M2>NC>O3>MX>Ni>M<>QA>No>MO>N3>M6>Ma>MF>MD>ME>N.?p1N.>MC?p1MC>N1>NA>N`6MK/>7>.>4>168yf=?MEyL",
    "@6(yF0>yl@>ylK>ylXu#,,+6MQMg>3>0>:>B>F>M&>M0>M(>M4u#,/V%ye3MQ3505:5B5F5M&5M05M(5M4-NDMw5Nr5P",
    "25Q45O]5Q95OX5RV5OB63M360M36:M36BM36FM36M&M36M0M36M(M36M4M3.QN3M/>O`>S060Ucu#,/w%yxn$y?I5RQ5",
    "Nq5d95OE5Pn5Y^5y7A5y7<5UG5Rm5Rx5_q5M<5UX5No5N65_65Oy5Pl5QL5MP5Q-5m^5ywa5O35N`?Pd&5PF5Ou5yL15",
    "XA5OH5^;5Np5[25O?5Z_5ae5yF<5[A5S;u#,0J.O8OJ86UO8-oB8u#,0O0$OH#9-8[A#N$-u#,1H&N_e8$Qr?6Qr>Qs?",
    "6Qs>Qv>O)?6O)>O?>Rq>RZ>Ro>R4>R`>Q7>Np?6NpR#M$N[>R>>S5?PdS5>Nq>Rh?6RhR#M$N[@Rf`2y%^>Oy>RC?6RC",
    "R#M$N[6ND3>0>:>B>F>Mw>Nr>P2?3M37QN3M/7O^S5y%^u#,1y%e8$Qr5Qs5Qv5O)5O?5Rq5RZ5Ro5R45R`5Q75Np5R>",
    "5S55Nq5Rh6Rf`25Oy5RC5yAO5pb-V/Oy.O89570M>569-70M>-6Q]->56C->57MmC56Rf56D5-ND35Mw5Nr63M3/O*0M",
    "$[kQ#M>7M;#980S6#M>8M/M;#9u#,2b&N_yq)$Qr>Qs?Qvz,e>O?>Rq?6RZ>Ro>R4>R`>Q7>Np>R>>Nq>Rh>Rf>Oy>RC",
    ">pb7O89-G5@0M>-P56O*M,?0[kGM>?BM>u#,3J%y7S$Qr6%Qr5Qs5Qv5T35O)5O?6y:EO?5Rq5RZ5Ro5R45R`5Q75Np5",
    "R>5S55Nq5Rf5Oy5RC-ND3505:5B5Mw5Nr63M3u#,4#%y?L$Qr5Qs5Qv5T35O)5O?5Rq5RZ5Tv5Ro5R45R`5Q75Np5R>5",
    "S55Nq5Rh5VJ5Rf5Oy5RC.O^Rqz-]u#,4C%y4i(Og5Ng5OL5XS5Y3-$/5Ml575N'5.5N56NTM#>O>>M'>OO545N&515N0",
    "5M65NC5Ma5Nk5N15N95N?5N65OK5NA5Nh5O15Ni5O95Nz5MP5NO5MX5Nl5ME5M:5NZ5Mj5O%5MD5MC5M<5MF5N`5N35O",
    "45MO5M25P.7N_WQW0GQAGZT.MK(Ml?y4+Ml>7>N'>.>N5?NTM#GO>GM'GOO>4>N&>1>N0,O5,Os-2Os-O*96295N/6X'",
    "M,5^4u#,5>-ND3505:5B5F5M&5M05M(5M45Mw5Nr5P25Q45O]5Q95OX5RV5OB63M3>MB-MQMg53505:5B5F5M&5M05M(",
    "5M4/(N_WQO50$N_WQNN4P11MK(N_WQNN4Y1/$N_WQP.u#,5l-NDW(%yKD(Og5Ng5OL-$/5Ml575N'5.5N5545N&515N0",
    "5M65NC5Ma5Nk5N15N95N?5N65OK5NA5Nh5O15Ni5lI5O95UX5Nz5MP5NO5MX5Nl5ME5M:5NZ5Mj5O%5MD5MC5M<5MF5N",
    "`5N35O45MO5M2.MK(Ml>7>N'>.>N5>4>N&>1>N0-(O55PP-QZ(-y?_(-ND(-P]8.2P]8,Os-2Os/MK(NTM#u#,6c.ND(",
    "-u#,6f&yi9yi2$uC>P1>y3)>y5r>y;j>n3>q]>yWM>yNC>cT>x3>y^K>_k>ycJ>Mh>or>yJ/>yZd>SZ>y?3>bA>f4>ZX",
    ">T^>qYu#,7.6MQMg>3>0>:>B>F>M&>M0>M(>M4u#,7>%y6t(Og5Ng5OL-$Ml575.545]n5p)5Yx5nK5^F5`l5k[5oX5y"
  ]

end CodeIndex.CharName

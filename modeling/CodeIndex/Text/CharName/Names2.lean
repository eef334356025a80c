/-! Names of characters as numbers of words, part 2. -/
namespace CodeIndex.CharName

/-- Part 6 of the names. -/
def names6 : List String :=
  [
    "J?5s75wf5f.5lF5lK5yY85WN5[)5l85y<s5Xe5Xm5t'5[e5y4(5c-5yyA5Y;5Zl5ZA5[85_&5UD.MK(/>7>N'>.>N5>4",
    ">N&>1>N0>ZY-18-N08,O5,yR:u#,7u-MQMg53505:5B5F5M&5M05M(5M4-P]8,Os-2Os-P(8-$pd.MK(Ml>U:-$x2u#,",
    "87%yRH$/575.54515M65NC5Ma5Nk5N95N?5N65OK5NA5Nh5O15Ni5O95Nz5MP5NO5MX5Nl5ME5M:5NZ5Mj5O%5MD5M<5",
    "MF5N`5MO5M25QA-(PP-QZ(-P]8-O^umu#,8h%ygU(Og5Ng5OL-$/5Ml575N'5.5N56NTM#>O>>M'>OO545N&515N05M6",
    "5NC5Ma5Nk5N15N95N?5N65OK5NA5Nh5O15Ni5O95Nz5MP5NO5MX5Nl5ME5M:5NZ5Mj5O%5MD5MC5M<5MF5P.5N`5N35O",
    "45MO5M2.MK(Ml>7>N'>.>N5?NTM#GO>GM'GOO>4>N&>1>N0-(O55R,5XS5Y3,SE,Os-2Os-QZ(,Oq-Zu8-(PP.MKOf8/",
    "VqNNMK8-yk28/MK(dI4.(NBOg-MQMg53505:5B5F5M&5M05M(5M4,y?>-(WG,b3-y9g(.P]8My>M=u#,9r&v$QFMQ3>0",
    ">:>B>F>M&>M0>M(>M46NDMw>Nr>P2>Q4>O]>Q9>OX>RV>OB?3M3GMBu#,:9%yL=$/5Ml575.545N&515N05M65NC5Ma5",
    "XC5Nk5N15N95N?5N65Z3u#,:L5NA5Nh5O15Ni5O95Nz5MP5NO5MX5]-5Nl5ME5M:5NZ5Mj5Vj5O%5MD5MC5M<5MF5N`5",
    "MO5M25P..MK(Ml>7>N'>.>4>N&>1>N0-(Ng5O55PP5Xx,Os-2Os-RlOq-P]8.2P]8-QZ(-(WMu#,;c%yUA$/575.545M",
    "65NC5Mau#,;k5Nku#,;m5N95N?5N65Z3u#,;r5NA5Nh5O15Ni5]-5O95Nz5MP5NO5MX5Nl5ME5M:5NZ5Mju#,<*5O%5M",
    "D5MC5M<5MF5N`5MO5M25QA5UX-P]8u#,<;%yLF$/5Ml575N'5.5N5545N&515N05M65NC5Ma5XC5Nk5N15N95N?5N65Z",
    "35OK5NA5Nh5O15Ni5]-5QA5O95Nz5MP5NO5MX5Nl5ME5M:5NZ5Mj5Vj5O%5MD5MC5M<5MF5N`5N35MO5M2-(Ng.MK(Ml",
    ">7>N'>.>N5>4>N&>1>N0-(PP5O5u#,=$-MQMg53505:5B5F5M&5M05M(5M4u#,=4'b,(O8Ng-5Og5Ng5OLu#,=9-$/5M",
    "l575N'5.5N56NTM#>M'u#,=C5O,5N&u#,=G5Nn5N05M65NC5Ma5Nk5N15N95N?5N65OK5NA5Nh5O15Ni5O95Nz5MP5NO",
    "5MX5Nl5MEu#,=_5M:5NZ5Mj5O%5MD5MC5M<u#,=g5MF5P.u#,=j5N`5N35O45MO5M2u#,=p%O8`]5%b,(PP5R,.MK(Ml",
    ">7>N'>.>N5?NTM#GO>u#,>$>O,>N&u#,>(>Nn>N0-(O5u#,>-,SEu#,>4.N0R68u#,>:-(t;.$[6Ng?2Ng6NTO>>OO/M",
    "K(NTM'GOOu#,>C&O8b,MQMg>3>0>:>B>F>M&u#,>M6$/>M6>ME>Ue>M:u#,@/%yWI$/5Ml575N'5.5N56NTM#>O>>M'>",
    "OO545N&515N05M65NC5Ma5Nk5N15re5N95N?5N65OK5NA5s:5Nh5O15Ni5O95Nz5MP5NO5MX5Nl5ME5Xj5M:5NZ5Mj5O",
    "%5MD5qz5MC5M<5UX5MF5V75N.5N35O45MO5M2.MK(Ml>7>N'>.>N5?NTM#GO>GM'GOO>4>N&>1>N0-(O55Og5Ng5OL5P",
    "P5R,66Ng,SE,yhJ,Os-2Os,NK-YyT`-QZ(-MQMg53505:5B5F5M&5M05M(5M4-2NK-d>8u#,A5-bG(-Zu8.$[6Ng-(XS",
    "5Y3u#,AX$ymh`K-$/5Ml575N'5.5N56NTM#>O>>M'>OO545N&515N05M65NC5Ma5Nk5N15N95N?5N65OK5NA5Nh5O15N",
    "i5O95Nz5MP5NO5MX5Nl5ME5M:5NZ5Mj5O%5MD5MC5M<5MF5N`5N35O45MO5M2.MK(Ml>7>N'>.>N5?NTM#GO>GM'GOO>",
    "4?NN4>N&>1?NN1>N0-(Og5Ng5OL5O55PP5R,,yES-QZ(,SEu#,BQ-MQMg53505:5B5F5M&5M05M(5M4u#,DS%WG$/5Ml",
    "575N'5.5N56NTM#>O>>M'>OO545N&515N05M65NC5Ma5Nk5N15N95N?5N65OK5NA5Nh5O15Ni5O95Nz5MP5NO5MX5Nl5",
    "ME5M:5NZ5Mj5O%5MD5MC5M<5MF5N`5N35O45MO5M2.MK(Ml>7>N'>.>N5?NTM#GO>u#,E4>4>N&>1>N0-(Og5Ng5OL5O",
    "55PP5WG,Os-2Os-Oq95M,.d^8My>M=>Mp/OG@Tw83P]8#_X).S4y]oZO2UyJXs)O2Uyd2UydNuUy?2MWQ#Xs@#2UyHNu",
    "UyHT@UyHyg5UyIS6)XsZ0mLZBmL0$:Q/Pd780Q/Pd7PN'6Pd./MK(Pd.GN5u#,F%%yTj$/5Ml575N'5.5N56NTM#>O>>",
    "M'>OO545N&515N05M65NC5Ma5Nk5N15N95N?5N65OK5NA5Nh5O15Ni5O95Nz5MP5NO5MX5Nl5ME5M:5NZ5Mj5O%5MD5M",
    "C5M<5MF5N`5N35O45MO5M25P..MK(Ml>7>N'>.>N5?NTM#GO>GM'GOO>4>N&>1>N0-(Ng5OL5O55y/],Os-2Os-QZ(-(",
    "yHDu#,Fv-MQMg53505:5B5F5M&5M05M(5M4u#,G.&XcTV#Nd-NHTV/2TV#Nd/NuTV#Nd/TV#2Nd/NHTV#NdH2Nd-NBTV",
    "@#2Nd-eXTV?#NdH2Nd1MxeXTV#2Ndu#,GN%ylG$/5Ml575N'5.5N5545N&515N05M65NC5Ma5Nk5N15N95N?5N65OK5N",
    "A5Nh5O15Ni5O95Nz5MP5NO5MX5Nl5ME5M:5NZ5Mj5O%5MD5MC5M<5MF5N`5N35MO5M25QA-(Ng5OL.MK(Ml>7>N'>.>N",
    "5>4>N&>1>N0-(O55PP.$QFNC-QZ(u#,H7-MQMg53505:5B5F5M&5M05M(5M4u#,Hx%y.M$M65NC5N15ME5MP6PdMP5M:",
    "5NZ5Mj5MD5N65N?5NO5M<5MF5MO5NA5M25/5MX5Nl5Ma6PdMa5Nk5O%5OK6PdMju#,I=/Pe(MkMFGM<HyO3M<.MK(/>M",
    "l>7>N'>.>N5>4>`O>1>N&>TR-(yLVu#,IP-MQMg53505:5B5F5M&5M05M(5M4-NDMw5Nr.(%P]5P]5ye2-EUe-$N95Nh",
    "5O15Ni5O95Nz5P.u#,Ks%y=l$/5Ml575N'5.5N5545N&515N05M65NC5Ma5Nk5N15N95N?5N65OK5NA5Nh5O15Ni5O95",
    "Nz5MP5NO5MX5Nl5ME5M:5NZ5Mj5O%5MD5MC5M<5MF5N`5N35O45MO5M25QA.MK(Ml>7>N'>.>N5?NTM#GO>>4>N&>1>N",
    "0-(Ng5OL5O55PP-QZ(u#,Me'yv]y7w'$^FG/GPpGO6GMCGOIGN'GN5G4G1GS[GMaGPDGX6GxpG__Ga`GW8G[-GcoGMXG",
    "PUGTRGQJGSJGo,Go3Go7GXGGvMG[#Gx?7%$^FG/GPpGO6GMCGOIGN'GN5G4G1GS[GMaGPDGX6GxpG__Ga`GW8G[-GcoG",
    "MXGPUGTRGQJGSJGo,Go3Go7GXGGvMG[#Gx?6MQMg>3>0>:>B>F>M&>M0>M(>M46NDMw>Nr>P2>Q4>O]>Q9>OX>RV>OBu",
    "#,Nm5SE&y=Xy.^$/>Ml>7>N'>.>N5>4u#,Nw>1u#,Nz>M6>NC>Ma>Nk>N1>N9>N?>N6u#,O+>NA>Nhu#,O.>Ni>O9>Nz",
    ">MP>NO>MX>Nl>ME>M:>NZ>Mj>O%>MD>MC>_p>M<>MF>N`>N3>O4>MO>M2>P.>No7MK(MlG7GN'G.GN5G4u#,OMGN&G1u",
    "#,OQ6(Ng>Og>b15O57tFrJ(6MkMC6GM<6MkM<6(PP62Os6YyT`8OG@Tw8u#,Og6MQMg>3>0>:>B>F>M&>M0>M(>M4u#,",
    "P`%yVH$/5Ml575N'5.5N56NTM#>O>u#,Pj545N&515N05M65NC5Ma5Nk5N15N95N?5N65OK5NA5Nh5O15Ni5O95Nz5MP",
    "5NO5MX5Nl5ME5M:5NZ5Mj5O%5MD5MC5M<5MF5N`5N35O45MO5M25P.5QA.MK(Ml>7>N'>.>N5?NTM#GO>u#,QB>4>N&>",
    "1>N0-(Ng5OL5O55R,5WG,b3/MK(dI4u#,Qi&yyxM9$/7MK(7GPoG.G4GO=G1GN&GN0HN+7?R686$M6>NC>Ma>Nk>N1>N",
    "9>N?>N6>NA>Nh>O1>Ni>O9>Nz>MP>NO>MX>Nl>ME>M:>NZ>Mj>O%>MD>Oz>Rj>S9>Yn>Q.>No?R(SW>MC>M<>MF>N`>N",
    "3>O4>MO>M2>Z?76Pe86(O5>OgH#Nd@RT#Nd>Ng>OL8a%y%j$M<@z,^$MCPM<PMFPN`7GQ=87YaQ=868TF>R??2R??MmT",
    "F9G2y%mQ=89Ya2y%mQ=85vYu#,Rb%yi@$/.MK(7>Po>.>4>1>O=>N&>N0?NTM#GM'6R68-$M65NC5Ma5Nk5N15N95N?5",
    "N65OK5NA5Nh5O15Ni5O95Nz5MP5NO5MX5Nl5ME5M:5NZ5Mj5O%5MD5Oz5Rj5S95Q.5No6R(SW5MC5M<5MF5N`5N35O45",
    "MO5M25Z?-(XS5Y3/a%y%j$M<GMFGN3GMO/6Pe(M[GM]GQQGMfGM7GN#GMIGM#GM'GWCGM%HR(SW-(Ng5OL-Z#8,vY-8T",
    "F5R?62R?5t;4Q=8#PE)Sx)NumllmlYSx.ylv8My>M=u#,Sk&`qeYyVOOt>o'>P:>Z+>M2>UD>um>yh*>yh,>yh->yh(>",
    "yh)5yiF5yiL5yiT5v>'y_9y7pnp$M:GM6GMFGMDGMXGNoGN`GN1GM2GMaGNCGMOGMjGN9GMPGNOGMEGNZGM<GO3GN?G/",
    "G4G7G1G.GY1G]eH6MsPM]PMZPMIPM7PM'PN%PQQPMT@SLM`MmGM`@ZuP-N4ASLM`Mm6P6AZuP-N46HM`MmGM`QMm6P6@",
    "UQy%lM`@P-N4Q+BUQy%lM`Mm6Y6AMVy%bM`MmPM`?P-N4BMVy%bM`Mm6Y6@P-N46u#,W_%y4)$/5Ml575N'5.5N56NTM",
    "#>O>>M'u#,Wi545N&515N05M65NC5Ma5Nk5N15N95N?5N65OK5NA5Nh5O15Ni5O95Nz5MP5NO5MX5Nl5ME5M:5NZ5Mj5",
    "O%5MD5MC5M<5MF5N`5N35O45MO5M2.MK(Ml>7>N'>.>N5?NTM#GO>GM'u#,X?>4>N&>1>N0-(Og5Ng5OL5O55R,,Os-2",
    "Os-RlOq.YyT`My>M=u#,XW-MQMg53505:5B5F5M&5M05M(5M4-ND3505:5B5F5M&5M05M(5M45Mw5Nr5P25Q45O]5Q95",
    "OX5RV5OB.b<[48u#,Xx%yRmQ=8-8R?-$M65NC5Ma5N15N95N?5N65NA5MP5NO5MX5ME5M:5NZ5Mj5MD5Oz5Rj5S95N.5",
    "Q.5No6R(SW5MC5M<5MF5N35MO5M25/u#,YB.Y'$M6>NC>Ma>N1>N9>N?>N6>NA>MP>NO>MX>ME>M:>NZ>Mj>MD>Oz>Rj",
    ">S9>N.>Q.>Nou#,YY>MC>M<>MF>N3>MO>M2>/.MK(Ml>7>.>4>1-(Ng5Ogu#,ZY&yRwnS$/>Ml>7>N'>.>N5>4u#,Zb>",
    "N&>1u#,Ze>N0>M6>NC>Ma>Nk>N1>N9>N?>N6>OK>NA>Nh>O1>Ni>O9>Nz>MP>NO>MX>Nl>ME>M:>NZ>Mj>O%>MD>MC>M",
    "<>MF>N`>N3>O4>MO>M2>P.>Z?>of>f#7MK(MlG7GN'G.GN5HNTM#u#,[<G4u#,[>GN&G1u#,[AGN06(Ng>OL>PP>RT>b",
    "15O55yd*6M<z,ku#,[R6MQMg>3>0>:>B>F>M&>M0>M(>M4u#,[c&yEEnS$/>Ml>7>N'>.>N5u#,[j>O,>N&u#,[m>Nn>",
    "N0>MC>N`>Mj>O%>MD>M6>NC>MP>NO>MF>Ma>Nk>MX>Nl>ME>N9>N?>Nh>O1>P.>N6>OK>Ni>O9>N1>M:>NZ>M2>M<>MO",
    "7MK(MlG7GN'G.GN5u#,];GO,GN&u#,]>GNnGN06(Ng>OL5O55SEu#,]K6MQMg>3>0>:>B>F>M&>M0>M(>M4u#,a/%yRT",
    "$M65Ma5N15M:5Mj5MD5MP5MX5ME5N95N65NA5MC5M<5MF5N`5MO5/,y/0.MK(7>.>4>1,y_0.OG@P]u#,cQ%po$yxpu#",
    ",cb)WQQN3:gKgEz-TA3gKgEy%x>y?;?Q9gI>mz?P2gT6:mA?Q9z,_63wr?WIMyGM=>ed>P86:ws>_763ak>O`?M/MyGM",
    "=6:Re7y=zahyLT-(rT5y6n5y,x5yq,5yUY5yMY5y_65yU?5yK85y^a5dB5yr-5y^A5yMa5yr;.yvol,(.aWl,(-yNK(.",
    "Tqd-(.yn9a1(6ND(-a5(.)W8(-yiJ(-wL(.NYtB(.yj=Oj(-(yUW5yr'u#,dI/O*OG@Tw%y:?(/?M*/GQHHQaO0GM2GP",
    "CHW.NcGV=GWA5`A5U/?M*TSH]6NcGVxHQaO0GM2HPCNcGbBGSmGdwK.M-.M-.>Nc5YK?M*[hHQaO0IOnM-NjG_,GRB5W",
    "i5[[?M*X9IdzM-R/5T-?M*T-GaKGR/GM2G]oGPzGOQGV_5y.`5Qr5`I?M*OQ5OT?MAOT?:M*CM-^BVBOTM-^BPOR5`L5",
    "y/M5y/Y?M*Qz5y/d5y/w5Nw?y#(O0?ooO0FMANwV[MAV[V[MAV[R9QMANwhOiNwMANwMANw5TS5`N5Mj5QH5y3#5`T5[",
    "g?MA[g5[h5M,5y3:5RR?M*/GP9HPCNc5QJ@MAQJU/PV^?OiQJ5`h?MA`h5TW5y595MX5]+BZ;M*/M-W2P`IP[hPRRPMa",
    "ZM-W2PPxPXDPS>PM2P]gZM-PZPV4PMFPPZZM-qdPUNPOoRR9M-R9PP_PRBRSTM-XDPV_5y;p5l=5l>5y;w5QM5l_5Yj?",
    "M*OQ5aK5aLASk.NcPg5Pg5R.?MAR.>Nc>VP5Ym?M*U=5y>,5X15y>/5y>05aX5]6>NcGNc5y>35y>:54?M*R9BMA4NpM",
    "ANp5YoCM*/M-M2M-MXGP9GOwGUYGOQG.5y?05y?85Pv5Nj?M*QaPO0GOn?OiNj?VBNj>OR5mU5X95U=5ag?M*/QM-Tid",
    "M*TiGOTGQHH]6NcYNcGM2PNcHPCNcGSkPORGX[GMFITiM*TiGQfGPZGSTGQV5Ma>Nc5]PCM*/M-MXM-M2YM2YPCJYKO0",
    "M-U_GOTGNwITSM-VxGQHIM,M-M<GTWQM-M<GMXGQMIYjM*OQGYmGPvQM-MFGNjRM*QaO0HQaO0GP9GPxG]TQM-/IXDM-",
    "Q)KM2M-PZM-U=GZ'QM-MFIOtM-QfGb:HPCNcKbKM-R[M-NwGV4GSkGb_QM-TiIX[M-OTGMFIOnM-NjGOwGNpQMANpGM:",
    "GUYGXvGOQQM-[.G_0GY)GRBG.GQVQM-R.?MA]P5aw?Oiaw5UBBMAUBP9MAP95VxCUBMAUBP9MAP95yCA5yCB5Vz5Qa>O",
    "0?MAQa?OiQa5P95yCI5yCN5nD?M*Qz5Px?M*4G.?OiPx5]T?MA]T?Oi]T5yDP5XD>Nc5yDZAM*/M-PCHQaO0GPCIPZM-",
    "PCGM:5yD`5R/?OiR/?M*QHGRB>O05R0?OiR05n[?M*V4RM*PCNcGNpIUYM-V[>Nc5S>AM*/M-QzGQz@MAS>^55n`5na?",
    "M*OQ5]Y5nb5yEN5yEO5M2>O0>Nc5Z'5Ot?M*NwGTSGQHGPgGUBGb`GNpGOQG.5R[5b:?M*OTGZ'GSkGc$GQV5yH957>/",
    "5b>5oH@MAoHTWPOR5oJ5PC>l_>QmEMAPCY#MAY#QVMAQV>Nc5yI6@M*QaO05yI75UI?M*RB?OiUI?VBUI>OR5bB5NY5]",
    "g5bK5M6?M*/GWiQM-X[GTSGQHG[hGM,GRRGX9GU=GMaGVxHQaO0GP9SM-_,M-/GPxGXDIR/M-XvQOiR/GR0GnbGPCGUI",
    "GV4GPzGb_GQfGPZGOnQM-R.YPxYODGOwQM-s.GOoGNpGO.GPkGMOGXvGN3GOQG_0GS-GuwGv^GWRG.GSTGQVIx&M*M:G",
    "V_GU(5ol?Oiol5on5op5]o5yK@5oq?MAoq5V4@M*PCNc5bS?M*QH?OibS5yKH5yKI5SkDSmM*.MASmM*.FMASkSmM*.M",
    "ASmM*.5p$5Pz?M*QHG.GQV5b_5b`5yL`5yLa5Z;?MAZ;5Q5FMAOtM*TSQ5MAOtM*TS5X[5yME?Q+&5yMF5pC>Nc5pD5Q",
    "z?VBQz5Z@5yMg5MF5Sm?M*/SM-MXM-M2YP9YTiGT-GOTINwy#(O0GQHGRRGl=GNjGMaGP9GS>QM-S>GM2GZ'IOtM*NpH",
    "PCNcGUIQM-M2YPZGPzGb`GX[GpCSM-OtM-/GSmGc$GPZGc*GOnQM-NjGV=GOoIOQM-Y)KdzM-R/M-X9cO0GWFQM-WFGY",
    ")G['GRBMODM-/M-Q)M-MEG.QM-/[.M-.ISTM-NwGQVGV_>OR5W.?M*OQQM-Y)>NcJMAW.NcOQ5yND5Ti?M*Ti5OH?M*Q",
    "zQM-Pk5Qf5yO65yO@5c$5PZ?M*QH5ZC?M*T-GQHGU=PO0HQaO0IOtM*QHGUIGopG]oQM-NwGPzIMFM-NwGSmIOnM-NjG",
    "OoGO_IP_M-NwIuzM-QJGV[>O0?OiZC?VBZC>OR>VP5X_5^5?MA^5?VB^5>VP5c)5c*5UN?MAUNRP9MAP95MD?M*RB>Nc",
    "5yR85q]5qb5W25qd5On5c>5Ow5^<5O<?MAO<5cJ>Nc5yUH5yUR5V=?M*/GQzGNo?MAV=SM*/M-ME?OiV=5r:?M*/QM-Q",
    "MGQM>Nc5ME5rB5^B>NB@M*S-O0?VB^B5yVA6rFs05rF5rG5Oo?M*/GQV>VP5OW?M*45yX;5yXG@M*QaO0JP9M-QaO05c",
    "f?M*OTGNwQM-NwGS>JOnM-QaO0GOoGNpGOQRM-/OTYNwdM-NwISTM-NwGV_5yXN5O_5ZV5Np@W.M*P9PW2PUY^MANpW.",
    "M*UYPV_>O0?MANp?OiNpRW.MAW.5s.@YKM*`NPRRPX1PS>QPCNcP]oPMFPOoPv#PST@Z;M*RRY.5M:5Xn5d-5R95t$5O",
    ".?M*/GU/GRRGQJG4G7Gb>G.GST?OiO.5t3?M*bSGQVGNo?VBt35M<5ycF5Qm5Pk5MO6WAs05WA?M*/GR.GYmGM2GV4GQ",
    "zGUNGOwGNpGUYG_0GU_GSTGwxG[2GWZGV_?MAWA>Nc5UY@SmM*TS5yfN5Xv5N35_,?M*/GQHGR/GOoGWFG[.G.QM-/5u",
    "_5ygK5Ts5OQ>R[EMAOQUBMAUBP9MAP9UU_MAU_P9MAP95yg_5yg`5dw5ygc5ygd5_0?M*/GUI5uh?M*/G[gG`hGaLGP9",
    "GPCPNcGZ@Gc*GcJGUY5ygm5Y#6ZVO0u#,lg6Y#O0:ZVMAZVTWMATWu#,lh:Y#MAY#TWMATW5dz5S-@MANBS-5WF5yh05",
    "P_>Nc5uw5e*@MAe*WF5uz5v#5Q)?MAQ)5yjs5yjt5v^5Y)5yjv5_C5yk+5MP>Ns?M*OtGOw>Nc5U_EMAU_OWMAOWPgMA",
    "Pg>OR5['?M*RRGS>GOQGS-GV[GQV5RB5WR5OD>Nc5QT>O05eo5er?M*RB?MAerUUBMAUBP9MAP95PL5V[5wn5_^5[.BM",
    "A[.NoMANo5.>S>?..EMA.M:MAM:P9MAP9R_CMA_CT.N+MA.N+5ST5wx5QV>Z@?M*QHGOwK.M-.M-.m.Nc>Nc>VPHM*QH",
    "5yp<5[2?M*SmIOnM-MXG_,G.5ypP5x&?M*SkGM:5V^>Nc5WZ?OiWZ>VP5f9AM*/M-M2YMEGT-GM2GNpGSTQM-NwYRR5y",
    "pj5ypl5ypm5x/?M*/G`NGM,GaXGMaGVxHQaO0GP9GR0GM2GPCGUIGbKGPzGUNG^<GM:GOQGe*GPLI.M-S>GQVG[55[5?",
    "M*.5V_?M*/GQ5GQzGRB5ypu5ypr5ypt5ypx5yq+?M*Sk5yq-5No>O0@ORM*Qz5yys5yyw5yz*5U(?MAU(5yzP5yzQ?oo",
    "O05yzU5y#)5T(5y#.?M*/5yzi5yzj6osmD7U/M*Np7YKM*/7`IM*yMM:]+Z;M*STM-W25y;e7PgM-S-7YmM*OQ7agM*S",
    ">GOQ;]PM*OTM-V4M-/GTS5yC]5yDV5yHA7M6M*`LGy0#GR/GS>IOtM*TSGUNGM:Gyh4GPLGf97SmM*Px8ZCVPM*QHAM*",
    "U=M-TiGS-5qt7r:M*No5yV=5ce5yXH7cfM*[gGPx8ZVNHOBNb6t$Ns5y`@8WAM*PCNc5ymT7[2M*On6..u#,p6/s-(0N",
    "w?:Nw?BNw?FNw?M&Nw?M0Nw?M(Nw?M4Nw?:Pg?BPg?FPg?M&Pg?M0Pg?M(Pg?M4Pg?B.?F.?M&.?M0.?M(.?M4.?3UC?",
    "0UC?:UC?BUC?FUC?M&UC?M0UC?M(UC?M4UC?3Z%?0Z%?:Z%?BZ%?FZ%?0Ts?:TsQQ+&?BTs?FTs?M&Ts?M0Ts?M(Ts?M",
    "4Ts?3Zy?0Zy?:ZyQQ+&?BZy?FZyBTsM*VxM-Pgc^<?3YY?0YY?:YYQQ+&?BYY?FYYA:Q+&y?sYy?tABQ+&piYyOAZpi/",
    "cN#AM&Q+&y0$AM0Q+&yICZbB/cN#AM(Q+&ypvYypwAM4Q+&oMYyI8YyI9ZoM/@0NwO0@:NwO0@BNwO0@FNwO0@M&NwO0",
    "?3YS?0YS?:YS?BYSQQ+&?FYSQQ+&>yXB>yXA?3mV?0mV@3S0Pg@0UcPg@Fv&PgB3S0Q+&/B0UcQ+&/@3P8NwHO`NwAN_",
    "jC3e-YO`@3O`]YHM/]Y@mD3S0H0UcGQ4GO]AB.Q+&AF.Q+&AM&.Q+&AM0.Q+&AM(.Q+&AM4.Q+&u#,qO1O*(N_jCRlX/",
    "?M$Oh?NyOhGwVGybQu#,q`0(U/M*NpO0GWF7WiM*U=8QHM*PgO07`TM*YKGOWGNo9QJMAQJM*rB7MXM*RB7]+M*Qz7Yj",
    "M*PCI...7aKM*QV7X1M*`LGNwQPU,GaLGaXGX9GMaGPxHXDNcGR/GM2GOtHPCNcGSkGQzGZ@QM-SkHX]y#9GOHQM*QzI",
    "c)M-R/GW2Gc>GOwGOWGO.GOQHP_Nc7YoM*QzGR96X9Mu7U=OiU=8agVPM*NwPOtQPCNcPMFPTiPOnPc>PQ)?M*Q)7]PM",
    "*`THYjNcJX1M*PCNcYSkGmUGMaIP9M-QMYOoIM2M-/IZ@M-SkGOHQM*QzGc)GV=GOoQM-YoYPxGuhGy#)8awNHOBNb7n",
    "DM*.9R/M*R/OiR/8n[M*PCNc9S>M-R/M*RB7M2O0Nc;OtM*NwMAOtM*Nw7M6M*QJGM6I...GWZ9SmM*T(MAT(6X]y#8>",
    "y#:>y#;>y#<>fh>y#=>y#>BfiMAX]fiNc>y#?AfjMAX]fj>y#@>fn>fr>g$>g%>g&>g'>g(>`+>y$y>y$z>y%*>g1>g2",
    ">y%1>y%2>y%3>y%7>y%8HM*R0PPCRR9M-X_eR9M-X_RSTM-Mj>y%9>g9>y%=>y%?>y%A>y%B>y%C>y%D>y%G>y%M>y%N",
    "HM*NwPQHR]6NcNcPX[PMFPWRPODPSTPQVP[5>y%P>y%QHM*YmPMaPPCYNcPOWTR9M-R9M-X_RdwM-PzPQVP[5>y%V>y%",
    "W8ZCNcM*Nw?M*PgGZ'GR9SM-R9M-X_GRB7OwM-xz9V=MAV=M*MaYV48cfM*YjNcGR/Gn`GOtGp$HX]fhGW2IR9M-R9G.",
    "QM-.G[58WANcM*M2?M*NjIOQPU,GRB6u_O07OQMAOQ?M-b:GrGGXv9WFM-X1M*OWIYoM*OT7P_M*RB7RBM-WA8_^M*Qa",
    "O0H:Pg6f9NB?M*QV7x/M*l>HX]y%RGX_5xz9T(MAT(M-Xv9y#.M*:PgO0u#-:8&y:Uz,y(y85>y86>y87>y88>y89>y8",
    ":>y8;>y8<>y8=>y8>>y8?>y8@>y8A>y8B>y8C>y8D>y8E>y8F>y8G>y8H>y8I>y8J>y8K>y8L>y8M>y8N>y8O>y8P>y8",
    "Q>y8R>y8S>y8T>y8U>y8V>y8W>y8X>y8Y>y8Z>y8[>y8]>y8^>y8_>y8`>y8a>y8b>y8c>y8d>y8e>y8f>y8g>y8h>y8",
    "i>y8j>y8k>y8l>y8m>y8n>y8o>y8p>y8q>y8r>y8s>y8t>y8u>y8v>y8w>y8x>y8y>y8z>y9#>y9$>y9%>y9&>y9'>y9",
    "(>y9)>y9*>y9+>y9,>y9->y9.>y9/>y90>y91>y92>y93>y94>y95>y96>y97>y98>y99>y9:>y9;>y9<>y9=>y9>>y9",
    "?>y9@u#-;Q%y?9o&gZ5g[5g]5g^5g_5y&,5g`5y&-5y&.5ga5gb5gc5gd5ge5gf5gg5gh5y&05gi5gj5gk5y&15gl5gm",
    "5gn5go5gp5gq5gr5gs5gt5gu5gv5gw5gx5gy5gz5y&45h#5h$5h%5h&5h'5h(5h)5h*5y&65h+5h,5y&85h-5y&95h.5",
    "h/5h05h15h25h35h45h55h65h75h85h95h:5h;5h<5h=5h>5h?5h@5hA5hB5hC5hD5hE5hF5hG5hH5hI5jP5jQ5jR5jS",
    "5jT5y0W5jU5jV5jW5jX5y5M5y5N5y5O5y5P5y5Q5y5R5y5S5y5T5y5U5y5V5y5W5y5X5y5Y5y5Z5y5[5y5]5y5^5y5_5",
    "y5`5y5a5y5b5y5c5y5d5y5e5y5f5y5g5y5h5y5i5y:Z5y:[5y:]5y:^5y:_5y:`5y:a5y:b5y:c5y:d5y:e5y:f5y:g5",
    "y:h5y:i5y:j5y:k5y:l5y:m5y:n5y:o5y:p5y:q5y:r5y:s5y:t5y:u5y:v5y:w5y:x5y:y5y:z5y;#5y;$5y;%5y;&5",
    "y;'5y;(5y;)5y;*5y;+5y;,5y;-5y;.5y;/5y;05y;15y;25y;35y;45y;55y;65y;75y;85y;95y;:5y;;5y;<5y;=5",
    "y;>5y;?5y;@5y;A5y;B5y;C5y;D5y;E5y;F5y;G5y;H5y;I5y;J5y;K5y;L5y;M5y;N5y;O5y;P5y;Q5y;R5y;S5y;T5",
    "y;U5y;V5y;W5y;X5y;Y5y;Z5y;[5y;]5y;^5y;_5y>S5y>T5y>U5y>V5y>W5y>X5y>Y5y>Z5y>[5y>]5y>^5y>_5y>`5",
    "y>a5y>b5y>c5y>d5y>e5y>f5y>g5y>h5y>i5y>j5y>k5y>l5y>m5y>n5y>o5y>p5y>q5y>r5y>s5y>t5y>u5y>v5y>w5",
    "y>x5y>y5y>z5y?#5y?$5y?%5y?&5y?'5y@?5y@@5y@A5y@B5y@C5y@D5y@E5y@F5y@G5y@H5y@I5y@J5y@K5y@L5y@M5",
    "y@N5y@O5y@P5y@Q5y@R5y@S5y@T5y@U5y@V5y@W5y@X5y@Y5y@Z5y@[5y@]5y@^5y@_5y@`5y@a5y@b5y@c5y@d5y@e5",
    "y@f5y@g5y@h5y@i5y@j5y@k5y@l5y@m5y@n5y@o5y@p5y@q5y@r5y@s5y@t5y@u5y@v5y@w5y@x5y@y5y@z5yA#5yA$5",
    "yA%5yA&5yA'5yA(5yBR5yBS5yBT5yBU5yBV5yBW5yBX5yBY5yBZ5yB[5yB]5yB^5yB_5yB`5yBa5yBb5yBc5yBd5yBe5",
    "yBf5yBg5yBh5yBi5yBj5yBk5yBl5yBm5yBn5yBo5yBp5yBq5yBr5yBs5yBt5yBu5yBv5yBw5yBx5yBy5yBz5yC#5yC$5",
    "yC%5yC&5yC'5yC(5yC)5yC*5yC+5yC,5yC-5yC.5yC/5yC05yC15yC25yC35yC45yC55yC65yC75yC85yC95yC:5yEb5",
    "yEc5yEd5yEe5yEf5yEg5yEh5yEi5yEj5yHm5yHn5yHo5yHp5yHq5yHr5yHs5yHt5yHu5yHv5yHw5yHx5yHy5yHz5yI#5",
    "yI$5yI%5yI&5yI'5yK-5yK.5yK/5yK05yK15yK25yK35yK45yN$5yN%5yN&5yN'5yN(5yN)5yN*5yN+5yN,5yN-5q,5y",
    "P75yP85q-5q.5yP95q/5q05q15q25q35q45q55yP:5q65q75yP;5yP<5yP=5yP>5yP?5yP@5yPA5yPB5q85q95q:5yPC",
    "5q;5yPD5q<5yPE5q=5q>5q?5q@5qA5yPF5qB5qC5yPG5qD5qE5qF5qG5yPH5qH5qI5qJ5yPI5qK5qL5yPJ5yPK5qM5qN",
    "5qO5qP5qQ5qR5qS5yPL5qT5qU5qV5qW5yUd5yUe5yUf5yUg5yUh5yUi5yUj5yUk5yUl5yUm5yUn5yUo5yUp5yUq5yUr5",
    "yUs5yUt5yUu5yUv5yUw5yUx5yUy5yUz5yV#5yV$5yV%5yV&5yV'5yV(5yV)5yV*5yV+5yV,5yV-5yV.5yV/5yV05yV15",
    "yV25yV35yV45yV55yV65yV75yV85yV95yV:5yV;5yV<5yXx5yXy5yXz5yY#5yY$5yY%5yY&5yY'5yY(5yY)5yY*5yY+5",
    "yY,5yY-5yY.5yY/5yY05yY15yY25yY35yY45yY55yZ75yZ85yZ95yZ:5yZ;5yZ<5yZ=5yZ>5yZ?5yZ@5yZA5yZB5yZC5",
    "yZD5yZE5yZF5yZG5yZH5yZI5yZJ5yZK5yZL5yZM5yZN5yZO5yZP5y[F5y[G5y[H5y[I5y[J5y[K5y[L5y[M5y[N5y[O5",
    "y[P5y[Q5y[R5y[S5y[T5y[U5y[V5y[W5y[X5y[Y5y[Z5y[[5y[]5y[^5y[_5y[`5y[a5y[b5y[c5y[d5y[e5y[f5y[g5",
    "y[h5y[i5y[j5y[k5y[l5y[m5y[n5y[o5y[p5y[q5y[r5y[s5y[t5y[u5y[v5y[w5y[x5y[y5y[z5y]#5y]$5y]%5y]&5",
    "y]'5y](5y])5y]*5y]+5y],5y]-5y].5y]/5y]05y]15y]25y]35y]45y]55y]65y]75y]85y]95y^15y^25y^35y^45",
    "y^55y^65y^75y^85y^95y^:5y^;5y^<5y^=5yay5yaz5yb#5yb$5yb%5yb&5yb'5yby5ybz5yc#5yc$5yc%5yc&5yc'5",
    "yc(5yc)5yc*5yc+5yc,5yc-5yc.5yc/5yc05yc15yc25yc35yc45yc55yc65yc75yc85yc95yc:5yc;5yc<5yc=5yc>5",
    "yc?5yc@5ycA5ycB5yeR5yeS5yeT5yeU5yeV5yeW5yeX5yeY5yeZ5ye[5ye]5ye^5ye_5ye`5yea5yeb5yec5yed5yee5",
    "yef5yeg5yeh5yei5yej5yek5yel5yem5yen5yeo5yep5yeq5yer5yes5yet5yeu5yev5yew5yex5yey5yez5yf#5yf$5",
    "yf%5yf&5yf'5yf(5yf)5yf*5yf+5yf,5yf-5yf.5yf/5yf05yk_5yk`5yka5ykb5ykc5ykd5yke5ykf5ykg5ykh5yki5",
    "ykj5ykk5ykl5ykm5ykn5yko5ykp5ykq5ykr5yks5ykt5yku5ykv5ykw5ykx5yky5ykz5yl#5yl$5yl%5yl&5yl'5yl(5",
    "yl)5yl*5yl+5yl,5yl-5yl.5yl/5yl05yl15yl25yo^5yo_5yo`5yoa5yob5yoc5yod5yoe5yof5yog5yoh5yoi5yoj5",
    "yok5yol5yom5yon5yoo5yop5yoq5yor5yos5yot5you5yov5yow5yox5yoy5yoz5yp#5yp$5yp%5yp&5yp'5yp(5yp)5",
    "yp*5yp+5yp,5yp-5yp.5yp/5yp05yp15yp25yp35yp45yq.5yq/5yq05yq15yq25yq35yq45yq55yq65yq75yq85yq95",
    "yq:5yq;5yq<5yq=5yq>5yq?5yq@5yqA5yqB5yqC5yqD5yqE5yqF5yqG5yqH5yqI5yqJ5yqK5yqL5yqM5yqN5yqO5yqP5",
    "yqQ5yqR5yqS5yqT5yqU5yqV5yqW5yqX5yqY5yqZ5yq[5yq]5yq^5yq_5yq`5yqa5yqb5yqc5yqd5yqe5yqf5yqg5yqh5",
    "yqi5yqj5yqk5yql5yqm5yqn5yqo5yqp5yqq5yqr5yqs5yqt5yqu5yqv5yqw5yqx5yqy5yqz5yr#5yv-5yv.5yv/5yv05",
    "yv15yv25yv35yv45yv55yv65yv75yv85yv95yv:5yv;5yv<5yv=5yv>5yv?5yv@5yvA5yvB5yvC5yvD5yvE5yvF5yvG5",
    "yvH5yvI5yvJ5yvK5yvL5ywL5ywM5ywN5ywO5ywP5ywQ5ywR5ywS5ywT5ywU5ywV5ywW5yx25yx35yx45yx55yx65yx75",
    "yx85yx95yx:5yyH5yyI5yyJ5yyK5yyL5yyM5yyN5yyO5yyP5yyQ5yyR5yyS5yyT5yyU5yyV5yyW5yyX5yyY5yyZ5yy[5",
    "yy]5yy^5yy_5yy`5yya5yyb5yyc5yyd5yye5yyf5yyg5yyh5yyi5yyj5yyk5yyl5yym5yyn5yyo5yyp5yyq5y,J5y,K5",
    "y,L5y,M5y,N5y,O5y,P5y,Q5y,R5y,S5y,T5y,U5y,V5y,W5y,X5y,Y5y,Z5y,[5y,]5y,^5y,_5y,`5y,a5y,b5y,c5",
    "y,d5y,e5y,f5y,g5y,h5y,i5y,j5y,k5y,lu#-Gn6M$W(6MMW(8yIcPUO$VRHOUVRHO$OGHOUOG6PjK6Urdn6OGdnu#-",
    "wD%y/*o&gZ5g[5g]5g^5g_5g`5ga5gb5gc5gd5y&/5ge5gf5gg5gh5gi5gj5gk5gl5gm5gn5go5gp5gq5gr5gs5gt5y&",
    "25gu5gv5gw5gx5gy5gz5h#5h$5h%5h&5h'5h(5h)5y&55h*5h+5y&75h,5h-5h.5h/5h05h15y&:5y&;5h25h35h45h5",
    "5h65h75h85h95h:5h;5h<5h=5h>5h?5h@5hA5hB5hC5hD5hE5y&<5y&=5y&>5hF5hG5hH5hI5y&?5y&@5y&A5y&B5y&C",
    "5y&D5y&E5y&F5y&G5y&H5y&I5y&J5y&K5y&L5y&M5y&N5y&O5y&P5y&Q5y&R5y&S5y&T5y&U5y&V5y&W5y&X5y&Y5y&Z",
    "5y&[5y&]5y&^5hJ5y&_5y&`5y&a5y&b5y&c5y&d5y&e5y&f5y&g5y&h5y&i5y&j5y&k5y&l5y&m5y&n5y&o5y&p5y&q5",
    "y&r5y&s5y&t5y&u5y&v5y&w5y&x5y&y5y&z5y'#5y'$5y'%5y'&5y''5y'(5y'*5y'+5y',5y'-5y'.5y'/5y'05y'15",
    "y'25y'35y'45y'55y'75y'85y'95y':5y';5y'<5y'=5y'>5y'?5y'@5y'A5y'B5y'C5y'D5y'E5y'F5y'G5y'H5y'I5",
    "y'J5y'K5y'L5y'M5y'N5y'O5y'P5y'Q5y'R5y'S5y'T5y'U5y'V5y'W5y'X5y'Y5y'Z5y'[5y']5y'^5y'_5y'`5y'a5",
    "y'b5y'c5y'd5y'e5y'f5y'g5y'h5y'i5y'j5y'k5y'l5y'm5y'n5y'o5y'p5y'q5y'r5y's5y't5y'u5y'v5y'w5y'x5",
    "y'y5y'z5y(#5y($5y(%5y(&5y('5y((5y()5y(*5y(+5y(,5y(-5y(.5y(/5y(05y(15y(25y(35y(45y(55y(65y(75",
    "y(85y(95y(:5y(;5y(<5y(=5y(>5y(?5y(@5y(A5y(B5y(C5y(D5y(E5y(F5y(G5y(H5y(I5y(J5y(K5y(L5y(M5y(N5",
    "y(O5y(P5y(Q5y(R5y(S5y(T5y(U5y(V5y(W5y(X5y(Y5y(Z5y([5y(]5y(^5y(_5y(`5y(a5y(b5y(c5y(d5y(e5y(f5",
    "y(g5y(h5y(i5y(j5y(k5y(l5y(m5y(n5y(o5y(p5y(q5y(r5y(s5y(t5y(u5y(v5y(w5y(x5y(y5y(z5y)#5y)$5y)%5",
    "y)&5y)'5y)(5y))5y)*5y)+5y),5y)-5y).5y)/5y)05y)15y)25y)35y)45y)55y)65y)75y)85y)95y):5y);5y)<5",
    "y)>5hK5hL5hM5hN5hO5hP5hQ5hR5y)?5hS5hT5hU5hV5y)B5hW5hX5hY5hZ5h[5h]5h^5h_5h`5ha5hb5hc5hd5he5hf",
    "5hg5y)F5hh5hi5y)H5y)I5y)J5hj5hk5hl5hm5y)K5y)L5y)M5hn5ho5hp5hq5hr5hs5ht5hu5hv5hw5hx5hy5hz5i#5",
    "i$5i%5i&5i'5i(5i)5i*5i+5i,5y)N5i-5i.5i/5i05i15y)O5i25i35i45i55y)P5i65i75i85y)Q5y)R5y)S5y)T5y",
    ")U5y)V5y)W5y)X5y)Y5y)Z5y)[5y)]5y)^8y)_M<MrQm5y)`5y)a5y)b5y)c5y)d5y)e5y)f5y)g5y)h5y)i5y)j6y)k",
    "M(5y)l5y)m5y)n5y)o5y)p5y)q5i95i:5i;5i<5i=5i>5i?5i@5iA5iB8iCUrZB88y)rOGZB85iD5iE5iF5iG5iH5iI5",
    "iJ5iK5y)s5y)t5y)u5y)v5y)w5y)x5y)y5y)z5y*#5y*$5y*%5y*&5y*'5y*(5y*)5y**5y*+5y*,5y*-5y*.5y*/5y*",
    "05y*15y*25y*35y*45y*55y*65y*75y*85y*95y*:5y*;5y*<5y*=5y*>5y*?5y*@5y*A5y*B5y*C5y*D5y*E5y*F5y*"
  ]

/-- Part 7 of the names. -/
def names7 : List String :=
  [
    "G5y*H5y*I5y*J5y*K5y*L5y*M5y*N5y*O5y*P5y*Q5y*R5y*S5y*T5y*U5y*V5y*W5y*X5y*Y5y*Z5y*[5y*]5y*^5y*",
    "_5y*`5y*a5y*b5y*c5y*d5y*e5y*f5y*g5y*h5y*i5y*j5y*k5y*l5iL5iM5iN5iO5iP5iQ5y*m5iR5iS5iT5iU5iV5i",
    "W5y*n5iX5iY5y*o5y*p5y*q5iZ5i[5y*r5i]5i^5i_5i`5ia5ib5ic5idu#/2>(j]$y_uSWrgW3HyCXmtIdBW3t2Yt1H",
    "XeW3Gyh1HwAW3HcuW3IyglM:ZRJdBM:ZRt2ct1GyR?HPLc0GyWPGyRBGyRcGyU[Gyg=GyZ/GyL'GyXtG_DGyX#GyNOHb",
    "u^%H^LySmGyR=Gy_,GyDBGy^^HW5rcHy[9c?I.f^rDGyDAH^Ls'Gyh`GySyGySiGyTwGyKAHM:btHXhbtGy_eGyRAGyX",
    "DGtTGyo-GyOsGyi5Gym'GyRDGW+GyVyGyMRGyTvGyh5GyO`GyA`GydaGyM:Gyi8HZEy`1GygoG^LIe%clxqHs=yToGy^",
    "@GrxGypaGc`GqZGrrGqgGcsGw4Ge9GsYGs%Gc/GS+GyKRGckGV`GPZGc]GrIGyS6?y%ZyYzHPLyR@GyhLHTBPLHpu^MH",
    "ZFyR>GyLNGyxjGyS5GyKGGy_MHyxGbtIOHcl^OHyZ.yghH^EyXRGyDDGt5HPLs&HufyXTGyggHW3w5Hc7yS4HS+^MGyL",
    "*GyDCGyL-GyN5Gy_)GyrEHyWzr<HyW`c:Gyw@Gyf;Gyl7GySjGyWjPN:GySrGv]GyS9GyTuGyZcGya^Hc?yW_GyAQGyS",
    "@GVtGyL#HMDyXWPyXhGbuGraGyYuGMDGyLZGcd@z,Lrgc0GcuGxqGyvZGc`GyW%GyWtGyD=GyS7GyCTIyZoyT_qxHyZ2",
    "c7GqiGy`BGyW1IXay5lz-SGyL,GyD<GyL&HO6yUJGy[-GyS>GyYvGc7GyxiGyM7G]nGdrGyW*Gyl9GrwHwAyy4GyjiHy",
    "Wd^OGyrFGyVKHMDyL$Gs'GyWiGboGyS;GySzGyZ,Gym(GyWgGn*GyW&GyYtGyYwGy52GyrDGyS8GPkGcgGOHGymkHyZ)",
    "cdGyXUGW+GccGqZGyS=GPZG^%GrrGcdGywGGyWfGyZ&GyZ+HbhrxGyZ(GrOHMDs&GY;GcWGyh2Gyg;Gc6Gc0GqgGyL+G",
    "yS:Gp%HXay`.GxsGrsGr&Gr7GuiHZ6pXPyA?GyWRGrIGyOGGt/GXpGWS?`5yS?GxEGZRGW3GyXZGyO-GyXXGyYxGyW[G",
    "^OGyw?GyX%G_.GyWsGyL%Gym&GygeGyXSGv]GW+GyxEGyMQGuJGySpGyW'GyRVGc?Gyg<G[>GyXVHyL(yS<GyWwGPLGn",
    "KGyX'GyAPGcXGyT*GyNtGyW2GyTpGyT&GyamGyT(GySsGUNGyZ$GXaGyMcGcsGw4Ge9GxsGp%GycIGylfGyWvGySnGyZ",
    "%GyL)Gt0Gy_kGyZwGbuGraGySqGyWmGyy9GR9GxrGrOG^MGyjgGpDGyWbGyWyGwoGqxGyMVGyZ'Gym%GyRCGyW]GyNuG",
    "yWhGclGrwGnMGQ5H^xN_Ge]GwHGS+G_#Gp[Gc<GMIG_DGO<G_1GugG^)GO_GS-GcmGUVGOWGe%GyabGr<G^3H^xcIGQT",
    "Gs)HXaM0GyfTG]F?[IcWGyn)GqiGboGyrmGyObGXmGv8GycWGyZ#GyW6GdKGWPGrfGyM9GxZGVMGrcGsYGY0GbhGpuGs",
    "%GrkGc/GyWxGyX)GyYyGydEGrsGy_KG_&GyWlGqyGyDFGyWuGrqGZEGpvGyW^GyW.Hyl=^MGTBGyaYH^Cyi.HyWe^OGy",
    "xqGyDEGyo,GyxfGQkGyo3GyKzGyjhGw5GyrCGyvpGbmGSJGyl8GyD8GyWWGygfGyT%G^7Gy[)GyXvGyCVG_^GyMKGxdH",
    "S+y8*GfZGySoGyW)Gy`0Gyy5GyNsGn*GyCWGyX&GW+GqYGyWrGyD@GO3GyZ4Gy_jGyxhGyWaHS+QtGy[<Gy`lGr&GyB>",
    "GrDGr7GnMHUA7GyU]GyaTGyX$G^%Gy`3G^LGyxgGyWkHM:suHUA`oGarGZQG/GwHG1G7GyNPHM:y`ZGWNGylSI^CrAZ-",
    "GuiGyxkGyX-Gyy1Hf]yk9Pa/Gf^Gyy7Gp&Gd8HZQy?hGtSGfOGVtGV`GPZGOwGd_GXrGyX.GN1GTDGe%HUAyd#GMEGO.",
    "G^3GPDGUPGMDGqaGym$GPzGW5GMwGyA;GyDJ?z,[M6G.GQ5GO,GZmGe]GS+GMFG_#Gu)Gc<GWNG^CGcgGMIG_DG_1GP_",
    "GdrG^)GW+Gs*GO_GrvGf]GS-GMCGckGd8GcmGfOGUVGPkGOWGd_GZ6GrhGZPGTDGdKGarGN.GQfG^3GPDGqhG^xGMDGP",
    "iGXaGWSGZ>GuHGyutu#/8u%yU6$MP5^G5OI5^;5Mj5MX5/5PQ5p*5yF-5y;l5]#5yKk5sF5c/5ce5M:5Nn515P05Xz5y",
    "m45a[5N.545PD5pP5MF5yEs5Qm5ylku#/9=-MQMg53505:5B5F5M&5M05M(5M4u#/9K,Os-2Os%ylO$y^05y]F5d#5^W",
    "5jO5[V5YP5jL5yv+5yr75yrt5yv%5Yq5Yp5y?i5]E5yJ,5b?5bJ5oV5yq*5__5ypi5yq'5y0S5y0P5y0R5jK5ypN5ypF",
    "5ypH5ypM66QQ6Mmwz6NNx#>jK5yp>5x#5ypB5wz5ypL5ypI5ypJ5ypK5yUc5qj5yU15yU_5M65NC5Ma5N15MO5MC5N.5",
    "M:5NA5NZ5Mj5MD5ME5M25MF5o:5MP5MX5M<5Xj5N35N95Oz5Nk5yH35NO5Rm5O35Nl5N?5Nou#/:F-MQMg53505:5B5F",
    "5M&5M05M(5M4u#/:V&YTx3$y?Y>M6>Pn>O3>^6>xm>n3>y=,>yM5>T:>yHF>N.>T'>b$>Q1>U3>yq&>>>Mj>W]>yxb>M",
    ":>yvP>/>1>Nn>.>O,>4>7u#/:w7O8MzM`?MVM`?UQM`@MVz,xM`@Mz[NM`6NeN4u#/;/&y^Lo/MKyKm>yKp>yLK>yLc>",
    "yK_>yKb>yMJ>yM_>yKl>yL.>yKB>yKE>yM(>yM+>yKd>yKf>yMH>yMI>yLx>yM2>yLI>yLJ>on>yKc>yMe>yMh>yK6>y",
    "K=6Peyr4>yZ1>yNV>np>yY6>yc^>yXs>yb7>yxX>yFy>yS+>y7'>yVw>yG_>y`R>yZ->yVP>N0>ywZ>y6>78Y^yo.GPJ",
    "GyKyGyL7GyjjGyGxGylZ7([7ymEHynky6]?Y^y7+?[7ym<GyAF?yx'yZ6GP<Gyn2GyA0?[7yg'?qnyjf?[7yYg?b>xb>",
    "yw[@Y^ynpdcu#/<(6MQMg>3>0>:>B>F>M&>M0>M(>M4u#/<36NDea>b<?MwVZ>W4?M3W4?Mwy4=>ynNu#/<;7([7yOt>",
    "yx*>b7@S0z-Ob7?y#1ym/>yGo>yYY>ywb>yZ3>Wo?yoLy6^?qnyni>Qo>yOg>yUTBY^yEuyP(s(s(Hy:=ynmGyoMPy7d",
    "HyaUy<%HyY`yn-u#/<U7ko(ynlGyxaGyOHGyNXGyx+GZ=GyF:GyU9GymDGynhGy_pGyL0GyEzGyr&GyA4GfSGynsGyMf",
    "Gyv$u#/Da&ySF'$MI>M%>M^>N%>jG>Mq>p<>Ms>MZ>M[>N<>7>M]>/>N(>4>N#>MU>.>O6>M'>NQ>M_u#/Dw>]c>QQu#",
    "/Dx>s6>Mu>Mf>O=>M7>M#>1>N&>MT.%$MI>M%>M^>N%>jG>Mq>p<>Ms>MZ>M[>N<>7>M]>/>N(>4>N#>MU>.>O6>M'>N",
    "Q>M_u#/E?>]c>QQu#/E@>s6>Mu>Mf>O=>M7>M#>1>N&>MT-MQMg53505:5B5F5M&5M05M(5M4-NDMw5S:5Rk5VX5V,5T",
    "65Tt5VN5U;5V>/MQ3Pd&70Pd&7:Pd&,NK-NeN4-Ey.V-PBZXu#/Fs%yT@$M:5Mj6P)M:5^c5MD5qz6QFMD5O35N`5yrI",
    "5MP5MX6P)Nh>MP5Nh5Ni5ME5Xj6P)Nz6QFME5Nz5yYB5MF5yP,5V75yO(5eu5y=c5ymt5y=d5M65Ma6P)M65Q@5yb45N",
    "15re6QFN15M25Rm5Nk5b&5ynq5y>R5NA5s:5Rj5Yn6P)Rj>Yn6d[Rj5N35O45Q.5yzh5Oz5S96P)Oz5MO5No5yzg5_u5",
    "z#36QF_u5z#:5z#45N.5SZ5UG5y4q5ykA5y>Q5OD5S35ye*u#/Gk/(PeOfM,-$cU-(jB6d[x@>jB.MK(/>Ml>y.L>OT>",
    "S[>1>Nn>PT>N%>4>Nj>Se>y]O>7>]e>oD>yI(>bI>Qx>N'>Z0>bE>.>Y1>yp5>yp6>N5>yp@>yp[>MT>P)>Ob>io>]B?",
    "Tp]B>RX?TpRX>N&>U:>N0>VC>M7>QQ>ypc>yy6>y]R>y]N>yuz>oJ>a[>yIq>_au#/HS-M`+6O$+5-55.$M`M=>Mp>N>",
    ">NR>Nv>Oa>QW7d[M`MyGM=GN>GNRGNvGQWu#/IM%vxTh8%yZ_Th8&N_kfC86Th8&yL;%P[T`u#/I^'yrPPdyce8N9GyX",
    "8u#09L%vxksz#@5z#A5y#85z#B5z#C5z#D5z#E5z#F5z#G5z#H5z#I5z#J5z#K5z#L5z#M5z#N5z#O5z#P5z#Q5y#95y",
    "#:5z#R5z#S5z#T5y#;5z#U5z#V5z#W5z#X5y#<5z#Y5z#Z5z#[5z#]5z#^5z#_5z#`5z#a5z#b5z#c5z#d5z#e5z#f5z",
    "#g5z#h5z#i5z#j5z#k5z#l5fh5y#=5z#m5z#n5z#o5z#p5z#q5z#r5z#s5z#t5z#u5z#v5y#>5z#w5z#x5z#y5z#z5z$",
    "#5z$$5z$%5z$&5z$'5z$(5z$)5z$*5z$+5z$,5z$-5z$.5fi5y#?5fj5z$/5z$05z$15z$25z$35z$45z$55z$65z$75",
    "z$85y#@5z$95z$:5z$;5z$<5z$=5z$>5z$?5y#A5y#B5fk5y#C5y#D5y#E5y#F5y#G5y#H5y#I5y#J5y#K5y#L5y#M5y",
    "#N5y#O5y#P5y#Q5y#R5y#S5y#T5y#U5y#V5_v5_w5_x5_y5fl5fm5y#b5fn5y#c5y#d5y#e5_z5fo5`#5fp5fq5y#k5y",
    "#l5y#m5fr5y#n5y#o5`$5`%5fs5ft5y#q5y#r5y#s5y#t5y#u5y#v5y#w5`&5fu5fv5y#x5y#y5y#z5y$#5y$$5y$%5y",
    "$&5y$'5fw5fx5y$(5y$)5y$*5y$+5y$,5y$-5y$.5y$/5y$05fy5y$15y$25y$35y$45y$55y$65y$75y$85y$95y$:5",
    "y$;5y$<5y$=5y$>5y$?5y$@5y$A5y$B5y$C5y$D5y$E5y$F5y$G5y$H5y$I5y$J5y$K5y$L5y$M5y$N5y$O5g$5y$P5y",
    "$Q5y$R5y$S5y$T5y$U5y$V5y$W5g%5g&5y$Y5y$Z5y$[5y$]5g'5y$^5y$_5g(5y$`5y$a5y$b5y$c5y$d5`(5`)5`*5",
    "g)5`+5y$i5y$j5y$k5y$l5y$m5y$n5`,5g*5g+5g,5y$p5y$q5y$r5y$s5y$t5y$u5y$v5`.5y$w5y$x5z%a5z%b5z%c",
    "5z%d5z%e5z%f5y$y5y$z5y%#5y%$5z%h5z%i5z%j5z%k5z%l5z%m5z%n5z%o5z%p5y%%5z%q5z%r5z%s5z%t5z%u5z%v",
    "5z%w5z%x5z%y5z%z5z&#5z&$5z&%5z&&5z&'5z&(5z&)5z&*5z&+5z&,5z&-5z&.5z&/5z&05z&15z&25z&35z&45z&5",
    "5z&65z&75z&95z&:5z&;5z&<5z&=5z&>5z&?5z&@5z&A5z&B5z&C5z&D5z&E5z&F5z&G5z&H5z&I5z&J5z&K5z&L5z&N",
    "5z&O5z&P5z&Q5z&R5z&S5z&T5z&U5z&V5z&W5z&X5z&Y5z&Z5y%*5z&[5g/5g05g15g25z&g5z&h5z&i5z&j5z&k5z&l",
    "5z&m5g45y%,5y%-5z&r5z&s5z&t5z&u5z&v5z&w5z&x5z&y5y%.5y%/5z'#5z'$5z'%5z'&5z''5z'(5z')5z'*5z'+5",
    "y%05z',5z'-5z'.5z'/5y%15y%25z'05z'15z'25z'35z'45y%35z'55z'65z'75z'85z'95z':5z';5z'<5z'=5z'>5",
    "z'?5z'@5z'A5z'B5z'C5z'D5z'E5z'F5z'G5z'I5z'J5z'K5z'L5z'M5z'N5z'O5z'P5z'Q5z'R5z'S5z'T5z'U5z'V5",
    "z'W5z'X5z'Y5z'Z5z'[5z']5z'^5z'_5z'`5z'a5z'b5z'c5z'd5z'e5z'f5z'g5z'i5y%75z'j5z'k5z'l5z'm5z'n5",
    "z'o5z'p5y%85y%95z'q5z'r5z's5z't5z'u5g85g95y%:5z'z5z(#5z($5z(%5z(&5z('5z((5z()5y%;5y%<5z(+5y%",
    "=5z(,5z(-5z(.5z(/5z(05z(15z(25y%>5z(35z(45z(55z(65y%?5z(75z(85z(95z(:5z(;5z(<5y%A5z(=5y%B5y%",
    "C5z(>5y%D5z(?5z(@5z(A5z(B5z(F5z(G5z(H5z(I5z(J5z(K5z(L5z(M5z(N5z(O5z(P5z(Q5z(R5z(S5z(T5z(U5z(",
    "V5z(W5z(X5z(Z5z([5z(]5z(_5z(`5z(a5z(c5z(d5z(e5z(g5z(h5z(j5z(k5z(l5z(m5z(n5z(o5z(p5z(q5z(r5z(",
    "s5z(v5z(x5z(y5z(z5z)$5z)%5z)&5z)'5z)(5z))5y%G5z)+5z),5z)-5z).5z)/5z)05z)15z)25z)35z)55z)65z)",
    "75z)85z)95z):5z);5y%H5y%I5z)=5z)>5z)?5z)@5z)A5z)B5z)C5z)D5z)E5y%K5z)F5z)G5z)H5z)I5z)J5z)K5z)",
    "L5z)M5z)N5z)O5z)P5z)S5z)T5z)V5z)X5z)Y5z)Z5z)[5z)]5z)^5z)_5z)e5z)f5z)g5z)h5z)i5z)j5z)k5z)l5y%",
    "M5z)m5z)o5z)p5z)q5z)r5z)s5z)t5z)u5y%N5z)v5z)w5z)y5z)z5z*#5z*$5z*%5z*'5z*(5z*)5z**5z*+5z*.5z*",
    "05z*15z*25z*35z*45y%P5z*65z*75z*85z*:5z*;5z*<5z*=5z*>5z*?5z*@5z*A5y%Q5z*B5z*D5z*E5z*F5z*G5z*",
    "H5z*I5z*K5z*L5z*M5z*N5z*R5z*S5z*T5z*V5z*W5z*X5z*Y5z*Z5y%R5z*[5z*]5z*`5z*a5z*c5z*d5z*e5z*f5z*",
    "g5y%T5z*h5z*i5z*j5z*k5z*l5z*m5z*n5z*o5z*p5z*q5z*r5z*t5z*u5z*v5z*w5z*x5z*y5z*z5z+#5z+$5z+%5z+",
    ")5z+*5z++5z+,5z+-5z+.5z+/5z+05z+15z+25z+55z+65z+75z+95z+:5z+;5z+<5z+=5z+>5z+?5z+A5z+B5z+C5z+",
    "D5y%V5z+E5z+F5z+G5z+H5z+I5z+K5z+L5z+M5z+N5z+O5z+P5z+Q5z+R5z+S5z+T5z+V5z+W5z+X5z+Y5z+Z5z+[5z+",
    "]5z+^5z+_5y%W5z+a5z+b5z+d5z+e5z+g5z+h5z+i5z+j5z+k5z+l5z+n5z+o5z+p5z+q5z+r5z+s5z+t5z+u5z+vu#1",
    "Wz'T;$yTVM`M=GMpGN>GNRu#1X'GOaGQW@yVNM`MyPM=PMpPN>PNRu#1X/POaPQWu#1X26QF4&nw$4Myu#1X3&XH$QFR",
    "F&nw$/My>M=>Mp>z-Y67My>M=>Mp>N>6.My>M=>Mp>N>>NR64M=>Mp>N>>NR>Nv61My>M=>Mp6M6My>M=>Mp>N>>NR>N",
    "v>Oa>QW>Rr>Wc>Vd>z,l6PzMy>M=>Mp>N>>NR>Nv>Oa>QW6Q5My>M=>Mp>N>>NR>Nv>Oa6PyMy>M=>Mp>N>>NR>Nv6PD",
    "My>M=>Mp>z,n6MOMy>M=>Mp>N>>NR>Nv>Oa>QW6P_My>M=>Mp>N>>NR>Nv6Q)My>M=>Mp>N>>NR>Nv>Oa>QW6PnMy>M=",
    ">Mp>N>>NR6PJMy>M=>Mp>N>>NR>Nv>Oa6MPMy>M=>Mp>N>6QTMy>M=>Mp>N>>NR>Nv>Oa6PLMy>M=>Mp>N>>U.6ODMy>",
    "M=>Mp>N>>NR>Nv>Oa>QW>Rr6>My>M=>Mp>N>>NR>Nv>z-56MEMy>M=>Mp>N>>NR>Nv>Oa>QW>Rr6OWMy>M=>Mp>N>>NR",
    ">Nv>Oa>y&&6O_My>M=>Mp6OoMy>M=>Mp>N>>NR>Nv>z,o6O#My>M=>Mp>N>>NR6M2My>M=>Mp>N>>NR>Nv>Oa>QW>Rr>",
    "Wc>Vd6OtMy>M=>Mp>N>>NR>Nv>Oa6R[My>M=>Mp6O)My>M=>Mp>N>>NR>Nv>Oa6P:My>M=>Mp>N>>NR>Nv>Oa>QW6MDM",
    "y>M=>Mp>N>>NR>Nv>Oa6OwMy>M=>Mp>N>>NR>Nv>Oa6O<My>M=>Mp>N>6OnMy>M=>z,v6PiMy>M=>Mp>N>>NR>Nv6MCM",
    "y>M=>Mp>N>>NR>`@6O6My>M=>Mp>N>6OIMy>M=>Mp>N>>NR>Nv6M<My>M=>Mp>N>6QmMy>M=>Mp>N>>NR>Nv>Oa6PkMy",
    ">M=>Mp>N>>NR>Nv6QRMy>M=>Mp>N>6P0My>M=>Mp>N>>NR>Nv6N.My>M=>Mp>N>>NR6PpMy>M=>Mp>N>>NR6P>My>M=>",
    "Mp>N>6PTMy>M=>Mp>N>>NR>Nv>Oa8M7z-#z,zMyPM=&XH$QFTI&T;$QFP)>RF>TIu#1]&&XH$%Pp>P>>PTu#1]:&T;$%",
    "Pp>P>>PT>M7u#2$M%y>7$M_5Mu5Ms5MZ5N<5M]5M'5N#5Mf5M^5M[5M#6MsM76MfM%6N<M76M]MI6M#M%5Ub6WJl]5l]",
    "5]v6WJN(5yFv5by5yd:5MI5M75N(5M%6MIM76M7MI6N(MI6M%N(7MI#97M7#97N(#9JM>QO)-7M%#9P56MIM%6M7M%6N",
    "(M%6M%M%7MIM7M%7M7MIM%7N(MIM%7M%N(M%8N(M%#9>M7GM%6M%MZGM#>MsGM#6MZM%?M#M%5N%5yvs6N%M#6M%M7>M",
    "I7M]M#M%7M[M#M%6M%M]GM#5/6WJZ_5ZW515y/I57545Qx6NN75_a5O,6WJT^6u476WJO,6Mm75RF5.5T45fQ6.M76Mm",
    ".6u4.5f46WJ.5y]`5Z_5VC5N.5PT5Pp5xM5yw76rJ.>1>7>/6y__OT>TR6WJNj>OT>NE6NTMIu#2%g/y.<,MMVL7UQMM",
    "VL7+MMVL7MVM$VL7UQM$VL7MzM$VL6WnVLA,U.[SVL>vw>N[?4C?7C?vwCu#2%w6MzMb?enMb>N7?MmN7>9>M;>N/>Q,",
    ">M$u#2&/6MVMb?enMb>N7?MmN7>9>M;>N/>Q,>M$>*u#2&;/(1#Nt.ym=$;-28/O*y7DNeN4&ygzyB+$d(6y9hd(6M)e",
    "E6IeEu#2]E+yz`O88Z&V?M%SlNE,BV?M%SlNE,@f+NE,AZ&V?NE,@V?NE,@vJNE,AW1SsNE,@SsNE,@Y8NE,CW1SsM%X",
    "YNE,BSsM%XYNE,BY8M%XYNE,CZ&V?M%SlNE+BV?M%SlNE+@f+NE+AZ&V?NE+@V?NE+@vJNE+AW1SsNE+@SsNE+@Y8NE+",
    "CW1SsM%XYNE+BSsM%XYNE+BY8M%XYNE+@f+M%SlAW1SsM%Sl@eIW1Ss@SsM%SlGeI@Y8M%Sl@W1SseI?Z&Y8>yz,>NE>",
    "yc_>_P>y4[>yp;>y``>yO_>yMU>yK>>yz/>yhg>ycc@^#NE,u#2]v8ezdV8yU3Pyk4PynD68y#$?lTy#$>y^#>t?I#M$",
    "D>k^Gy`g>y]@?v9s$>ymx>y>F7y0;M$sJ78T2sJ>^#8MRezdVV0/ya;OfbwM=GMp?lfmp>^#>dcu#2^>-yWGyMB>w>5y",
    "^z7y>BM^y715p55yyy5vT?M%y]H5y_Y>ZO8vT#v9s$5kb5y^S5Vb6yDsy4]>w>>yU5>yk5>ynE6yru^j>cH>VV>_W?W-",
    "^jGcHGVVG_W62Vb6N+kb5y<g5yL25k^5t?6v*cH>VV>_W>_P6lTp57v*W-VV>p6?W-_P?aY^jGVVGZOGW-5yhz?M%Y>>",
    "yyv?M%Sl5^#5dc5Vv5yLy5yz_5vP?M%Y>GSlIY>7SlISl7Y>>yyuHM%Y>?M%yd^Hy>Gyz#IY>7y`_5y`f6vPZO6eJ^j>",
    "yU4>yMC>y`i>^i>ZO>yLp>p6?_Pyak>aY>y>E>m)?aYW-?m)W-A]W#N)VbA]X#N)Vb>]W>]XI#2Vb>nYG^i5ySD>ya#>",
    "yLr>yLq>yLo6eJynb>ync>ynd5y]v>VV>_W?pBVV?W-VVGZO6eJpBG^iJ]W#N)VbJ]X#N)VbG]WG]XR#2VbGnYP^iGyn",
    "a5yML5y]A5y>.5yW@5y_:u#2`@&y5LSnEN->y;z>O'?sW]<GVn?x4]<GVn>yK^>ykN>d0>yy-GVn>yM@?j1]<?af]<>w",
    "+>Z7>j6GVn>ykH>ymA?sHQG?b+QG>yaO>y6w>yr3?bLQG?]rQG?Z7QG>yfb>y_$?vQy/N?y^-QG?yr.QG?j4QG>y/P>]",
    "w>yd7?t+QG>yma>y/,>uS?vpQGHySayjB?sXQG>w6>yNl>]7>ynG>ee>yM=@j1afP;?YwQG>yIA?_YQG?yK[_Y>sr>tQ",
    ">p9?kgQG>ycV?d/QG?d0QG>yI+>rH>y_f?p9`G?_Y`G>yjO>yE7?bLP;?sHP;?sWP;>y_g>yM1>y_h>yM>?srP;@Z7P;",
    "Up@]rP;Up>yy/?j6P;@j5ykGP;>yy.>yM?>y?B>y6v?yTJbL?x4P;?t+P;?tQP;>y]X>y/F>yP/?d0P;?d/P;?mXd/>y",
    "Mx>y/E?_YP;>y?A?vpP;>ykM?kgP;>y?g?uSP;?ywi]w>ynY>yaL>ynW>ynX>yaM>ynZ>yaN>yDy>j=?mXj=?sXP;?ym",
    "5y?uGaf?w6j3@ym9XTy/Q>yK]>y?W?yxoW*GUp>vQ?]wUp?VnQG?yM<QGG`GGP;?j4P;>[a>Vn>ynP>ym#>bg@p^y?Zk",
    "iH]7`xHynO`xHylw`xHyIDki@b+P;UpHsgj>PlZ>y=>Isgj>W*YUpPlZ>ynJ>y/`>yI?>y=2@y.Gt@j<Gy/aGj<GySfG",
    "yS_GnTGyDzHt@nT@qctPS?Ij$tPS?Hl[S?Ij$l[S?HynRS?GynIHw1S?Qp]S?Hp]S?Ht7S?@yIxw-oF@j5w-oF?yA8yl",
    "yGr-Gla@qcyr0S?HyaHS?It7w1S?@yE%M7j3Py=HAy?RXTYwxB>yI@>yIBAYwQGy<ryI,HaIM:PrHHyVLS?HaIQMIe/y",
    "=4QMHaIPyPT'QOWW*YUpIyRU`wlaYr-AyATe/`wx5u#2bWAYwe/`wx5YykEGyWA?y7WyzvGyLnGyiEAYw7_mw0Hy?Qy/",
    "D?_mwZ?l`wZGw0I[a]7V$Ir.eeV$Ilc]EV$IwWsEV$A_m[a]7V$Ir.eeV$Ilc]EV$IwWsEV$?yCil`G_m@y=3[ayTIPy",
    "SKGVnGw8?yhTw8PljPwYPw3Gy/qPljPwYPw3?y=?yCr?y=<VC>eF?y/eM:GxBGMaGQMGPyGT'GOW@Z7P;qu@]rP;qu@Z",
    "7P;W*@]rP;W*?]wW*@b+P;W*u#2c;&SnEN)Wr62Wr66Wr7Q%6Wr6S8Wr6NNWr7,Zn(7+Zn(6ZnM>6RxuQ6MXy6,5uQ5y",
    "9F7yd(YsMyGM=GMp5mf>56k>85y5q5y4g5M573QqVQ70QqVQ7:QqVQ7BQqVQ7FQqVQ7M&QqVQ?y&$n(7By&$n(6M[VlH",
    "d$[^PYT6MUVl6N<VlHd$[^PYT7YlVlMyGM=u#2ce7SDXbQl62Xy>X@6X@I>M)6rLI>M)6XyI>M)7O`M`XyGX@6y9Seq6",
    "a7eq6d$[^>YT6yb[[^>YT6yUBQl6fJQl6M/Ql6O`Ql6P8Ql6WIQl7P2gTQl7Q9gIQl93M3Nry%aQl6MuSo6M-So7M;Mu",
    "So7M9SoAG=8LSoIAP=H,AP=H+AP=HM)AP=II+AY=7PESoAG=9Lz->SoM)AY=6O-So6yrgSo6So=6cnSo7a%SoAG=5NU6",
    "fJQ?6M/Q?6O`Q?6P8Q?6WIQ?7P2gTQ?7Q9gIQ?93M3Nry%aQ?6O8U]?yiZU]?wTMyGM=GMp7yAXwTMyGM=GMp7O8y0A9",
    "?S<MyGM=GMpGN>GNR6Urjh6OGjh6UrY/6OGY/6Urv/6OGv/6Urt)6OGt)6O8O7>yj2>ylt>yj1>yRkGy&#?O7y&#>yOm",
    "6y/lI>M)6O8y=n>ydJ>mp>yi#>[m?2WW?NuWW5ydG5yjm5Mq5y`+5ySl5yB.5y:35y<Q7nVQ?R@HO#R@5yn55f06NBf0",
    "6f0R@>I7NdDMyGM=GMpGN>GNRGNvGOaGQWGRrGWcGVd5yF95yW<7OG@yjI6].R@7O8M)Ww?IWw>yF3?yi'y`G6sn8?I8",
    "7M/sn86yDfI>M)6#yAY5y;r>YM5yS-5c'5k?6uVA>=5r*>=6uWA>=6yBDA>=7c'^`Ql?bCQl6k?Ql6uVQl6r*Ql6uWQl",
    "9ylry_Zl-tK^`YbC[^`ldMyAyIGl-tK^`YbCdldMylM=lMp5y:67yE5MUVl?N<Vl6M9N#5yrY5y`^5y8/5uN5y8+5wI5",
    "y`p>mn6uNmn6wIyd26y_cyjp7yLPMUVl@OG@VI?6Q??ycj8?fJQ??M/Q?AO`Q?U]M)YIAP8Q?U]M)YI?X@(5yi:5yM.u",
    "#2f6'POyrcVAEMyGM=GMpGN>GNRGNvGOaGQWGRrGWcGVdGWdGWeGWfGY?GY@G[DGYAG`'GfzGg#Gy$XG[EG[FGg=Gg>G",
    "g?Gg@GgA/yIdVAEMyGM=GN>GNRGOaGQWGVdGWdGWeGWfG[DGYAG`'G[EG[FG`-G`/Gg-Gy%'Gy%(Gy%)G`0Gg5Gg6Gg7",
    "Gy%4Gy%5Gy%6G`1Gg;Gg<Gy%@Gg=Gg>Gg?Gg@GgA&O8POSnwX>w2>st%POSnp^u#2hi%yS/TnMg53505:5B5F5M&5M05",
    "M(5M45Mw5S:5Rk5VX5V,5T65Tt5VN5U;5V>u#2i1%XdOAS$&lbOAyFES$6b;S$6y?,]^>b;5S$%ylzOANV6NeM;5yTY5",
    "y3?6oy%5y9l5y/y5cz6y4nR87y<TMry=T5y=W5yy)5bD5y_P5tt5X$6XIRP5fB5ms5y.05ycy5yd.5y?-5bQ5y9f5y?T",
    "5y>@5y7#5y<O6P#yd/5y^E5yNh5y805yLY5ax5yjW5yae5yB@5yd-7pXMryTe5u%7yDp>qo5y?S5yjN5yE45y?X5si5y",
    "dN5yAo7yr1Mryvb5y9d5Xb5ab5yp`5y=D6OMQ85yE>6axNY5yS$5y.#5y?M5y=x5xG5yhY5oP5lW5l@5y=E5y@05yg?5",
    "yjK5yF15a(5y825yA25y.F5y9X7NEOEyr>5y=:5yN:5yB0u#2j:'y:*yd][4MQ3G0G:GBGFGM&GM0GM(GM47eaMQ3G0G",
    ":GBGFGM&GM0GM(GM4&R]vu83>0>:>B>F%vu835Fu#2l,&X`P#'/>N#>MU>Mf>4>N<>M[>M_>7>N(>M]>M'>MI>M7>1>M",
    "s>NQ>M#>M%>MZ>.>M^>N%>Mu>MT>Mq6%/>N#>MU>Mf>4>N<>M[>M_>7>N(>M]>M'>MI>M7>1>Ms>NQ>M#>M%>MZ>.>M^",
    ">N%>Mu>MT>Mq.T9'/>N#>MU>Mf>4>N<>M[>M_>7>N(>M]>M'>MI>M7>1>Ms>NQ>M#>M%>MZ>.>M^>N%>Mu>MT>Mq6%/>",
    "N#>MU>Mf>4>N<>M[u#2m+>7>N(>M]>M'>MI>M7>1>Ms>NQ>M#>M%>MZ>.>M^>N%>Mu>MT>Mq/P#T9'/GN#GMUGMfG4GN",
    "<GM[GM_G7GN(GM]GM'GMIGM7G1GMsGNQGM#GM%GMZG.GM^GN%GMuGMTGMq?%/GN#GMUGMfG4GN<GM[GM_G7GN(GM]GM'",
    "GMIGM7G1GMsGNQGM#GM%GMZG.GM^GN%GMuGMTGMq.P['/u#2mt>MU>Mfu#2mx>M[u#2n#>N(>M]u#2n'>M7>1>Ms>NQu",
    "#2n,>M%>MZ>.>M^>N%>Mu>MT>Mq6%/>N#>MU>Mfu#2n9>N<u#2n;>M_>7>N(>M]>M'>MI>M7u#2nC>Ms>NQ>M#>M%>MZ",
    ">.>M^>N%>Mu>MT>Mq/P#P['/GN#GMUGMfG4GN<GM[GM_G7GN(GM]GM'GMIGM7G1GMsGNQGM#GM%GMZG.GM^GN%GMuGMT",
    "GMq?%/GN#GMUGMfG4GN<GM[GM_G7GN(GM]GM'GMIGM7G1GMsGNQGM#GM%GMZG.GM^GN%GMuGMTGMq.n%'/>N#u#2o.>M",
    "f>4>N<>M[u#2o4>N(>M]>M'>MI>M7>1>Ms>NQu#2o=>M%>MZ>.>M^>N%>Mu>MTu#2oE6%/>N#>MU>Mf>4>N<>M[>M_>7",
    ">N(>M]>M'>MI>M7>1>Ms>NQ>M#>M%>MZ>.>M^>N%>Mu>MT>Mq/2TP'/GN#u#2ocGMfG4GN<GM[u#2ohG7GN(GM]GM'GM",
    "Iu#2onG1u#2orGM%GMZG.GM^GN%GMuGMTu#2oz?%/GN#GMUGMfG4GN<GM[GM_G7GN(GM]GM'GMIGM7G1GMsGNQGM#GM%",
    "GMZG.GM^GN%GMuGMTGMq/P#n%'/GN#GMUGMfG4GN<GM[GM_G7GN(GM]GM'GMIGM7G1GMsGNQGM#GM%GMZG.GM^GN%GMu",
    "GMTGMq?%/GN#GMUGMfG4GN<GM[GM_G7GN(GM]GM'GMIGM7G1GMsGNQGM#GM%GMZG.GM^GN%GMuGMTGMq/PmPq'/GN#GM",
    "UGMfG4GN<GM[GM_G7GN(GM]GM'GMIGM7G1GMsGNQGM#GM%GMZG.GM^GN%GMuGMTGMq?%/GN#GMUGMfG4GN<GM[GM_G7G",
    "N(GM]GM'GMIGM7G1GMsGNQGM#GM%GMZG.GM^GN%GMuGMTGMq@P#'/PN#PMUPMfP4PN<PM[PM_P7PN(PM]PM'PMIPM7P1",
    "PMsPNQPM#PM%PMZP.PM^PN%PMuPMTPMqH%/PN#PMUPMfP4PN<PM[PM_P7PN(PM]PM'PMIPM7P1PMsPNQPM#PM%PMZP.P",
    "M^PN%PMuPMTPMq@T9'/PN#PMUPMfP4PN<PM[PM_P7PN(PM]PM'PMIPM7P1PMsPNQPM#PM%PMZP.PM^PN%PMuPMTPMqH%",
    "/PN#PMUPMfP4PN<PM[PM_P7PN(PM]PM'PMIPM7P1PMsPNQPM#PM%PMZP.PM^PN%PMuPMTPMqAP#T9'/YN#YMUYMfY4YN",
    "<YM[YM_Y7YN(YM]YM'YMIYM7Y1YMsYNQYM#YM%YMZY.YM^YN%YMuYMTYMqQ%/YN#YMUYMfY4YN<YM[YM_Y7YN(YM]YM'",
    "YMIYM7Y1YMsYNQYM#YM%YMZY.YM^YN%YMuYMTYMq.r/'/>N#>MU>Mf>4>N<>M[>M_>7>N(>M]>M'>MI>M7>1>Ms>NQ>M",
    "#>M%>MZ>.>M^>N%>Mu>MT>Mq6%/>N#>MU>Mf>4>N<>M[>M_>7>N(>M]>M'>MI>M7>1>Ms>NQ>M#>M%>MZ>.>M^>N%>Mu",
    ">MT>Mq/T9%S#7GN(u#2st.P#'O[>QI>Pw>Q<>PA>SV>Q2>PR>Om>Qd>S'>O<>O_>Rn>Qj>O.>P<?PRE>PI>Qo>P3>PQ>",
    "PW>R$>OC5Xf6%O[>QI>Pw>Q<>PA>SV>Q2>PR>Om>Qd>S'>O<>O_>Rn>Qj>O.>P<?6PI>PI>Qo>P3>PQ>PW>R$>OC6VHX",
    ",6PAE6PRE6QdE6PQE6P<E6O.E.T9'O[>QI>Pw>Q<>PA>SV>Q2>PR>Om>Qd>S'>O<>O_>Rn>Qj>O.>P<?PRE>PI>Qo>P3",
    ">PQ>PW>R$>OC5Xf6%O[>QI>Pw>Q<>PA>SV>Q2>PR>Om>Qd>S'>O<>O_>Rn>Qj>O.>P<?6PI>PI>Qo>P3>PQ>PW>R$>OC",
    "6VHX,6PAE6PRE6QdE6PQE6P<E6O.E/P#T9'O[GQIGPwGQ<GPAGSVGQ2GPRGOmGQdGS'GO<GO_GRnGQjGO.GP<HPREGPI",
    "GQoGP3GPQGPWGR$GOC>Xf?%O[GQIGPwGQ<GPAGSVGQ2GPRGOmGQdGS'GO<GO_GRnGQjGO.GP<H6PIGPIGQoGP3GPQGPW",
    "GR$GOC?VHX,?PAE?PRE?QdE?PQE?P<E?O.E0PmPqP#'O[PQIPPwPQ<PPAPSVPQ2PPRPOmPQdPS'PO<PO_PRnPQjPO.PP",
    "<QPREPPIPQoPP3PPQPPWPR$POCGXfH%O[PQIPPwPQ<PPAPSVPQ2PPRPOmPQdPS'PO<PO_PRnPQjPO.PP<Q6PIPPIPQoP",
    "P3PPQPPWPR$POCHVHX,HPAEHPREHQdEHPQEHP<EHO.EIT9'O[YQIYPwYQ<YPAYSVYQ2YPRYOmYQdYS'YO<YO_YRnYQjY",
    "O.YP<ZPREYPIYQoYP3YPQYPWYR$YOCPXfQ%O[YQIYPwYQ<YPAYSVYQ2YPRYOmYQdYS'YO<YO_YRnYQjYO.YP<Z6PIYPI",
    "YQoYP3YPQYPWYR$YOCQVHX,QPAEQPREQQdEQPQEQP<EQO.E.P#'X.6%X.u#2w=6MQMg>3>0>:>B>F>M&>M0>M(>M4/2T",
    "PMQMgG3G0G:GBGFGM&GM0GM(GM4/PmPqMQMgG3G0G:GBGFGM&GM0GM(GM4@P#MQMgP3P0P:PBPFPM&PM0PM(PM4.r/MQ",
    "Mg>3>0>:>B>F>M&>M0>M(>M4&yhPOeP+MH6Q/MH6WgMH6[QMH6QCMH6T)MH7P+MHOr7Q/MHOr9P+MtUdMHOr@MHPG]yG",
    "X(GR1PMV7Q/MHo)7P+MHK7Q/MHK8P+MHKOrQPGbcPR1IIKR1IR1KIHKQKZMHOrZKOrYX(YR1PPs8Q/MHKPs9P+KOrMAM",
    "HAMHOrMAKHKMt8Q/MHKMt:P+MHKPaMtOrROrMtPaQMtOrSR1SPMtPHKIKR1MtPHlQKKR1KIMtPHKKISPMtQ`QMtX(YN]",
    "YXJYR1BMtQtMHKPaBMHKQKMtPHlQKlOrBKMtXJMHIBMHMtXJKIKKQKR1MtPHRPsMtPHRQKMtQ`[X(MtQ`BKMtX(MHIBM",
    "HMtX(KIBKMtN]MHIcR1CMHMt[_R8KI[NYKIRN]KIJKMtQKR1Z[_R8Y[_CKMt[_R8MHIlPsZMHIBMHMtXJKR17`6BPYPO",
    "rPR1PQKYvF8`3BPYQK9P+BPYQKOr8QCBPYQK8`6FPYSPAW%FPYSPBFPYSPBOrCW%FPYSPBOrAFPYSPOrBW%FPYSPOrBF",
    "PYSPMtQ`8WgFPYSPYMi9QCFPYSPMi8[QFPYSP9`6FPYSPR1dMtPHdO#Mt5`6@QtZ`yA,>W%?MtPH@W%MtPH?MtOrGQ`A",
    "vFMHMtPHGNVQMtPHcOrGNW5`3?MtPH?O#Mt?MtQ`6YEl/5YE6WgMi5Wg@MiMtPH?MtPH@MiO#Mt?O#Mt@MiMtQ`?MtQ`",
    "6`4Mi5`45Q/5[Q?MtPH?O#Mt?MtQ`6QCMiHMtQ`5QC>%@MiMtPH?MtPH@MiO#Mt?O#MtAMtPHwMMHIQtKMW5T)8P+MHK",
    "MW8Q/MHKMW8QCMHKMW8T)MHKMW6QCNW9P+MHKMWOrYQK9QCMHKMWQK7P+NWM)QydKPaYT2Qy]zN]GIAMtUdNWI7Q/NWI",
    "7[QNWI7T)NWI8P+NWPG]yGOrHyn0MtGMt7QCNWMt8P+NWMHMt8QCNWMHMt;T)NWMHMtMHMtR8cMt7P+NWMH7Q/NWMH7Q",
    "CNWMH7T)NWMH8P+MHKNW8Q/MHKNW8QCMHKNW>MW8T)MHKNW9P+MHKNtNW9Q/MHKNtNW7P+MWM);QCMWM)MHMtCK;T)MW",
    "M)KMtMHNt7P+MWIHPG]yGNW7Q/MWNW7[QMWNW7T)MWNW7P+MWKPQKQPGbcGMHGMt7YEMWMt8P+MHMWNW8Q/MHMWNW9`4",
    "MHMWNWNE9YEMHMWNWR8YNYYUd8WgMHMWNW8QCMHMWNW9T)MHMWNWR8PNW7P+KM)6QCK7P+KI7Q/KI8P+KPG]yIIMtPH7",
    "YEKMt8P+KMtNWGNWHMWNW8Q/KMWNW9`4KMWNWNE8WgKMWNW8QCKMWNW9T)KMWNWR8YNYPNW9Q/KMWNWOr9`3KMWNWQKc",
    "PH:YEKMWNWQKR8cNYYQK7QCMHR18P+MHMtPH8QCMHMtPH:P+MHMtPHMtNycQKcOrZMHOrZk7OrZMHo)RQ`MHPacOrPCP",
    "l/RQ]MtQO:`3MHMtQ]MtQO:P+MHMtQ]MtUdPM;7WgMHMtPMi8QCMHMtMiPN:GMtP%8T)MHMtR8PNYGMt6P+MtGW%HPHN",
    "yPQKPOrGQ`IQtMHKQKMWQMWNWIUd0PYIMA0PYIUd:PYQBPYJMABPGbc5P+>W%-yn/N)5SD5Qt-yE1N)5SD5Qt-yj[N)5",
    "SD5Qt-`eN)5SD5Qt-u:N)5SD5Qt-veeZ5Qt.vHN:N)6%N)6N:SD6%SD5_*.moN:N)6%N)6N:SD6%SD5_*.vHmoQ[0QiQ",
    "CIM)N:P%G_*?M)_*AIM)Q[N:Y%APH>PHXw7PrShX$7Q0ShX$8PrN)Pa%PMdPN:PUMHT%Tb?2PaHT%TbGQ[QT%Tb>Nt@N",
    "uPaQiHT%TbGQ[QT%Tb?[m%GMdGN:?Od%GMdGN:GTo?Sc%GMdGN:?P7%GMdGN:?Vc%GMdGN:?sm%GMdGN:0wRPrToPrN)",
    "P2PQ[HQ0N)P2PQ[>_-@YQ_9N)P2PNu/Qiz,UjJ%GMdGN:GUM?wO%GMdGN:GUM@QtjJ%PMdPN:PUMHwO%PMdPN:PUM8Q0"
  ]

/-- Part 8 of the names. -/
def names8 : List String :=
  [
    "N)Pa%PMdPN:PUMHT%Tb?2PaHT%TbGQ[QT%Tb>Nt@NuPaQiHT%TbHQ[QiQT%Tb>[m?Od%GMdGN:>Sc?P7%GMdGN:?Vc%G",
    "MdGN:?sm%GMdGN:0wRQ0ToQ0N)P2PQ[HPrN)P2PQ[>_-0QiPrQ]O`%PMdPN:PUMIM/Q/%YMdYN:YUMJ:z-4M;%cMd?XL",
    "%GMdGN:?Qg%GMdGN:H%2AQ,Q]2%YMdYN:QNu%YMdYN:@Q]WUPa@T2Nt%PMd.ToPrN)>2>Pd.QiPr_-AQ]OlSiTGAXLOl",
    "SiTGAQgOlSiTGAQ,OlSiTG1ToPrN)OlSiTGA2OlSiTGAQ[OlSiTG0QiPrQ]OlVk@XLOlVk@QgOlVk@Q,OlVk0ToPrN)O",
    "lVk@2OlVk@Q[OlVk1QiPrQ,Nyd4%YMdYN:9Q0Q]OlU4%YN:BXLOlU4%2ZN:2Z%NuZN:NuBQgOlU4%N)ZN:N)Z%2ZN:2A",
    "Q,OlU4%YN:0ToQ0N)OlU4@2OlU4@Q[OlU41QiQ0Q]OlTc%YN:BXLOlTc%2ZN:2[Nu%NudN:NuBQgOlTc%N)ZN:N)Z%2Z",
    "N:2AQ,OlTc%YN:0ToQ0N)OlTc@2OlTc@Q[OlTc/QiQ0Q]%GMdGN:GUMGy9P?XL%?Qg%?Q,_8G%GN:.ToQ0N)>2>Q[/Qi",
    "Q0_-VG9PrYQM;%N)QMdN)Q%2QMd2;Q0YQM;OlTG%N)dMdN)dN:N)d%2dMd2dN:29PrT%M;SiN)Y2:Q0T%M;OlTGN)c28",
    "PrShS6N)P2:Q0ShS6OlTGN)c2.y>KN2%>N:5yA=5v.5eb5tx5yhU>Q[7y@*y]yeq5yE),Q=5ydD7QiPrPaGym^?Q0Pa?",
    "PrQ]?Q0Q]>M;1M8lf^eXkQ`_QRIMrM)l_Q.m]PaI>Q$>M)/y>&m]Q$M)?M)Q$?IQ$?Q$I-yB)Q$5X$5Wa-Q3Mi5yib5O",
    "M.U>y4NN)>SD.Q3M/Mi6W^Mi6M/OM6yvwQi-U>yw&-y@=I5M)5mr.y@;PrPaG2GQ[6Q0PaG2GQ[6PrT26Q0T26Prkl-k",
    "`yaX5Q$5v[.ebk`Mz>K>MV,m5-XkQ$5X$5xX5yvx.`Dk-R86yjrNY7y4P%u67yjq%u6-k>yIX5y@/.Q8OMQ$>Q`>X$5e",
    "4>Wa>Mi5n)>Wa>Mi6MiM;>Q`>Wa>d&GWaGxg>W?GWaGxg5]u>Q`>Wa5eb>Q`>v[.W/ya4_S/c#MRMAMn7MnMAMR-Q8X&",
    "6xXN)>2/WWvSR8yA<6yO,W/7S2QtW/@wMQOQ87QOQ8tx7yU-y.Cy7*7NVvSR8?QOQ8,ylh5Qi6NEWWGQi>W/GQi6y4IW",
    "/.QiPro[6Q0o[,rR,W#,y@.._3Z*yiO>y`s/yvU_3Z*r5/yAp_3Z*r5/_3_QOjyvT/wJPrPayjX?T2[m6Q0yoJ1Mnk0_",
    "QOjZ*yJd-yO9y9O6R6My>M=>Mp>N>>NR>Nv>Oa,Sh.c&PrQ(6Q0Q(5yFH5W_5y<f6Q=rR5wJ6yO:y==,NK-NeN4,Sw,O",
    "h,O-u#3'R.S%OfM=>Mp>N>>NR>Nvu#3'X.ToOfM=>Mp>N>>NR>Nv>Oa>QW>Rr>Wc>Vd>Wd>We>Wf>Y?>Y@u#34L)Nf%$",
    "ajP,#ynM@N+P[M[0$%'MxM[/%$N+M]1$%'M'#T.1%$bx#O/CAMxMT#T.?N+SeEMxM##MmR#)O/CCMZ#C)O/C1$O/T1#O",
    "/C1%$Q_#2M,d)PtAMxMZ#Pt1$NBP-N4#Pt8eLMU#Pt8%'MxM]0%$M'#VuB]0P,#P'CCM'#T.)P'CASe#P'CBMxM##P'C",
    "CM##Vu)P'CB_LP,#P'CAU?#P'CB]0P,#O/CC7#D)O/CA1#O/CB_LP,#O/CAMU#O/C@M%#Ptu#37G&O8nP$`R>`g>f<>b",
    "*>aS>fY>fdu#37O>fb>XP?GXP>7>aQ>bR>c%>ZK>cV>cx>d?>db>e3>f1>f6>at>b5u#37c>e'>WX>Y]>N3>TJ>_l>fV",
    "u#37k>O6?%P*u#37n>OI@XO%P*?RtP*@XORtP*>Vvu#3:B'yZjyaSo/$MDGOzGyZ*GMPGM2GMEGRmGyXrGN9GMFGMOGN",
    "oGyVvGyZ0GM6GMXGNAGcjGN`GyZ5GyoKGO3GM<GQ@GMCGyYXGM:Gx_GyYVG]3GyYWGMhGr,G^cGMaGQAG/GMlG7G.G1G",
    "NnG4GO,GN%u#3:s?M`y%ZGz,uGz,hGz-WGz-@Gz,aG`5@(OAR:Pym?Pc&Py/<PyIlHfQfQ?RA^/u#3;+?MQMgG3G0G:G",
    "BGFGM&GM0GM(GM4u#3;9?ZByZe?N]N9u#3>w%yn.$M:5Mj5MP5MX5M65Ma5MD5ME5N15MO5N?5MC5N.5N65M25M<5MF5",
    "76YW75Z06YWZ05.546YW45X76YWX7515Ob6YWOb5/.(SLM`u#3?O%yvW$Ml5/5Mj5N95MX5Ma5MC5NZ5MF5ME5M:5MP5",
    "NO5O35MO5N35N65No5N.5N`5M6515N05M<5MD5NC5M254575N15.5yOQ5Oz5f#5sL5y,q5S[5bE5NE5Nj5if5NA5ypA5",
    "yxu-M`wp5yo:5bd5yM$-MQMg53505:5B5F5M&5M05M(5M4u#3@7-yX1(u#3NV%]DRAyFc5yFi5yFg5yFd5yFf5yFe5yF",
    "hu#3N_6nco%5yFb5yFa5yF`u#3Nd6nc^A>r=u#3Ng>th>tg>tf>kE>kD>^(>pF>^'>nh>ng>nf>n1>n0>^k>tUu#3Nw'",
    "ySTyLURAq,Pz?q-M6?q.Q5?yPbbZ?yQ(Py?yPmZ=?yPPPD?yR%yMG?q/Pp?q0N.?q1TI?yQG_e?yQ?P>?yQ;[;?yPMPT",
    "?yR4ywA?yQXxM?yP^ywJ?yPQywH?yQTywI?q2^<?q3Q6?q4yUF?yP[UP?yQ'W5?yQdr8?yR/yU;?q5RR?q6Mj?q7QJ?y",
    "Q`Ws?yQ*RQ?yQ0k2?yQSS`?q87?q9/?q:.?yQmO,?yQ-4?yQoNn?yQ]1?yQRU:?yQLNY?yQPNY?yR5OT?yR$Nj?q>P_?",
    "q?MO?q@Q)?yQlVM?yQ=Pn?yQQ[$?yPpPJ?yR6yhG?qDQf?qEMF?qFPZ?yPu^.?yPjRa?yPVX^?yQcQ>@yQ7MmRa?q;QM",
    "?q<MX?q=R.?yPzX*?yR&ls?yR'Q1?qAQT?qBMP?qCPL?yQ$Y,?yPWOD?yQ1Y0?yPf>?qGV2?qHN6?qIW)?yQgXR?yQ:S",
    "j?yQjoh?yP`T:@yQyMmT:?qJP)?qKMC?qLO6?yQ6Y<?yPqRF?yQV_n?yQBOI?qMT5?qNO3?qOUA?yPoVt?yPlSg?yQNa",
    "s?yPyT8?yR7yB<?yQ.mb?qPce?qQyVF?qRNp?yQ>c]?yQs^J?yQzOt?qTM2?yR,R[?qS]_?yQ)O)?qUZ+?yQUP:?yPty",
    "FG?yQIyH&?yPUo(?yQKb2?yPxo<?yPTnv?yR3b9?yPNyH4?yQ#rd?qVZP?yPscc?yQ<rb?yQ[c_?yQfcb?yQAca?yQiy",
    "WZ?yQHyWc@yPwMmc_@yQ3Mmcb@yR)Mmca?yQePx?yQ8Ma?yQrR0?yR0Yz?yQpyE@?yQqyE<?yR*r`?yPYrj?yR#yX/?y",
    "PeO.?yQ,M:?yPRSJ?yPrUV?yPSNq?yQ/Zg?yPcQk?yQZc6?yP_ZF?yQCc:?yPO^7?yR.^7?yPi^6?yQvc9?yQxc8?yR-",
    "ySA@yQkMm^6@yQ2Mmc9@yQWMmc8?yQMp??yQ%Z>?yPkpA?qWp>?yQ5p=?yQ9p@?yQh]z?yQEn:?yPXb#?yQ^b$?yQ&n9",
    "?yQ4]Q?yPhn<?yPgn;?yQuM<?yQDcY?yQJXh?yQF^E?yR1cX?yQ@^D?yPdrQ?yPacZ?yQbrp?yR2ch?yQ_ZQ?yQOru?y",
    "R(Ue?yR+N`?yQaW]?yQwV`?yPvRE?yQYxA?yPnU#?yQns;?yPZyZf?yQtyZx?yQ+yZi?yP]yZsu#3Q86MQ3>0>:>B>F>",
    "M&>M0>M(>M47O8NDylgGeaGb<GVZHMwVZHM3VZGW4u#3Qr&y.,'$`F>l9>bm>r(>Mj>v%>Nq>[n>M<>4>O3>7>1>Nl>x",
    "k>O?>Np>Ou>MC>.>o_>PW>M2>dR>Ma>NA>PL>Xj>N`>NC>]Q>_q>]z>N3.%$`F>l9>bm>r(>Mj>v%>Nq>[n>M<>4>O3>",
    "7>1>Nl>xk>O?>Np>Ou>MC>.>o_>PW>M2>dR>Ma>NA>PL>Xj>N`>NC>]Q>_q>]z>N3-`F^/-MK^/-Z#8,OJ-PeOf.yCdP",
    "eOf,PP-cU8u#3Rk-MQMg53505:5B5F5M&5M05M(5M4u#3Ry.GPB86P(8u#3]%&oNv'ND3>0>:>B>F>M&>M0>M(>M4>Mw",
    ">Nr>P2>Q4>O]>Q9>OX>RV>OB?3M3?0M3?:M3?BM3?FM3?M&M3?M0M3?M(M3?M4M3?3MB?0MB?:MB?BMB?FMB?M&MB?M0",
    "MB?M(MB?M4MB?MwMB?NrMB?P2MB?Q4MB?O]MB?Q9MB?OXMB?RVMB?OBMB>bn>yNF6bn86NDyKV>yKW?tF3G0G:GBGFGM",
    "&GM0GM(GM45d>7QN3O`GM/?:Re6W@87NDPd3G0HMwMB7Pdbn8u#3^_&y^&v'ND3>0>:>B>F>M&>M0>M(>M4>Mw>Nr>P2",
    ">Q4>O]>Q9>OX>RV>OB?3M3?0M3?:M3?BM3?FM3?M&M3?M0M3?M(M3?M4M3?3MB?0MB?:MB?BMB?FMB?M&MB?M0MB?M(M",
    "B?M4MB?MwMB?NrMB?P2MB?Q4MB?O]MB?Q9MB?OXMB?RVMB?OBMB5yRp7PdND0G:GBGFGM&GM0GM(GM4GMwHBM3HM&M3H",
    "0MBHMwMB7QN3M/Ge-u#3aX%PMX`MG5Q;5Mv5Rxu#3a^5O?5Rp5Mh5P15M@5Ou5OH5M+5O@5P=5OZ5Ph5Pl5PF5Op5QS5",
    "QB5T$5N^5WT5QL5TK5Qu6S#Q;>O@>Ph>PFu#3az6GQ;>Mvu#3b%>P%u#3b(>Mhu#3b*>M@>Ou>OH>M+>O@>P=>OZ>Ph>",
    "Pl>PFu#3b5>QS>QB>T$>N^u#3b:>QLu#3b<>Quu#3bC6vsMvu#3bH>Mhu#3bJ>M@u#3bL>OHu#3bN>O@>P=>OZu#3bR>",
    "Pl>PFu#3bU>QSu#3bX>N^u#3bZ>QLu#3b]>Quu#3b_?S#O@u#3baGPFu#3bc6eLQ;>Mvu#3bf>P%u#3bi>Mh>P1>M@>O",
    "uu#3bn>M+>O@>P=>OZ>Ph>Pl>PFu#3bv>QS>QB>T$>N^u#3c#>QL>TK>Qu?S#Q;u#3c(GPhu#3c*6yOcMG>Q;>Mv>Rx>",
    "P%>O?>Rp>Mh>P1>M@u#3c5>OH>M+>O@>P=>OZ>Ph>Pl>PF>Op>QS>QB>T$>N^>WT>QL>TK>Quu#3cK72TPQ;GMvGRxu#",
    "3cOGO?GRpGMhGP1GM@u#3cUGOHGM+GO@GP=GOZGPhGPlGPFGOpGQSGQBGT$GN^GWTGQLGTKGQuu#3dC:O&M+#Mh#_I@M",
    "h#Rxu#3gN&yRKepNGTH6O(TH6M1TH6NmTH6SKV%6V-V%6AV%73@U570@U57:@U57B@U57F@U57M&@U57M0@U57M(@U57",
    "M4@U573@U170@U17:@U17B@U17F@U17M&@U17M0@U17M(@U17M4@U173@S670@S67:@S67B@S67F@S67M&@S67M0@S67",
    "M(@S67M4@S65y`W5y]k5`U5y7X5yi[5yjw5y0J5yw'5]m5RPu#3h'&y=sepMMRP?RHRHGRIGRJGRKGRLGRMGRN?RIRHG",
    "RIGRJGRKGRLGRMGRN?RJRHGRIGRJGRKGRLGRMGRN?RKRHGRIGRJGRKGRLGRMGRN?RLRHGRIGRJGRKGRLGRMGRN?RMRHG",
    "RIGRJGRKGRLGRMGRN?RNRHGRIGRJGRKGRLGRMGRN6M$RP?RHRHGRIGRJGRKGRLGRMGRN?RIRHGRIGRJGRKGRLGRMGRN?",
    "RJRHGRIGRJGRKGRLGRMGRN?RKRHGRIGRJGRKGRLGRMGRN?RLRHGRIGRJGRKGRLGRMGRN?RMRHGRIGRJGRKGRLGRMGRN?",
    "RNRHGRIGRJGRKGRLGRMGRNu#3i@%t9YZRP7[W@S/70@S/7:@S/7B@S/7F@S/7M&@S/7M0@S/7M(@S/7M4@S/7Mw@S/7Z",
    "1@S/7Ov@S/7R<@S/7Qe@S/u#3iQ7[W@Qw70@Qw7:@Qw7B@Qw7F@Qw7M&@Qw7M0@Qw7M(@Qw7M4@Qw7Mw@Qw7Z1@Qw7Ov",
    "@Qw7R<@Qw7Qe@Qw6SK]mu#3ib7[W@Rz70@Rz7:@Rz7B@Rz7F@Rz7M&@Rz7M0@Rz7M(@Rz7M4@Rz7Mw@Rz7Z1@Rz7Ov@R",
    "z7R<@Rz7Qe@Rz6=]mu#3ir7[W@Rv70@Rv7:@Rv7B@Rv7F@Rv7M&@Rv7M0@Rv7M(@Rv7M4@Rv7Mw@Rv7Z1@Rv7Ov@Rv7R",
    "<@Rv7Qe@Rv6A]m5yB#6yn]My>M=>Mp>N>>NR>Nv>Oa>QW>Rr>Wc>Vd>Wd>We>Wf>Y?>Y@>[D>YA>`'>fz>g#u#3jI&MQ",
    "MgNeN45NK-3NK-0NK-:NK-BNK-FNK-M&NK-M0NK-M(NK-M4NK(leN]PmPqMQMg1R7N]PmPqMQMg&N]Mg#R@-QE*0Vo(#",
    "d'Vh'^[Nf'$/GN#GMUGMfG4GN<GM[GM_G7GN(GM]GM'GMIGM7G1GMsGNQGM#GM%GMZG.GM^GN%GMuGMTGMq)QpP^k:Nf",
    "'$M%(N]T9Nf'$MUPM#,kT,ywK$y9tE'ORNf'$/GN#GMUGMfG4GN<GM[GM_G7GN(GM]GM'GMIGM7G1GMsGNQGM#GM%GMZ",
    "G.GM^GN%GMuGMTGMq,]d,ZJ,yfv,_<,ya*,xK(R7N]Nf'$/PN#PMUPMfP4PN<PM[PM_P7PN(PM]PM'PMIPM7P1PMsPNQ",
    "PM#PM%PMZP.PM^PN%PMuPMTPMq%PGqj(-ySB(-yU2($N]kS/MU#d'Vh-b;Ys(R7ORNf'$/PN#PMUPMfP4PN<PM[PM_P7",
    "PN(PM]PM'PMIPM7P1PMsPNQPM#PM%PMZP.PM^PN%PMuPMTPMq)PsR7ORNf'$Ms%R7ORb?5M:5MO5U/5xK$M9y=`$ORy7",
    "z,y9q,Yv,yI-,Xi,QQ,^T,v:/I#PB8,yrv-:Mf-WBZv-0M]-BM]-M(M].FSG3.M0SG3/NrgUSG0-Q9Ms/3M3NrMs/Nf%",
    "$Mf,yF?,yF@-Otz-:,yOh,yh>,ypE,yre%c4fNEu#3m*'ycqV0E$/GN#GMUGMfG4GN<GM[GM_G7GN(GM]GM'GMIGM7G1",
    "GMsGNQGM#GM%GMZG.GM^GN%GMuGMTGMq%M9XHyGv%ORT;yM&5MOu#3mT/Y`f7W&z*&Gz)`Gz(t-T;Pu/Y`f7W&y%FGz)",
    "UGz,/Gz)WGz(EGz*UGz+8Gz*OGz(bGz)cGz(YGz*PGz(^Gz,$Gz+cGz,0Gz)QGz)#Gz+'Gz*,Gz*5Gz(CGy%EGz,3Gz)",
    "bGz(DGz(uGz*/Gz,1Gy%OGz+zGz,#Gz(wGz+&Gz*_Gz*^Gz+fGz(fGz)4Gz,5u#3n-)QpP^k:Y`f7W&z*bYy%EYy%FYz",
    ")aYz+3Yy%OYz+wYz(iYz*Ju#3n=%N]W&y.15y-xu#3nM&TpEOAUA>PZ>yh$>Rn>yh/>y5su#3p?#y:Q#yAv$OM[3%^H#",
    "yj<%vbMAyU+#vb%knPUy>>%yjyMAkB#ycR%WxPU^H$SUQ,#yri$yTN[9&S$nQy@'z,?5y/$6y0%z,D%nQ#ySZ%XiPEE&",
    "xJX'PEE&U@O`PEE&xJnOPEE%NePEE&xDnOPEE&bpO`PEE&xDX'PEE$X'PE&XiPE#M8'U@O`PE#M8'bpO`PE#M8&NePE#",
    "M8%Sx#M8$yDiNS$ygwNS#w7$=m%$ASx7#%X#6jqX#H#W>%X##W>5e55^05yn,#yAu%THk-M8$Z,X0#yl<#y5:#y78#yg",
    "%$y@)Ty$y<NTy$Z`Ty#y5o$Z,sw#yo2$y76k,#ydf#yFj#yjx#k,%X2@yRS5Zp#yFR%BQ#y83$yRhQ#$yA6Q#&Q#mrNY",
    "TH#yUU#yn$#y0@#yE.#qq#yvd#ylN#yNm#y32#y`>$SKj7$V-j7#y_G#y_D#y75#yjU#yF#%v-@y`F%^9NE[p$y`yR#$",
    "Zpy:0,S^$y9oZp%y:G)Zp$yjC``#yiA#k<$n'yB9%ydYvjtC#y;u#y]M#yk0$yB8un'Ta`m#eXy<m%S.V.l%$ygWV.$V",
    ".l%#y=y#kz$y7NM,#y6%#yO^#y:J$yGy^g#ygx$y3yP7%^g@]K#y9p%]M)Z<%ylc[:nl&yf:[q)Ye$_hXE$y9DXE$w]m",
    "#$jncJ%kpjnyU<$Wp[q']M)Z<#y`M&[q#y`oy9v#y`m#^z$yw:ya2$y4A`m%Z1Rsz,r$`vTy$mc`v#yA_$yA^yiB#Wq$",
    "d3y`n$y9[S^$ylLTy$PsyAi$y`=lQ$W'lq$y66yjV$THy7B%PEyrSy6l$dlyfV$yE*[t(Ok#S2NEOE,%k8@yAq$c@ZH$",
    "yd$^z&SnZ8#yJ.$yjar$$bwyhr$U8yLt&jij@SnZU.aGSnZU$miyB3$y..ymW$y65UH$yAL_g$u2y9B&yAbZf)Ta#r$$",
    "yU.`p#y7q#yFA$y/uy^R$O$W$$y7tec#ymV$y8%YV$y_[j?$x;n4$aMo+$yhwc.#y4<$n4aJ#y4a%Yut9y61$SnQ?%SD",
    "SnZU#yfc#yEC$SnZ8#yn^#yrW$Snyfn&deygp#yfU&w.tk)S^&v,)v,k5%y3C)yH$$y74S<#yi)#ye6#yk-$yiWZH#yn",
    "[$UHtj$y/#mv$ye/mv#yk8$xNyO2#yDr$tjyU',Uu&l&`W)S^#yrj'mho0_A)S^'V.o0_A)yaW'e[w.y^G)S^%e5y6-V",
    "<#y5z%y3f#[3$YXa+$Z-kB#kn%y<hZ-YX$y8'YX#y<k,yJ$$rKy_%#yj4$Z-YX-#yCJ$cwYX%W'dDcw%mZdDcw#yH)#`",
    "V%y0Iylnc.#o8$c(o8$y9mvU#dl$y<evU#yA.$yJ-yNM$W'`r$mZ`r$Ass$=ss%xHAS<-=S<#dd$=dd#yN8&y2ztk)yh",
    "<%Ww)*#y/&(mHOfyAe[1MyM=GMpGN>GNRGNv#^t#W6#^W$SUy5(#Yc#_O#yNo#ti#Sb#V%#y:4#xO#yi&#_8#UH#^s#y",
    "Dm#dv#ZI#ydd#y7=#X0#^b#k.#a^#y]L$_9P^#y5)#y/C#yGz$yN?jo#Ta$w]Ta#y4Q#[/$yF6`t$Wp`t&SiUjWp`t#[",
    "o#y_R#yLw#y`k$y>(kJ$y2xkJ#y=q$W6M8$YcM8$_OM8$tiM8$SbM8$V%M8$yiYxO$UHM8$ZIM8$X0M8$^bM8$auM8$y",
    "F%M8$yw,M8$jjM8$y^cM8$^bXk$sjya9#y7E#Q3#U>#X2#Xk#Q8#WW'AIN8UqMH/M)N8UqMH/,N8UqMH/+N8UqMH%yAc",
    "Oe(%xHOe(%^TOe(%w;I(-M)(%y8&UE(%MiUE(#l+$fKW$#y@<#yW=$MZz-G#yJ9#lz#yLW#y4:$fKa$#yag#yF&#y`x$",
    "yRbWE$y04WE%Mzz,dWE$fKuI,y4W#yB$%y5>NY_4%y5?NY_4#y4c#yD]#Q6#Va#ma'Q6)VaXIUE&0UPXIUE.yw-XIUE$",
    "^dy]Q&Va#y53m5%y4r#yr:&R:#y4OW#'Q6#yE;O.yRg5wq$sGQ6,Va#Wp$a+yw2#ya8$W'y]T,yDn#b'$Wpy//$y@7iz",
    "$izyTt#yIF#e0%XNy<nR:#yE?#y;s#yOF$yVCd@$M8yS##yEt$y3;Zf#ykL#y`8$]u8$c($#MW$yCceH#]u#k8%y:+#O",
    "k#yvi$y3kOk$WyOk$0Qw$yiDOk$yE8Ok%Ok#*$UsOk$V-Ok$[=Ok$dLOk%Ok#^z$u&Qw$OklQ(O;ygS#/9QO%]=MNy5,",
    "$`JE#y4U$e1E$y9KE%yiR_FE#m%$O+E%y`7@Zg$yAny42$llE$WKWq$ehWq$AYu%M3y`dE$cC[f$Yfy@-%JVo($a1YZ&",
    "y37#[>(6Vo(6ac(6^h(%cC#yw$)[w#Mef%)[>(#yfy$t#a*#y4s#yTS$]IYk$sO]1#y>C$X?Vw%MiX?Vw%UU#Pt-m`I#",
    "`n%w)y%p`n$YZMH&[w#Mef%6MYf%$M,[w#y8.#dM$SMdM#y^u$Pau<$Q*u<$k3yl;#yNf#yYO.#y<Pa/$OMWv$MiWv$V",
    "-Wv$UsWv$XlWv#y4V$ZLy2y#yfs#ySS$T#^v#y^I$aic.$uLj-%yaVy.(yOl$y7,ySL$y^(wS$yIJwS#y^D%4z,wE$yI",
    "MU<'U<#MY*-'OMq^#pwS<?PGS<'Miq^#PGS<?pwS<#y`t$^fOV#r[$^>d:9#H*PU,$yrKyTd%^>d:y]P%O#^>y`&%j-#",
    "[k#`p-#yAk$x;`p#ylm#tn#yrL$miyaC$y`qyjF$ya,y3g%yoIHR+)S7H)M.MiM;R+f#N]3Pj1MY)MeMiM;R+)QEMY)M",
    "eMiM;R+%MVk@E%Mzk@E&e<#[sD#e</#3R&Q,7:R&fE#jb$]=y`U&,N;q[XE&+N;q[XE&^2#yI[Xp&OM^2#UL#UL#^2$M",
    "i^2#Wt.#[sD#k3$bzE$tnWz'RP#M.*-'OG#M.*-+NE#PB8#,+*-'yi6#H*-'O$#Me*-'O#3UdU;E$p'Mw(yI`EOANf'b",
    "vH%bv>yZT>eZ?Nfbv#T7$]=yn+#xW#][%s/)`_#yGt#y`D#yTC#yll$y:;S^(M&OPNS#K9&W'EOAy3q$_Xy?N%=M9Wz%",
    "AM9Wz%N:SKM;-UsM;-XlO;-UsO;%%XlO;-UsO;&IN;SKL&M)N;SKL'IN;%SKL'M)N;%SKL'MR+SNAM;'Mn+SNAM;%N]N",
    "tdA(NtdA#M/Q/5,dA(UR,Zw#:M>0+Zw#:M>&EOAyRoy7%%ANfNt%JNfNt$y6bNt$SEE%lu@d5#yK7#yU$#ykF&ySW#M4",
    "y4m%``@yHb&]&M83Sp60Sp6:Sp6BSp6FSp6M&Sp6M0Sp6M(Sp6M4Sp6MwSp6S:Sp6RkSp63T+60T+6:T+6BT+6FT+6M&",
    "T+6M0T+6M(T+6M4T+6MwT+6S:T+6RkT+$+e<8#3R&Q,@:R&fE#y5..#R&fE$ydIWt#Wv#y6$$yRe]&&=e0)l)$O#y`A#",
    "o2'Q6NYy5<U^yNv%yhpMryia$l?va#yiN,yvh#yJk$Q6y;t&,OeT#^v&T#^v#UU&+OeT#^v%AwNT#%=wNT#'T#NEO$@y",
    "Tg%y8$^>d:%RP@U<$vNU<%U<#^0$aqU<&XpMAvNU<$yOCy^v$=dM%MR,^^6y31Xp6n#Xp5y^M5y:1%,xYOe&Mx^TOe('",
    "PGOe#PYvE(N+PGOe#PYvE.w;I(6M)(-x9Oe0Oe#KShV*+PGOe#d2QtK)MWPY(AM)N8,OeMH'U[A,N8MH7+N8MH/=,N8M",
    "H7+N8MH'=,N8UqMH/+N8UqMH'U[AIN8MH7M)N8MH/=IN8MH7M)N8MH'=IN8UqMH/M)N8UqMH,Ok$lYa*%Z8)W6%:yWFy",
    "9Z#tJ$y`]y5v'=TeP^]IYk'ATeP^]IYk&S.P^]IYk$vzy69$yw(Z8%3WzW6%0WzW6%:WzW6#yn6%N_t#a*$TeYk#Zv$t",
    "Jb@$aib@%sO]1b@%aT#Tw?)d;5d;%n&#d;5ym]6OTMu$=Vw#Vw$MiVw%YZMHy=Y-X?P7$X?y5m$VpQ?5UU5Xn#Q?,UU,",
    "Xn$VpaT,UU,sZ#aT#UU#sZ#yva%_9Q?Xn-`nXn$lYxQ#yTT#yS.#d((S7+),ZwR+$[sMu&bDmuv(E&lRmuv(E#y9Y$N_",
    "UL%yd`y&*r[&UU#N]Tw$eG[w$X)Z<#W/&yiHQ=NY_4%:Xs-555,5+%,WKU2%+WKU2%0WK`f%:WK`f%,ehU2%+ehU2%,`",
    "JU2%+`JU2$cGU2%^0cGU2,cG&ViP7#Vi-P[Mu/P7#P[Mu.P#P[Mu0P7#P#P[Mu%MNSc8'ViP7#P#Sc$yw3ZE$yU*yB?$",
    "ymzyn3%yj@@yO*%_4@yJ4#yU0$b-M87#R%Q3'M8#e`@bQ'R%M8#MiQ8R)R%Q3Za'_F[w=y%]Q3>yEx>o6$xSM8'R%M8#",
    "R%Q3&M8yf_y<Z]K$tyM8(R%M8#OkS4Q3>va$yi$M8$Q$M8$y@5M8$ypRM8&M8#a'_F$y_UM8$y9_M8$y9^M8$baM8&M8",
    "ymG/]u'baM8#R%Q3?OMQ3'M8#yj`z-*WWR)xSU>[w=y%]Q3$liM8$yw5M8$y/2M8$dEM8$a2M8$y_`M8'M8#yOa@ynS&",
    "liTXtyM8']OM8#MiQ8$y/4M8$yACM8$xLM8$yhoM8$ymgM8$yE6M8%yOka2M8&M8#MiQ8$yHBM8)M8#MiQ8)a'_F.yfq",
    "NYyAB$y0-M8$yAsM8$e1M8$llM8%M8[:Q8.#ySGc4(b-SbM8#R%Q3(SbM8#e`@bQ(R%SbM8#MiQ8IOkS4Q3'SbM8#yw>",
    "e4(baSbM8#OMQ3%dESbM8%a2SbM8%xLSbM8%e2]OM8-R%M8%yphy%_M8&M8#u3Q37O#yDvnE6^TnE%R:y4`y<S&VMgNg",
    "GZI&yFCgNgGZI&yiGgNgGZI'yF/R:to3Oe(R:tok7UENYy6`,]O.#dEM86yAwUE&NmM1N8Q#&O(M1N8Q#&NmNGN8Q#&O",
    "(NGN8Q#'MxNmM1N8Q#/O(M1N8Q#/NmNGN8Q#/O(NGN8Q#'NmM1N8UfQ#'O(M1N8UfQ#'NmNGN8UfQ#'O(NGN8UfQ#(JN",
    "mM1N8UfQ#0O(M1N8UfQ#0NmNGN8UfQ#0O(NGN8UfQ#&NmM1N8Ut&O(M1N8Ut&NmNGN8Ut&O(NGN8Ut'JNmM1N8Ut/O(M",
    "1N8Ut/NmNGN8Ut/O(NGN8Ut&yGwtcM9NdINY=M9&yi1tcM9NdINY=M9$M.Zq$MeZq$HZq$MYZq&P[O^S;Nd'JP[O^S;N",
    "d&O^MiS;Nd'JO^MiS;Nd-UoNd%Y+UoNd+PmPqJ2MxNKOx8NdJNKOx8NdCMV2NKOx8Nd%JZ/Nd&PmPqZ/Nd'JPmPqZ/Nd",
    "%P4JP`6Q%P`$[xYV%Q%[xYV#Zq#yFK$vRpt$^rUu%Mzz-LwQ@#RuXk#wQ#ySh$MNycQ#yj?#yn;,Uu#`j$Z[`j#ynV$`",
    "jN4#yTR#y.z$T7mM$^dUu%Z[^dUu#w$$Z[w$#jI$Z[jI$ycmyr9$y<]f'$y/tyOf#yn7#yTr$V<^r$eT^r$V<y5n$y.8",
    "yn<#dy#ydi#yiI%MM[,MN%M$[,MN$a+(&^dy68u&MN&Q*S<NEdD#lt%O#]@($v2E%O#v2E(dNppNYyJ'W;E&Q1NPppE%",
    "y`vSUE&^Jz-1SUE#y43$O#y44#jw$V<jw#sp$O#y_H$y7@Oi$ySXE$yw.E#yd1$WpE#ymy$SUy81#yh&#j`#ja$y_2U8",
    "#y:L$y3&y8#$,pz&L#TpX&$ya@(%N]XNe:$y4dE$yD^E%y:&)pO$e1y-y$uky3'$y3vWt#y3m%W;@yw6$y]I($ukynU#",
    "yjc#y^J$yFqylq#yHC#y?Fu#4#`$y`Nyhq#_g$MWy57%][)xW#dx$^SYl#yU)$^rwP$r3k/&IN;c@Vf5Vf6%Vf$%Vf%y",
    "YMN;Vf$VflW,y/ou#4#s#uL%Z[T7mM$y=6pt$y_/dy#uO$r3uO#y6)#yhm$aqyfZ#yhd$y0Hyd?$y`/f'$u2v+u#4$+&",
    "y.gEOAyb]>`D>T7>S$>SU>y/W?y/VycpPM=Gyr_PM=>x=GM=GMp>eR?y_xeR?=eR?qr[&PM=PMp>y7r>Tq>yXP>yraGM",
    "=?u0TqPM=>]V>yhS?]hW9PM=@l'@]h@d]@]h?X%W9@]hz,QW9@[&@X%@l'@X%YM=?X%j.ATq@X%j.B[&@Tq@X%>yr=?y",
    "m`W9?yNbW9?WkW9@[&@Wk@Tq@WkB[&@Tq@Wk@x=@Wk@d]@WkYM=>d]GM=GMpGN>>y.mGM=>yRj?UYz,B>y/p>ycgGM=>",
    "y0F?y4FW9>ylTGM=?ybXyO<>y4YGM=GMp>y.v>^S>e=>ymb>na>xI>ya$>y5w>yoC?y60yU#@yfi@yJh>kH>_X?yj;_X",
    ">yOX>v4>ypn?UHm'>jA?^gjA>`c?ya%`c>y.w@vVyk&vVYM=>yjo>ya.>y=R>y=QGM=>yad>yal>y:7GM=GMpGN>GNR>",
    "iw@j`@yRvPyr,>yd3>o9>^H?a>z-&>cE?M/lwGsSu#4%T(=,N;]j+L0IN;]j+L0+N;]j+L0M)N;]j+L.e2%M;&MdP#AM",
    ";%P#AM;%JAM;&P4JAM;&X;JAM;(AM;Vm=%M;$SMe^%=[+M9.e2%M9%MNAM9%MdAM9%P#AM9%JAM9&P4JAM9&X;JAM9)A",
    "M9Vm=P4%M9HMdM9$M9e^%=[+O;.P4%O;.Md%O;)AO;Vm=P4%O;HMdO;$O;e^%=[+SB.P4%SB.Md%SB(ASBVm=%SB%_NP",
    "ONt%MNPONt%MdPONt%P#PONt&P4P#PONt.JPONt&X;JPONt$_NTA$MNTA$MdTA$P#TA$JTA%P4JTA%X;JTA&MNFQnNs&",
    "MdFQnNs&P#FQnNs&JFQnNs'P4JFQnNs'X;JFQnNs&MNM&QnNs&MdM&QnNs&P#M&QnNs&JM&QnNs'P4JM&QnNs'X;JM&Q",
    "nNs&MNM(QnNs&MdM(QnNs&P#M(QnNs&JM(QnNs'P4JM(QnNs'MN:OP=NS'Md:OP=NS&:OP=NS'Md:OPUWNS'MNBOP=NS",
    "'MdBOP=NS&BOP=NS'MdBOPUWNS(Q%MNBOPUWNS'MNFOP=NS'JFOP=NS'MdM&OP=NS'JM&OP=NS&M&OPUWNS'MdM(OP=N",
    "S'JM(OP=NS(P4JM(OP=NS'JM(OPUWNS'MNRkOP=NS'JRkOP=NS?UWNS$N]L%R7N]L$N]M9%R7N]M9u#4&^%N:XlM;-[=",
    "M;-V-M;-dLM;-`dM;-SKM9-UsM9-XlM9-[=M9-V-M9-dLM9-`dM9u#4&n%JON(u#4'&(M.*#%LN2(Me*#%LN2(H*#%LN",
    "2(MY*#%LN2(M.*#MdLN2(Me*#MdLN2(H*#MdLN2(MY*#MdLN2(M.*#N:LN2(Me*#N:LN2(H*#N:LN2(MY*#N:LN2u#4'",
    "6(M.*#%PXN2(Me*#%PXN2(H*#%PXN2(MY*#%PXN2'M.*#PXN2'Me*#PXN2'H*#PXN2'MY*#PXN2(JM.*#PXN20Me*#PX",
    "N20H*#PXN20MY*#PXN21M.*#N:PXN21Me*#N:PXN21H*#N:PXN21MY*#N:PXN2)M.LMo*#XgQ&)MeLMo*#XgQ&)HLMo*",
    "#XgQ&)MYLMo*#XgQ&)M.LMo*#MdQ&)MeLMo*#MdQ&)HLMo*#MdQ&)MYLMo*#MdQ&)M.LMo*#P#Q&)MeLMo*#P#Q&)HLM",
    "o*#P#Q&)MYLMo*#P#Q&)M.LMo*#JQ&)MeLMo*#JQ&)HLMo*#JQ&)MYLMo*#JQ&*M.LMo*#P4JQ&*MeLMo*#P4JQ&*HLM",
    "o*#P4JQ&*MYLMo*#P4JQ&&M.Sh`:*&MeSh`:*&HSh`:*&MYSh`:*%M.OR*%MeOR*%HOR*%MYOR*%M.Uw*%MeUw*%HUw*",
    "%MYUw*&M.JUw*&MeJUw*&HJUw*&MYJUw*%M.J*%MeJ*%HJ*%MYJ*u#4'w&M.PmPq*&MePmPq*&HPmPq*&MYPmPq*'NmM",
    "1PmPq*/NGPmPq*'O(NGPmPq*/M1PmPq*',+PmPq*'IM)PmPq*u#4(/(W^MoM.MNMc*8MeMNMc*8HMNMc*8MYMNMc*9Nm",
    "M1MNMc*ANGMNMc*9O(NGMNMc*AM1MNMc*7M.Mc*7MeMc*7HMc*7MYMc*8NmM1Mc*@NGMc*8O(NGMc*@M1Mc*8M.MdMc*",
    "8MeMdMc*8HMdMc*8MYMdMc*9NmM1MdMc*ANGMdMc*9O(NGMdMc*AM1MdMc*8M.JMc*8MeJMc*8HJMc*8MYJMc*9NmM1J",
    "Mc*ANGJMc*9O(NGJMc*AM1JMc*9M.P4JMc*9MeP4JMc*9HP4JMc*9MYP4JMc*:NmM1P4JMc*BNGP4JMc*:O(NGP4JMc*",
    "BM1P4JMc*u#4(`%M.LN2%MeLN2%HLN2%MYLN2(M.A*W`LN2(MeA*W`LN2(HA*W`LN2(MYA*W`LN2'M.*#URN['Me*#UR",
    "N['H*#URN['MY*#URN['J*Q&W_3H0UcH3M/PS0'M.OUWhA*'HOUdtA*'M.O$dtA*'HO$dtA*'M.,WhA*'H+WhA*'M.+W",
    "hA*'H,WhA*(M.RPYHSNA*(HRPYHSNA*(M.SiYHSNA*(HSiYHSNA*'A*Q&W_3H0Ucu#4)((*N8MeWUNmM19HWUa6O(M1u",
    "#4)y(N]Ntmy#BM>H0M>5my(,M/M;#BM>H:M>H0M>G95M;%y>#m`C6URC7C#98URC#9$y`;PY$AOk$`dOk$y`<Oe%yzYy",
    "%oM8%cCy%oM8%M8#w7$yWCM8$ym@M8&M8#Q=z,E$yd[M8$o;M8&(@OEo6%`oOnOe&PGRP@Oe%,Ujam%+Ujam#yF))Oe#",
    "MH)KPYPs'7c(yy'Oe(&M8#y:,W$$y84M8$yVSM8'u3NEOETcyNW$y>)M8$yP0M8$M8Z`$yi(M8'M8#3y@:PG'b-M8#NS",
    "Q3C3N:)3%U>(M8#Sha0OMW/(yg7M8#eZa0Q8+R%M8#R%Q3)Oea0Q8'M8#MiQ8yrn'ygsM8#y@3Q=$tGVa$y4pz,]%y^V",
    "I_S#yg*#ya7%Q6NYyoF$r2`v#yh.%R:y=my6:#yJp#yAJ$yThy_W#yw<$SUy`h#yF'$y=[c4$yvzYu%Yl#y>+$kpyDd$",
    "yo4XE#e>$]Uc^#ydA%U@W;ZH%WBW;ZH%S0W;ZH$y4byDg%yRsj?yp^$y:FeH&yN=_A)S^#yi-$aq]1#y:5#y0O#y:>#y",
    "2w#tC#y67$y3(k<$V-yfB&ygOd-@]K$yjbmm#m:%XE@yTM#y_F#yLe#y^b#y>2$yB/kz$ylEP7#y7R%``#e>%Ye#yjT#",
    "y9E#y4v#t-#ya5%a7@^9#yfM$y6(]K$yNdV-#yR^$PE`m#y3%*R%M8#R%Q3):Qw$yx[M8&R%M8#w))M8#d3OV)d3W$9y",
    "pZQ3)U%Q8$y^*M8$yB6M8#yXI$y=NM8&M8XIRPe`.#y`PQ3#uK$yN6kq#yDo$yFpk5$X@WE#y:/$yOEM8#yfo#yo;$yp",
    "]M8#m4#y>-#`W#ygV#y^,$n$M8#y5A#aC#yE##yON#yd;#un#yic$yD[M8$yz+M8#yFF#yf^$MZz-;#l&#yKL#yOO#y_",
    "E#yFr#y_&#ycG#yOV#yU%#yTB#jZ#yk6#yRX#y=k#yhx#y^%#y]j#yhh#yAj#y^/#jl#y4G#dm$yEBX0$ya<y6&&mHks",
    "SKW#6P@W#5y3.6AW##[p#R##]L#_T#yk(#yk*$dfyrA&X2#yFDy.P$yU(fI$yRffI$ySCYQ,R#$y7-fF#y:B$TqygM$j",
    "tP7#yCK#y][#yA5#yvR#y5@$yS'm#$V.a4$U2ylb#ynT$yj8R:$yLsR:$y<JR:%M8#yTq#il#`u$sGil$y3jR:%R:#yF",
    "B.NYyjDydc,y8,.NY^4^e#yRE#yA3#yr*#yS^#y?H#yCh#yzb#y4k$XlOk$y4;[t#yfh#yDh#kq#yi,%SKyDUU<#yA]%",
    "yJIyaoVI$ylxyo/$y_iPg%y=i2yFL#y9U#y-s$T7y@6#yn(#`c#yRG#pz$yOj[q%yiV@ei%S^@yxQ$dft/$ylejj#y4x",
    "#y3B%yd_@^Y%M,@v4#yiU#ych$yVXy/(%Q$OcQe5R<5Su5S_5Ov5Sq)AOcOvNHQ4U)Nb)=OcOvNHQ4U)Nb)Q$OcOvNHQ",
    "4U)Nb(AOcQeNHOBNb8R<NHOBNb8SuNHOBNb8S_NHOBNb8OvNHOBNb8SqNHOBNb(=OcQeNHOBNb8R<NHOBNb8SuNHOBNb",
    "8S_NHOBNb8OvNHOBNb8SqNHOBNb(Q$OcQeNHOBNb8R<NHOBNb8SuNHOBNb8S_NHOBNb8OvNHOBNb8SqNHOBNb+AOcOvN",
    "H3M3P2U)Nb+=OcOvNH3M3P2U)Nb+Q$OcOvNH3M3P2U)Nb&AOcMxQe>R<>Su>S_>Ov>Sq&=OcMxQe>R<>Su>S_>Ov>Sq&",
    "Q$OcMxQe>R<>Su>S_>Ov>Sq+AOcOvNH0M3NrU)Nb+=OcOvNH0M3NrU)Nb+Q$OcOvNH0M3NrU)Nb*AOcQeNH0M3OXNb:R",
    "<NH0M3OXNb:SuNH0M3OXNb:S_NH0M3OXNb:OvNH0M3OXNb:SqNH0M3OXNb*=OcQeNH0M3OXNb:R<NH0M3OXNb:SuNH0M",
    "3OXNb:S_NH0M3OXNb:OvNH0M3OXNb:SqNH0M3OXNb*Q$OcQeNH0M3OXNb:R<NH0M3OXNb:SuNH0M3OXNb:S_NH0M3OXN",
    "b:OvNH0M3OXNb:SqNH0M3OXNb*AOcOvNH:M3T6Nb*=OcOvNH:M3T6Nb*Q$OcOvNH:M3T6Nb%AOcX8%=OcX8%Q$OcX8(A",
    "OcX8NHOBNb(=OcX8NHOBNb(Q$OcX8NHOBNb&AOcOvy%t>y%v>y%[&=OcOvy%t>y%v>y%[u#4.%%ywcSKn?5q`5a^5UH5",
    "Y[5kK5v7-=n?5q`5a^5UH5Y[5kK5v7u#4.5$y30ygt%3z-.yk:#y4t#e&$w:uIu#4.=%aV@k+$y.*y34#yjG$Muz-8#y",
    ":9u#4.E$OI`@#yLb#y^x#k4$yRFyvX#y`:$yWElqu#4.U$ydHy`K#k]#ycb#`P$y=_pO#y36$c@]`#y-z$MmYl#y9I$k",
    "Ldj#yfr#yN>#C#r+#xQ#y`Y$yg@yW>#yLu#y5&$W6yn@#yn*#ns#y`H#u0$r+S^$oGYZ$MVjb#yF$u#4.v#ap#yw4#jo"
  ]

/-- Part 9 of the names. -/
def names9 : List String :=
  [
    "#y9C$y`wy`L#fM#]G#^4#y9u$VprX%rX#y?7u#4/.$y/+Ok#yOw$suo;$tGQ6,R:%R:#l+u#4/>#y4R$Wtsw#sI#mm#y",
    "lI#yAy#yld$y`zpm#y3i#oZu#4/N$ySQM8$yfFM8*M8#MiQ3)OeMAQ86y_JU>6NyQ8%O2N/M8$k%c##`fu#4/_)Oe#MH",
    "Sh)MtPs$HOe$M.Oe%Z`M)Oe-IOe'MHN8PUOEyrR$OkUEu#4/o%NFygCMy5M=5Wd5Mp5We5[E5_v5N>5Wf5[F5_w5g.5_",
    "z5`(5y#W5NR5Y?5`-5_x5g35`)5y#Z5`15`$5`,5y#^5g/5y#f5y$e5y#X5Nv5Y@5`/5_y5`05`#5`*5y#]5g:5`%5y#",
    "`5g05y#h5y$g5y#Y5gB5`&5`.5y#a5g45y#i5y$h5y#[5g85y#p5y$o5y#_5y%+5y#g5y$fv#-MR,NFNyMRK,>MRNVmM",
    "R+LMnK,>MRNVmMR+S,>MRNV4+NFNyMnK,>MnNVmMn+LMRK,>MnNVmMn+S,>MnNVUK,>MnK+TNV>MRK+T,>MRK+TNV>Mn",
    "K+T,>MnK+SNV>Mn+4,NFNyMnNV>MnK+T,>MnK+TNV>MRK+T,>MRK+SNV>MR+UK,>MRK+v#-Mn+NFNyMRK,>MRNVmMR+L",
    "MnK,>MRNVmMR+S,>MRNV4,NFNyMnK,>MnNVmMn+LMRK,>MnNVmMn+S,>MnNVUK,>MnK+TNV>MRK+T,>MRK+TNV>MnK+T",
    ",>MnK+SNV>Mn+4+NFNyMnNV>MnK+T,>MnK+TNV>MRK+T,>MRK+SNV>MR+UK,>MRK+3)+)MRQ*:ReNF+,)MR)+Q*:ReNF",
    "+Mn),)MRQ*:ReNF+,)Mn)+Q*:ReNF/Q*3O`NF'MnQ*3O`NF'+Q*3O`NF'MRQ*3O`NF'M$3P8NFM=GMpGN>GNRGNvGOa'",
    "MM3P8NFM=GMpGN>GNRGNvGOa(,)MR3P8NF8Mn3P8NF(+)Mn3P8NF8MR3P8NF(Mn)MR3P8NF'MM3P8NFy#j&Mn3O`NF.:",
    "RUNF.FRUNF.:ReNF.M0RUNF&+3O`NF.:RUNF.FRUNF.:ReNF.M0RUNF&,M/MdRi&+M/MdRi&MnM/MdRi&MRM/MdRi%Tg",
    "MdRi+MnM/NF)MRM/TgMdRi;TgMdRi)MRM/NFu#41T+,M/TgMdRi)+M/NF%[xYVS%&Tg[xYVS%%JMMS%(Mn,>MR+S%0+>",
    "MR,S%0)MRQ*M/NF(,)+Q*M/NF'Mn,Q*MdRi/+Q*MdRi'MR+Q*MdRi/,Q*MdRi+P7lyMNNyMnNV>K,l+KK,>MRNVS+>MR",
    "NVNMnNV>K,>MRNVo+>MRNVNK,>MRNV>K+gMnNV>K+v'.MnNV>K,)K+>MRNVr+)K,>MRNVr+>MRNV>K,r,>MRNV>K+v'.",
    "K,>MnNV>K+>MRNVv(-+>MnNV>K,>MRNVGO;AMM#M$D%N2S4Ze%TgSc8&,M/deQ6&+M/deQ6(TgMY*#S2M.+M.*)Mn)MR",
    "3P8NF+H*)Mn)MR3P8NF)MY*)+3P8NF)Me*)+3P8NF%,M/Vw%+M/Vw%yrhPONt&+MiOR9%R7NyNt9K+>MRNV5O;(AJTA#",
    "TpX&(,S0A+N8MH(KS0A+N8MH(+S0A+N8MH&R7ORP(8$_AYs7#y/hPG6yNe,>+6#lz&AIN;kdu#42Y%yg(MQMg53505:5",
    "B5F5M&5M05M(5M4u$E6&$yNL['u$E6E$['Q(-PB8-Ox8-ND(-Vo(-Zc(,Uo,U0-,O--+O-,Ns-M-(,NK-R2[O-NeN4,P",
    "`-MQMg53505:5B5F5M&5M05M(5M4,Oh,Sw.NMM?(-ON(.NLM?(-P(8-YbPU/Nf'$/GN#GMUGMfG4GN<GM[GM_G7GN(GM",
    "]GM'GMIGM7G1GMsGNQGM#GM%GMZG.GM^GN%GMuGMTGMq.,M9M5-Q%P`.+M9M5-N$O7-MVN/-N7O7/Nf%$/GN#GMUGMfG",
    "4GN<GM[GM_G7GN(GM]GM'GMIGM7G1GMsGNQGM#GM%GMZG.GM^GN%GMuGMTGMq.,P@M5-M$N/.+P@M5,MS$[r['u$E8x%",
    "<;[Du$E8x#ysn%<;YAu$E8y#ysy%<;`'u$E8z#yt,%<;fzu$E9##yt8%<;g#u$E9$#ytC%<;y$Xu$E9%#ytN%<;[Eu$E",
    "9&#ytY%<;[Fu$E9'#yte%<;`-u$E9(#ytp%<;`/u$E9)#ytx%<;g-u$E9*#yty%<;y%&u$E9+#ytz%<;y%'u$E9,#yu#",
    "%<;y%(u$E9-#yu%%<;z&8u$E9.#yu&%<;y%)u$E9/#yu'%<;z&Mu$E90#yu(%<;g.u$E91#yu)%<;g3u$E92#yu*%<;`",
    "0u$E93#yu+%<;g5u$E94#yu,%<;g6u$E95#yu-%<;g7u$E96#yu.%<;y%4u$E97#yu0%<;z'Hu$E98#yu1%<;y%5u$E9",
    "9#yu2%<;y%6u$E9:#yu3%<;z'hu$E9;#yu4%<;`1u$E9<#yu5%<;g:u$E9=#yu6%<;g;u$E9>#yu7%<;g<u$E9?#yu8%",
    "<;y%@u$E9@#yu9%<;g=u$E9A#yu;%<;g>u$E9B#yu<%<;g?u$E9C#yu=%<;g@u$E9D#yu>%<;gAu$E9E#yu?%<;z)*u$",
    "E9F#yu@%<;gBu$E9G#yuA%<;y%Ju$E9H#yuB%<;y%Lu$E9I#yuC%<;z)Ru$E9J#yuD%<;z)du$E9K#yuF%<;z)nu$E9L",
    "#yuG%<;z)xu$E9M#yuH%<;z*-u$E9N#yuI%<;z*9u$E9O#yuJ%<;z*Cu$E9P#yuK%<;z*Qu$E9Q#yuL%<;y%Su$E9R#y",
    "uM%<;y%Uu$E9S#yuN%<;z*su$E9T#yuO%<;z+(u$E9U#yuQ%<;z+4u$E9V#yuR%<;z+@u$E9W#yuS%<;z+Ju$E9X#yuT",
    "%<;z+Uu$E9Y#yuU%<;z+`u$E9Z#yuV%<;z+mu$E9[#yuW%<;z+xu$E9]#yuX%<;y%Xu$E9^#yuY%<;z+yu$E9_#yuZ%<",
    ";z,%u$E9`#yu]%<;z,&u$E9a#yu^%<;z,'u$E9b#yu_%<;z,(u$E9c#yu`%<;z,)u$E9d#yua%<;z,*u$E9e#yub%<;z",
    ",+u$E9f#yuc%<;z,,u$E9g#yud%<;z,-u$E9h#yue%<;z,.u$E9i#yuf%<;z,2u$E9j#yuh%<;z,4u$E9k#yui%<;z,6",
    "u$E9l#yuj%<;z,7u$E9m#yuk%<;z,8u$E9n#yul%<;z,9u$E9o#yum%<;z,:u$E9p#yun%<;z,;u$E9q#yuo%<;z,<u$",
    "E9r#yup%<;z,=u$E9s#yuq%<;y#Au$E9t#yry%<;y#Bu$E9u#yrz%<;fku$E9v#ys#%<;y#Cu$E9w#ys$%<;y#Du$E9x",
    "#ys%%<;y#Eu$E9y#ys&%<;y#Fu$E9z#ys'%<;y#Gu$E:##ys(%<;y#Hu$E:$#ys)%<;y#Iu$E:%#ys*%<;y#Ju$E:&#y",
    "s,%<;y#Ku$E:'#ys-%<;y#Lu$E:(#ys.%<;y#Mu$E:)#ys/%<;y#Nu$E:*#ys0%<;y#Ou$E:+#ys1%<;y#Pu$E:,#ys2",
    "%<;y#Qu$E:-#ys3%<;y#Ru$E:.#ys4%<;y#Su$E:/#ys5%<;y#Tu$E:0#ys7%<;y#Uu$E:1#ys8%<;y#Vu$E:2#ys9%<",
    ";_vu$E:3#ys:%<;_wu$E:4#ys;%<;_xu$E:5#ys<%<;_yu$E:6#ys=%<;flu$E:7#ys>%<;fmu$E:8#ys?%<;y#bu$E:",
    "9#ys@%<;fnu$E::#ysB%<;y#cu$E:;#ysC%<;y#du$E:<#ysD%<;y#eu$E:=#ysE%<;_zu$E:>#ysF%<;fou$E:?#ysG",
    "%<;`#u$E:@#ysH%<;fpu$E:A#ysI%<;fqu$E:B#ysJ%<;y#ku$E:C#ysK%<;y#lu$E:D#ysM%<;y#mu$E:E#ysN%<;fr",
    "u$E:F#ysO%<;y#nu$E:G#ysP%<;y#ou$E:H#ysQ%<;`$u$E:I#ysR%<;`%u$E:J#ysS%<;fsu$E:K#ysT%<;ftu$E:L#",
    "ysU%<;y#qu$E:M#ysV%<;y#ru$E:N#ysX%<;y#su$E:O#ysY%<;y#tu$E:P#ysZ%<;y#uu$E:Q#ys[%<;y#vu$E:R#ys",
    "]%<;y#wu$E:S#ys^%<;`&u$E:T#ys_%<;fuu$E:U#ys`%<;fvu$E:V#ysa%<;y#xu$E:W#ysb%<;y#yu$E:X#ysd%<;y",
    "#zu$E:Y#yse%<;y$#u$E:Z#ysf%<;y$$u$E:[#ysg%<;y$%u$E:]#ysh%<;y$&u$E:^#ysi%<;y$'u$E:_#ysj%<;fwu",
    "$E:`#ysk%<;fxu$E:a#ysl%<;y$(u$E:b#ysm%<;y$)u$E:c#yso%<;y$*u$E:d#ysp%<;y$+u$E:e#ysq%<;y$,u$E:",
    "f#ysr%<;y$-u$E:g#yss%<;y$.u$E:h#yst%<;y$/u$E:i#ysu%<;y$0u$E:j#ysv%<;fyu$E:k#ysw%<;y$1u$E:l#y",
    "sx%<;y$2u$E:m#ysz%<;y$3u$E:n#yt#%<;y$4u$E:o#yt$%<;y$5u$E:p#yt%%<;y$6u$E:q#yt&%<;y$7u$E:r#yt'",
    "%<;y$8u$E:s#yt(%<;y$9u$E:t#yt)%<;y$:u$E:u#yt*%<;y$;u$E:v#yt+%<;y$<u$E:w#yt-%<;y$=u$E:x#yt.%<",
    ";y$>u$E:y#yt/%<;y$?u$E:z#yt0%<;y$@u$E;##yt1%<;y$Au$E;$#yt2%<;y$Bu$E;%#yt3%<;y$Cu$E;&#yt4%<;y",
    "$Du$E;'#yt5%<;y$Eu$E;(#yt6%<;y$Fu$E;)#yt9%<;y$Gu$E;*#yt:%<;y$Hu$E;+#yt;%<;y$Iu$E;,#yt<%<;y$J",
    "u$E;-#yt=%<;y$Ku$E;.#yt>%<;y$Lu$E;/#yt?%<;y$Mu$E;0#yt@%<;y$Nu$E;1#ytA%<;y$Ou$E;2#ytB%<;g$u$E",
    ";3#ytD%<;y$Pu$E;4#ytE%<;y$Qu$E;5#ytF%<;y$Ru$E;6#ytG%<;y$Su$E;7#ytH%<;y$Tu$E;8#ytI%<;y$Uu$E;9",
    "#ytJ%<;y$Vu$E;:#ytK%<;y$Wu$E;;#ytL%<;g%u$E;<#ytM%<;g&u$E;=#ytO%<;y$Yu$E;>#ytP%<;y$Zu$E;?#ytQ",
    "%<;y$[u$E;@#ytR%<;y$]u$E;A#ytS%<;g'u$E;B#ytT%<;y$^u$E;C#ytU%<;y$_u$E;D#ytV%<;g(u$E;E#ytW%<;y",
    "$`u$E;F#ytX%<;y$au$E;G#ytZ%<;y$bu$E;H#yt[%<;y$cu$E;I#yt]%<;y$du$E;J#yt^%<;`(u$E;K#yt_%<;`)u$",
    "E;L#yt`%<;`*u$E;M#yta%<;g)u$E;N#ytb%<;`+u$E;O#ytc%<;y$iu$E;P#ytd%<;y$ju$E;Q#ytf%<;y$ku$E;R#y",
    "tg%<;y$lu$E;S#yth%<;y$mu$E;T#yti%<;y$nu$E;U#ytj%<;`,u$E;V#ytk%<;g*u$E;W#ytl%<;g+u$E;X#ytm%<;",
    "g,u$E;Y#ytn%<;y$pu$E;Z#yto%<;y$qu$E;[#ytq%<;y$ru$E;]#ytr%<;y$su$E;^#yts%<;y$tu$E;_#ytt%<;y$u",
    "u$E;`#ytu%<;y$vu$E;a#ytv%<;`.u$E;b#ytw"
  ]

end CodeIndex.CharName

import CodeIndex.Text.CharMap

namespace CodeIndex

/-- The characters beyond ASCII that have a different lower case, one character each. -/
def lowerTable : CharMap := .ofTables
  ["5c 1 1 1 1 1 1 1 1 1 1 1 1 1 1 1 1 1 1 1 1 1 1 2 1 1 1 1 1 1 y 2 2 2 2 2 2 2 2 2 2 2 2 2 ",
    "2 2 2 2 2 2 2 2 2 2 2 2 2 2 3 2 2 2 2 2 2 2 3 2 2 2 2 2 2 2 2 2 2 2 2 2 2 2 2 2 2 2 2 2 2 ",
    "2 1 2 2 4 1 2 2 1 2 1 1 3 1 1 1 2 1 2 1 1 4 1 2 1 2 2 2 1 2 3 2 1 2 1 1 2 2 1 4 8 1 2 1 2 ",
    "1 2 2 2 2 2 2 2 2 3 2 2 2 2 2 2 2 2 3 1 2 2 1 1 2 2 2 2 2 2 2 2 2 2 2 2 2 2 2 2 2 2 2 2 2 ",
    "2 2 2 2 2 2 2 2 8 1 2 1 3 2 1 1 1 2 2 2 2 82 2 4 9 7 2 1 1 2 2 1 2 1 1 1 1 1 1 1 1 1 1 1 ",
    "1 1 1 1 1 2 1 1 1 1 1 1 1 1 10 9 2 2 2 2 2 2 2 2 2 2 2 6 3 2 1 3 1 1 1 1 1 1 1 1 1 1 1 1 ",
    "1 1 1 1 1 1 1 1 1 1 1 1 1 1 1 1 1 1 1 1 1 1 1 1 1 1 1 1 1 1 1 1 1 1 1 1 1 1 1d 2 2 2 2 2 ",
    "2 2 2 2 2 2 2 2 2 2 2 a 2 2 2 2 2 2 2 2 2 2 2 2 2 2 2 2 2 2 2 2 2 2 2 2 2 2 2 1 2 2 2 2 2 ",
    "2 3 2 2 2 2 2 2 2 2 2 2 2 2 2 2 2 2 2 2 2 2 2 2 2 2 2 2 2 2 2 2 2 2 2 2 2 2 2 2 2 2 2 2 2 ",
    "2 2 2 2 3 1 1 1 1 1 1 1 1 1 1 1 1 1 1 1 1 1 1 1 1 1 1 1 1 1 1 1 1 1 1 1 1 1 1 1 1 1 28a 1 ",
    "1 1 1 1 1 1 1 1 1 1 1 1 1 1 1 1 1 1 1 1 1 1 1 1 1 1 1 1 1 1 1 1 1 1 1 1 2 6 k3 1 1 1 1 1 ",
    "1 1 1 1 1 1 1 1 1 1 1 1 1 1 1 1 1 1 1 1 1 1 1 1 1 1 1 1 1 1 1 1 1 1 1 1 1 1 1 1 1 1 1 1 1 ",
    "1 1 1 1 1 1 1 1 1 1 1 1 1 1 1 1 1 1 1 1 1 1 1 1 1 1 1 1 1 1 1 1 1 1 1 1p7 1 1 1 1 1 1 1 1 ",
    "1 1 1 1 1 1 1 1 1 1 1 1 1 1 1 1 1 1 1 1 1 1 1 1 1 1 1 1 1 1 1 1 1 1 3 1 1 8x 2 2 2 2 2 2 ",
    "2 2 2 2 2 2 2 2 2 2 2 2 2 2 2 2 2 2 2 2 2 2 2 2 2 2 2 2 2 2 2 2 2 2 2 2 2 2 2 2 2 2 2 2 2 ",
    "2 2 2 2 2 2 2 2 2 2 2 2 2 2 2 2 2 2 2 2 2 2 2 a 2 2 2 2 2 2 2 2 2 2 2 2 2 2 2 2 2 2 2 2 2 ",
    "2 2 2 2 2 2 2 2 2 2 2 2 2 2 2 2 2 2 2 2 2 2 2 2 2 2 2 a 1 1 1 1 1 1 1 9 1 1 1 1 1 b 1 1 1 ",
    "1 1 1 1 9 1 1 1 1 1 1 1 9 1 1 1 1 1 c 2 2 2 9 1 1 1 1 1 1 1 p 1 1 1 1 1 1 1 9 1 1 1 1 1 1 ",
    "1 9 1 1 1 1 1 1 1 9 1 1 1 1 c 1 1 1 1 c 1 1 1 d 1 1 1 1 c 1 1 1 1 8a 4 1 7 1a 1 1 1 1 1 1 ",
    "1 1 1 1 1 1 1 1 1 k mr 1 1 1 1 1 1 1 1 1 1 1 1 1 1 1 1 1 1 1 1 1 1 1 1 1 1f5 1 1 1 1 1 1 ",
    "1 1 1 1 1 1 1 1 1 1 1 1 1 1 1 1 1 1 1 1 1 1 1 1 1 1 1 1 1 1 1 1 1 1 1 1 1 1 1 1 1 1d 2 1 ",
    "1 3 2 2 2 1 1 1 2 3 9 1 1 2 2 2 2 2 2 2 2 2 2 2 2 2 2 2 2 2 2 2 2 2 2 2 2 2 2 2 2 2 2 2 2 ",
    "2 2 2 2 2 2 2 2 2 2 2 2 2 2 2 2 2 9 2 5 nym 2 2 2 2 2 2 2 2 2 2 2 2 2 2 2 2 2 2 2 2 2 2 k ",
    "2 2 2 2 2 2 2 2 2 2 2 2 2 3s 2 2 2 2 2 2 4 2 2 2 2 2 2 2 2 2 2 2 2 2 2 2 2 2 2 2 2 2 2 2 ",
    "2 2 2 2 2 2 2 b 2 2 1 2 2 2 2 5 2 3 2 4 2 2 2 2 2 2 2 2 2 2 1 1 1 1 2 1 1 1 1 2 2 2 2 2 2 ",
    "2 2 1 1 1 2 7 6 2 t h7w 1 1 1 1 1 1 1 1 1 1 1 1 1 1 1 1 1 1 1 1 1 1 1 1 1 xy 1 1 1 1 1 1 ",
    "1 1 1 1 1 1 1 1 1 1 1 1 1 1 1 1 1 1 1 1 1 1 1 1 1 1 1 1 1 1 1 1 1 3t 1 1 1 1 1 1 1 1 1 1 ",
    "1 1 1 1 1 1 1 1 1 1 1 1 1 1 1 1 1 1 1 1 1 1 1 1 1 4d 1 1 1 1 1 1 1 1 1 1 2 1 1 1 1 1 1 1 ",
    "1 1 1 1 1 1 1 2 1 1 1 1 1 1 2 1 1d7 1 1 1 1 1 1 1 1 1 1 1 1 1 1 1 1 1 1 1 1 1 1 1 1 1 1 1 ",
    "1 1 1 1 1 1 1 1 1 1 1 1 1 1 1 1 1 1 1 1 1 1 1 2cu 1 1 1 1 1 1 1 1 1 1 1 1 1 1 1 1 1 1 1 1 ",
    "1 1 1 1 1 1 1 1 1 1 1 gw1 1 1 1 1 1 1 1 1 1 1 1 1 1 1 1 1 1 1 1 1 1 1 1 1 1 1 1 1 1 1 1 ",
    "o81 1 1 1 1 1 1 1 1 1 1 1 1 1 1 1 1 1 1 1 1 1 1 1 1 1 1 1 1 1 1 1 1 1 "]
  ["68 69 6a 6b 6c 6d 6e 6f 6g 6h 6i 6j 6k 6l 6m 6n 6o 6p 6q 6r 6s 6t 6u 6w 6x 6y 6z 70 71 72 ",
    "75 77 79 7b 7d 7f 7h 7j 7l 7n 7p 7r 7t 7v 7x 7z 81 83 85 87 89 8b 8d 8f 2x 8j 8l 8n 8q 8s ",
    "8u 8w 8y 90 92 94 97 99 9b 9d 9f 9h 9j 9l 9n 9p 9r 9t 9v 9x 9z a1 a3 a5 a7 a9 ab ad af 73 ",
    "ai ak am gj ar at gk aw gm gn b0 d9 gp gr b6 gw gz h5 h4 bd hb he hh bl bn bp hs bs hv bx ",
    "i0 c0 i2 i3 c4 c6 ia c9 cd cm cm cp cp cs cs cu cw cy d0 d2 d4 d6 d8 db dd df dh dj dl dn ",
    "dp dr dv dv dx b9 cf e1 e3 e5 e7 e9 eb ed ef eh ej el en ep er et ev ex ez f1 f3 bi f7 f9 ",
    "fb fd ff fh fj fl fn 8rp fw be 8rq g2 ao i1 i4 g7 g9 gb gd gf oh oj on s3 q4 q5 q6 q7 r0 ",
    "r1 r2 q9 qa qb qc qd qe qf qg qh qi qj qk ql qm qn qo qp qr qs qt qu qv qw qx qy qz rb rd ",
    "rf rh rj rl rn rp rr rt rv rx rz qg s8 s2 sb or os ot uo up uq ur us ut uu uv uw ux uy uz ",
    "v0 v1 v2 v3 ts tt tu tv tw tx ty tz u0 u1 u2 u3 u4 u5 u6 u7 u8 u9 ua ub uc ud ue uf ug uh ",
    "ui uj uk ul um un v5 v7 v9 vb vd vf vh vj vl vn vp vr vt vv vx vz w1 wb wd wf wh wj wl wn ",
    "wp wr wt wv wx wz x1 x3 x5 x7 x9 xb xd xf xh xj xl xn xp xr y7 xu xw xy y0 y2 y4 y6 y9 yb ",
    "yd yf yh yj yl yn yp yr yt yv yx yz z1 z3 z5 z7 z9 zb zd zf zh zj zl zn zp zr zt zv zx zz ",
    "101 103 105 107 109 10b 10d 10f 10h 10j 10l 10n 10p 10r 10t 10v 129 12a 12b 12c 12d 12e ",
    "12f 12g 12h 12i 12j 12k 12l 12m 12n 12o 12p 12q 12r 12s 12t 12u 12v 12w 12x 12y 12z 130 ",
    "131 132 133 134 135 136 137 138 139 13a 8w0 8w1 8w2 8w3 8w4 8w5 8w6 8w7 8w8 8w9 8wa 8wb ",
    "8wc 8wd 8we 8wf 8wg 8wh 8wi 8wj 8wk 8wl 8wm 8wn 8wo 8wp 8wq 8wr 8ws 8wt 8wu 8wv 8ww 8wx ",
    "8wy 8wz 8x0 8x1 8x3 8x9 xv4 xv5 xv6 xv7 xv8 xv9 xva xvb xvc xvd xve xvf xvg xvh xvi xvj ",
    "xvk xvl xvm xvn xvo xvp xvq xvr xvs xvt xvu xvv xvw xvx xvy xvz xw0 xw1 xw2 xw3 xw4 xw5 ",
    "xw6 xw7 xw8 xw9 xwa xwb xwc xwd xwe xwf xwg xwh xwi xwj xwk xwl xwm xwn xwo xwp xwq xwr ",
    "xws xwt xwu xwv xww xwx xwy xwz xx0 xx1 xx2 xx3 xx4 xx5 xx6 xx7 xx8 xx9 xxa xxb 3y0 3y1 ",
    "3y2 3y3 3y4 3y5 3bk 3bl 3bm 3bn 3bo 3bp 3bq 3br 3bs 3bt 3bu 3bv 3bw 3bx 3by 3bz 3c0 3c1 ",
    "3c2 3c3 3c4 3c5 3c6 3c7 3c8 3c9 3ca 3cb 3cc 3cd 3ce 3cf 3cg 3ch 3ci 3cj 3ck 3cl 3cm 3cn ",
    "3co 3cp 3cq 3ct 3cu 3cv 5xd 5xf 5xh 5xj 5xl 5xn 5xp 5xr 5xt 5xv 5xx 5xz 5y1 5y3 5y5 5y7 ",
    "5y9 5yb 5yd 5yf 5yh 5yj 5yl 5yn 5yp 5yr 5yt 5yv 5yx 5yz 5z1 5z3 5z5 5z7 5z9 5zb 5zd 5zf ",
    "5zh 5zj 5zl 5zn 5zp 5zr 5zt 5zv 5zx 5zz 601 603 605 607 609 60b 60d 60f 60h 60j 60l 60n ",
    "60p 60r 60t 60v 60x 60z 611 613 615 617 619 61b 61d 61f 61h 67 61t 61v 61x 61z 621 623 ",
    "625 627 629 62b 62d 62f 62h 62j 62l 62n 62p 62r 62t 62v 62x 62z 631 633 635 637 639 63b ",
    "63d 63f 63h 63j 63l 63n 63p 63r 63t 63v 63x 63z 641 643 645 647 649 64b 64d 64f 64g 64h ",
    "64i 64j 64k 64l 64m 64n 64w 64x 64y 64z 650 651 65c 65d 65e 65f 65g 65h 65i 65j 65s 65t ",
    "65u 65v 65w 65x 65y 65z 668 669 66a 66b 66c 66d 66p 66r 66t 66v 674 675 676 677 678 679 ",
    "67a 67b 680 681 682 683 684 685 686 687 68g 68h 68i 68j 68k 68l 68m 68n 68w 68x 68y 68z ",
    "690 691 692 693 69c 69d 67k 67l 69f 67m 67n 67o 67p 69v 6a8 6a9 67q 67r 6ao 6ap 67u 67v ",
    "6at 67s 67t 67w 67x 6b7 qx 2z 6d 6ku 6ls 6lt 6lu 6lv 6lw 6lx 6ly 6lz 6m0 6m1 6m2 6m3 6m4 ",
    "6m5 6m6 6m7 6mc 79s 79t 79u 79v 79w 79x 79y 79z 7a0 7a1 7a2 7a3 7a4 7a5 7a6 7a7 7a8 7a9 ",
    "7aa 7ab 7ac 7ad 7ae 7af 7ag 7ah 8q8 8q9 8qa 8qb 8qc 8qd 8qe 8qf 8qg 8qh 8qi 8qj 8qk 8ql ",
    "8qm 8qn 8qo 8qp 8qq 8qr 8qs 8qt 8qu 8qv 8qw 8qx 8qy 8qz 8r0 8r1 8r2 8r3 8r4 8r5 8r6 8r7 ",
    "8r8 8r9 8ra 8rb 8rc 8rd 8re 8rf 8rg 8rh 8ri 8rj 8rl h7 5tp hp 8rs 8ru 8rw gh hd gg gi 8s3 ",
    "8s6 fz g0 8sh 8sj 8sl 8sn 8sp 8sr 8st 8sv 8sx 8sz 8t1 8t3 8t5 8t7 8t9 8tb 8td 8tf 8th 8tj ",
    "8tl 8tn 8tp 8tr 8tt 8tv 8tx 8tz 8u1 8u3 8u5 8u7 8u9 8ub 8ud 8uf 8uh 8uj 8ul 8un 8up 8ur ",
    "8ut 8uv 8ux 8uz 8v1 8v3 8v5 8v7 8vg 8vi 8vn wu9 wub wud wuf wuh wuj wul wun wup wur wut ",
    "wuv wux wuz wv1 wv3 wv5 wv7 wv9 wvb wvd wvf wvh ww1 ww3 ww5 ww7 ww9 wwb wwd wwf wwh wwj ",
    "wwl wwn wwp wwr x0j x0l x0n x0p x0r x0t x0v x0z x11 x13 x15 x17 x19 x1b x1d x1f x1h x1j ",
    "x1l x1n x1p x1r x1t x1v x1x x1z x21 x23 x25 x27 x29 x2b x2d x2f x2h x2j x2l x2n x2y x30 ",
    "5tl x33 x35 x37 x39 x3b x3g h1 x3l x3n x3r x3t x3v x3x x3z x41 x43 x45 x47 x49 h2 gs gx ",
    "h8 h6 im hz il xub x4l x4n x4p x4r x4t x4v x4x x4z x3o hu 5u6 x54 x56 x5d x5j x5l x6e ",
    "1ef5 1ef6 1ef7 1ef8 1ef9 1efa 1efb 1efc 1efd 1efe 1eff 1efg 1efh 1efi 1efj 1efk 1efl 1efm ",
    "1efn 1efo 1efp 1efq 1efr 1efs 1eft 1efu 1fe0 1fe1 1fe2 1fe3 1fe4 1fe5 1fe6 1fe7 1fe8 1fe9 ",
    "1fea 1feb 1fec 1fed 1fee 1fef 1feg 1feh 1fei 1fej 1fek 1fel 1fem 1fen 1feo 1fep 1feq 1fer ",
    "1fes 1fet 1feu 1fev 1few 1fex 1fey 1fez 1ff0 1ff1 1ff2 1ff3 1fiw 1fix 1fiy 1fiz 1fj0 1fj1 ",
    "1fj2 1fj3 1fj4 1fj5 1fj6 1fj7 1fj8 1fj9 1fja 1fjb 1fjc 1fjd 1fje 1fjf 1fjg 1fjh 1fji 1fjj ",
    "1fjk 1fjl 1fjm 1fjn 1fjo 1fjp 1fjq 1fjr 1fjs 1fjt 1fju 1fjv 1fo7 1fo8 1fo9 1foa 1fob 1foc ",
    "1fod 1foe 1fof 1fog 1foh 1foj 1fok 1fol 1fom 1fon 1foo 1fop 1foq 1for 1fos 1fot 1fou 1fov ",
    "1fow 1fox 1foz 1fp0 1fp1 1fp2 1fp3 1fp4 1fp5 1fp7 1fp8 1h34 1h35 1h36 1h37 1h38 1h39 1h3a ",
    "1h3b 1h3c 1h3d 1h3e 1h3f 1h3g 1h3h 1h3i 1h3j 1h3k 1h3l 1h3m 1h3n 1h3o 1h3p 1h3q 1h3r 1h3s ",
    "1h3t 1h3u 1h3v 1h3w 1h3x 1h3y 1h3z 1h40 1h41 1h42 1h43 1h44 1h45 1h46 1h47 1h48 1h49 1h4a ",
    "1h4b 1h4c 1h4d 1h4e 1h4f 1h4g 1h4h 1h4i 1jgg 1jgh 1jgi 1jgj 1jgk 1jgl 1jgm 1jgn 1jgo 1jgp ",
    "1jgq 1jgr 1jgs 1jgt 1jgu 1jgv 1jgw 1jgx 1jgy 1jgz 1jh0 1jh1 1jh2 1jh3 1jh4 1jh5 1jh6 1jh7 ",
    "1jh8 1jh9 1jha 1jhb 20dc 20dd 20de 20df 20dg 20dh 20di 20dj 20dk 20dl 20dm 20dn 20do 20dp ",
    "20dq 20dr 20ds 20dt 20du 20dv 20dw 20dx 20dy 20dz 20e0 20e1 20e2 20e3 20e4 20e5 20e6 20e7 ",
    "2oma 2omb 2omc 2omd 2ome 2omf 2omg 2omh 2omi 2omj 2omk 2oml 2omm 2omn 2omo 2omp 2omq 2omr ",
    "2oms 2omt 2omu 2omv 2omw 2omx 2omy 2omz 2on0 2on1 2on2 2on3 2on4 2on5 2on6 2on7 "]

/-- The characters beyond ASCII that have a different upper case, of one or more characters. -/
def upperTable : CharMap := .ofTables
  ["51 16 1 1 1 1 1 1 1 1 1 1 1 1 1 1 1 1 1 1 1 1 1 1 1 2 1 1 1 1 1 1 1 2 2 2 2 2 2 2 2 2 2 2 ",
    "2 2 2 2 2 2 2 2 2 2 2 2 2 2 2 2 2 3 2 2 2 2 2 2 2 1 2 2 2 2 2 2 2 2 2 2 2 2 2 2 2 2 2 2 2 ",
    "2 2 2 2 3 2 2 1 1 3 2 3 4 6 3 4 1 4 3 2 2 3 5 3 4 2 3 4 2 6 1 2 1 2 1 2 2 2 2 2 2 2 2 1 2 ",
    "2 2 2 2 2 2 2 2 1 2 1 2 4 2 2 2 2 2 2 2 2 2 2 2 2 2 2 2 2 2 2 2 4 2 2 2 2 2 2 2 2 9 3 1 2 ",
    "5 2 2 2 2 1 1 1 1 1 2 1 2 2 1 4 1 2 2 1 2 1 1 1 1 3 2 1 3 8 3 2 1 4 1 1 1 1 1 6 b 1 4n 18 ",
    "2 4 4 1 1 j s 1 1 1 1 1 1 1 1 1 1 1 1 1 1 1 1 1 1 1 1 1 1 1 1 1 1 1 1 1 1 1 1 1 1 2 1 4 1 ",
    "1 2 2 2 2 2 2 2 2 2 2 2 2 1 1 1 1 2 3 3 1h 1 1 1 1 1 1 1 1 1 1 1 1 1 1 1 1 1 1 1 1 1 1 1 ",
    "1 1 1 1 1 1 1 1 1 1 1 1 1 1 1 1 1 1 1 1 1 1 1 1 2 2 2 2 2 2 2 2 2 2 2 2 2 2 2 2 2 a 2 2 2 ",
    "2 2 2 2 2 2 2 2 2 2 2 2 2 2 2 2 2 2 2 2 2 2 2 3 2 2 2 2 2 2 1 2 2 2 2 2 2 2 2 2 2 2 2 2 2 ",
    "2 2 2 2 2 2 2 2 2 2 2 2 2 2 2 2 2 2 2 2 2 2 2 2 2 2 2 2 2 2 2 2 2 2 1e 1 1 1 1 1 1 1 1 1 ",
    "1 1 1 1 1 1 1 1 1 1 1 1 1 1 1 1 1 1 1 1 1 1 1 1 1 1 1 1 1 289 1 1 1 1 1 1 1 1 1 1 1 1 1 1 ",
    "1 1 1 1 1 1 1 1 1 1 1 1 1 1 1 1 1 1 1 1 1 1 1 1 1 1 1 1 3 1 1 l5 1 1 1 1 1 1oj 1 1 1 1 1 ",
    "1 1 1 6p 4 h 37 2 2 2 2 2 2 2 2 2 2 2 2 2 2 2 2 2 2 2 2 2 2 2 2 2 2 2 2 2 2 2 2 2 2 2 2 2 ",
    "2 2 2 2 2 2 2 2 2 2 2 2 2 2 2 2 2 2 2 2 2 2 2 2 2 2 2 2 2 2 2 2 2 2 2 2 2 1 1 1 1 1 1 6 2 ",
    "2 2 2 2 2 2 2 2 2 2 2 2 2 2 2 2 2 2 2 2 2 2 2 2 2 2 2 2 2 2 2 2 2 2 2 2 2 2 2 2 2 2 2 2 2 ",
    "2 1 1 1 1 1 1 1 1 9 1 1 1 1 1 b 1 1 1 1 1 1 1 9 1 1 1 1 1 1 1 9 1 1 1 1 1 b 1 1 1 1 1 1 1 ",
    "9 1 1 1 1 1 1 1 9 1 1 1 1 1 1 1 1 1 1 1 1 1 3 1 1 1 1 1 1 1 1 1 1 1 1 1 1 1 1 1 1 1 1 1 1 ",
    "1 1 1 1 1 1 1 1 1 1 1 1 1 1 1 1 1 1 1 1 1 1 1 1 1 1 1 1 1 1 2 1 5 2 4 1 1 2 1 5 4 1 1 1 3 ",
    "1 9 1 1 1 1 1 1 1 b 1 1 2 1 5 9e y 1 1 1 1 1 1 1 1 1 1 1 1 1 1 1 5 ng 1 1 1 1 1 1 1 1 1 1 ",
    "1 1 1 1 1 1 1 1 1 1 1 1 1 1 1 1fr 1 1 1 1 1 1 1 1 1 1 1 1 1 1 1 1 1 1 1 1 1 1 1 1 1 1 1 1 ",
    "1 1 1 1 1 1 1 1 1 1 1 1 1 1 1 1 1 1 1 2 4 1 2 2 2 7 3 b 2 2 2 2 2 2 2 2 2 2 2 2 2 2 2 2 2 ",
    "2 2 2 2 2 2 2 2 2 2 2 2 2 2 2 2 2 2 2 2 2 2 2 2 2 2 2 2 2 2 2 2 9 2 5 d 1 1 1 1 1 1 1 1 1 ",
    "1 1 1 1 1 1 1 1 1 1 1 1 1 1 1 1 1 1 1 1 1 1 1 1 1 1 1 1 2 6 nx0 2 2 2 2 2 2 2 2 2 2 2 2 2 ",
    "2 2 2 2 2 2 2 2 2 k 2 2 2 2 2 2 2 2 2 2 2 2 2 3s 2 2 2 2 2 2 4 2 2 2 2 2 2 2 2 2 2 2 2 2 ",
    "2 2 2 2 2 2 2 2 2 2 2 2 2 2 2 2 2 b 2 3 2 2 2 2 5 5 2 1 3 2 2 2 2 2 2 2 2 2 c 2 2 2 2 2 2 ",
    "2 5 2 7 6 2 t nx t 1 1 1 1 1 1 1 1 1 1 1 1 1 1 1 1 1 1 1 1 1 1 1 1 1 1 1 1 1 1 1 1 1 1 1 ",
    "1 1 1 1 1 1 1 1 1 1 1 1 1 1 1 1 1 1 1 1 1 1 1 1 1 1 1 1 1 1 1 1 1 1 1 1 1 1 1 1 1 1 1 1 ",
    "fnl 1 1 1 1 1 1 d 1 1 1 1 tm 1 1 1 1 1 1 1 1 1 1 1 1 1 1 1 1 1 1 1 1 1 1 1 1 1 y6 1 1 1 1 ",
    "1 1 1 1 1 1 1 1 1 1 1 1 1 1 1 1 1 1 1 1 1 1 1 1 1 1 1 1 1 1 1 1 1 1 1 3t 1 1 1 1 1 1 1 1 ",
    "1 1 1 1 1 1 1 1 1 1 1 1 1 1 1 1 1 1 1 1 1 1 1 1 1 1 1 4c 1 1 1 1 1 1 1 1 1 1 2 1 1 1 1 1 ",
    "1 1 1 1 1 1 1 1 1 2 1 1 1 1 1 1 2 1 1dw 1 1 1 1 1 1 1 1 1 1 1 1 1 1 1 1 1 1 1 1 1 1 1 1 1 ",
    "1 1 1 1 1 1 1 1 1 1 1 1 1 1 1 1 1 1 1 1 1 1 1 1 1 2by 1 1 1 1 1 1 1 1 1 1 1 1 1 1 1 1 1 1 ",
    "1 1 1 1 1 1 1 1 1 1 1 1 1 gw1 1 1 1 1 1 1 1 1 1 1 1 1 1 1 1 1 1 1 1 1 1 1 1 1 1 1 1 1 1 1 ",
    "1 o83 1 1 1 1 1 1 1 1 1 1 1 1 1 1 1 1 1 1 1 1 1 1 1 1 1 1 1 1 1 1 1 1 1 "]
  ["po 2b,2b 5c 5d 5e 5f 5g 5h 5i 5j 5k 5l 5m 5n 5o 5p 5q 5r 5s 5t 5u 5v 5w 5x 5y 60 61 62 63 ",
    "64 65 66 ag 74 76 78 7a 7c 7e 7g 7i 7k 7m 7o 7q 7s 7u 7w 7y 80 82 84 86 88 8a 8c 8e 21 8i ",
    "8k 8m 8p 8r 8t 8v 8x 8z 91 93 jg,26 96 98 9a 9c 9e 9g 9i 9k 9m 9o 9q 9s 9u 9w 9y a0 a2 a4 ",
    "a6 a8 aa ac ae ah aj al 2b g3 aq as av az b5 dy bc fx f4 bk bm bo br bw bz c3 c5 c8 cc dz ",
    "ck ck cn cn cq cq ct cv cx cz d1 d3 d5 d7 b2 da dc de dg di dk dm do dq 22,lo dt dt dw e0 ",
    "e2 e4 e6 e8 ea ec ee eg ei ek em eo eq es eu ew ey f0 f2 f6 f8 fa fc fe fg fi fk fm fv ",
    "8se 8sf g1 g6 g8 ga gc ge 8rz 8rx 8s0 ap au ax ay b3 b4 x4b b7 x4c b8 x3h x4a bb ba x4e ",
    "8rm x4d bg 8ry bh bj 8ro bq x51 bt x4h by g4 c1 c2 g5 c7 x4i x4g pl og oi om sd se sf ",
    "pl,lk,ld p2 p4 p5 p6 px,lk,ld pd pe pf pg ph pi pj pk pl pm pn po pp pq pr ps pt pv pv pw ",
    "px py pz q0 q1 q2 q3 p8 pa pb pe pk py ps r3 rc re rg ri rk rm ro rq rs ru rw ry pm pt s9 ",
    "ov ph s7 sa sw sx sy sz t0 t1 t2 t3 t4 t5 t6 t7 t8 t9 ta tb tc td te tf tg th ti tj tk tl ",
    "tm tn to tp tq tr sg sh si sj sk sl sm sn so sp sq sr ss st su sv v4 v6 v8 va vc ve vg vi ",
    "vk vm vo vq vs vu vw vy w0 wa wc we wg wi wk wm wo wq ws wu ww wy x0 x2 x4 x6 x8 xa xc xe ",
    "xg xi xk xm xo xq xt xv xx xz y1 y3 y5 xs y8 ya yc ye yg yi yk ym yo yq ys yu yw yy z0 z2 ",
    "z4 z6 z8 za zc ze zg zi zk zm zo zq zs zu zw zy 100 102 104 106 108 10a 10c 10e 10g 10i ",
    "10k 10m 10o 10q 10s 10u 10x 10y 10z 110 111 112 113 114 115 116 117 118 119 11a 11b 11c ",
    "11d 11e 11f 11g 11h 11i 11j 11k 11l 11m 11n 11o 11p 11q 11r 11s 11t 11u 11v 11w 11x 11y ",
    "111,11u 5n4 5n5 5n6 5n7 5n8 5n9 5na 5nb 5nc 5nd 5ne 5nf 5ng 5nh 5ni 5nj 5nk 5nl 5nm 5nn ",
    "5no 5np 5nq 5nr 5ns 5nt 5nu 5nv 5nw 5nx 5ny 5nz 5o0 5o1 5o2 5o3 5o4 5o5 5o6 5o7 5o8 5o9 ",
    "5oa 5od 5oe 5of 3xs 3xt 3xu 3xv 3xw 3xx sy t0 ta td te te tm v6 wui x31 8rn x52 5xc 5xe ",
    "5xg 5xi 5xk 5xm 5xo 5xq 5xs 5xu 5xw 5xy 5y0 5y2 5y4 5y6 5y8 5ya 5yc 5ye 5yg 5yi 5yk 5ym ",
    "5yo 5yq 5ys 5yu 5yw 5yy 5z0 5z2 5z4 5z6 5z8 5za 5zc 5ze 5zg 5zi 5zk 5zm 5zo 5zq 5zs 5zu ",
    "5zw 5zy 600 602 604 606 608 60a 60c 60e 60g 60i 60k 60m 60o 60q 60s 60u 60w 60y 610 612 ",
    "614 616 618 61a 61c 61e 61g 20,mp 2c,lk 2f,lm 2h,lm 1t,ji 600 61s 61u 61w 61y 620 622 624 ",
    "626 628 62a 62c 62e 62g 62i 62k 62m 62o 62q 62s 62u 62w 62y 630 632 634 636 638 63a 63c ",
    "63e 63g 63i 63k 63m 63o 63q 63s 63u 63w 63y 640 642 644 646 648 64a 64c 64e 64o 64p 64q ",
    "64r 64s 64t 64u 64v 654 655 656 657 658 659 65k 65l 65m 65n 65o 65p 65q 65r 660 661 662 ",
    "663 664 665 666 667 66g 66h 66i 66j 66k 66l px,lv 66x px,lv,lc 66z px,lv,ld 671 px,lv,n6 ",
    "673 67c 67d 67e 67f 67g 67h 67i 67j 69m 69n 6a0 6a1 6a2 6a3 6ai 6aj 6bc 6bd 6ay 6az 6be ",
    "6bf 64o,pl 64p,pl 64q,pl 64r,pl 64s,pl 64t,pl 64u,pl 64v,pl 64o,pl 64p,pl 64q,pl 64r,pl ",
    "64s,pl 64t,pl 64u,pl 64v,pl 65k,pl 65l,pl 65m,pl 65n,pl 65o,pl 65p,pl 65q,pl 65r,pl ",
    "65k,pl 65l,pl 65m,pl 65n,pl 65o,pl 65p,pl 65q,pl 65r,pl 67c,pl 67d,pl 67e,pl 67f,pl ",
    "67g,pl 67h,pl 67i,pl 67j,pl 67c,pl 67d,pl 67e,pl 67f,pl 67g,pl 67h,pl 67i,pl 67j,pl 69k ",
    "69l 69m,pl pd,pl p2,pl pd,n6 pd,n6,pl pd,pl pl 6a2,pl pj,pl p5,pl pj,n6 pj,n6,pl pj,pl ",
    "6ag 6ah pl,lk,lc pl,lk,ld pl,n6 pl,lk,n6 6aw 6ax px,lk,lc px,lk,ld pt,lv 6b0 px,n6 ",
    "px,lk,n6 6be,pl q1,pl pb,pl q1,n6 q1,n6,pl q1,pl 6k2 6lc 6ld 6le 6lf 6lg 6lh 6li 6lj 6lk ",
    "6ll 6lm 6ln 6lo 6lp 6lq 6lr 6mb 792 793 794 795 796 797 798 799 79a 79b 79c 79d 79e 79f ",
    "79g 79h 79i 79j 79k 79l 79m 79n 79o 79p 79q 79r 8ow 8ox 8oy 8oz 8p0 8p1 8p2 8p3 8p4 8p5 ",
    "8p6 8p7 8p8 8p9 8pa 8pb 8pc 8pd 8pe 8pf 8pg 8ph 8pi 8pj 8pk 8pl 8pm 8pn 8po 8pp 8pq 8pr ",
    "8ps 8pt 8pu 8pv 8pw 8px 8py 8pz 8q0 8q1 8q2 8q3 8q4 8q5 8q6 8q7 8rk fu fy 8rr 8rt 8rv 8s2 ",
    "8s5 8sg 8si 8sk 8sm 8so 8sq 8ss 8su 8sw 8sy 8t0 8t2 8t4 8t6 8t8 8ta 8tc 8te 8tg 8ti 8tk ",
    "8tm 8to 8tq 8ts 8tu 8tw 8ty 8u0 8u2 8u4 8u6 8u8 8ua 8uc 8ue 8ug 8ui 8uk 8um 8uo 8uq 8us ",
    "8uu 8uw 8uy 8v0 8v2 8v4 8v6 8vf 8vh 8vm 3a8 3a9 3aa 3ab 3ac 3ad 3ae 3af 3ag 3ah 3ai 3aj ",
    "3ak 3al 3am 3an 3ao 3ap 3aq 3ar 3as 3at 3au 3av 3aw 3ax 3ay 3az 3b0 3b1 3b2 3b3 3b4 3b5 ",
    "3b6 3b7 3b8 3b9 3bb 3bh wu8 wua wuc wue wug wui wuk wum wuo wuq wus wuu wuw wuy wv0 wv2 ",
    "wv4 wv6 wv8 wva wvc wve wvg ww0 ww2 ww4 ww6 ww8 wwa wwc wwe wwg wwi wwk wwm wwo wwq x0i ",
    "x0k x0m x0o x0q x0s x0u x0y x10 x12 x14 x16 x18 x1a x1c x1e x1g x1i x1k x1m x1o x1q x1s ",
    "x1u x1w x1y x20 x22 x24 x26 x28 x2a x2c x2e x2g x2i x2k x2m x2x x2z x32 x34 x36 x38 x3a ",
    "x3f x3k x3m x50 x3q x3s x3u x3w x3y x40 x42 x44 x46 x48 x4k x4m x4o x4q x4s x4u x4w x4y ",
    "x53 x55 x5c x5i x5k x6d x4j 3vk 3vl 3vm 3vn 3vo 3vp 3vq 3vr 3vs 3vt 3vu 3vv 3vw 3vx 3vy ",
    "3vz 3w0 3w1 3w2 3w3 3w4 3w5 3w6 3w7 3w8 3w9 3wa 3wb 3wc 3wd 3we 3wf 3wg 3wh 3wi 3wj 3wk ",
    "3wl 3wm 3wn 3wo 3wp 3wq 3wr 3ws 3wt 3wu 3wv 3ww 3wx 3wy 3wz 3x0 3x1 3x2 3x3 3x4 3x5 3x6 ",
    "3x7 3x8 3x9 3xa 3xb 3xc 3xd 3xe 3xf 3xg 3xh 3xi 3xj 3xk 3xl 3xm 3xn 3xo 3xp 3xq 3xr 1y,1y ",
    "1y,21 1y,24 1y,1y,21 1y,1y,24 2b,2c 2b,2c 11g,11i 11g,111 11g,117 11q,11i 11g,119 1ee9 ",
    "1eea 1eeb 1eec 1eed 1eee 1eef 1eeg 1eeh 1eei 1eej 1eek 1eel 1eem 1een 1eeo 1eep 1eeq 1eer ",
    "1ees 1eet 1eeu 1eev 1eew 1eex 1eey 1fcw 1fcx 1fcy 1fcz 1fd0 1fd1 1fd2 1fd3 1fd4 1fd5 1fd6 ",
    "1fd7 1fd8 1fd9 1fda 1fdb 1fdc 1fdd 1fde 1fdf 1fdg 1fdh 1fdi 1fdj 1fdk 1fdl 1fdm 1fdn 1fdo ",
    "1fdp 1fdq 1fdr 1fds 1fdt 1fdu 1fdv 1fdw 1fdx 1fdy 1fdz 1fhs 1fht 1fhu 1fhv 1fhw 1fhx 1fhy ",
    "1fhz 1fi0 1fi1 1fi2 1fi3 1fi4 1fi5 1fi6 1fi7 1fi8 1fi9 1fia 1fib 1fic 1fid 1fie 1fif 1fig ",
    "1fih 1fii 1fij 1fik 1fil 1fim 1fin 1fio 1fip 1fiq 1fir 1fn4 1fn5 1fn6 1fn7 1fn8 1fn9 1fna ",
    "1fnb 1fnc 1fnd 1fne 1fng 1fnh 1fni 1fnj 1fnk 1fnl 1fnm 1fnn 1fno 1fnp 1fnq 1fnr 1fns 1fnt ",
    "1fnu 1fnw 1fnx 1fny 1fnz 1fo0 1fo1 1fo2 1fo4 1fo5 1h1c 1h1d 1h1e 1h1f 1h1g 1h1h 1h1i 1h1j ",
    "1h1k 1h1l 1h1m 1h1n 1h1o 1h1p 1h1q 1h1r 1h1s 1h1t 1h1u 1h1v 1h1w 1h1x 1h1y 1h1z 1h20 1h21 ",
    "1h22 1h23 1h24 1h25 1h26 1h27 1h28 1h29 1h2a 1h2b 1h2c 1h2d 1h2e 1h2f 1h2g 1h2h 1h2i 1h2j ",
    "1h2k 1h2l 1h2m 1h2n 1h2o 1h2p 1h2q 1jfk 1jfl 1jfm 1jfn 1jfo 1jfp 1jfq 1jfr 1jfs 1jft 1jfu ",
    "1jfv 1jfw 1jfx 1jfy 1jfz 1jg0 1jg1 1jg2 1jg3 1jg4 1jg5 1jg6 1jg7 1jg8 1jg9 1jga 1jgb 1jgc ",
    "1jgd 1jge 1jgf 20cg 20ch 20ci 20cj 20ck 20cl 20cm 20cn 20co 20cp 20cq 20cr 20cs 20ct 20cu ",
    "20cv 20cw 20cx 20cy 20cz 20d0 20d1 20d2 20d3 20d4 20d5 20d6 20d7 20d8 20d9 20da 20db 2olc ",
    "2old 2ole 2olf 2olg 2olh 2oli 2olj 2olk 2oll 2olm 2oln 2olo 2olp 2olq 2olr 2ols 2olt 2olu ",
    "2olv 2olw 2olx 2oly 2olz 2om0 2om1 2om2 2om3 2om4 2om5 2om6 2om7 2om8 2om9 "]

/-- The characters passed over when the neighbours of a capital sigma are looked at. -/
def caseIgnorableRanges : CharRanges := .ofDistances
  ["13 1 6 1 b 1 z 1 1 1 1z 1 4 1 1 1 4 1 2 2 dz 5c 4 2 4 1 9 2 1 1 6z 7 5r 1 5 1 1d 19 1 1 1 ",
    "2 1 2 1 1 18 1 b 6 a b 1 1 z 1 a l g 1 2t 8 1 a 1 4 x 1 1 1 u r 2j b 1m b 4 1 2 1 o o 17 ",
    "3 18 1 7 2 6 8 15 1m 1j 1 1 1 4 8 4 1 3 7 a 2 d 1 f 1 1m 1 4 4 8 1 k 2 q 1 2 2 1l 1 4 2 4 ",
    "2 2 3 3 1 u 2 3 1 b 2 1l 1 4 5 1 2 4 1 k 2 m 6 1 1 1m 1 2 1 1 4 8 1 7 2 b 2 u 1 1p 1 c 1 ",
    "1e 1 3 1 1j 1 1 3 5 3 1 4 7 2 b 2 t 1 1m 1 2 1 6 1 5 2 k 2 s 2 1l 2 4 4 8 1 k 2 t 1 20 1 ",
    "7 3 1 1 2i 1 2 7 b 9 2q 1 2 9 9 1 1 6 22 2 r 1 1 1 1 1 1j e 1 5 1 2 5 b 1 10 9 1 2u 4 1 6 ",
    "1 2 2 2 p 2 4 3 g 4 d 1 2 2 6 1 f 1 2m 1 gw 3 qa 3 t 2 u 2 u 2 1s 2 1 7 8 1 2 b 3 1 5 1 ",
    "19 5 1f 1 1t 2 y 1 3a 3 4 2 9 1 6 3 63 2 2 1 1m 1 1 7 1 1 1 1 2 8 6 a 2 1 13 1 8 v 1d 4 ",
    "1c 1 1 5 1 1 5 1 14 9 c 2 w 4 2 2 1 3 1k 1 1 2 3 1 1 3 1m 8 2 2 1s 6 2a 3 1 d 1 7 4 1 6 1 ",
    "3 2 1e 1r d 1 y 2t cd 1 1 3 b 3 d 3 d 3 d 2 c 5 8 2 a 1 2 1 2 5 1d 5 1 a 1 1 d 1 g d 1f x ",
    "2a3 2 35 3 3h 1 f 1 2o w 1b 1 d1 1 10 4 3 5 5 1 2l 6 2l 3 lxy 1 yq 6 7i 1 2q 4 1 a 1 1 s ",
    "4 28 2 e y 26 1 n 3 2v 3 3 2 8 1 3 1 4 1 p 2 5 1 47 2 q i d 1 12 8 p b 1a 3 1c 1 2 4 2 2 ",
    "h 1 l 2 1u 6 2 2 2 2 c 1 8 1 z 1 b 1 1f 1 1 3 2 2 5 2 1 1 r 1 e 2 5 2 1 1 2s 5 9 3 3d 1 2 ",
    "1 4 1 fn4 1 43 h fx g 3 1 c g y 1 2 1 4p 1 7 1 6 1 b 1 z 1 1 1 1b 1 19 2 1v 1 l 3 e9 1 6a ",
    "1 45 5 sl 6 1 16 1 9 g6 3 1 2 5 4 14 3 4 1 4l 2 fx 4 ar 2 49 b 1d 4 3f 1 1i f 15 1 2 2 a ",
    "3 1d 4 2 2 2 1 4 1 a 1 1e 3 10 5 1 8 1q 1 c 2 1g 9 a 4 2 1 2n 3 2 1 1 2 6 1 4g 1 3 8 l 2 ",
    "1l 2 3 1 11 7 3 5 5f 8 2 3 1 1 n 1 2c 6 1 1 4 2 1 2 6m 4 6 2 1 2 r 2 2d 8 2 1 1 2 2y 1 1 ",
    "1 2 6 1 1 2t 3 2 4 1 5 77 9 1 2 74 2 1 1 4 1 40 4 2 2 4 1 w a 14 6 2 4 8 1 9 6 2 3 1a d 1 ",
    "2 ba 7 1 6 1 1 2a m 2 7 1 2 1 2 3e 6 3 1 1 2 1 7 1 1 20 2 3 1 1 1 9n 2 46z 9 at3 5 1n 7 9 ",
    "4 sr 1 1r h 1s 2 1 2 cnf 4 1 7 1 2 2hq 2 1 4 3mk 1a 2 n f4 3 9 g 2 7 u 4 44 3 1iz 1j 4 1e ",
    "8 1 e 1 m 5 1 f 11s 7 1 h 2 7 1 2 1 5 79 e a8 1 1p 4 15s 7 31 8 23z 5 gx6p 1 u 2o 3k 6o "]

/-- The characters with letter case that are not passed over. -/
def casedRanges : CharRanges := .ofDistances
  ["1t q 6 q 1b 1 a 1 4 1 5 n 1 v 1 5f 1 4 4 5s 1 r 5c 4 2 2 3 3 1 1 6 1 1 3 1 1 1 k 1 2b 1 ",
    "3v 8 4m 1 12 9 15 26v 12 1 1 5 1 2 17 2 3 io 2e 2 6 1oi 9 7 17 2 3 1s 18 1r d 1 y 2t 7q 2 ",
    "6 2 12 2 6 2 8 1 1 1 1 1 1 1 v 2 1h 1 7 1 1 3 3 1 7 3 4 2 6 4 d 5 3 1 7 79 1 4 1 2 a 1 1 ",
    "3 5 6 1 1 1 1 1 1 4 1 6 4 1 2 4 5 5 4 1 h w 3 2 mp 1g 1ee 3g 2 2v 6 4 3 2 c 12 1 1 5 1 ",
    "nwy 1a i s 3q 26 1 n 3 4 1 1n 5 2 1 1 1 5 r 2 3 1 mt 17 5 9 7 28 fnk 7 c 5 sp q 6 q x1 28 ",
    "2o 10 4 10 38 b 1 f 1 7 1 2 1 b 1 f 1 7 1 2 1c3 1f d 1f 2b1 1s gv4 1s k1s 2d 1 1z 1 2 2 1 ",
    "2 2 2 4 1 c 1 1 1 7 1 1t 1 4 2 8 1 7 1 s 1 4 1 5 1 1 3 7 1 9g 2 p 1 p 1 v 1 p 1 v 1 p 1 v ",
    "1 p 1 v 1 p 1 8 1f8 a 1 k 1y9 1w 1kc q 6 q 6 q "]

/-- The lower case of a single character, which is a single character too. The capital I with a
dot above goes to the plain small i. -/
def lowerChar (c : Char) : Char :=
  if c.toNat < 128 then c.toLower
  else match lowerTable.get? c.toNat with
    | some (code :: _) => Char.ofNat code
    | _ => c

/-- The upper case of a single character, as code points. -/
def upperCodes (c : Char) : List Nat :=
  if c.toNat < 128 then [c.toUpper.toNat] else (upperTable.get? c.toNat).getD [c.toNat]

/-- The first character of the upper case. -/
def upperChar (c : Char) : Char :=
  if c.toNat < 128 then c.toUpper
  else match upperTable.get? c.toNat with
    | some (code :: _) => Char.ofNat code
    | _ => c

/-- Whether the first character that is not passed over has letter case. -/
def meetsCased : List Char → Bool
  | [] => false
  | c :: rest => if caseIgnorableRanges.contains c then meetsCased rest else casedRanges.contains c

/-- Lower-cases the text `rest` that follows the reversed text `before`. A capital sigma becomes a
final sigma after a cased character unless another cased character follows. -/
def lowerAfter : List Char → List Char → List Char
  | _, [] => []
  | before, c :: rest =>
    let image :=
      if c.toNat < 128 then [c.toLower]
      else if c = 'İ' then ['i', '\u0307']
      else if c = 'Σ' then [if meetsCased before && !meetsCased rest then 'ς' else 'σ']
      else [lowerChar c]
    image ++ lowerAfter (c :: before) rest

/-- The lower case of a text. -/
def lowerText (text : String) : String := String.ofList (lowerAfter [] text.toList)

/-- The upper case of a text. -/
def upperText (text : String) : String :=
  String.ofList ((text.toList.flatMap upperCodes).map Char.ofNat)

end CodeIndex

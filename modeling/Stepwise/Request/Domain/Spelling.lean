import Stepwise.Text.Composition

/-!
# The spelling of domain names

A domain name may be written in many ways: in upper case, in characters of another width, with characters
that show nothing. One spelling stands for all of them. The characters that have no spelling at all may not
stand in a domain name.
-/

set_option autoImplicit false

namespace Stepwise.Domain

/-- A run of characters that are spelled alike: how many there are, how far apart they stand, and how the
first is spelled. Where that is with one character, the spellings stand as far apart. -/
structure SpellingRun where
  start : Nat
  count : Nat
  stride : Nat
  spelling : List Nat

/-- The runs of characters that are spelled with others, apart from what follows from what a composed
character stands for. -/
def spellingLines : List String :=
  [
    "1t q 1 2p,4g 1 1 w,4o 1 1 w lk,4q 1 1 2p,4t 1 1,4v 1 1 w lg,4y 2 1 1e,50 1 1 w ld,51 1 1 qk",
    "54 1 1 w mf,55 1 1 1d,56 1 1 33,58 1 1 1d 6dg 1g,59 1 1 1d 6dg 1e,5a 1 1 1f 6dg 1g,5i 1 1 6e",
    "5s 1 1 6o,60 1 1 6w,66 1 1 72,7k 1 1 7l,86 1 1 87,8i 1 1 2x 2y,8j 1 1 2x 2y,8v 1 1 30 53",
    "8w 1 1 30 53,8x 1 1 8y,95 1 1 jg 32,96 1 1 97,9e 1 1 9f,9y 1 1 9z,an 1 1 37,ap 1 1 gj,aq 2 2 ar",
    "au 1 1 gk,av 1 1 aw,ax 2 1 gm,az 1 1 b0,b2 1 1 d9,b3 1 1 gp,b4 1 1 gr,b5 1 1 b6,b7 1 1 gw,b8 1 1 gz",
    "ba 1 1 h5,bb 1 1 h4,bc 1 1 bd,bg 1 1 hb,bh 1 1 he,bj 1 1 hh,bm 2 2 bn,bq 1 1 hs,br 1 1 bs,bt 1 1 hv",
    "bw 1 1 bx,by 1 1 i0,c1 2 1 i2,c3 2 2 c4,c7 1 1 ia,c8 1 1 c9,cc 1 1 cd,ck 1 1 2s am,cl 1 1 2s am",
    "cm 1 1 2s am,cn 1 1 30 2y,co 1 1 30 2y,cp 1 1 30 2y,cq 1 1 32 2y,cr 1 1 32 2y,cs 1 1 32 2y,dg 1 1 dh",
    "dt 1 1 2s 3e,du 1 1 2s 3e,dv 1 1 2s 3e,dy 1 1 b9,dz 1 1 cf,f0 1 1 f1,f4 1 1 bi,f6 2 2 f7,fu 1 1 8rp",
    "fv 1 1 fw,fx 1 1 be,fy 1 1 8rq,g1 1 1 g2,g3 1 1 ao,g4 1 1 i1,g5 1 1 i4,g6 5 2 g7,j4 1 1 2w,j5 1 1 h2",
    "j6 1 1 2y,j7 1 1 36,j8 1 1 hl,j9 1 1 hn,ja 1 1 ht,jb 1 1 3b,jc 1 1 3d,k8 1 1 w li,k9 1 1 w lj",
    "ka 1 1 w lm,kb 1 1 w mg,kc 1 1 w lf,kd 1 1 w ln,kg 1 1 gz,kh 1 1 30,ki 1 1 37,kj 1 1 3c,kk 1 1 id",
    "n9 1 1 qh,nj 1 1,og 2 2 oh,om 1 1 on,oq 1 1 w qh,ov 1 1 s3,p0 1 1 w ld,pd h 1 q9,pv 7 1 qr,r3 1 1 rb",
    "r4 1 1 qa,r5 1 1 qg,r6 1 1 qt,r9 1 1 qu,ra 1 1 qo,rc c 2 rd,s0 1 1 qi,s1 1 1 qp,s2 1 1 qr,s4 1 1 qg",
    "s5 1 1 qd,s7 1 1 s8,s9 1 1 qr,sa 1 1 sb,sd 3 1 or,si 2 2 uq,sl 2 1 ut,so 4 1 uw,sv 1 1 v3,sw 9 1 ts",
    "t6 m 1 u2,v4 b 2 v5,vs 5 2 vt,wa r 2 wb,xs 1 1 y7,xv 6 2 xw,yc 1 1 yd,yg 1 1 yh,yo 1 1 yp,yw 1 1 yx",
    "za 1 1 zb,ze r 2 zf,10x 12 1 129,13b 1 1 12d 136,19x 1 1 17r 19w,19y 1 1 18o 19w,19z 1 1 1c7 19w",
    "1a0 1 1 18q 19w,2sz 1 1 2tp 2sy,2wj 1 1 2x9 2wi,2xo 1 1 2wb 2vt,2xp 1 1 2wb 2w1,2z0 1 1 2yz",
    "31z 1 1 33m 31t 328,321 1 1 33n 31t 328,3a8 12 1 8w0,3bb 1 1 8x3,3bh 1 1 8x9,3cs 1 1 3bw,3fj 2 1",
    "3y0 6 1 3xs,4ok 2 1,4qz 5 1,5mo 1 1 tu,5mp 1 1 tw,5mq 1 1 u6,5mr 2 1 u9,5mt 1 1 ua,5mu 1 1 ui",
    "5mv 1 1 v7,5mw 1 1 wuj,5mx 1 1 5my,5n4 17 1 3bk,5od 3 1 3ct,5rg 1 1 2p,5rh 1 1 6e,5ri 2 2 2q",
    "5rl 1 1 2t,5rm 1 1 d9,5rn 8 1 2v,5rw 1 1 33,5rx 1 1 f7,5ry 1 1 34,5rz 1 1 36,5s0 2 1 38,5s2 1 1 3b",
    "5s3 1 1 2p,5s4 2 1 gg,5s6 1 1 5qa,5s7 1 1 2q,5s8 2 1 2s,5sa 1 1 gp,5sb 2 1 gr,5sd 1 1 2v,5sf 1 1 2z",
    "5sg 1 1 31,5sh 1 1 97,5si 1 1 33,5sj 1 1 gk,5sk 2 1 5qu,5sm 1 1 34,5sn 2 1 38,5sp 1 1 5r1,5sq 1 1 hb",
    "5sr 1 1 3a,5ss 1 1 5r9,5st 3 1 qa,5sw 2 1 qu,5sy 1 1 2x,5sz 1 1 36,5t0 2 1 39,5t2 2 1 qa,5t4 1 1 qp",
    "5t5 2 1 qu,5tk 1 1 u5,5uj 1 1 gi,5uk 1 1 2r,5ul 1 1 gl,5um 1 1 6o,5un 1 1 gs,5uo 1 1 2u,5up 1 1 gv",
    "5uq 1 1 gx,5ur 1 1 h1,5us 3 1 h4,5uv 1 1 5tn,5uw 1 1 il,5ux 1 1 h9,5uy 1 1 5tx,5uz 1 1 in,5v0 1 1 hd",
    "5v1 1 1 hc,5v2 4 1 he,5v6 1 1 hk,5v7 2 1 hu,5v9 1 1 bv,5va 2 1 i1,5vc 1 1 5r0,5vd 2 1 i3,5vf 1 1 3e",
    "5vg 3 1 i8,5vj 1 1 qg,61m 1 1 2p ji,61q 1 1 67,64a 3 2 64b,69p 1 1 w lv,69r 1 1 w lv,69s 1 1 w n6",
    "6bi 1 1 w lw,6bm 1 1 w,6bn 1 1 w,6bo 1 1 w,6bp 1 1 w,6bq 1 1 w,6br 1 1 w,6bs 1 1 w,6bt 1 1 w",
    "6bu 1 1 w,6bv 1 1,6c1 1 1 6c0,6c7 1 1 w mr,6cv 1 1 w,6cz 1 1 6cy 6cy,6d0 1 1 6cy 6cy 6cy",
    "6d2 1 1 6d1 6d1,6d3 1 1 6d1 6d1 6d1,6d8 1 1 x x,6da 1 1 w lh,6dj 1 1 1r 1r,6dk 1 1 1r x,6dl 1 1 x 1r",
    "6dz 1 1 6cy 6cy 6cy 6cy,6e7 1 1 w,6e8 5 1,6ei 6 1,6eo 1 1 1c,6ep 1 1 2x,6es 6 1 1g,6ey 1 1 17",
    "6ez 1 1 6qa,6f0 1 1 1p,6f1 2 1 14,6f3 1 1 32,6f4 a 1 1c,6fe 1 1 17,6ff 1 1 6qa,6fg 1 1 1p,6fh 2 1 14",
    "6fk 1 1 2p,6fl 1 1 2t,6fm 1 1 33,6fn 1 1 3c,6fo 1 1 gp,6fp 1 1 2w,6fq 4 1 2z,6fu 1 1 34,6fv 2 1 37",
    "6g8 1 1 36 37,6io 1 1 2p 1b 2r,6ip 1 1 2p 1b 37,6iq 1 1 2r,6ir 1 1 4w 2r,6it 1 1 2r 1b 33",
    "6iu 1 1 2r 1b 39,6iv 1 1 gr,6ix 1 1 4w 2u,6iy 2 1 2v,6j0 1 1 2w,6j1 1 1 2w,6j2 1 1 2w,6j3 1 1 87",
    "6j4 1 1 2x,6j5 1 1 2x,6j6 1 1 30,6j7 2 2 30,6ja 1 1 32 33,6jd 3 1 34,6jg 1 1 36,6jh 1 1 36",
    "6jk 1 1 37 31,6jl 1 1 38 2t 30,6jm 1 1 38 31,6jo 1 1 3e,6js 1 1 3e,6jw 2 1 2q,6jz 1 1 2t,6k0 2 1 2t",
    "6k2 1 1 6ku,6k3 1 1 31,6k4 1 1 33,6k5 4 1 15c,6k9 1 1 2x,6kb 1 1 2u 2p 3c,6kc 1 1 qo,6kd 1 1 qb",
    "6ke 1 1 qb,6kf 1 1 qo,6kg 1 1 6q9,6kl 1 1 2s,6km 2 1 2s,6ko 2 1 2x,6kw 1 1 1d 6dg 1j",
    "6kx 1 1 1d 6dg 1l,6ky 1 1 1d 6dg 1d 1c,6kz 1 1 1d 6dg 1f,6l0 1 1 1e 6dg 1f,6l1 1 1 1d 6dg 1h",
    "6l2 1 1 1e 6dg 1h,6l3 1 1 1f 6dg 1h,6l4 1 1 1g 6dg 1h,6l5 1 1 1d 6dg 1i,6l6 1 1 1h 6dg 1i",
    "6l7 1 1 1d 6dg 1k,6l8 1 1 1f 6dg 1k,6l9 1 1 1h 6dg 1k,6la 1 1 1j 6dg 1k,6lb 1 1 1d 6dg,6lc 1 1 2x",
    "6ld 1 1 2x 2x,6le 1 1 2x 2x 2x,6lf 1 1 2x 3a,6lg 1 1 3a,6lh 1 1 3a 2x,6li 1 1 3a 2x 2x",
    "6lj 1 1 3a 2x 2x 2x,6lk 1 1 2x 3c,6ll 1 1 3c,6lm 1 1 3c 2x,6ln 1 1 3c 2x 2x,6lo 1 1 30,6lp 2 1 2r",
    "6lr 1 1 31,6ls 1 1 2x,6lt 1 1 2x 2x,6lu 1 1 2x 2x 2x,6lv 1 1 2x 3a,6lw 1 1 3a,6lx 1 1 3a 2x",
    "6ly 1 1 3a 2x 2x,6lz 1 1 3a 2x 2x 2x,6m0 1 1 2x 3c,6m1 1 1 3c,6m2 1 1 3c 2x,6m3 1 1 3c 2x 2x",
    "6m4 1 1 30,6m5 2 1 2r,6m7 1 1 31,6mb 1 1 6mc,6mh 1 1 1c 6dg 1f,6r0 1 1 6qz 6qz,6r1 1 1 6qz 6qz 6qz",
    "6r3 1 1 6r2 6r2,6r4 1 1 6r2 6r2 6r2,76o 9 1 1d,76x 1 1 1d 1c,76y 1 1 1d 1d,76z 1 1 1d 1e",
    "770 1 1 1d 1f,771 1 1 1d 1g,772 1 1 1d 1h,773 1 1 1d 1i,774 1 1 1d 1j,775 1 1 1d 1k,776 1 1 1d 1l",
    "777 1 1 1e 1c,778 1 1 14 1d 15,779 1 1 14 1e 15,77a 1 1 14 1f 15,77b 1 1 14 1g 15,77c 1 1 14 1h 15",
    "77d 1 1 14 1i 15,77e 1 1 14 1j 15,77f 1 1 14 1k 15,77g 1 1 14 1l 15,77h 1 1 14 1d 1c 15",
    "77i 1 1 14 1d 1d 15,77j 1 1 14 1d 1e 15,77k 1 1 14 1d 1f 15,77l 1 1 14 1d 1g 15,77m 1 1 14 1d 1h 15",
    "77n 1 1 14 1d 1i 15,77o 1 1 14 1d 1j 15,77p 1 1 14 1d 1k 15,77q 1 1 14 1d 1l 15,77r 1 1 14 1e 1c 15",
    "78c 1 1 14 2p 15,78d 1 1 14 2q 15,78e 1 1 14 2r 15,78f 1 1 14 2s 15,78g 1 1 14 2t 15",
    "78h 1 1 14 2u 15,78i 1 1 14 2v 15,78j 1 1 14 2w 15,78k 1 1 14 2x 15,78l 1 1 14 2y 15",
    "78m 1 1 14 2z 15,78n 1 1 14 30 15,78o 1 1 14 31 15,78p 1 1 14 32 15,78q 1 1 14 33 15",
    "78r 1 1 14 34 15,78s 1 1 14 35 15,78t 1 1 14 36 15,78u 1 1 14 37 15,78v 1 1 14 38 15",
    "78w 1 1 14 39 15,78x 1 1 14 3a 15,78y 1 1 14 3b 15,78z 1 1 14 3c 15,790 1 1 14 3d 15",
    "791 1 1 14 3e 15,792 q 1 2p,79s q 1 2p,7ai 1 1 1c,8b0 1 1 6qz 6qz 6qz 6qz,8dw 1 1 1m 1m 1p",
    "8dx 1 1 1p 1p,8dy 1 1 1p 1p 1p,8ow 1c 1 8q8,8rk 1 1 8rl,8rm 1 1 h7,8rn 1 1 5tp,8ro 1 1 hp",
    "8rr 3 2 8rs,8rx 1 1 gh,8ry 1 1 hd,8rz 1 1 gg,8s0 1 1 gi,8s2 1 1 8s3,8s5 1 1 8s6,8sc 1 1 2y",
    "8sd 1 1 3a,8se 2 1 fz,8sg 1e 2 8sh,8vf 2 2 8vg,8vm 1 1 8vn,8z3 1 1 8yp,97j 1 1 lal,99v 1 1 vj3",
    "9a8 1 1 feo,9a9 1 1 ffs,9aa 1 1 fg6,9ab 1 1 fgf,9ac 1 1 fh5,9ad 1 1 fid,9ae 1 1 fik,9af 1 1 fj4",
    "9ag 1 1 fju,9ah 1 1 g1r,9ai 1 1 g2t,9aj 1 1 g2z,9ak 1 1 g3m,9al 1 1 g46,9am 1 1 g4r,9an 1 1 g68",
    "9ao 1 1 g6t,9ap 1 1 g74,9aq 1 1 gbf,9ar 1 1 ge1,9as 1 1 get,9at 1 1 gey,9au 1 1 gfs,9av 1 1 gg1",
    "9aw 1 1 ggs,9ax 1 1 gh5,9ay 1 1 ghu,9az 1 1 gja,9b0 1 1 gjs,9b1 1 1 gkj,9b2 1 1 h5j,9b3 1 1 h7j",
    "9b4 1 1 hkb,9b5 1 1 hky,9b6 1 1 hl6,9b7 1 1 hlh,9b8 1 1 hlz,9b9 1 1 ho3,9ba 1 1 i1c,9bb 1 1 i2o",
    "9bc 1 1 i60,9bd 1 1 i6n,9be 1 1 i76,9bf 1 1 i7s,9bg 1 1 i9a,9bh 1 1 i9d,9bi 1 1 ijf,9bj 1 1 ijp",
    "9bk 1 1 ik1,9bl 1 1 ike,9bm 1 1 inm,9bn 1 1 inu,9bo 1 1 inz,9bp 1 1 ir8,9bq 1 1 iri,9br 1 1 irv",
    "9bs 1 1 is3,9bt 1 1 its,9bu 1 1 iu9,9bv 1 1 iur,9bw 1 1 iwz,9bx 1 1 jd4,9by 1 1 jee,9bz 1 1 jez",
    "9c0 1 1 jzj,9c1 1 1 jzo,9c2 1 1 k1z,9c3 1 1 k2f,9c4 1 1 k2s,9c5 1 1 k3d,9c6 1 1 k4g,9c7 1 1 k4l",
    "9c8 1 1 kc0,9c9 1 1 kco,9ca 1 1 kdk,9cb 1 1 l5s,9cc 1 1 l7m,9cd 1 1 l89,9ce 1 1 l9v,9cf 1 1 laj",
    "9cg 1 1 las,9ch 1 1 laz,9ci 1 1 lcf,9cj 1 1 lck,9ck 1 1 ldg,9cl 1 1 m7f,9cm 1 1 mju,9cn 1 1 mk6",
    "9co 1 1 mkb,9cp 1 1 mkf,9cq 1 1 mkn,9cr 1 1 ml5,9cs 1 1 ml7,9ct 1 1 mng,9cu 1 1 mtg,9cv 1 1 mtl",
    "9cw 1 1 n30,9cx 1 1 n3a,9cy 1 1 n4o,9cz 1 1 n4v,9d0 1 1 n54,9d1 1 1 n5c,9d2 1 1 n7v,9d3 1 1 n82",
    "9d4 1 1 nee,9d5 1 1 nel,9d6 1 1 nfy,9d7 1 1 ngf,9d8 1 1 nhq,9d9 1 1 nob,9da 1 1 noi,9db 1 1 noz",
    "9dc 1 1 ny2,9dd 1 1 o1k,9de 1 1 o1q,9df 1 1 o6s,9dg 1 1 o97,9dh 1 1 oah,9di 1 1 okz,9dj 1 1 ooo",
    "9dk 1 1 p4m,9dl 1 1 p5d,9dm 1 1 p6y,9dn 1 1 p8d,9do 1 1 pa9,9dp 1 1 pak,9dq 1 1 paq,9dr 1 1 pbn",
    "9ds 1 1 pdr,9dt 1 1 pe1,9du 1 1 pnn,9dv 1 1 pnu,9dw 1 1 po3,9dx 1 1 poc,9dy 1 1 pos,9dz 1 1 pp7",
    "9e0 1 1 ppb,9e1 1 1 pri,9e2 1 1 prm,9e3 1 1 prs,9e4 1 1 qj1,9e5 1 1 qjv,9e6 1 1 qww,9e7 1 1 qx8",
    "9e8 1 1 qxv,9e9 1 1 r5q,9ea 1 1 r63,9eb 1 1 r82,9ec 1 1 r9c,9ed 1 1 rp3,9ee 1 1 rpi,9ef 1 1 rpx",
    "9eg 1 1 rqw,9eh 1 1 rrx,9ei 1 1 rxg,9ej 1 1 rxs,9ek 1 1 rzn,9el 1 1 s6j,9em 1 1 s7e,9en 1 1 sd7",
    "9eo 1 1 sds,9ep 1 1 sdx,9eq 1 1 sk1,9er 1 1 sp5,9es 1 1 ssm,9et 1 1 sss,9eu 1 1 ssx,9ev 1 1 tiv",
    "9ew 1 1 tj4,9ex 1 1 tng,9ey 1 1 trq,9ez 1 1 trt,9f0 1 1 tt4,9f1 1 1 tw1,9f2 1 1 twe,9f3 1 1 twi",
    "9f4 1 1 twp,9f5 1 1 tzf,9f6 1 1 u0d,9f7 1 1 u0j,9f8 1 1 u0x,9f9 1 1 u5k,9fa 1 1 u6z,9fb 1 1 u73",
    "9fc 1 1 uc6,9fd 1 1 uc9,9fe 1 1 ucs,9ff 1 1 ujs,9fg 1 1 ul4,9fh 1 1 ulb,9fi 1 1 un9,9fj 1 1 unj",
    "9fk 1 1 unm,9fl 1 1 unw,9fm 1 1 uoq,9fn 1 1 uzp,9fo 1 1 vat,9fp 1 1 vb3,9fq 1 1 vc5,9fr 1 1 vcr",
    "9fs 1 1 vcz,9ft 1 1 vd9,9fu 1 1 vdd,9fv 1 1 veh,9fw 1 1 vel,9fx 1 1 vf2,9fy 1 1 vf7,9fz 1 1 vfk",
    "9g0 1 1 vgb,9g1 1 1 vgq,9g2 1 1 vgy,9g3 1 1 vil,9g4 1 1 vj0,9g5 1 1 vj4,9hc 1 1 w,9he 1 1 1a",
    "9iu 1 1 9hu,9iw 1 1 gg1,9ix 2 1 gg4,9ln 1 1 w 9ll,9lo 1 1 w 9lm,9lr 1 1 9l4 9l6,9of 1 1 9mb 9mw",
    "9pt 2 1 3cw,9pv 1 1 3hm,9pw 1 1 3cy,9px 2 1 3ho,9pz 3 1 3cz,9q2 6 1 3hs,9q8 1 1 3dm,9q9 3 1 3d2",
    "9qc 1 1 3dt,9qd a 1 3d5,9qn l 1 3fl,9r8 1 1,9r9 2 1 3dg,9rb 2 1 3if,9rd 1 1 3ik,9re 1 1 3im",
    "9rf 1 1 3ir,9rg 1 1 3iv,9rh 1 1 3ix,9ri 1 1 3do,9rj 1 1 3j1,9rk 1 1 3j3,9rl 2 1 3dp,9rn 1 1 3ds",
    "9ro 2 1 3du,9rq 1 1 3dz,9rr 1 1 3e1,9rs 5 1 3e3,9rx 1 1 3ea,9ry 1 1 3ee,9rz 1 1 3eo,9s0 1 1 3ev",
    "9s1 1 1 3f0,9s2 2 1 3jl,9s4 3 1 3fb,9s7 2 1 3gk,9s9 1 1 3go,9sa 2 1 3gx,9sc 1 1 3h0,9sd 1 1 3ha",
    "9se 1 1 3hd,9si 1 1 feo,9sj 1 1 fik,9sk 1 1 fex,9sl 1 1 h5n,9sm 1 1 fey,9sn 1 1 ffx,9so 1 1 fez",
    "9sp 1 1 n5e,9sq 1 1 fh5,9sr 1 1 ffd,9ss 1 1 fep,9st 1 1 hm1,9su 1 1 h80,9sv 1 1 fju",
    "9vk 1 1 14 3cw 15,9vl 1 1 14 3cy 15,9vm 1 1 14 3cz 15,9vn 1 1 14 3d1 15,9vo 1 1 14 3d2 15",
    "9vp 1 1 14 3d3 15,9vq 1 1 14 3d5 15,9vr 1 1 14 3d7 15,9vs 1 1 14 3d8 15,9vt 1 1 14 3da 15",
    "9vu 1 1 14 3db 15,9vv 1 1 14 3dc 15,9vw 1 1 14 3dd 15,9vx 1 1 14 3de 15,9vy 1 1 14 xz4 15",
    "9vz 1 1 14 yvs 15,9w0 1 1 14 zc4 15,9w1 1 1 14 108s 15,9w2 1 1 14 10p4 15,9w3 1 1 14 115g 15",
    "9w4 1 1 14 1224 15,9w5 1 1 14 12ys 15,9w6 1 1 14 13f4 15,9w7 1 1 14 14bs 15,9w8 1 1 14 14s4 15",
    "9w9 1 1 14 158g 15,9wa 1 1 14 15os 15,9wb 1 1 14 1654 15,9wc 1 1 14 13p8 15,9wd 1 1 14 1350 13ic 15",
    "9we 1 1 14 1350 16f8 15,9wg 1 1 14 feo 15,9wh 1 1 14 fik 15,9wi 1 1 14 fex 15,9wj 1 1 14 h5n 15",
    "9wk 1 1 14 fis 15,9wl 1 1 14 g31 15,9wm 1 1 14 fer 15,9wn 1 1 14 g2z 15,9wo 1 1 14 fh9 15",
    "9wp 1 1 14 gg1 15,9wq 1 1 14 kco 15,9wr 1 1 14 m7f 15,9ws 1 1 14 ldg 15,9wt 1 1 14 kdk 15",
    "9wu 1 1 14 ssx 15,9wv 1 1 14 h7j 15,9ww 1 1 14 k4l 15,9wx 1 1 14 kkq 15,9wy 1 1 14 kcp 15",
    "9wz 1 1 14 ny6 15,9x0 1 1 14 glp 15,9x1 1 1 14 mm1 15,9x2 1 1 14 rs1 15,9x3 1 1 14 nz1 15",
    "9x4 1 1 14 gc4 15,9x5 1 1 14 fkz 15,9x6 1 1 14 gos 15,9x7 1 1 14 i1y 15,9x8 1 1 14 nhf 15",
    "9x9 1 1 14 flt 15,9xa 1 1 14 rt3 15,9xb 1 1 14 ggk 15,9xc 1 1 14 nzh 15,9xd 1 1 14 fm9 15",
    "9xe 1 1 14 pnu 15,9xf 1 1 14 po3 15,9xg 1 1 gun,9xh 1 1 inw,9xi 1 1 k1z,9xj 1 1 oen,9xs 1 1 34 38 2t",
    "9xt 1 1 1e 1d,9xu 1 1 1e 1e,9xv 1 1 1e 1f,9xw 1 1 1e 1g,9xx 1 1 1e 1h,9xy 1 1 1e 1i,9xz 1 1 1e 1j",
    "9y0 1 1 1e 1k,9y1 1 1 1e 1l,9y2 1 1 1f 1c,9y3 1 1 1f 1d,9y4 1 1 1f 1e,9y5 1 1 1f 1f,9y6 1 1 1f 1g",
    "9y7 1 1 1f 1h,9y8 1 1 3cw,9y9 2 1 3cy,9yb 3 1 3d1,9ye 1 1 3d5,9yf 2 1 3d7,9yh 5 1 3da,9ym 1 1 xz4",
    "9yn 1 1 yvs,9yo 1 1 zc4,9yp 1 1 108s,9yq 1 1 10p4,9yr 1 1 115g,9ys 1 1 1224,9yt 1 1 12ys",
    "9yu 1 1 13f4,9yv 1 1 14bs,9yw 1 1 14s4,9yx 1 1 158g,9yy 1 1 15os,9yz 1 1 1654,9z0 1 1 14c8 y5c",
    "9z1 1 1 13p8 13dk,9z2 1 1 138w,9z4 1 1 feo,9z5 1 1 fik,9z6 1 1 fex,9z7 1 1 h5n,9z8 1 1 fis",
    "9z9 1 1 g31,9za 1 1 fer,9zb 1 1 g2z,9zc 1 1 fh9,9zd 1 1 gg1,9ze 1 1 kco,9zf 1 1 m7f,9zg 1 1 ldg",
    "9zh 1 1 kdk,9zi 1 1 ssx,9zj 1 1 h7j,9zk 1 1 k4l,9zl 1 1 kkq,9zm 1 1 kcp,9zn 1 1 ny6,9zo 1 1 glp",
    "9zp 1 1 mm1,9zq 1 1 rs1,9zr 1 1 nz1,9zs 1 1 gc4,9zt 1 1 o2g,9zu 1 1 n5j,9zv 1 1 ho3,9zw 1 1 six",
    "9zx 1 1 g16,9zy 1 1 ghc,9zz 1 1 lig,a00 1 1 u11,a01 1 1 fm9,a02 1 1 g49,a03 1 1 l7n,a04 1 1 fey",
    "a05 1 1 ffx,a06 1 1 fez,a07 1 1 ijq,a08 1 1 gkz,a09 1 1 gfv,a0a 1 1 i3b,a0b 1 1 i1y,a0c 1 1 nhf",
    "a0d 1 1 flt,a0e 1 1 rt3,a0f 1 1 ggk,a0g 1 1 hlo,a0h 1 1 1f 1i,a0i 1 1 1f 1j,a0j 1 1 1f 1k",
    "a0k 1 1 1f 1l,a0l 1 1 1g 1c,a0m 1 1 1g 1d,a0n 1 1 1g 1e,a0o 1 1 1g 1f,a0p 1 1 1g 1g,a0q 1 1 1g 1h",
    "a0r 1 1 1g 1i,a0s 1 1 1g 1j,a0t 1 1 1g 1k,a0u 1 1 1g 1l,a0v 1 1 1h 1c,a0w 1 1 1d kco,a0x 1 1 1e kco",
    "a0y 1 1 1f kco,a0z 1 1 1g kco,a10 1 1 1h kco,a11 1 1 1i kco,a12 1 1 1j kco,a13 1 1 1k kco",
    "a14 1 1 1l kco,a15 1 1 1d 1c kco,a16 1 1 1d 1d kco,a17 1 1 1d 1e kco,a18 1 1 2w 2v,a19 1 1 2t 36 2v",
    "a1a 1 1 2t 3a,a1b 1 1 30 38 2s,a1c 1 1 9lu,a1d 1 1 9lw,a1e 1 1 9ly,a1f 1 1 9m0,a1g 2 1 9m2",
    "a1i 1 1 9m5,a1j 1 1 9m7,a1k 1 1 9m9,a1l 1 1 9mb,a1m 1 1 9md,a1n 1 1 9mf,a1o 1 1 9mh,a1p 1 1 9mj",
    "a1q 1 1 9ml,a1r 1 1 9mn,a1s 1 1 9mp,a1t 1 1 9ms,a1u 1 1 9mu,a1v 1 1 9mw,a1w 6 1 9my,a22 1 1 9n6",
    "a23 1 1 9n9,a24 1 1 9nc,a25 1 1 9nf,a26 5 1 9ni,a2b 1 1 9no,a2c 1 1 9nq,a2d 6 1 9ns,a2j 4 1 9nz",
    "a2n 1 1 fl0 gp8,a2o 1 1 9lu 9n5 9oc 9mw,a2p 1 1 9lu 9nv 9n9 9lt,a2q 1 1 9lu 9o3 9ne 9lu",
    "a2r 1 1 9lu 9oc 9nv,a2s 1 1 9lw 9mz 9o3 9m8,a2t 1 1 9lw 9o3 9mp,a2u 1 1 9ly 9m1 9o3",
    "a2v 1 1 9m0 9mh 9m7 9oc 9mx,a2w 1 1 9m0 9oc 9m3 9oc,a2x 1 1 9m2 9o3 9mh,a2y 1 1 9m2 9oc 9nk",
    "a2z 1 1 9m3 9lw 9nu,a30 1 1 9m3 9nt 9mr 9mw,a31 1 1 9m3 9nx 9nu 9oc,a32 1 1 9m4 9nx 9o3",
    "a33 1 1 9m4 9o3 9ni,a34 1 1 9m6 9m4,a35 1 1 9m6 9mz 9oc,a36 1 1 9m5 9np 9nu 9oc",
    "a37 1 1 9m6 9nv 9mo 9oc,a38 1 1 9m5 9nx,a39 1 1 9m5 9nx 9m8 9nt 9nk,a3a 1 1 9m5 9nx 9nl 9oc 9mw 9nv",
    "a3b 1 1 9m5 9nx 9nz 9mr 9mw,a3c 1 1 9m8 9nt 9nk,a3d 1 1 9m8 9nt 9nk 9mw 9o3",
    "a3e 1 1 9m7 9nv 9mk 9lw 9nx,a3f 1 1 9m7 9nx 9oc 9n1,a3g 1 1 9m9 9oc 9mh,a3h 1 1 9mb 9nv 9my",
    "a3i 1 1 9mb 9oc 9nh,a3j 1 1 9md 9lw 9m7 9nv,a3k 1 1 9md 9o3 9mp 9oc 9nk,a3l 1 1 9mf 9nu 9o3 9m8",
    "a3m 1 1 9mj 9o3 9mp,a3n 1 1 9mj 9o3 9mw,a3o 1 1 9mo 9oc 9mh,a3p 1 1 9mv 9mf,a3q 1 1 9mx 9nv",
    "a3r 1 1 9mw 9o3,a3s 1 1 9my 9n2,a3t 1 1 9n2 9mr 9mw,a3u 1 1 9n3 9lw 9ms,a3v 1 1 9n5 9oc 9mj 9o3 9mw",
    "a3w 1 1 9n5 9oc 9ms,a3x 1 1 9n4 9oc 9nw 9nv,a3y 1 1 9n8 9lu 9mh 9mw 9nv,a3z 1 1 9n8 9m7 9nv",
    "a40 1 1 9n8 9mb,a41 1 1 9n7 9nv,a42 1 1 9n9 9lt 9nt 9mr 9mx,a43 1 1 9n9 9lv 9oc 9mw",
    "a44 1 1 9na 9mr 9mf 9lz 9nv,a45 1 1 9n9 9nt 9o3,a46 1 1 9nc 9m7 9mn 9oc 9nv,a47 1 1 9ne 9ml",
    "a48 1 1 9ne 9mz 9n6,a49 1 1 9nc 9nv 9ms,a4a 1 1 9ne 9o3 9mh,a4b 1 1 9ne 9oc 9mg,a4c 1 1 9nd 9oc 9mn",
    "a4d 1 1 9nh 9lw 9o3 9mw,a4e 1 1 9ng 9nv 9mw,a4f 1 1 9nf 9o3,a4g 1 1 9nh 9o3 9mx,a4h 1 1 9nf 9oc 9nv",
    "a4i 1 1 9nf 9oc 9o3,a4j 1 1 9ni 9lw 9m7 9nx,a4k 1 1 9ni 9lw 9nv,a4l 1 1 9ni 9mr 9n3",
    "a4m 1 1 9ni 9nv 9m7,a4n 1 1 9ni 9o3 9mf 9nr 9o3,a4o 1 1 9nj 9m7 9nx 9o3,a4p 1 1 9nj 9nu",
    "a4q 1 1 9nj 9nu 9n4 9oc 9nv,a4r 1 1 9nl 9m4,a4s 1 1 9nl 9m4 9mw 9o3,a4t 1 1 9nl 9oc 9mw 9nv",
    "a4u 1 1 9no 9oc 9mx,a4v 1 1 9no 9oc 9nv,a4w 1 1 9nq 9lu 9o3,a4x 1 1 9nu 9mr 9mw 9nv,a4y 1 1 9nu 9nt",
    "a4z 1 1 9nv 9n8 9oc,a50 1 1 9nv 9oc 9na 9nv,a51 1 1 9nw 9nk,a52 1 1 9nw 9o3 9mw 9ma 9o3",
    "a53 1 1 9nz 9mr 9mw,a54 1 1 1c m9l,a55 1 1 1d m9l,a56 1 1 1e m9l,a57 1 1 1f m9l,a58 1 1 1g m9l",
    "a59 1 1 1h m9l,a5a 1 1 1i m9l,a5b 1 1 1j m9l,a5c 1 1 1k m9l,a5d 1 1 1l m9l,a5e 1 1 1d 1c m9l",
    "a5f 1 1 1d 1d m9l,a5g 1 1 1d 1e m9l,a5h 1 1 1d 1f m9l,a5i 1 1 1d 1g m9l,a5j 1 1 1d 1h m9l",
    "a5k 1 1 1d 1i m9l,a5l 1 1 1d 1j m9l,a5m 1 1 1d 1k m9l,a5n 1 1 1d 1l m9l,a5o 1 1 1e 1c m9l",
    "a5p 1 1 1e 1d m9l,a5q 1 1 1e 1e m9l,a5r 1 1 1e 1f m9l,a5s 1 1 1e 1g m9l,a5t 1 1 2w 34 2p",
    "a5u 1 1 2s 2p,a5v 1 1 2p 39,a5w 1 1 2q 2p 36,a5x 1 1 33 3a,a5y 1 1 34 2r,a5z 1 1 2s 31",
    "a60 1 1 2s 31 1e,a61 1 1 2s 31 1f,a62 1 1 2x 39,a63 1 1 inn jdc,a64 1 1 k6l gp8,a65 1 1 hlz l7n",
    "a66 1 1 k5q lh7,a67 1 1 kkq irz fmi ny6,a68 1 1 34 2p,a69 1 1 32 2p,a6a 1 1 qk 2p,a6b 1 1 31 2p",
    "a6c 1 1 2z 2p,a6d 1 1 2z 2q,a6e 1 1 31 2q,a6f 1 1 2v 2q,a6g 1 1 2r 2p 30,a6h 1 1 2z 2r 2p 30",
    "a6i 1 1 34 2u,a6j 1 1 32 2u,a6k 1 1 qk 2u,a6l 1 1 qk 2v,a6m 1 1 31 2v,a6n 1 1 2z 2v,a6o 1 1 2w 3e",
    "a6p 1 1 2z 2w 3e,a6q 1 1 31 2w 3e,a6r 1 1 2v 2w 3e,a6s 1 1 38 2w 3e,a6t 1 1 qk 30,a6u 1 1 31 30",
    "a6v 1 1 2s 30,a6w 1 1 2z 30,a6x 1 1 2u 31,a6y 1 1 32 31,a6z 1 1 qk 31,a70 1 1 31 31,a71 1 1 2r 31",
    "a72 1 1 2z 31,a73 1 1 31 31 1e,a74 1 1 2r 31 1e,a75 1 1 31 1e,a76 1 1 2z 31 1e,a77 1 1 31 31 1f",
    "a78 1 1 2r 31 1f,a79 1 1 31 1f,a7a 1 1 2z 31 1f,a7b 1 1 31 6qd 37,a7c 1 1 31 6qd 37 1e,a7d 1 1 34 2p",
    "a7e 1 1 2z 34 2p,a7f 1 1 31 34 2p,a7g 1 1 2v 34 2p,a7h 1 1 36 2p 2s,a7i 1 1 36 2p 2s 6qd 37",
    "a7j 1 1 36 2p 2s 6qd 37 1e,a7k 1 1 34 37,a7l 1 1 32 37,a7m 1 1 qk 37,a7n 1 1 31 37,a7o 1 1 34 3a",
    "a7p 1 1 32 3a,a7q 1 1 qk 3a,a7r 1 1 31 3a,a7s 1 1 2z 3a,a7t 1 1 31 3a,a7u 1 1 34 3b,a7v 1 1 32 3b",
    "a7w 1 1 qk 3b,a7x 1 1 31 3b,a7y 1 1 2z 3b,a7z 1 1 31 3b,a80 1 1 2z qx,a81 1 1 31 qx,a83 1 1 2q 35",
    "a84 1 1 2r 2r,a85 1 1 2r 2s,a86 1 1 2r 6qd 2z 2v,a88 1 1 2s 2q,a89 1 1 2v 3d,a8a 1 1 2w 2p",
    "a8b 1 1 2w 34,a8c 1 1 2x 32,a8d 1 1 2z 2z,a8e 1 1 2z 31,a8f 1 1 2z 38,a8g 1 1 30 31,a8h 1 1 30 32",
    "a8i 1 1 30 33 2v,a8j 1 1 30 3c,a8k 1 1 31 2q,a8l 1 1 31 2x 30,a8m 1 1 31 33 30,a8n 1 1 34 2w",
    "a8p 1 1 34 34 31,a8q 1 1 34 36,a8r 1 1 37 36,a8s 1 1 37 3a,a8t 1 1 3b 2q,a8u 1 1 3a 6qd 31",
    "a8v 1 1 2p 6qd 31,a8w 1 1 1d k4l,a8x 1 1 1e k4l,a8y 1 1 1f k4l,a8z 1 1 1g k4l,a90 1 1 1h k4l",
    "a91 1 1 1i k4l,a92 1 1 1j k4l,a93 1 1 1k k4l,a94 1 1 1l k4l,a95 1 1 1d 1c k4l,a96 1 1 1d 1d k4l",
    "a97 1 1 1d 1e k4l,a98 1 1 1d 1f k4l,a99 1 1 1d 1g k4l,a9a 1 1 1d 1h k4l,a9b 1 1 1d 1i k4l",
    "a9c 1 1 1d 1j k4l,a9d 1 1 1d 1k k4l,a9e 1 1 1d 1l k4l,a9f 1 1 1e 1c k4l,a9g 1 1 1e 1d k4l",
    "a9h 1 1 1e 1e k4l,a9i 1 1 1e 1f k4l,a9j 1 1 1e 1g k4l,a9k 1 1 1e 1h k4l,a9l 1 1 1e 1i k4l",
    "a9m 1 1 1e 1j k4l,a9n 1 1 1e 1k k4l,a9o 1 1 1e 1l k4l,a9p 1 1 1f 1c k4l,a9q 1 1 1f 1d k4l",
    "a9r 1 1 2v 2p 30,wu8 n 2 wu9,ww0 e 2 ww1,wws 1 1 ui,wwt 1 1 uk,x0i 7 2 x0j,x0y v 2 x0z,x2o 1 1 x2n",
    "x2x 2 2 x2y,x31 1 1 5tl,x32 5 2 x33,x3f 1 1 x3g,x3h 1 1 h1,x3k 2 2 x3l,x3q a 2 x3r,x4a 1 1 h2",
    "x4b 1 1 gs,x4c 1 1 gx,x4d 1 1 h8,x4e 1 1 h6,x4g 1 1 im,x4h 1 1 hz,x4i 1 1 il,x4j 1 1 xub,x4k 8 2 x4l",
    "x50 1 1 x3o,x51 1 1 hu,x52 1 1 5u6,x53 2 2 x54,x57 1 1 h0,x58 8 2 x59,x5o 1 1 bf,x69 1 1 37",
    "x6a 1 1 2r,x6b 1 1 2u,x6c 1 1 35,x6d 1 1 x6e,x6g 1 1 87,x6h 1 1 9f,xuk 1 1 x0n,xul 1 1 xtj",
    "xum 1 1 h7,xun 1 1 xua,xux 1 1 i5,xv4 28 1 3vk,1dkw 1 1 2u 2u,1dkx 1 1 2u 2x,1dky 1 1 2u 30",
    "1dkz 1 1 2u 2u 2x,1dl0 1 1 2u 2u 30,1dl1 1 1 37 38,1dl2 1 1 37 38,1dlf 1 1 12s 12u,1dlg 1 1 12s 12d",
    "1dlh 1 1 12s 12j,1dli 1 1 132 12u,1dlj 1 1 12s 12l,1dls 1 1 15u,1dlt 1 1 15c,1dlu 2 1 15f",
    "1dlw 3 1 15n,1dlz 1 1 160,1dm0 1 1 162,1dm1 1 1 17,1dn3 1 1 15c 15o,1dn4 1 1 19t,1dn5 1 1 19t",
    "1dn6 1 1 1a3,1dn7 1 1 1a3,1dn8 1 1 1a3,1dn9 1 1 1a3,1dna 1 1 1a6,1dnb 1 1 1a6,1dnc 1 1 1a6",
    "1dnd 1 1 1a6,1dne 1 1 1a8,1dnf 1 1 1a8,1dng 1 1 1a8,1dnh 1 1 1a8,1dni 1 1 1a2,1dnj 1 1 1a2",
    "1dnk 1 1 1a2,1dnl 1 1 1a2,1dnm 1 1 1a7,1dnn 1 1 1a7,1dno 1 1 1a7,1dnp 1 1 1a7,1dnq 1 1 1a1",
    "1dnr 1 1 1a1,1dns 1 1 1a1,1dnt 1 1 1a1,1dnu 1 1 1b8,1dnv 1 1 1b8,1dnw 1 1 1b8,1dnx 1 1 1b8",
    "1dny 1 1 1ba,1dnz 1 1 1ba,1do0 1 1 1ba,1do1 1 1 1ba,1do2 1 1 1ac,1do3 1 1 1ac,1do4 1 1 1ac",
    "1do5 1 1 1ac,1do6 1 1 1ab,1do7 1 1 1ab,1do8 1 1 1ab,1do9 1 1 1ab,1doa 1 1 1ae,1dob 1 1 1ae",
    "1doc 1 1 1ae,1dod 2 1 1ae,1dof 1 1 1af,1dog 1 1 1af,1doh 1 1 1af,1doi 1 1 1al,1doj 1 1 1al",
    "1dok 1 1 1ak,1dol 1 1 1ak,1dom 1 1 1am,1don 1 1 1am,1doo 1 1 1ag,1dop 1 1 1ag,1doq 1 1 1aw",
    "1dor 1 1 1aw,1dos 1 1 1ap,1dot 1 1 1ap,1dou 1 1 1bd,1dov 1 1 1bd,1dow 1 1 1bd,1dox 1 1 1bd",
    "1doy 1 1 1bj,1doz 1 1 1bj,1dp0 1 1 1bj,1dp1 1 1 1bj,1dp2 1 1 1bn,1dp3 1 1 1bn,1dp4 1 1 1bn",
    "1dp5 1 1 1bn,1dp6 1 1 1bl,1dp7 1 1 1bl,1dp8 1 1 1bl,1dp9 1 1 1bl,1dpa 1 1 1bu,1dpb 2 1 1bu",
    "1dpd 1 1 1bv,1dpe 1 1 1bv,1dpf 1 1 1bv,1dpg 1 1 1c0,1dph 2 1 1c0,1dpj 1 1 1c1,1dpk 1 1 1c1",
    "1dpl 1 1 1c1,1dpm 1 1 1by,1dpn 1 1 1by,1dpo 1 1 1by,1dpp 1 1 1by,1dpq 1 1 1ci,1dpr 2 1 1ci",
    "1dpt 1 1 1cj,1dqr 1 1 1bh,1dqs 1 1 1bh,1dqt 1 1 1bh,1dqu 1 1 1bh,1dqv 1 1 1c7,1dqw 1 1 1c7",
    "1dqx 1 1 1c6,1dqy 1 1 1c6,1dqz 1 1 1c8,1dr0 1 1 1c8,1dr1 1 1 1c7 19w,1dr2 1 1 1cb,1dr3 1 1 1cb",
    "1dr4 1 1 1c5,1dr5 1 1 1c5,1dr6 1 1 1c9,1dr7 1 1 1c9,1dr8 1 1 1cg,1dr9 1 1 1cg,1dra 1 1 1cg",
    "1drb 1 1 1cg,1drc 1 1 18p,1drd 1 1 18p,1dre 1 1 17q 17r,1drf 1 1 17q 17r,1drg 1 1 17q 1cl",
    "1drh 1 1 17q 1cl,1dri 1 1 17q 18o,1drj 1 1 17q 18o,1drk 1 1 17q 1c7,1drl 1 1 17q 1c7",
    "1drm 1 1 17q 1c6,1drn 1 1 17q 1c6,1dro 1 1 17q 1c8,1drp 1 1 17q 1c8,1drq 1 1 17q 1cg",
    "1drr 1 1 17q 1cg,1drs 1 1 17q 1cg,1drt 1 1 17q 18p,1dru 1 1 17q 18p,1drv 1 1 17q 18p,1drw 1 1 1cc",
    "1drx 1 1 1cc,1dry 1 1 1cc,1drz 1 1 1cc,1ds0 1 1 17q 17w,1ds1 1 1 17q 17x,1ds2 1 1 17q 18l",
    "1ds3 1 1 17q 18p,1ds4 1 1 17q 18q,1ds5 1 1 17s 17w,1ds6 1 1 17s 17x,1ds7 1 1 17s 17y",
    "1ds8 1 1 17s 18l,1ds9 1 1 17s 18p,1dsa 1 1 17s 18q,1dsb 1 1 17u 17w,1dsc 1 1 17u 17x",
    "1dsd 1 1 17u 17y,1dse 1 1 17u 18l,1dsf 1 1 17u 18p,1dsg 1 1 17u 18q,1dsh 1 1 17v 17w",
    "1dsi 1 1 17v 18l,1dsj 1 1 17v 18p,1dsk 1 1 17v 18q,1dsl 1 1 17w 17x,1dsm 1 1 17w 18l",
    "1dsn 1 1 17x 17w,1dso 1 1 17x 18l,1dsp 1 1 17y 17w,1dsq 1 1 17y 17x,1dsr 1 1 17y 18l",
    "1dss 1 1 183 17w,1dst 1 1 183 17x,1dsu 1 1 183 17y,1dsv 1 1 183 18l,1dsw 1 1 185 17x",
    "1dsx 1 1 185 18l,1dsy 1 1 186 17w,1dsz 1 1 186 17x,1dt0 1 1 186 17y,1dt1 1 1 186 18l",
    "1dt2 1 1 187 17x,1dt3 1 1 187 18l,1dt4 1 1 188 18l,1dt5 1 1 189 17w,1dt6 1 1 189 18l",
    "1dt7 1 1 18a 17w,1dt8 1 1 18a 18l,1dt9 1 1 18h 17w,1dta 1 1 18h 17x,1dtb 1 1 18h 17y",
    "1dtc 1 1 18h 18l,1dtd 1 1 18h 18p,1dte 1 1 18h 18q,1dtf 1 1 18i 17x,1dtg 1 1 18i 18l",
    "1dth 1 1 18i 18p,1dti 1 1 18i 18q,1dtj 1 1 18j 17r,1dtk 1 1 18j 17w,1dtl 1 1 18j 17x",
    "1dtm 1 1 18j 17y,1dtn 1 1 18j 18k,1dto 1 1 18j 18l,1dtp 1 1 18j 18p,1dtq 1 1 18j 18q",
    "1dtr 1 1 18k 17w,1dts 1 1 18k 17x,1dtt 1 1 18k 17y,1dtu 1 1 18k 18l,1dtv 1 1 18k 18p",
    "1dtw 1 1 18k 18q,1dtx 1 1 18l 17w,1dty 1 1 18l 17x,1dtz 1 1 18l 17y,1du0 1 1 18l 18l",
    "1du1 1 1 18l 18p,1du2 1 1 18l 18q,1du3 1 1 18m 17w,1du4 1 1 18m 17x,1du5 1 1 18m 17y",
    "1du6 1 1 18m 18l,1du7 1 1 18m 18p,1du8 1 1 18m 18q,1du9 1 1 18n 17w,1dua 1 1 18n 18l",
    "1dub 1 1 18n 18p,1duc 1 1 18n 18q,1dud 1 1 18q 17w,1due 1 1 18q 17x,1duf 1 1 18q 17y",
    "1dug 1 1 18q 18l,1duh 1 1 18q 18p,1dui 1 1 18q 18q,1duj 1 1 180 19s,1duk 1 1 181 19s",
    "1dul 1 1 18p 19s,1dum 1 1 w 18s 18x,1dun 1 1 w 18t 18x,1duo 1 1 w 18u 18x,1dup 1 1 w 18v 18x",
    "1duq 1 1 w 18w 18x,1dur 1 1 w 18x 19s,1dus 1 1 17q 181,1dut 1 1 17q 182,1duu 1 1 17q 18l",
    "1duv 1 1 17q 18m,1duw 1 1 17q 18p,1dux 1 1 17q 18q,1duy 1 1 17s 181,1duz 1 1 17s 182",
    "1dv0 1 1 17s 18l,1dv1 1 1 17s 18m,1dv2 1 1 17s 18p,1dv3 1 1 17s 18q,1dv4 1 1 17u 181",
    "1dv5 1 1 17u 182,1dv6 1 1 17u 18l,1dv7 1 1 17u 18m,1dv8 1 1 17u 18p,1dv9 1 1 17u 18q",
    "1dva 1 1 17v 181,1dvb 1 1 17v 182,1dvc 1 1 17v 18l,1dvd 1 1 17v 18m,1dve 1 1 17v 18p",
    "1dvf 1 1 17v 18q,1dvg 1 1 18h 18p,1dvh 1 1 18h 18q,1dvi 1 1 18i 18p,1dvj 1 1 18i 18q",
    "1dvk 1 1 18j 17r,1dvl 1 1 18j 18k,1dvm 1 1 18j 18l,1dvn 1 1 18j 18p,1dvo 1 1 18j 18q",
    "1dvp 1 1 18k 18l,1dvq 1 1 18k 18p,1dvr 1 1 18k 18q,1dvs 1 1 18l 17r,1dvt 1 1 18l 18l",
    "1dvu 1 1 18m 181,1dvv 1 1 18m 182,1dvw 1 1 18m 18l,1dvx 1 1 18m 18m,1dvy 1 1 18m 18p",
    "1dvz 1 1 18m 18q,1dw0 1 1 18p 19s,1dw1 1 1 18q 181,1dw2 1 1 18q 182,1dw3 1 1 18q 18l",
    "1dw4 1 1 18q 18m,1dw5 1 1 18q 18p,1dw6 1 1 18q 18q,1dw7 1 1 17q 17w,1dw8 1 1 17q 17x",
    "1dw9 1 1 17q 17y,1dwa 1 1 17q 18l,1dwb 1 1 17q 18n,1dwc 1 1 17s 17w,1dwd 1 1 17s 17x",
    "1dwe 1 1 17s 17y,1dwf 1 1 17s 18l,1dwg 1 1 17s 18n,1dwh 1 1 17u 17w,1dwi 1 1 17u 17x",
    "1dwj 1 1 17u 17y,1dwk 1 1 17u 18l,1dwl 1 1 17u 18n,1dwm 1 1 17v 18l,1dwn 1 1 17w 17x",
    "1dwo 1 1 17w 18l,1dwp 1 1 17x 17w,1dwq 1 1 17x 18l,1dwr 1 1 17y 17w,1dws 1 1 17y 18l",
    "1dwt 1 1 183 17w,1dwu 1 1 183 17x,1dwv 1 1 183 17y,1dww 1 1 183 18l,1dwx 1 1 185 17x",
    "1dwy 1 1 185 17y,1dwz 1 1 185 18l,1dx0 1 1 186 17w,1dx1 1 1 186 17x,1dx2 1 1 186 17y",
    "1dx3 1 1 186 18l,1dx4 1 1 187 17x,1dx5 1 1 188 18l,1dx6 1 1 189 17w,1dx7 1 1 189 18l",
    "1dx8 1 1 18a 17w,1dx9 1 1 18a 18l,1dxa 1 1 18h 17w,1dxb 1 1 18h 17x,1dxc 1 1 18h 17y",
    "1dxd 1 1 18h 18l,1dxe 1 1 18i 17x,1dxf 1 1 18i 18l,1dxg 1 1 18j 17w,1dxh 1 1 18j 17x",
    "1dxi 1 1 18j 17y,1dxj 1 1 18j 18k,1dxk 1 1 18j 18l,1dxl 1 1 18k 17w,1dxm 1 1 18k 17x",
    "1dxn 1 1 18k 17y,1dxo 1 1 18k 18l,1dxp 1 1 18k 18n,1dxq 1 1 18l 17w,1dxr 1 1 18l 17x",
    "1dxs 1 1 18l 17y,1dxt 1 1 18l 18l,1dxu 1 1 18m 17w,1dxv 1 1 18m 17x,1dxw 1 1 18m 17y",
    "1dxx 1 1 18m 18l,1dxy 1 1 18m 18n,1dxz 1 1 18n 17w,1dy0 1 1 18n 18l,1dy1 1 1 18n 19s",
    "1dy2 1 1 18q 17w,1dy3 1 1 18q 17x,1dy4 1 1 18q 17y,1dy5 1 1 18q 18l,1dy6 1 1 18q 18n",
    "1dy7 1 1 17q 18l,1dy8 1 1 17q 18n,1dy9 1 1 17s 18l,1dya 1 1 17s 18n,1dyb 1 1 17u 18l",
    "1dyc 1 1 17u 18n,1dyd 1 1 17v 18l,1dye 1 1 17v 18n,1dyf 1 1 183 18l,1dyg 1 1 183 18n",
    "1dyh 1 1 184 18l,1dyi 1 1 184 18n,1dyj 1 1 18j 18k,1dyk 1 1 18j 18l,1dyl 1 1 18k 18l",
    "1dym 1 1 18m 18l,1dyn 1 1 18m 18n,1dyo 1 1 18q 18l,1dyp 1 1 18q 18n,1dyq 1 1 18g 18u 18x",
    "1dyr 1 1 18g 18v 18x,1dys 1 1 18g 18w 18x,1dyt 1 1 187 18p,1dyu 1 1 187 18q,1dyv 1 1 189 18p",
    "1dyw 1 1 189 18q,1dyx 1 1 18a 18p,1dyy 1 1 18a 18q,1dyz 1 1 183 18p,1dz0 1 1 183 18q",
    "1dz1 1 1 184 18p,1dz2 1 1 184 18q,1dz3 1 1 17x 18p,1dz4 1 1 17x 18q,1dz5 1 1 17w 18p",
    "1dz6 1 1 17w 18q,1dz7 1 1 17y 18p,1dz8 1 1 17y 18q,1dz9 1 1 185 18p,1dza 1 1 185 18q",
    "1dzb 1 1 186 18p,1dzc 1 1 186 18q,1dzd 1 1 184 17w,1dze 1 1 184 17x,1dzf 1 1 184 17y",
    "1dzg 1 1 184 18l,1dzh 1 1 184 181,1dzi 1 1 183 181,1dzj 1 1 185 181,1dzk 1 1 186 181",
    "1dzl 1 1 187 18p,1dzm 1 1 187 18q,1dzn 1 1 189 18p,1dzo 1 1 189 18q,1dzp 1 1 18a 18p",
    "1dzq 1 1 18a 18q,1dzr 1 1 183 18p,1dzs 1 1 183 18q,1dzt 1 1 184 18p,1dzu 1 1 184 18q",
    "1dzv 1 1 17x 18p,1dzw 1 1 17x 18q,1dzx 1 1 17w 18p,1dzy 1 1 17w 18q,1dzz 1 1 17y 18p",
    "1e00 1 1 17y 18q,1e01 1 1 185 18p,1e02 1 1 185 18q,1e03 1 1 186 18p,1e04 1 1 186 18q",
    "1e05 1 1 184 17w,1e06 1 1 184 17x,1e07 1 1 184 17y,1e08 1 1 184 18l,1e09 1 1 184 181",
    "1e0a 1 1 183 181,1e0b 1 1 185 181,1e0c 1 1 186 181,1e0d 1 1 184 17w,1e0e 1 1 184 17x",
    "1e0f 1 1 184 17y,1e0g 1 1 184 18l,1e0h 1 1 183 18n,1e0i 1 1 184 18n,1e0j 1 1 187 18l",
    "1e0k 1 1 183 17w,1e0l 1 1 183 17x,1e0m 1 1 183 17y,1e0n 1 1 184 17w,1e0o 1 1 184 17x",
    "1e0p 1 1 184 17y,1e0q 1 1 187 18l,1e0r 1 1 188 18l,1e0s 1 1 17r 18r,1e0t 1 1 17r 18r",
    "1e1c 1 1 17u 17w 18l,1e1d 1 1 17u 17x 17w,1e1e 1 1 17u 17x 17w,1e1f 1 1 17u 17x 18l",
    "1e1g 1 1 17u 17y 18l,1e1h 1 1 17u 18l 17w,1e1i 1 1 17u 18l 17x,1e1j 1 1 17u 18l 17y",
    "1e1k 1 1 17w 18l 17x,1e1l 1 1 17w 18l 17x,1e1m 1 1 17x 18l 18q,1e1n 1 1 17x 18l 18p",
    "1e1o 1 1 183 17x 17w,1e1p 1 1 183 17w 17x,1e1q 1 1 183 17w 18p,1e1r 1 1 183 18l 17x",
    "1e1s 1 1 183 18l 17x,1e1t 1 1 183 18l 17w,1e1u 1 1 183 18l 18l,1e1v 1 1 183 18l 18l",
    "1e1w 1 1 185 17x 17x,1e1x 1 1 185 17x 17x,1e1y 1 1 185 18l 18l,1e1z 1 1 184 17x 18l",
    "1e20 1 1 184 17x 18l,1e21 1 1 184 17w 18q,1e22 1 1 184 18l 17y,1e23 1 1 184 18l 17y",
    "1e24 1 1 184 18l 18l,1e25 1 1 184 18l 18l,1e26 1 1 186 17x 18p,1e27 1 1 186 17y 18l",
    "1e28 1 1 186 17y 18l,1e29 1 1 187 18l 17x,1e2a 1 1 187 18l 17x,1e2b 1 1 187 18l 18l",
    "1e2c 1 1 187 18l 18q,1e2d 1 1 189 17w 18l,1e2e 1 1 189 18l 18l,1e2f 1 1 189 18l 18l",
    "1e2g 1 1 189 18l 18p,1e2h 1 1 18a 18l 18l,1e2i 1 1 18a 18l 18q,1e2j 1 1 18a 18l 18p",
    "1e2k 1 1 18h 17y 18l,1e2l 1 1 18h 17y 18l,1e2m 1 1 18i 18l 17x,1e2n 1 1 18i 18l 18l",
    "1e2o 1 1 18k 17x 18l,1e2p 1 1 18k 17x 18q,1e2q 1 1 18k 17x 18p,1e2r 1 1 18k 17w 17w",
    "1e2s 1 1 18k 17w 17w,1e2t 1 1 18k 17y 18l,1e2u 1 1 18k 17y 18l,1e2v 1 1 18k 18l 17x",
    "1e2w 1 1 18k 18l 17x,1e2x 1 1 18l 17x 17w,1e2y 1 1 18l 17x 18l,1e2z 1 1 18l 17x 18q",
    "1e30 1 1 18l 17w 17x,1e31 1 1 18l 17w 18l,1e32 1 1 18l 17y 17w,1e33 1 1 18l 17y 18l",
    "1e36 1 1 18l 17w 17y,1e37 1 1 18n 18l 17w,1e38 1 1 18n 18l 18l,1e39 1 1 18m 17x 18l",
    "1e3a 1 1 18m 17x 18p,1e3b 1 1 18m 17w 18l,1e3c 1 1 18m 17w 18l,1e3d 1 1 18m 17w 18p",
    "1e3e 1 1 18m 18l 18q,1e3f 1 1 18m 18l 18p,1e3g 1 1 18q 18l 18l,1e3h 1 1 18q 18l 18l",
    "1e3i 1 1 17s 17y 18q,1e3j 1 1 17u 17w 18q,1e3k 1 1 17u 17w 18p,1e3l 1 1 17u 17y 18q",
    "1e3m 1 1 17u 17y 18p,1e3n 1 1 17u 18l 18q,1e3o 1 1 17u 18l 18p,1e3p 1 1 17w 18l 18q",
    "1e3q 1 1 17w 17x 18p,1e3r 1 1 17w 18l 18p,1e3s 1 1 183 17y 18p,1e3t 1 1 185 17x 18q",
    "1e3u 1 1 184 17x 18q,1e3v 1 1 186 17x 18q,1e3w 1 1 18k 17w 18q,1e3x 1 1 18k 18l 18q",
    "1e3y 1 1 18q 17x 18q,1e3z 1 1 18q 17w 18q,1e40 1 1 18q 18l 18q,1e41 1 1 18l 18l 18q",
    "1e42 1 1 18i 18l 18q,1e43 1 1 18m 17x 18q,1e44 1 1 18i 18l 17x,1e45 1 1 18k 17x 18l",
    "1e46 1 1 189 18l 18q,1e47 1 1 18j 18l 18q,1e48 1 1 18m 17w 17x,1e49 1 1 18l 17y 18q",
    "1e4a 1 1 18k 17w 18l,1e4b 1 1 18j 18l 18l,1e4c 1 1 18k 17w 18l,1e4d 1 1 18m 17w 17x",
    "1e4e 1 1 17w 17x 18q,1e4f 1 1 17x 17w 18q,1e4g 1 1 18l 17w 18q,1e4h 1 1 18h 18l 18q",
    "1e4i 1 1 17s 17x 18q,1e4j 1 1 18j 18l 18l,1e4k 1 1 189 17w 18l,1e4l 1 1 185 18l 18l",
    "1e4m 1 1 183 17y 18q,1e4n 1 1 18m 17w 18q,1e5s 1 1 185 18k 1ci,1e5t 1 1 18i 18k 1ci",
    "1e5u 1 1 17r 18k 18k 18n,1e5v 1 1 17r 18j 17s 181,1e5w 1 1 18l 17x 18l 17z,1e5x 1 1 185 18k 189 18l",
    "1e5y 1 1 181 183 18o 18k,1e5z 1 1 189 18k 18q 18n,1e60 1 1 18o 183 18k 18l,1e61 1 1 185 18k 18p",
    "1e62 1 1 185 18k 18p w 17r 18k 18k 18n w 189 18k 18q 18n w 18o 183 18k 18l",
    "1e63 1 1 17w 18k w 17w 18k 17r 18k 18n,1e64 1 1 181 1cc 17r 18k,1e68 g 1,1e6o 1 1 18,1e6p 1 1 9hd",
    "1e6r 2 1 1m,1e6t 1 1 x,1e6u 1 1 1r,1e6v 2 1 9hy,1e7l 1 1 6c4,1e7m 1 1 6c3,1e7n 1 1 2n,1e7o 1 1 2n",
    "1e7p 2 1 14,1e7r 1 1 3f,1e7s 1 1 3h,1e7t 2 1 9hw,1e7v 2 1 9hs,1e7x 2 1 9hm,1e7z 2 1 9hk,1e81 4 1 9ho",
    "1e87 1 1 2j,1e88 1 1 2l,1e89 1 1 w lh,1e8a 1 1 w lh,1e8b 1 1 w lh,1e8c 1 1 w lh,1e8d 1 1 2n",
    "1e8e 1 1 2n,1e8f 1 1 2n,1e8g 1 1 18,1e8h 1 1 9hd,1e8k 1 1 1n,1e8l 1 1 1m,1e8m 1 1 1r,1e8n 1 1 x",
    "1e8o 1 1 6c4,1e8p 2 1 14,1e8r 1 1 3f,1e8s 1 1 3h,1e8t 2 1 9hw,1e8v 1 1 z,1e8w 1 1 12,1e8x 2 1 16",
    "1e8z 1 1 19,1e90 1 1 1o,1e91 1 1 1q,1e92 1 1 1p,1e94 1 1 2k,1e95 2 1 10,1e97 1 1 1s,1e9c 1 1 w 18r",
    "1e9d 1 1 18g 18r,1e9e 1 1 w 18s,1e9g 1 1 w 18t,1e9i 1 1 w 18u,1e9j 1 1 18g 18u,1e9k 1 1 w 18v",
    "1e9l 1 1 18g 18v,1e9m 1 1 w 18w,1e9n 1 1 18g 18w,1e9o 1 1 w 18x,1e9p 1 1 18g 18x,1e9q 1 1 w 18y",
    "1e9r 1 1 18g 18y,1e9s 2 1 17l,1e9u 2 1 17m,1e9w 2 1 17n,1e9y 2 1 17o,1ea0 2 1 17p,1ea2 1 1 17q",
    "1ea3 1 1 17q,1ea4 2 1 17q,1ea6 2 1 17r,1ea8 1 1 17s,1ea9 1 1 17s,1eaa 2 1 17s,1eac 2 1 17t",
    "1eae 1 1 17u,1eaf 1 1 17u,1eag 2 1 17u,1eai 1 1 17v,1eaj 1 1 17v,1eak 2 1 17v,1eam 1 1 17w",
    "1ean 1 1 17w,1eao 2 1 17w,1eaq 1 1 17x,1ear 1 1 17x,1eas 2 1 17x,1eau 1 1 17y,1eav 1 1 17y",
    "1eaw 2 1 17y,1eay 2 1 17z,1eb0 2 1 180,1eb2 2 1 181,1eb4 2 1 182,1eb6 1 1 183,1eb7 1 1 183",
    "1eb8 2 1 183,1eba 1 1 184,1ebb 1 1 184,1ebc 2 1 184,1ebe 1 1 185,1ebf 1 1 185,1ebg 2 1 185",
    "1ebi 1 1 186,1ebj 1 1 186,1ebk 2 1 186,1ebm 1 1 187,1ebn 1 1 187,1ebo 2 1 187,1ebq 1 1 188",
    "1ebr 1 1 188,1ebs 2 1 188,1ebu 1 1 189,1ebv 1 1 189,1ebw 2 1 189,1eby 1 1 18a,1ebz 1 1 18a",
    "1ec0 1 1 18a,1ec1 1 1 18h,1ec2 1 1 18h,1ec3 1 1 18h,1ec4 2 1 18h,1ec6 1 1 18i,1ec7 1 1 18i",
    "1ec8 2 1 18i,1eca 1 1 18j,1ecb 1 1 18j,1ecc 2 1 18j,1ece 1 1 18k,1ecf 1 1 18k,1ecg 2 1 18k",
    "1eci 1 1 18l,1ecj 1 1 18l,1eck 2 1 18l,1ecm 1 1 18m,1ecn 1 1 18m,1eco 2 1 18m,1ecq 1 1 18n",
    "1ecr 1 1 18n,1ecs 2 1 18n,1ecu 2 1 18o,1ecw 2 1 18p,1ecy 1 1 18q,1ecz 1 1 18q,1ed0 1 1 18q",
    "1ed1 1 1 18k 17m,1ed2 1 1 18k 17m,1ed3 1 1 18k 17n,1ed4 1 1 18k 17n,1ed5 1 1 18k 17p",
    "1ed6 1 1 18k 17p,1ed7 1 1 18k 17r,1ed8 1 1 18k 17r,1edb 1 1,1edd w 1 x,1ee9 q 1 2p,1eez 10 1 2j",
    "1efz 2 1 879,1eg1 1 1 1a,1eg2 2 1 9ho,1eg4 1 1 9hd,1eg5 1 1 9ob,1eg6 1 1 9o2,1eg7 1 1 9lt",
    "1eg8 1 1 9lv,1eg9 1 1 9lx,1ega 1 1 9lz,1egb 1 1 9m1,1egc 1 1 9nn,1egd 1 1 9np,1ege 1 1 9nr",
    "1egf 1 1 9mr,1egg 1 1 9oc,1egh 1 1 9lu,1egi 1 1 9lw,1egj 1 1 9ly,1egk 1 1 9m0,1egl 2 1 9m2",
    "1egn 1 1 9m5,1ego 1 1 9m7,1egp 1 1 9m9,1egq 1 1 9mb,1egr 1 1 9md,1egs 1 1 9mf,1egt 1 1 9mh",
    "1egu 1 1 9mj,1egv 1 1 9ml,1egw 1 1 9mn,1egx 1 1 9mp,1egy 1 1 9ms,1egz 1 1 9mu,1eh0 1 1 9mw",
    "1eh1 6 1 9my,1eh7 1 1 9n6,1eh8 1 1 9n9,1eh9 1 1 9nc,1eha 1 1 9nf,1ehb 5 1 9ni,1ehg 1 1 9no",
    "1ehh 1 1 9nq,1ehi 6 1 9ns,1eho 1 1 9nz,1ehp 1 1 9o3,1ehq 2 1 9ll,1ehs 1 1,1eht 2 1 3cw,1ehv 1 1 3hm",
    "1ehw 1 1 3cy,1ehx 2 1 3ho,1ehz 3 1 3cz,1ei2 6 1 3hs,1ei8 1 1 3dm,1ei9 3 1 3d2,1eic 1 1 3dt",
    "1eid a 1 3d5,1eiq 6 1 3fl,1eiy 6 1 3fr,1ej6 6 1 3fx,1eje 3 1 3g3,1ejk 2 1 4i,1ejm 1 1 4s",
    "1ejn 1 1 w lg,1ejo 1 1 4m,1ejp 1 1 4l,1ejq 1 1 6g9,1ejs 1 1 7b6,1ejt 4 1 6mo,1ejx 1 1 7fk",
    "1ejy 1 1 7gr,1fcw 14 1 1fe0,1fhs 10 1 1fiw,1fn4 b 1 1fo7,1fng f 1 1foj,1fnw 7 1 1foz,1fo4 2 1 1fp7",
    "1g1t 2 1 k0,1g1v 1 1 6e,1g1w 1 1 ih,1g1x 1 1 gj,1g1z 1 1 ir,1g20 1 1 xuu,1g21 1 1 it,1g22 1 1 is",
    "1g23 2 1 gm,1g25 1 1 5u9,1g26 1 1 go,1g27 1 1 gu,1g28 1 1 ix,1g29 1 1 h0,1g2a 1 1 gy,1g2b 1 1 gw",
    "1g2c 1 1 ij,1g2d 1 1 87,1g2e 1 1 ik,1g2f 1 1 h3,1g2g 1 1 hw,1g2h 2 1 iy,1g2j 1 1 h8,1g2k 1 1 2mmc",
    "1g2l 1 1 x3i,1g2m 1 1 ha,1g2n 1 1 2mmd,1g2o 1 1 i6,1g2p 1 1 2mme,1g2q 1 1 6w,1g2r 2 1 hi,1g2t 1 1 35",
    "1g2u 1 1 hm,1g2v 1 1 2mmg,1g2w 2 1 hp,1g2y 1 1 hs,1g2z 1 1 iw,1g30 1 1 iu,1g31 1 1 xuv,1g32 1 1 iv",
    "1g33 1 1 i0,1g34 1 1 8s1,1g36 1 1 i7,1g37 2 1 ip,1g39 1 1 ig,1g3a 3 1 cg,1g3d 1 1 2mmi,1g3e 1 1 2mn2",
    "1h1c 1f 1 1h34,1h74 m 1 1h80,1jfk w 1 1jgg,20cg w 1 20dc,20f4 p 1 20fv,2fts 4 1,2j12 q 1 2p",
    "2j1s a 1 1c,2jxv 8 1,2kg0 q 1 2p,2kgq q 1 2p,2khg q 1 2p,2ki6 7 1 2p,2kie i 1 2x,2kiw q 1 2p",
    "2kjm q 1 2p,2kkc 2 2 2p,2kkf 1 1 2s,2kki 1 1 2v,2kkl 2 1 2y,2kkp 4 1 32,2kku 8 1 37,2kl2 4 1 2p",
    "2kl7 2 2 2u,2kla 6 1 2x,2klh b 1 34,2kls q 1 2p,2kmi q 1 2p,2kn8 2 1 2p,2knb 4 1 2s,2knh 8 1 2y",
    "2knq 7 1 37,2kny q 1 2p,2koo 2 1 2p,2kor 4 1 2s,2kow 5 1 2x,2kp2 1 1 33,2kp6 7 1 37,2kpe q 1 2p",
    "2kq4 q 1 2p,2kqu q 1 2p,2krk q 1 2p,2ksa q 1 2p,2kt0 q 1 2p,2ktq q 1 2p,2kug q 1 2p,2kv6 q 1 2p",
    "2kvw q 1 2p,2kwm q 1 2p,2kxc q 1 2p,2ky2 q 1 2p,2kys 1 1 8h,2kyt 1 1 fr,2kyw h 1 q9,2kzd 1 1 qg",
    "2kze 7 1 qr,2kzl 1 1 6pz,2kzm h 1 q9,2l03 1 1 qr,2l04 7 1 qr,2l0b 1 1 6pu,2l0c 1 1 qd,2l0d 1 1 qg",
    "2l0e 1 1 qi,2l0f 1 1 qu,2l0g 1 1 qp,2l0h 1 1 qo,2l0i h 1 q9,2l0z 1 1 qg,2l10 7 1 qr,2l17 1 1 6pz",
    "2l18 h 1 q9,2l1p 1 1 qr,2l1q 7 1 qr,2l1x 1 1 6pu,2l1y 1 1 qd,2l1z 1 1 qg,2l20 1 1 qi,2l21 1 1 qu",
    "2l22 1 1 qp,2l23 1 1 qo,2l24 h 1 q9,2l2l 1 1 qg,2l2m 7 1 qr,2l2t 1 1 6pz,2l2u h 1 q9,2l3b 1 1 qr",
    "2l3c 7 1 qr,2l3j 1 1 6pu,2l3k 1 1 qd,2l3l 1 1 qg,2l3m 1 1 qi,2l3n 1 1 qu,2l3o 1 1 qp,2l3p 1 1 qo",
    "2l3q h 1 q9,2l47 1 1 qg,2l48 7 1 qr,2l4f 1 1 6pz,2l4g h 1 q9,2l4x 1 1 qr,2l4y 7 1 qr,2l55 1 1 6pu",
    "2l56 1 1 qd,2l57 1 1 qg,2l58 1 1 qi,2l59 1 1 qu,2l5a 1 1 qp,2l5b 1 1 qo,2l5c h 1 q9,2l5t 1 1 qg",
    "2l5u 7 1 qr,2l61 1 1 6pz,2l62 h 1 q9,2l6j 1 1 qr,2l6k 7 1 qr,2l6r 1 1 6pu,2l6s 1 1 qd,2l6t 1 1 qg",
    "2l6u 1 1 qi,2l6v 1 1 qu,2l6w 1 1 qp,2l6x 1 1 qo,2l6y 1 1 rh,2l6z 1 1 rh,2l72 a 1 1c,2l7c a 1 1c",
    "2l7m a 1 1c,2l7w a 1 1c,2l86 a 1 1c,2muo 9 1 ts,2mux 3 1 u2,2mv0 b 1 u6,2mvb 1 1 uj,2mvc 2 1 ul",
    "2mve 1 1 ww9,2mvf 1 1 yh,2mvg 1 1 uu,2mvh 1 1 uw,2mvi 1 1 yx,2mvj 1 1 xb,2mvk 1 1 y7,2mvl 9 1 ts",
    "2mvu 2 1 u2,2mvw 2 1 u6,2mvy 1 1 u9,2mvz 6 1 ub,2mw5 2 1 ui,2mw7 1 1 wh,2mw8 1 1 uu,2mw9 1 1 ut",
    "2mwa 1 1 v3,2mwb 1 1 x7,2mwc 1 1 wup,2mwd 1 1 xd,2olc y 1 2oma,2pkw 2 1 17r,2pky 1 1 17w",
    "2pkz 1 1 17z,2pl1 1 1 18o,2pl2 1 1 182,2pl3 1 1 17x,2pl4 1 1 187,2pl5 1 1 18q,2pl6 4 1 18j",
    "2pla 1 1 183,2plb 1 1 189,2plc 1 1 18h,2pld 1 1 185,2ple 1 1 18i,2plf 1 1 181,2plg 1 1 184",
    "2plh 2 1 17u,2plj 1 1 17y,2plk 1 1 180,2pll 1 1 186,2plm 1 1 188,2pln 1 1 18a,2plo 1 1 19q",
    "2plp 1 1 1bu,2plq 1 1 1b5,2plr 1 1 19r,2plt 1 1 17s,2plu 1 1 17w,2plw 1 1 18n,2plz 1 1 17x",
    "2pm1 1 1 18q,2pm2 4 1 18j,2pm6 1 1 183,2pm7 1 1 189,2pm8 1 1 18h,2pm9 1 1 185,2pma 1 1 18i",
    "2pmc 1 1 184,2pmd 2 1 17u,2pmf 1 1 17y,2pmh 1 1 186,2pmj 1 1 18a,2pmq 1 1 17w,2pmv 1 1 17x",
    "2pmx 1 1 18q,2pmz 2 2 18k,2pn2 1 1 183,2pn3 1 1 189,2pn5 1 1 185,2pn6 1 1 18i,2pn8 1 1 184",
    "2pnb 1 1 17y,2pnd 1 1 186,2pnf 1 1 18a,2pnh 1 1 1bu,2pnj 1 1 19r,2pnl 1 1 17s,2pnm 1 1 17w",
    "2pno 1 1 18n,2pnr 1 1 17x,2pns 1 1 187,2pnt 1 1 18q,2pnu 2 2 18j,2pnx 1 1 18m,2pny 1 1 183",
    "2pnz 1 1 189,2po0 1 1 18h,2po1 1 1 185,2po2 1 1 18i,2po4 1 1 184,2po5 2 1 17u,2po7 1 1 17y",
    "2po9 1 1 186,2poa 1 1 188,2pob 1 1 18a,2poc 1 1 19q,2poe 1 1 1b5,2pog 2 1 17r,2poi 1 1 17w",
    "2poj 1 1 17z,2pok 2 1 18n,2pom 1 1 182,2pon 1 1 17x,2poo 1 1 187,2pop 1 1 18q,2por 3 1 18k",
    "2pou 1 1 183,2pov 1 1 189,2pow 1 1 18h,2pox 1 1 185,2poy 1 1 18i,2poz 1 1 181,2pp0 1 1 184",
    "2pp1 2 1 17u,2pp3 1 1 17y,2pp4 1 1 180,2pp5 1 1 186,2pp6 1 1 188,2pp7 1 1 18a,2ppd 1 1 17s",
    "2ppe 1 1 17w,2ppf 1 1 17z,2pph 1 1 18o,2ppi 1 1 182,2ppj 1 1 17x,2ppk 1 1 187,2ppl 1 1 18q",
    "2ppn 3 1 18k,2ppq 1 1 183,2ppr 1 1 189,2pps 1 1 18h,2ppt 1 1 185,2ppu 1 1 18i,2ppv 1 1 181",
    "2ppw 1 1 184,2ppx 2 1 17u,2ppz 1 1 17y,2pq0 1 1 180,2pq1 1 1 186,2pq2 1 1 188,2pq3 1 1 18a",
    "2q69 1 1 1c 18,2q6a 1 1 1d 18,2q6b 1 1 1e 18,2q6c 1 1 1f 18,2q6d 1 1 1g 18,2q6e 1 1 1h 18",
    "2q6f 1 1 1i 18,2q6g 1 1 1j 18,2q6h 1 1 1k 18,2q6i 1 1 1l 18,2q6o 1 1 14 2p 15,2q6p 1 1 14 2q 15",
    "2q6q 1 1 14 2r 15,2q6r 1 1 14 2s 15,2q6s 1 1 14 2t 15,2q6t 1 1 14 2u 15,2q6u 1 1 14 2v 15",
    "2q6v 1 1 14 2w 15,2q6w 1 1 14 2x 15,2q6x 1 1 14 2y 15,2q6y 1 1 14 2z 15,2q6z 1 1 14 30 15",
    "2q70 1 1 14 31 15,2q71 1 1 14 32 15,2q72 1 1 14 33 15,2q73 1 1 14 34 15,2q74 1 1 14 35 15",
    "2q75 1 1 14 36 15,2q76 1 1 14 37 15,2q77 1 1 14 38 15,2q78 1 1 14 39 15,2q79 1 1 14 3a 15",
    "2q7a 1 1 14 3b 15,2q7b 1 1 14 3c 15,2q7c 1 1 14 3d 15,2q7d 1 1 14 3e 15,2q7e 1 1 9hw 37 9hx",
    "2q7f 1 1 2r,2q7g 1 1 36,2q7h 1 1 2r 2s,2q7i 1 1 3b 3e,2q7k q 1 2p,2q8a 1 1 2w 3a,2q8b 1 1 31 3a",
    "2q8c 1 1 37 2s,2q8d 1 1 37 37,2q8e 1 1 34 34 3a,2q8f 1 1 3b 2r,2q96 1 1 31 2r,2q97 1 1 31 2s",
    "2q98 1 1 31 36,2qa8 1 1 2s 2y,2qdc 1 1 9kr 9jf,2qdd 1 1 9mb 9mb,2qde 1 1 9md,2qds 1 1 jez",
    "2qdt 1 1 i1j,2qdu 1 1 gjw,2qdv 1 1 9mv,2qdw 1 1 fik,2qdx 1 1 hlm,2qdy 1 1 r8j,2qdz 1 1 hm1",
    "2qe0 1 1 fj8,2qe1 1 1 k68,2qe2 1 1 mch,2qe3 1 1 k2h,2qe4 1 1 g99,2qe5 1 1 ivg,2qe6 1 1 g3x",
    "2qe7 1 1 k34,2qe8 1 1 g7x,2qe9 1 1 oqq,2qea 1 1 n4v,2qeb 1 1 rs9,2qec 1 1 hkg,2qed 1 1 gmx",
    "2qee 1 1 lxw,2qef 1 1 jh1,2qeg 1 1 jmd,2qeh 1 1 feo,2qei 1 1 fex,2qej 1 1 si2,2qek 1 1 ijq",
    "2qel 1 1 ffx,2qem 1 1 gkz,2qen 1 1 jk7,2qeo 1 1 rxs,2qep 1 1 jf7,2qeq 1 1 o01,2qer 1 1 o6y",
    "2qes 1 1 glk,2qet 1 1 lts,2qeu 1 1 kcp,2qev 1 1 kco,2qew 1 1 n5f,2qex 1 1 gaa,2qey 1 1 gxi",
    "2qez 1 1 sp9,2qf4 1 1 9hw kdo 9hx,2qf5 1 1 9hw fex 9hx,2qf6 1 1 9hw fik 9hx,2qf7 1 1 9hw i2x 9hx",
    "2qf8 1 1 9hw m9l 9hx,2qf9 1 1 9hw jf7 9hx,2qfa 1 1 9hw nh3 9hx,2qfb 1 1 9hw gd9 9hx",
    "2qfc 1 1 9hw k0n 9hx,2qfk 1 1 ivr,2qfl 1 1 gkv,2sc0 a 1 1c,jo5c 6o 1"
  ]

/-- The runs of characters that are spelled with others. -/
def spellingRuns : List SpellingRun := (Text.Packed.rows spellingLines).filterMap fun
  | start :: count :: stride :: spelling => some ⟨start, count, stride, spelling⟩
  | _ => none

namespace SpellingRun

/-- The place of a character in a run, if it is in it. -/
def index? (run : SpellingRun) (n : Nat) : Option Nat :=
  let distance := n - run.start
  if run.start ≤ n ∧ distance % run.stride = 0 ∧ distance / run.stride < run.count then
    some (distance / run.stride)
  else none

/-- The spelling of the character at a place. -/
def spelled (run : SpellingRun) (index : Nat) : List Char :=
  match run.spelling with
  | [n] => [Char.ofNat (n + index * run.stride)]
  | spelling => spelling.map Char.ofNat

end SpellingRun

/-- How a character that is not composed is spelled. -/
def spellChar (c : Char) : List Char :=
  (spellingRuns.findSome? fun run => (run.index? c.toNat).map run.spelled).getD [c]

set_option maxRecDepth 8000 in
/-- The code points where a run of characters without spelling starts or has ended, in turn. -/
def barredBounds : List Nat :=
  [
    128, 160, 888, 890, 896, 900, 907, 908, 909, 910, 930, 931, 1328, 1329, 1367, 1369, 1419, 1421,
    1424, 1425, 1480, 1488, 1515, 1519, 1525, 1542, 1564, 1565, 1757, 1758, 1806, 1808, 1867, 1869,
    1970, 1984, 2043, 2045, 2094, 2096, 2111, 2112, 2140, 2142, 2143, 2144, 2155, 2160, 2192, 2199,
    2274, 2275, 2436, 2437, 2445, 2447, 2449, 2451, 2473, 2474, 2481, 2482, 2483, 2486, 2490, 2492,
    2501, 2503, 2505, 2507, 2511, 2519, 2520, 2524, 2526, 2527, 2532, 2534, 2559, 2561, 2564, 2565,
    2571, 2575, 2577, 2579, 2601, 2602, 2609, 2610, 2612, 2613, 2615, 2616, 2618, 2620, 2621, 2622,
    2627, 2631, 2633, 2635, 2638, 2641, 2642, 2649, 2653, 2654, 2655, 2662, 2679, 2689, 2692, 2693,
    2702, 2703, 2706, 2707, 2729, 2730, 2737, 2738, 2740, 2741, 2746, 2748, 2758, 2759, 2762, 2763,
    2766, 2768, 2769, 2784, 2788, 2790, 2802, 2809, 2816, 2817, 2820, 2821, 2829, 2831, 2833, 2835,
    2857, 2858, 2865, 2866, 2868, 2869, 2874, 2876, 2885, 2887, 2889, 2891, 2894, 2901, 2904, 2908,
    2910, 2911, 2916, 2918, 2936, 2946, 2948, 2949, 2955, 2958, 2961, 2962, 2966, 2969, 2971, 2972,
    2973, 2974, 2976, 2979, 2981, 2984, 2987, 2990, 3002, 3006, 3011, 3014, 3017, 3018, 3022, 3024,
    3025, 3031, 3032, 3046, 3067, 3072, 3085, 3086, 3089, 3090, 3113, 3114, 3130, 3132, 3141, 3142,
    3145, 3146, 3150, 3157, 3159, 3160, 3163, 3164, 3166, 3168, 3172, 3174, 3184, 3191, 3213, 3214,
    3217, 3218, 3241, 3242, 3252, 3253, 3258, 3260, 3269, 3270, 3273, 3274, 3278, 3285, 3287, 3292,
    3295, 3296, 3300, 3302, 3312, 3313, 3316, 3328, 3341, 3342, 3345, 3346, 3397, 3398, 3401, 3402,
    3408, 3412, 3428, 3430, 3456, 3457, 3460, 3461, 3479, 3482, 3506, 3507, 3516, 3517, 3518, 3520,
    3527, 3530, 3531, 3535, 3541, 3542, 3543, 3544, 3552, 3558, 3568, 3570, 3573, 3585, 3643, 3647,
    3676, 3713, 3715, 3716, 3717, 3718, 3723, 3724, 3748, 3749, 3750, 3751, 3774, 3776, 3781, 3782,
    3783, 3784, 3791, 3792, 3802, 3804, 3808, 3840, 3912, 3913, 3949, 3953, 3992, 3993, 4029, 4030,
    4045, 4046, 4059, 4096, 4294, 4295, 4296, 4301, 4302, 4304, 4681, 4682, 4686, 4688, 4695, 4696,
    4697, 4698, 4702, 4704, 4745, 4746, 4750, 4752, 4785, 4786, 4790, 4792, 4799, 4800, 4801, 4802,
    4806, 4808, 4823, 4824, 4881, 4882, 4886, 4888, 4955, 4957, 4989, 4992, 5018, 5024, 5110, 5112,
    5118, 5120, 5760, 5761, 5789, 5792, 5881, 5888, 5910, 5919, 5943, 5952, 5972, 5984, 5997, 5998,
    6001, 6002, 6004, 6016, 6110, 6112, 6122, 6128, 6138, 6144, 6170, 6176, 6265, 6272, 6315, 6320,
    6390, 6400, 6431, 6432, 6444, 6448, 6460, 6464, 6465, 6468, 6510, 6512, 6517, 6528, 6572, 6576,
    6602, 6608, 6619, 6622, 6684, 6686, 6751, 6752, 6781, 6783, 6794, 6800, 6810, 6816, 6830, 6832,
    6878, 6880, 6892, 6912, 6989, 6990, 7156, 7164, 7224, 7227, 7242, 7245, 7307, 7312, 7355, 7357,
    7368, 7376, 7419, 7424, 7958, 7960, 7966, 7968, 8006, 8008, 8014, 8016, 8024, 8025, 8026, 8027,
    8028, 8029, 8030, 8031, 8062, 8064, 8117, 8118, 8133, 8134, 8148, 8150, 8156, 8157, 8176, 8178,
    8181, 8182, 8191, 8192, 8206, 8208, 8228, 8231, 8232, 8239, 8293, 8298, 8306, 8308, 8335, 8336,
    8349, 8352, 8386, 8400, 8433, 8448, 8588, 8592, 9258, 9280, 9291, 9312, 9352, 9372, 11124, 11126,
    11508, 11513, 11558, 11559, 11560, 11565, 11566, 11568, 11624, 11631, 11633, 11647, 11671, 11680,
    11687, 11688, 11695, 11696, 11703, 11704, 11711, 11712, 11719, 11720, 11727, 11728, 11735, 11736,
    11743, 11744, 11870, 11904, 11930, 11931, 12020, 12032, 12246, 12288, 12352, 12353, 12439, 12441,
    12544, 12549, 12592, 12593, 12687, 12688, 12774, 12784, 12831, 12832, 13250, 13251, 13255, 13256,
    13272, 13273, 42125, 42128, 42183, 42192, 42540, 42560, 42744, 42752, 42973, 42993, 43053, 43056,
    43066, 43072, 43128, 43136, 43206, 43214, 43226, 43232, 43348, 43359, 43389, 43392, 43470, 43471,
    43482, 43486, 43519, 43520, 43575, 43584, 43598, 43600, 43610, 43612, 43715, 43739, 43767, 43777,
    43783, 43785, 43791, 43793, 43799, 43808, 43815, 43816, 43823, 43824, 43884, 43888, 44014, 44016,
    44026, 44032, 55204, 55216, 55239, 55243, 55292, 63744, 64110, 64112, 64218, 64256, 64263, 64275,
    64280, 64285, 64311, 64312, 64317, 64318, 64319, 64320, 64322, 64323, 64325, 64326, 64976, 65008,
    65042, 65043, 65049, 65056, 65072, 65073, 65106, 65108, 65127, 65128, 65132, 65136, 65141, 65142,
    65277, 65279, 65280, 65281, 65471, 65474, 65480, 65482, 65488, 65490, 65496, 65498, 65501, 65504,
    65511, 65512, 65519, 65536, 65548, 65549, 65575, 65576, 65595, 65596, 65598, 65599, 65614, 65616,
    65630, 65664, 65787, 65792, 65795, 65799, 65844, 65847, 65935, 65936, 65949, 65952, 65953, 66000,
    66046, 66176, 66205, 66208, 66257, 66272, 66300, 66304, 66340, 66349, 66379, 66384, 66427, 66432,
    66462, 66463, 66500, 66504, 66518, 66560, 66718, 66720, 66730, 66736, 66772, 66776, 66812, 66816,
    66856, 66864, 66916, 66927, 66939, 66940, 66955, 66956, 66963, 66964, 66966, 66967, 66978, 66979,
    66994, 66995, 67002, 67003, 67005, 67008, 67060, 67072, 67383, 67392, 67414, 67424, 67432, 67456,
    67462, 67463, 67505, 67506, 67515, 67584, 67590, 67592, 67593, 67594, 67638, 67639, 67641, 67644,
    67645, 67647, 67670, 67671, 67743, 67751, 67760, 67808, 67827, 67828, 67830, 67835, 67868, 67871,
    67898, 67903, 67930, 67968, 68024, 68028, 68048, 68050, 68100, 68101, 68103, 68108, 68116, 68117,
    68120, 68121, 68150, 68152, 68155, 68159, 68169, 68176, 68185, 68192, 68256, 68288, 68327, 68331,
    68343, 68352, 68406, 68409, 68438, 68440, 68467, 68472, 68498, 68505, 68509, 68521, 68528, 68608,
    68681, 68736, 68787, 68800, 68851, 68858, 68904, 68912, 68922, 68928, 68966, 68969, 68998, 69006,
    69008, 69216, 69247, 69248, 69290, 69291, 69294, 69296, 69298, 69314, 69320, 69328, 69337, 69370,
    69416, 69424, 69466, 69488, 69514, 69552, 69580, 69600, 69623, 69632, 69710, 69714, 69750, 69759,
    69821, 69822, 69827, 69840, 69865, 69872, 69882, 69888, 69941, 69942, 69960, 69968, 70007, 70016,
    70112, 70113, 70133, 70144, 70162, 70163, 70210, 70272, 70279, 70280, 70281, 70282, 70286, 70287,
    70302, 70303, 70314, 70320, 70379, 70384, 70394, 70400, 70404, 70405, 70413, 70415, 70417, 70419,
    70441, 70442, 70449, 70450, 70452, 70453, 70458, 70459, 70469, 70471, 70473, 70475, 70478, 70480,
    70481, 70487, 70488, 70493, 70500, 70502, 70509, 70512, 70517, 70528, 70538, 70539, 70540, 70542,
    70543, 70544, 70582, 70583, 70593, 70594, 70595, 70597, 70598, 70599, 70603, 70604, 70614, 70615,
    70617, 70625, 70627, 70656, 70748, 70749, 70754, 70784, 70856, 70864, 70874, 71040, 71094, 71096,
    71134, 71168, 71237, 71248, 71258, 71264, 71277, 71296, 71354, 71360, 71370, 71376, 71396, 71424,
    71451, 71453, 71468, 71472, 71495, 71680, 71740, 71840, 71923, 71935, 71943, 71945, 71946, 71948,
    71956, 71957, 71959, 71960, 71990, 71991, 71993, 71995, 72007, 72016, 72026, 72096, 72104, 72106,
    72152, 72154, 72165, 72192, 72264, 72272, 72355, 72368, 72441, 72448, 72458, 72544, 72552, 72640,
    72674, 72688, 72698, 72704, 72713, 72714, 72759, 72760, 72774, 72784, 72813, 72816, 72848, 72850,
    72872, 72873, 72887, 72960, 72967, 72968, 72970, 72971, 73015, 73018, 73019, 73020, 73022, 73023,
    73032, 73040, 73050, 73056, 73062, 73063, 73065, 73066, 73103, 73104, 73106, 73107, 73113, 73120,
    73130, 73136, 73180, 73184, 73194, 73440, 73465, 73472, 73489, 73490, 73531, 73534, 73563, 73648,
    73649, 73664, 73714, 73727, 74650, 74752, 74863, 74864, 74869, 74880, 75076, 77712, 77811, 77824,
    78896, 78912, 78934, 78944, 82939, 82944, 83527, 90368, 90426, 92160, 92729, 92736, 92767, 92768,
    92778, 92782, 92863, 92864, 92874, 92880, 92910, 92912, 92918, 92928, 92998, 93008, 93018, 93019,
    93026, 93027, 93048, 93053, 93072, 93504, 93562, 93760, 93851, 93856, 93881, 93883, 93908, 93952,
    94027, 94031, 94088, 94095, 94112, 94176, 94181, 94192, 94199, 94208, 101590, 101631, 101663,
    101760, 101875, 110576, 110580, 110581, 110588, 110589, 110591, 110592, 110883, 110898, 110899,
    110928, 110931, 110933, 110934, 110948, 110952, 110960, 111356, 113664, 113771, 113776, 113789,
    113792, 113801, 113808, 113818, 113820, 113828, 117760, 118013, 118016, 118452, 118458, 118481,
    118496, 118513, 118528, 118574, 118576, 118599, 118608, 118724, 118784, 119030, 119040, 119079,
    119081, 119275, 119296, 119366, 119488, 119508, 119520, 119540, 119552, 119639, 119648, 119673,
    119808, 119893, 119894, 119965, 119966, 119968, 119970, 119971, 119973, 119975, 119977, 119981,
    119982, 119994, 119995, 119996, 119997, 120004, 120005, 120070, 120071, 120075, 120077, 120085,
    120086, 120093, 120094, 120122, 120123, 120127, 120128, 120133, 120134, 120135, 120138, 120145,
    120146, 120486, 120488, 120780, 120782, 121484, 121499, 121504, 121505, 121520, 122624, 122655,
    122661, 122667, 122880, 122887, 122888, 122905, 122907, 122914, 122915, 122917, 122918, 122923,
    122928, 122990, 123023, 123024, 123136, 123181, 123184, 123198, 123200, 123210, 123214, 123216,
    123536, 123567, 123584, 123642, 123647, 123648, 124112, 124154, 124368, 124411, 124415, 124416,
    124608, 124639, 124640, 124662, 124670, 124672, 124896, 124903, 124904, 124908, 124909, 124911,
    124912, 124927, 124928, 125125, 125127, 125143, 125184, 125260, 125264, 125274, 125278, 125280,
    126065, 126133, 126209, 126270, 126464, 126468, 126469, 126496, 126497, 126499, 126500, 126501,
    126503, 126504, 126505, 126515, 126516, 126520, 126521, 126522, 126523, 126524, 126530, 126531,
    126535, 126536, 126537, 126538, 126539, 126540, 126541, 126544, 126545, 126547, 126548, 126549,
    126551, 126552, 126553, 126554, 126555, 126556, 126557, 126558, 126559, 126560, 126561, 126563,
    126564, 126565, 126567, 126571, 126572, 126579, 126580, 126584, 126585, 126589, 126590, 126591,
    126592, 126602, 126603, 126620, 126625, 126628, 126629, 126634, 126635, 126652, 126704, 126706,
    126976, 127020, 127024, 127124, 127136, 127151, 127153, 127168, 127169, 127184, 127185, 127222,
    127233, 127406, 127462, 127491, 127504, 127548, 127552, 127561, 127568, 127570, 127584, 127590,
    127744, 128729, 128732, 128749, 128752, 128765, 128768, 128986, 128992, 129004, 129008, 129009,
    129024, 129036, 129040, 129096, 129104, 129114, 129120, 129160, 129168, 129198, 129200, 129212,
    129216, 129218, 129232, 129241, 129280, 129624, 129632, 129646, 129648, 129661, 129664, 129675,
    129678, 129735, 129736, 129737, 129741, 129757, 129759, 129771, 129775, 129785, 129792, 129939,
    129940, 130043, 131072, 173792, 173824, 178206, 178208, 183982, 183984, 191457, 191472, 192094,
    194560, 195102, 196608, 201547, 201552, 210042, 917760, 918000
  ]

/-- A character without spelling. -/
def isBarred (c : Char) : Bool := (barredBounds.takeWhile (· ≤ c.toNat)).length % 2 == 1

/-- The spelling of a text, if all its characters have one. -/
def spelling? (text : List Char) : Option (List Char) :=
  if text.any isBarred then none
  else some (Text.composed (text.flatMap fun c => (Text.parts c).flatMap spellChar))

end Stepwise.Domain

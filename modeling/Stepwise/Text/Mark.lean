import Stepwise.Text.Packed

/-!
# Marks

A mark is a character that combines with the one before it. Some marks have a class: marks of different
classes that follow the same letter may stand in any order without a difference, and the order of the
classes is the usual one. The classes of other characters are zero.
-/

set_option autoImplicit false

namespace Stepwise.Text

/-- A run of marks of the same class: from one code point up to another. -/
structure MarkRun where
  start : Nat
  stop : Nat
  order : Nat

/-- The runs of marks: where each starts, where it has ended, and the class. -/
def markLines : List String :=
  [
    "lc lx 6e,lx ly 6g,ly m2 64,m2 m3 6g,m3 m4 60,m4 m9 64,m9 mb 5m,mb mf 64,mf mh 5m,mh ms 64,ms mx 1",
    "mx n1 64,n1 n9 6e,n9 na 6o,na nb 6e,nb ne 64,ne nh 6e,nh nj 64,nj nk 0,nk nn 6e,nn nr 64,nr ns 6e",
    "ns nt 6g,nt nv 64,nv nw 6e,nw nx 6h,nx nz 6i,nz o0 6h,o0 o2 6i,o2 o3 6h,o3 og 6e,w3 w8 6e,w8 wa 0",
    "13l 13m 64,13m 13q 6e,13q 13r 64,13r 13u 6e,13u 13v 66,13v 13w 64,13w 142 6e,142 148 64,148 14a 6e",
    "14a 14b 64,14b 14d 6e,14d 14e 66,14e 14f 6c,14f 14g 6e,14g 14h a,14h 14i b,14i 14j c,14j 14k d",
    "14k 14l e,14l 14m f,14m 14n g,14n 14o h,14o 14p i,14p 14r j,14r 14s k,14s 14t l,14t 14u m,14v 14w n",
    "14x 14y o,14y 14z p,150 151 6e,151 152 64,153 154 i,174 17c 6e,17c 17d u,17d 17e v,17e 17f w",
    "18r 18s r,18s 18t s,18t 18u t,18u 18v u,18v 18w v,18w 18x w,18x 18y x,18y 18z y,18z 191 6e",
    "191 193 64,193 198 6e,198 199 64,199 19b 6e,19b 19c 64,19s 19t z,1cm 1ct 6e,1cv 1cz 6e,1cz 1d0 64",
    "1d0 1d1 6e,1d3 1d5 6e,1d6 1d7 64,1d7 1d9 6e,1d9 1da 64,1e9 1ea 10,1f4 1f5 6e,1f5 1f6 64,1f6 1f8 6e",
    "1f8 1f9 64,1f9 1fb 6e,1fb 1fe 64,1fe 1ff 6e,1ff 1fh 64,1fh 1fi 6e,1fi 1fj 64,1fj 1fm 6e,1fm 1fn 64",
    "1fn 1fo 6e,1fo 1fp 64,1fp 1fq 6e,1fq 1fr 64,1fr 1fs 6e,1fs 1ft 64,1ft 1fv 6e,1ie 1ip 0,1kb 1ki 6e",
    "1ki 1kj 64,1kj 1kk 6e,1kt 1ku 64,1li 1lm 6e,1ln 1lw 6e,1lx 1m0 6e,1m1 1m6 6e,1nd 1ng 64,1p3 1p5 6e",
    "1p5 1p8 64,1p8 1pc 6e,1qi 1qn 6e,1qn 1qs 64,1qs 1r6 6e,1r7 1r8 64,1r8 1ra 6e,1ra 1rb 64,1rb 1rd 6e",
    "1rd 1re 64,1re 1rh 6e,1rh 1rk 64,1rk 1rl r,1rl 1rm s,1rm 1rn t,1rn 1rq 6e,1rq 1rr 64,1rr 1rt 6e",
    "1rt 1rv 64,1rv 1s0 6e,1s0 1s4 0,1tm 1to 0,1to 1tp 7,1tq 1u5 0,1u5 1u6 9,1u6 1u8 0,1u9 1ua 6e",
    "1ua 1ub 64,1ub 1ud 6e,1ud 1ug 0,1uq 1us 0,1vl 1vo 0,1x8 1x9 7,1xa 1xh 0,1xj 1xl 0,1xn 1xp 0",
    "1xp 1xq 9,1xz 1y0 0,1ya 1yc 0,1z2 1z3 6e,1z5 1z8 0,20s 20t 7,20u 20z 0,213 215 0,217 219 0,219 21a 9",
    "21d 21e 0,228 22a 0,22d 22e 0,22p 22s 0,24c 24d 7,24e 24m 0,24n 24q 0,24r 24t 0,24t 24u 9,25e 25g 0",
    "262 268 0,269 26c 0,27w 27x 7,27y 285 0,287 289 0,28b 28d 0,28d 28e 9,28l 28o 0,28y 290 0,29u 29v 0",
    "2bi 2bn 0,2bq 2bt 0,2bu 2bx 0,2bx 2by 9,2c7 2c8 0,2dc 2dh 0,2f0 2f1 7,2f2 2f9 0,2fa 2fd 0,2fe 2fh 0",
    "2fh 2fi 9,2fp 2fq 2c,2fq 2fr 2j,2g2 2g4 0,2gx 2h0 0,2ik 2il 7,2im 2it 0,2iu 2ix 0,2iy 2j1 0",
    "2j1 2j2 9,2j9 2jb 0,2jm 2jo 0,2k3 2k4 0,2kg 2kk 0,2m3 2m5 9,2m6 2md 0,2me 2mh 0,2mi 2ml 0,2ml 2mm 9",
    "2mv 2mw 0,2n6 2n8 0,2o1 2o4 0,2q2 2q3 9,2q7 2qd 0,2qe 2qf 0,2qg 2qo 0,2r6 2r8 0,2sx 2sy 0,2t0 2t4 0",
    "2t4 2t6 2v,2t6 2t7 9,2tj 2tk 0,2tk 2to 2z,2to 2tr 0,2wh 2wi 0,2wk 2wo 0,2wo 2wq 3a,2wq 2wr 9",
    "2wr 2wt 0,2x4 2x8 3e,2x8 2xb 0,2zc 2ze 64,305 306 64,307 308 64,309 30a 60,30e 30g 0,31t 31u 3l",
    "31u 31v 3m,31v 31w 0,31w 31x 3o,31x 322 0,322 326 3m,326 328 0,328 329 3m,329 32a 0,32a 32c 6e",
    "32c 32d 9,32e 32g 6e,32l 32w 0,32x 33x 0,346 347 64,36z 37b 0,37b 37c 7,37c 37d 0,37d 37f 9",
    "37f 37j 0,386 38a 0,38e 38h 0,38i 38l 0,38n 38u 0,38x 391 0,39e 39p 0,39p 39q 64,39r 39s 0,3a2 3a6 0",
    "3tp 3ts 6e,4k2 4k4 0,4k4 4k6 9,4ky 4l0 0,4l0 4l1 9,4lu 4lw 0,4mq 4ms 0,4ok 4pe 0,4pe 4pf 9,4pf 4pg 0",
    "4pp 4pq 6e,4qz 4r2 0,4r3 4r4 0,4ud 4uf 0,4vd 4ve 6c,4yo 4z0 0,4z4 4zd 0,4zd 4ze 66,4ze 4zf 6e",
    "4zf 4zg 64,55j 55k 6e,55k 55l 64,55l 55o 0,579 57j 0,57k 57l 9,57l 585 0,585 58d 6e,58f 58g 64",
    "59s 59x 6e,59x 5a3 64,5a3 5a5 6e,5a5 5a6 64,5a6 5a7 0,5a7 5a9 64,5a9 5ab 6e,5ab 5ad 64,5ad 5ai 6e",
    "5ai 5aj 64,5aj 5b1 6e,5b1 5b2 64,5b4 5ba 6e,5ba 5bb 64,5bb 5bf 6e,5bf 5bg 6i,5c0 5c5 0,5dg 5dh 7",
    "5dh 5dw 0,5dw 5dx 9,5ez 5f0 6e,5f0 5f1 64,5f1 5f8 6e,5fk 5fn 0,5gh 5gq 0,5gq 5gs 9,5gs 5gu 0",
    "5ie 5if 7,5if 5iq 0,5iq 5is 9,5k4 5kn 0,5kn 5ko 7,5ow 5oz 6e,5p0 5p1 1,5p1 5p6 64,5p6 5p8 6e",
    "5p8 5pc 64,5pc 5pd 6e,5pd 5pe 0,5pe 5pl 1,5pp 5pq 64,5pw 5px 6e,5pz 5q0 0,5q0 5q2 6e,5vk 5vm 6e",
    "5vm 5vn 64,5vn 5vu 6e,5vu 5vv 64,5vv 5vx 6e,5vx 5vy 6i,5vy 5vz 5y,5vz 5w0 64,5w0 5w1 5m,5w1 5x2 6e",
    "5x2 5x3 6g,5x3 5x5 6c,5x5 5x6 64,5x6 5x7 62,5x7 5x8 6e,5x8 5x9 6h,5x9 5xa 64,5xa 5xb 6e,5xb 5xc 64",
    "6hc 6he 6e,6he 6hg 1,6hg 6hk 6e,6hk 6hn 1,6hn 6hp 6e,6hp 6ht 0,6ht 6hu 6e,6hu 6hx 0,6hx 6hz 1",
    "6hz 6i0 6e,6i0 6i1 64,6i1 6i2 6e,6i2 6i4 1,6i4 6i8 64,6i8 6i9 6e,8vj 8vm 6e,8zj 8zk 9,928 934 6e",
    "9ii 9ij 62,9ij 9ik 6c,9ik 9il 6g,9il 9im 66,9im 9io 68,9ll 9ln 8,wvj wvk 6e,wvk wvn 0,wvo wvy 6e",
    "wwu www 6e,wz4 wz6 6e,x6q x6r 0,x6u x6v 9,x6z x70 0,x7n x7s 0,x7w x7x 9,xa8 xaa 0,xbo xc4 0",
    "xc4 xc5 9,xc5 xc6 0,xcw xde 6e,xdr xds 0,xeu xez 0,xez xf2 64,xfr xg3 0,xg3 xg4 9,xhc xhg 0",
    "xir xis 7,xis xj4 0,xj4 xj5 9,xk5 xk6 0,xm1 xmf 0,xmr xms 0,xn0 xn2 0,xob xoe 0,xps xpt 6e",
    "xpu xpw 6e,xpw xpx 64,xpz xq1 6e,xq6 xq8 6e,xq9 xqa 6e,xrf xrk 0,xrp xrq 0,xrq xrr 9,xyb xyj 0",
    "xyk xyl 0,xyl xym 9,1dlq 1dlr q,1e68 1e6o 0,1e74 1e7b 6e,1e7b 1e7i 64,1e7i 1e7k 6e,1eyl 1eym 64",
    "1f4w 1f4x 64,1f92 1f97 6e,1gjl 1gjo 0,1gjp 1gjr 0,1gjw 1gjx 0,1gjx 1gjy 64,1gjy 1gjz 0,1gjz 1gk0 6e",
    "1gl4 1gl5 6e,1gl5 1gl6 1,1gl6 1gl7 64,1glb 1glc 9,1gpx 1gpy 6e,1gpy 1gpz 64,1h5w 1h60 6e",
    "1h7t 1h7y 6e,1hgr 1hgt 6e,1hiy 1hj0 64,1hj0 1hj1 0,1hj1 1hj4 64,1hl2 1hl4 64,1hl4 1hl7 6e",
    "1hl7 1hl8 64,1hl8 1hl9 6e,1hl9 1hld 64,1hmq 1hmr 6e,1hmr 1hms 64,1hms 1hmt 6e,1hmt 1hmu 64",
    "1hq8 1hqb 0,1hrs 1hs6 0,1hs6 1hs7 9,1htc 1htd 9,1htf 1hth 0,1htr 1hts 9,1hts 1htv 0,1hv4 1hvd 0",
    "1hvd 1hve 9,1hve 1hvf 7,1hvm 1hvn 0,1hxc 1hxf 6e,1hyf 1hyr 0,1hyr 1hyt 9,1hz9 1hzb 0,1i0j 1i0k 7",
    "1i0w 1i0z 0,1i2b 1i2o 0,1i2o 1i2p 9,1i2x 1i2y 0,1i2y 1i2z 7,1i2z 1i31 0,1i32 1i34 0,1i5o 1i5x 0",
    "1i5x 1i5y 9,1i5y 1i5z 7,1i5z 1i60 0,1i66 1i67 0,1i69 1i6a 0,1ian 1iax 0,1iax 1iay 7,1iay 1iaz 9",
    "1ibk 1ibo 0,1id7 1id9 7,1ida 1idh 0,1idj 1idl 0,1idn 1idp 0,1idp 1idq 9,1idz 1ie0 0,1iea 1iec 0",
    "1iee 1iel 6e,1ieo 1iet 6e,1igo 1igx 0,1igy 1igz 0,1ih1 1ih2 0,1ih3 1ih7 0,1ih8 1iha 0,1iha 1ihd 9",
    "1ihe 1ihf 0,1iht 1ihv 0,1ik5 1iki 0,1iki 1ikj 9,1ikj 1ikm 0,1ikm 1ikn 7,1ila 1ilb 6e,1ink 1io2 0",
    "1io2 1io3 9,1io3 1io4 7,1iun 1iuu 0,1iuw 1iv3 0,1iv3 1iv4 9,1iv4 1iv5 7,1ivw 1ivy 0,1iy8 1iyn 0",
    "1iyn 1iyo 9,1iyo 1iyp 0,1j1n 1j1y 0,1j1y 1j1z 9,1j1z 1j20 7,1j4t 1j57 0,1j57 1j58 9,1jcc 1jcp 0",
    "1jcp 1jcq 9,1jcq 1jcr 7,1jjk 1jjq 0,1jjr 1jjt 0,1jjv 1jjx 0,1jjx 1jjz 9,1jk0 1jk1 0,1jk2 1jk3 0",
    "1jk3 1jk4 7,1jo1 1jo8 0,1joa 1jog 0,1jog 1joh 9,1jok 1jol 0,1jpd 1jpn 0,1jqr 1jqs 0,1jqs 1jqt 9",
    "1jqt 1jqy 0,1jqz 1jr3 0,1jrb 1jrc 9,1jrl 1jrw 0,1jt6 1jtl 0,1jtl 1jtm 9,1jz4 1jzc 0,1k4v 1k53 0",
    "1k54 1k5b 0,1k5b 1k5c 9,1k7m 1k88 0,1k89 1k8n 0,1kc1 1kc7 0,1kca 1kcb 0,1kcc 1kce 0,1kcf 1kci 0",
    "1kci 1kcj 7,1kcj 1kck 0,1kck 1kcm 9,1kcn 1kco 0,1kei 1ken 0,1keo 1keq 0,1ker 1kev 0,1kev 1kew 9",
    "1koj 1kon 0,1kow 1koy 0,1koz 1kp0 0,1kqc 1kqj 0,1kqm 1kqp 0,1kqp 1kqr 9,1kre 1krf 0,1ow0 1ow1 0",
    "1ow7 1owm 0,1xr2 1xrj 0,1xrj 1xrk 9,1zow 1zp1 1,1zqo 1zqv 6e,20jz 20k0 0,20k1 20lk 0,20lr 20lv 0",
    "20o4 20o5 0,20og 20oi 6,2ftp 2ftq 0,2ftq 2ftr 1,2jgg 2jhq 0,2jhs 2jif 0,2jxh 2jxj 60,2jxj 2jxm 1",
    "2jxp 2jxq 6a,2jxq 2jxv 60,2jy3 2jyb 64,2jyd 2jyi 6e,2jyi 2jyk 64,2jze 2jzi 6e,2k3m 2k3p 6e",
    "2lmo 2lo7 0,2lob 2lpp 0,2lpx 2lpy 0,2lqc 2lqd 0,2lqz 2lr4 0,2lr5 2lrk 0,2mtc 2mtj 6e,2mtk 2mu1 6e",
    "2mu3 2mua 6e,2mub 2mud 6e,2mue 2muj 6e,2mxb 2mxc 6e,2n1s 2n1z 6e,2nce 2ncf 6e,2ne4 2ne8 6e",
    "2nsc 2nse 6g,2nse 2nsf 64,2nsf 2nsg 6e,2nzi 2nzj 6e,2nzj 2nzk 64,2o6b 2o6c 6e,2o6e 2o6f 6e",
    "2o6m 2o6o 6e,2o6t 2o6u 6e,2ok0 2ok7 64,2on8 2one 6e,2one 2onf 7,jo5c joc0 0"
  ]

/-- The runs of marks, in the order of their code points. -/
def markRuns : List MarkRun := (Packed.rows markLines).filterMap fun
  | [start, stop, order] => some ⟨start, stop, order⟩
  | _ => none

/-- The run that a character is in, if it is a mark. -/
def markRun? (c : Char) : Option MarkRun :=
  markRuns.find? fun run => decide (run.start ≤ c.toNat ∧ c.toNat < run.stop)

/-- A character that combines with the one before it. -/
def isMark (c : Char) : Bool := (markRun? c).isSome

/-- The class of a mark. -/
def markOrder (c : Char) : Nat := ((markRun? c).map MarkRun.order).getD 0

/-- The class of the marks that take a vowel away. -/
def vowelKiller : Nat := 9

end Stepwise.Text

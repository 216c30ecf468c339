import Stepwise.Text.Packed

/-!
# The direction of domain names

Some scripts are written from right to left. Where a domain name has such characters, each of its labels has
to keep to one direction, so that it is read in one way only.
-/

set_option autoImplicit false

namespace Stepwise.Domain

/-- What a character tells about the direction of a text. -/
inductive Direction where
  | leftward
  | rightward
  /-- A digit of an eastern script. -/
  | easternDigit
  /-- A digit that all scripts share. -/
  | digit
  | mark
  /-- A sign that takes the direction of what is around it. -/
  | neutral
  /-- Characters that set a direction of their own. -/
  | setting
deriving DecidableEq, Repr

/-- The direction of a number in the table. -/
def Direction.ofNumber : Nat → Direction
  | 0 => .rightward
  | 1 => .leftward
  | 2 => .easternDigit
  | 3 => .digit
  | 4 => .mark
  | 5 => .neutral
  | _ => .setting

/-- The code points at which the direction changes, with the direction from there on. -/
def directionLines : List String :=
  [
    "0 5,9 6,e 5,s 6,x 5,1c 3,1m 5,2p 0,3f 5,67 0,6v 5,6w 0,jd 5,jf 0,jm 5,k0 0,k2 5,ku 0,kv 5,lc 4,oh 0",
    "ol 5,on 0,s6 5,s8 0,w3 4,wb 0,13e 5,13l 4,14u 1,14v 4,14w 1,14x 4,14z 1,150 4,152 1,153 4,15c 1",
    "16u 5,16w 1,16x 5,16z 1,170 5,171 1,172 5,174 4,17f 1,18r 4,19c 2,19m 5,19n 2,19p 1,19s 4,19t 1",
    "1cm 4,1cu 5,1cv 4,1d1 1,1d3 4,1d5 5,1d6 4,1da 1,1dc 3,1dm 1,1e9 4,1ea 1,1f4 4,1fx 1,1ie 4,1ip 1",
    "1kb 4,1kk 1,1km 5,1kq 1,1kt 4,1ku 1,1li 4,1lm 1,1ln 4,1lw 1,1lx 4,1m0 1,1m1 4,1m8 1,1nd 4,1ni 1",
    "1p3 4,1pc 1,1qi 4,1s3 0,1tm 4,1tn 0,1to 4,1tp 0,1tt 4,1u1 0,1u5 4,1u6 0,1u9 4,1uo 0,1uq 4,1us 0",
    "1vl 4,1vm 0,1x8 4,1x9 0,1xd 4,1xj 0,1xp 4,1xq 0,1ya 4,1ye 0,1yq 5,1ys 0,1yz 5,1z0 0,1z2 4,1z7 0",
    "20s 4,20u 0,20x 4,21o 0,228 4,22a 0,22d 4,22e 0,22p 4,22r 0,24c 4,24d 0,24h 4,24p 0,24t 4,24w 0",
    "25e 4,25i 0,25t 5,261 0,262 4,26a 0,27w 4,27x 0,27z 4,280 0,281 4,287 0,28d 4,28n 0,28y 4,292 0",
    "29u 4,29v 0,2bk 4,2bl 0,2bx 4,2c0 0,2cz 5,2dc 4,2dd 0,2dg 4,2dh 0,2f0 4,2f1 0,2f2 4,2f5 0,2fa 4",
    "2fs 0,2g2 4,2g6 0,2go 5,2gv 0,2gx 4,2gy 0,2ik 4,2il 0,2in 4,2io 0,2iu 4,2iv 0,2j0 4,2j9 0,2jm 4",
    "2jq 0,2kg 4,2ki 0,2m3 4,2m5 0,2m9 4,2me 0,2ml 4,2mm 0,2n6 4,2na 0,2o1 4,2o2 0,2q2 4,2q7 0,2qa 4",
    "2qg 0,2sx 4,2sy 0,2t0 4,2tb 5,2tc 0,2tj 4,2tr 0,2wh 4,2wi 0,2wk 4,2wt 0,2x4 4,2xc 0,2zc 4,2ze 0",
    "305 4,306 0,307 4,308 0,309 4,30a 5,30e 0,31t 4,327 0,328 4,32d 0,32e 4,32g 0,32l 4,33y 0,346 4",
    "347 0,371 4,375 0,376 4,37c 0,37d 4,37f 0,37h 4,37j 0,388 4,38a 0,38e 4,38h 0,38x 4,391 0,39e 4",
    "39f 0,39h 4,39j 0,39p 4,39q 0,3a5 4,3a6 0,3tp 4,3ts 0,3v4 5,3vk 0,3y8 5,3y9 0,4gr 5,4gw 0,4k2 4",
    "4k5 0,4ky 4,4l0 0,4lu 4,4m8 0,4mq 4,4n4 0,4on 4,4ou 0,4p2 4,4p3 0,4p5 4,4pg 0,4pn 5,4po 0,4pp 4",
    "4ps 0,4q8 5,4r4 0,4ud 4,4uf 0,4vd 4,4ve 0,4yo 4,4yr 0,4yv 4,4yx 0,4z6 4,4z7 0,4zd 4,4zk 5,4zq 0",
    "53y 5,54w 0,55j 4,55l 0,55n 4,55q 0,57a 4,57b 0,57c 4,57l 0,57m 4,57n 0,57p 4,57x 0,583 4,58g 0",
    "59s 4,5c4 0,5dg 4,5dh 0,5di 4,5dn 0,5do 4,5dp 0,5du 4,5dv 0,5ez 4,5f8 0,5fk 4,5fm 0,5gi 4,5gm 0",
    "5go 4,5gq 0,5gr 4,5gu 0,5ie 4,5if 0,5ig 4,5ii 0,5il 4,5im 0,5in 4,5iq 0,5kc 4,5kk 0,5km 4,5kr 0",
    "5ow 4,5oz 0,5p0 4,5pd 0,5pe 4,5pl 0,5pp 4,5pq 0,5pw 4,5px 0,5q0 4,5q2 0,5vk 4,5xd 0,6bw 5,6hc 4",
    "6is 5,6ku 0,6mi 5,6ye 0,70b 5,711 0,712 5,753 0,75s 5,7n0 0,7n1 5,7wg 0,83k 5,8ly 0,8lz 5,8q8 0",
    "8v9 5,8vg 0,8vj 4,8vn 0,8vt 5,8w0 0,8zj 4,8zk 0,928 4,934 5,9hh 0,9hk 5,9i9 0,9ii 4,9im 0,9io 5",
    "9ip 0,9iv 5,9iz 0,9j1 5,9j5 0,9ll 4,9lp 0,9ls 5,9lt 0,9ob 5,9oc 0,9ts 5,9us 0,fcw 5,feo 0,wi8 5",
    "wk0 0,wst 5,wsw 0,wvj 4,wvn 5,wvo 4,wvy 5,ww1 0,wwu 4,www 0,wz4 4,wz6 0,wzk 5,x0j 0,x3c 5,x3d 0",
    "x6q 4,x6r 0,x6u 4,x6v 0,x6z 4,x70 0,x7p 4,x7r 0,x7s 5,x7w 4,x80 0,x88 5,x8g 0,x9w 5,xa8 0,xc4 4",
    "xce 0,xcw 4,xde 0,xdr 4,xds 0,xeu 4,xf2 0,xfr 4,xg2 0,xhc 4,xhf 0,xir 4,xis 0,xiu 4,xiy 0,xj0 4",
    "xj2 0,xk5 4,xk6 0,xm1 4,xm7 0,xm9 4,xmb 0,xmd 4,xmo 0,xmr 4,xms 0,xn0 4,xn1 0,xoc 4,xod 0,xps 4",
    "xpt 0,xpu 4,xpx 0,xpz 4,xq1 0,xq6 4,xq8 0,xq9 4,xqa 0,xrg 4,xri 0,xrq 4,xs1 0,xuy 5,xxc 0,xyd 4",
    "xye 0,xyg 4,xyh 0,xyl 4,xyo 0,1dlq 4,1dpu 1,1e0u 5,1e34 1,1e4v 5,1e74 4,1e85 5,1e9f 1,1ekg 0,1erl 5",
    "1erm 0,1etc 5,1evh 0,1evk 5,1exc 0,1eyl 4,1f28 0,1f4w 4,1f4x 3,1f5s 0,1f92 4,1f9c 0,1g5c 1,1gdb 5",
    "1gdc 1,1gjl 4,1gk0 1,1gl4 4,1glc 1,1gpx 4,1gq3 1,1gs9 5,1gsg 1,1h5w 4,1h68 2,1h6o 1,1h7t 4,1h7y 1",
    "1heo 2,1hfk 1,1hgr 4,1hgt 1,1hiy 4,1hj4 1,1hl2 4,1hld 1,1hmq 4,1hmu 1,1hq8 0,1hq9 4,1hqa 0,1hrs 4",
    "1hs7 0,1hsi 5,1ht2 0,1htc 4,1htd 0,1htf 4,1hth 0,1htr 4,1htu 0,1hv7 4,1hvb 0,1hvd 4,1hvf 0,1hvm 4",
    "1hw0 0,1hxc 4,1hxf 0,1hyf 4,1hyk 0,1hyl 4,1hyu 0,1i0j 4,1i0k 0,1i0w 4,1i0y 0,1i2e 4,1i2n 0,1i2x 4",
    "1i31 0,1i33 4,1i34 0,1i5r 4,1i5u 0,1i5w 4,1i5x 0,1i5y 4,1i60 0,1i66 4,1i67 0,1i69 4,1i80 0,1ian 4",
    "1iao 0,1iar 4,1ib4 0,1ibk 4,1ibm 0,1id7 4,1id9 0,1idc 4,1idd 0,1iee 4,1if4 0,1igr 4,1igy 0,1iha 4",
    "1ihb 0,1ihc 4,1ihd 0,1ihe 4,1ihf 0,1iht 4,1iio 0,1ik8 4,1ikg 0,1iki 4,1ikl 0,1ikm 4,1ikn 0,1ila 4",
    "1ilb 0,1inn 4,1int 0,1inu 4,1inv 0,1inz 4,1io1 0,1io2 4,1io4 0,1iuq 4,1iuw 0,1iv0 4,1iv2 0,1iv3 4",
    "1iv5 0,1ivw 4,1iww 0,1iyb 4,1iyj 0,1iyl 4,1iym 0,1iyn 4,1iyp 0,1izk 5,1j0g 0,1j1n 4,1j1o 0,1j1p 4",
    "1j1q 0,1j1s 4,1j1y 0,1j1z 4,1j20 0,1j4t 4,1j4u 0,1j4v 4,1j4w 0,1j4y 4,1j52 0,1j53 4,1j5c 0,1jcf 4",
    "1jco 0,1jcp 4,1jcr 0,1jjv 4,1jjx 0,1jjy 4,1jjz 0,1jk3 4,1jk4 0,1jo4 4,1joc 0,1jog 4,1joh 0,1jpd 4",
    "1jpn 0,1jqr 4,1jqx 0,1jqz 4,1jr3 0,1jrb 4,1jrk 0,1jrl 4,1jrr 0,1jrt 4,1jrw 0,1jt6 4,1jtj 0,1jtk 4",
    "1jtm 0,1jz4 4,1jz5 0,1jz6 4,1jz9 0,1jza 4,1jzb 0,1k4w 4,1k5a 0,1k5b 4,1k5c 0,1k7m 4,1k89 0,1k8a 4",
    "1k8h 0,1k8i 4,1k8k 0,1k8l 4,1kao 0,1kc1 4,1kcm 0,1kcn 4,1kcw 0,1keo 4,1ker 0,1ket 4,1keu 0,1kev 4",
    "1kew 0,1koj 4,1kol 0,1kow 4,1koy 0,1kqe 4,1kqm 0,1kqo 4,1kqp 0,1kqq 4,1kqr 0,1kre 4,1kts 0,1kut 5",
    "1kvz 0,1ow0 4,1ow1 0,1ow7 4,1oww 0,1xr2 4,1xre 0,1xrh 4,1xrk 0,1zow 4,1zp1 0,1zqo 4,1zqv 0,20jz 4",
    "20k0 0,20lr 4,20lv 0,20o2 5,20o3 0,20o4 4,20og 0,2ftp 4,2ftr 0,2jgg 4,2jio 0,2jxj 4,2jxm 0,2jy3 4",
    "2jyb 0,2jyd 4,2jyk 0,2jze 4,2jzi 0,2k15 5,2k3m 4,2k3p 5,2k74 0,2k8w 5,2kbk 0,2lmo 4,2lo7 0,2lob 4",
    "2lpp 0,2lpx 4,2lpy 0,2lqc 4,2lqd 0,2lqz 4,2mm8 0,2mtc 4,2n0g 0,2n1s 4,2n1z 0,2nce 4,2ncw 0,2ne4 4",
    "2ne8 0,2nen 5,2nrk 0,2nsc 4,2nsg 0,2nzi 4,2nzk 0,2o6b 4,2o6c 0,2o6e 4,2o6f 0,2o6m 4,2o6o 0,2o6t 4",
    "2o72 0,2oe8 1,2ok0 4,2oma 1,2on8 4,2onf 1,2prk 5,2q8g 0,2q99 5,2q9c 0,2qb1 5,2qcm 0,2qg0 5,2rbs 0",
    "2rbw 5,2rg7 0,2rgb 5,2roy 0,2rr4 5,2s0k 0,2s0w 5,2s21 0,2s28 5,2s3i 0,2s3j 5,2s3q 0,2s3y 5,2s4c 0",
    "2s4g 5,2s4p 0,2s4w 5,2saz 0"
  ]

/-- The code points at which the direction changes. -/
def directionRuns : List (Nat × Direction) := (Text.Packed.rows directionLines).filterMap fun
  | [start, number] => some (start, .ofNumber number)
  | _ => none

/-- The direction of a character. -/
def direction (c : Char) : Direction :=
  (((directionRuns.takeWhile fun run => run.1 ≤ c.toNat).getLast?).map Prod.snd).getD .neutral

/-- A text with characters of a script that is written from right to left. -/
def hasLeftward (text : List Char) : Bool :=
  text.any fun c => [Direction.leftward, .easternDigit].contains (direction c)

/-- A label that keeps to the direction of its first character, and ends as that direction demands. -/
def keepsDirection (label : List Char) : Bool :=
  let directions := label.map direction
  let final := (directions.reverse.dropWhile (· == .mark)).head?
  match directions.head? with
  | some .rightward =>
    directions.all [Direction.rightward, .digit, .neutral, .mark].contains &&
      (final == some .rightward || final == some .digit)
  | some .leftward =>
    directions.all [Direction.leftward, .easternDigit, .digit, .neutral, .mark].contains &&
      (final == some .leftward || final == some .easternDigit || final == some .digit) &&
      !(directions.contains .digit && directions.contains .easternDigit)
  | some _ => false
  | none => true

end Stepwise.Domain

import Stepwise.Text.Mark

/-!
# Joiners in domain names

Two characters that show nothing change how the letters around them are joined. In a domain name they may
stand only where they make a difference that can be seen: after a mark that takes a vowel away, and the one
that parts letters also between letters that would join.
-/

set_option autoImplicit false

namespace Stepwise.Domain

/-- How a letter joins those beside it. -/
inductive Joining where
  | forward
  | back
  | both
  /-- The letters on either side join as if there were nothing between. -/
  | through
deriving DecidableEq, Repr

/-- The joining of a number in the table. -/
def Joining.ofNumber : Nat → Joining
  | 1 => .forward
  | 2 => .back
  | 3 => .both
  | _ => .through

/-- The runs of characters that join: where each starts, where it has ended, and how they join. -/
def joiningLines : List String :=
  [
    "4t 4u 4,lc og 4,w3 wa 4,13l 14u 4,14v 14w 4,14x 14z 4,150 152 4,153 154 4,174 17f 4,17g 17h 4",
    "17k 17l 3,17m 17q 2,17q 17r 3,17r 17s 2,17s 17t 3,17t 17u 2,17u 17z 3,17z 183 2,183 18g 3,18h 18o 3",
    "18o 18p 2,18p 18r 3,18r 19c 4,19q 19s 3,19s 19t 4,19t 19w 2,19x 1a0 2,1a0 1ag 3,1ag 1ay 2,1ay 1c0 3",
    "1c0 1c1 2,1c1 1c3 3,1c3 1cc 2,1cc 1cd 3,1cd 1ce 2,1ce 1cf 3,1cf 1cg 2,1cg 1ci 3,1ci 1ck 2,1cl 1cm 2",
    "1cm 1ct 4,1cv 1d1 4,1d3 1d5 4,1d6 1da 4,1da 1dc 2,1dm 1dp 3,1dr 1ds 3,1e7 1e8 4,1e8 1e9 2,1e9 1ea 4",
    "1ea 1ed 3,1ed 1ei 2,1ei 1em 3,1em 1en 2,1en 1ew 3,1ew 1ex 2,1ex 1ey 3,1ey 1ez 2,1ez 1f0 3,1f0 1f1 2",
    "1f1 1f3 3,1f3 1f4 2,1f4 1fv 4,1fx 1fy 2,1fy 1g9 3,1g9 1gc 2,1gc 1gr 3,1gr 1gt 2,1gt 1gx 3,1gx 1gy 2",
    "1gy 1gz 3,1gz 1h1 2,1h1 1h4 3,1h4 1h6 2,1h6 1hc 3,1ie 1ip 4,1je 1kb 3,1kb 1kk 4,1kt 1ku 4,1li 1lm 4",
    "1ln 1lw 4,1lx 1m0 4,1m1 1m6 4,1mo 1mp 2,1mp 1mu 3,1mu 1mw 2,1mw 1mx 3,1mx 1my 2,1my 1n8 3,1n8 1n9 2",
    "1n9 1na 3,1na 1nd 2,1nd 1ng 4,1nk 1nl 3,1nm 1nq 3,1nr 1ns 2,1ns 1nt 3,1nt 1nv 2,1o0 1oj 2,1om 1on 3",
    "1op 1ou 3,1ou 1ov 2,1ov 1ow 3,1p3 1pc 4,1pc 1pm 3,1pm 1pp 2,1pq 1pr 2,1pr 1pt 3,1pt 1pv 2,1pv 1q1 3",
    "1q1 1q2 2,1q2 1qh 3,1qi 1r6 4,1r7 1s3 4,1tm 1tn 4,1to 1tp 4,1tt 1u1 4,1u5 1u6 4,1u9 1ug 4,1uq 1us 4",
    "1vl 1vm 4,1x8 1x9 4,1xd 1xh 4,1xp 1xq 4,1ya 1yc 4,1z2 1z3 4,1z5 1z7 4,20s 20t 4,20x 20z 4,213 215 4",
    "217 21a 4,21d 21e 4,228 22a 4,22d 22e 4,22p 22r 4,24c 24d 4,24h 24m 4,24n 24p 4,24t 24u 4,25e 25g 4",
    "262 268 4,269 26a 4,27w 27x 4,27z 280 4,281 285 4,28d 28e 4,28l 28n 4,28y 290 4,29u 29v 4,2bk 2bl 4",
    "2bx 2by 4,2dc 2dd 4,2dg 2dh 4,2f0 2f1 4,2f2 2f5 4,2fa 2fd 4,2fe 2fi 4,2fp 2fr 4,2g2 2g4 4,2gx 2gy 4",
    "2ik 2il 4,2in 2io 4,2iu 2iv 4,2j0 2j2 4,2jm 2jo 4,2kg 2ki 4,2m3 2m5 4,2m9 2md 4,2ml 2mm 4,2n6 2n8 4",
    "2o1 2o2 4,2q2 2q3 4,2qa 2qd 4,2qe 2qf 4,2sx 2sy 4,2t0 2t7 4,2tj 2tr 4,2wh 2wi 4,2wk 2wt 4,2x4 2xb 4",
    "2zc 2ze 4,305 306 4,307 308 4,309 30a 4,31t 327 4,328 32d 4,32e 32g 4,32l 32w 4,32x 33x 4,346 347 4",
    "371 375 4,376 37c 4,37d 37f 4,37h 37j 4,388 38a 4,38e 38h 4,38x 391 4,39e 39f 4,39h 39j 4,39p 39q 4",
    "3a5 3a6 4,3tp 3ts 4,4k2 4k5 4,4ky 4l0 4,4lu 4lw 4,4mq 4ms 4,4ok 4om 4,4on 4ou 4,4p2 4p3 4,4p5 4pg 4",
    "4pp 4pq 4,4qv 4qw 3,4qz 4r2 4,4r3 4r4 4,4rk 4u1 3,4ud 4uf 4,4uf 4vd 3,4vd 4ve 4,4ve 4vf 3,4yo 4yr 4",
    "4yv 4yx 4,4z6 4z7 4,4zd 4zg 4,55j 55l 4,55n 55o 4,57a 57b 4,57c 57j 4,57k 57l 4,57m 57n 4,57p 57x 4",
    "583 58d 4,58f 58g 4,59s 5b2 4,5b4 5bg 4,5c0 5c4 4,5dg 5dh 4,5di 5dn 4,5do 5dp 4,5du 5dv 4,5ez 5f8 4",
    "5fk 5fm 4,5gi 5gm 4,5go 5gq 4,5gr 5gu 4,5ie 5if 4,5ig 5ii 4,5il 5im 4,5in 5iq 4,5kc 5kk 4,5km 5ko 4",
    "5ow 5oz 4,5p0 5pd 4,5pe 5pl 4,5pp 5pq 4,5pw 5px 4,5q0 5q2 4,5vk 5xc 4,6bv 6bw 4,6by 6c0 4,6cq 6cv 4",
    "6e8 6ed 4,6ei 6eo 4,6hc 6i9 4,8vj 8vm 4,8zj 8zk 4,928 934 4,9ii 9im 4,9ll 9ln 4,wvj wvn 4,wvo wvy 4",
    "wwu www 4,wz4 wz6 4,x6q x6r 4,x6u x6v 4,x6z x70 4,x7p x7r 4,x7w x7x 4,x8g x9u 3,x9u x9v 1,xc4 xc6 4",
    "xcw xde 4,xdr xds 4,xeu xf2 4,xfr xg2 4,xhc xhf 4,xir xis 4,xiu xiy 4,xj0 xj2 4,xk5 xk6 4,xm1 xm7 4",
    "xm9 xmb 4,xmd xmf 4,xmr xms 4,xn0 xn1 4,xoc xod 4,xps xpt 4,xpu xpx 4,xpz xq1 4,xq6 xq8 4,xq9 xqa 4",
    "xrg xri 4,xrq xrr 4,xyd xye 4,xyg xyh 4,xyl xym 4,1dlq 1dlr 4,1e68 1e6o 4,1e74 1e7k 4,1edb 1edc 4",
    "1ek9 1ekc 4,1eyl 1eym 4,1f4w 1f4x 4,1f92 1f97 4,1gjl 1gjo 4,1gjp 1gjr 4,1gjw 1gk0 4,1gl4 1gl7 4",
    "1glb 1glc 4,1gow 1gp1 3,1gp1 1gp2 2,1gp3 1gp4 2,1gp5 1gp7 2,1gp9 1gpa 1,1gpa 1gpf 2,1gpf 1gpj 3",
    "1gpj 1gpk 1,1gpk 1gpp 3,1gpp 1gpq 2,1gpq 1gpt 3,1gpt 1gpu 2,1gpw 1gpx 2,1gpx 1gpz 4,1gq3 1gq7 3",
    "1gq7 1gq8 2,1gu8 1gu9 3,1gu9 1gua 2,1gua 1gub 3,1gub 1gue 2,1gue 1guh 3,1guh 1gui 2,1gui 1guk 3",
    "1guk 1gul 2,1gul 1gum 3,1gum 1guo 2,1guo 1gup 3,1gup 1guq 2,1gvd 1gvh 2,1gvh 1gvj 3,1h4w 1h4x 1",
    "1h4x 1h5u 3,1h5u 1h5v 2,1h5v 1h5w 3,1h5w 1h60 4,1h7t 1h7y 4,1hgr 1hgt 4,1hhe 1hhf 2,1hhf 1hhh 3",
    "1hhi 1hhk 3,1hiy 1hj4 4,1hkg 1hkj 3,1hkj 1hkk 2,1hkk 1hl1 3,1hl2 1hld 4,1hld 1hlg 3,1hlg 1hlh 2",
    "1hm8 1hmc 3,1hmc 1hme 2,1hme 1hmq 3,1hmq 1hmu 4,1ho0 1ho1 3,1ho2 1ho4 3,1ho4 1ho7 2,1ho8 1ho9 3",
    "1ho9 1hob 2,1hob 1hod 3,1hod 1hoe 2,1hoe 1hog 3,1hoh 1hoi 3,1hoi 1hok 2,1hok 1hol 3,1hop 1hoq 2",
    "1hoq 1hor 3,1hor 1hos 1,1hq9 1hqa 4,1hrs 1hs7 4,1htc 1htd 4,1htf 1hth 4,1htr 1htu 4,1hv7 1hvb 4",
    "1hvd 1hvf 4,1hvm 1hvn 4,1hxc 1hxf 4,1hyf 1hyk 4,1hyl 1hyt 4,1i0j 1i0k 4,1i0w 1i0y 4,1i2e 1i2n 4",
    "1i2x 1i31 4,1i33 1i34 4,1i5r 1i5u 4,1i5w 1i5x 4,1i5y 1i60 4,1i66 1i67 4,1i69 1i6a 4,1ian 1iao 4",
    "1iar 1iaz 4,1ibk 1ibm 4,1id7 1id9 4,1idc 1idd 4,1iee 1iel 4,1ieo 1iet 4,1igr 1igx 4,1iha 1ihb 4",
    "1ihc 1ihd 4,1ihe 1ihf 4,1iht 1ihv 4,1ik8 1ikg 4,1iki 1ikl 4,1ikm 1ikn 4,1ila 1ilb 4,1inn 1int 4",
    "1inu 1inv 4,1inz 1io1 4,1io2 1io4 4,1iuq 1iuu 4,1iv0 1iv2 4,1iv3 1iv5 4,1ivw 1ivy 4,1iyb 1iyj 4",
    "1iyl 1iym 4,1iyn 1iyp 4,1j1n 1j1o 4,1j1p 1j1q 4,1j1s 1j1y 4,1j1z 1j20 4,1j4t 1j4u 4,1j4v 1j4w 4",
    "1j4y 1j52 4,1j53 1j58 4,1jcf 1jco 4,1jcp 1jcr 4,1jjv 1jjx 4,1jjy 1jjz 4,1jk3 1jk4 4,1jo4 1jo8 4",
    "1joa 1joc 4,1jog 1joh 4,1jpd 1jpn 4,1jqr 1jqx 4,1jqz 1jr3 4,1jrb 1jrc 4,1jrl 1jrr 4,1jrt 1jrw 4",
    "1jt6 1jtj 4,1jtk 1jtm 4,1jz4 1jz5 4,1jz6 1jz9 4,1jza 1jzb 4,1k4w 1k53 4,1k54 1k5a 4,1k5b 1k5c 4",
    "1k7m 1k88 4,1k8a 1k8h 4,1k8i 1k8k 4,1k8l 1k8n 4,1kc1 1kc7 4,1kca 1kcb 4,1kcc 1kce 4,1kcf 1kcm 4",
    "1kcn 1kco 4,1keo 1keq 4,1ket 1keu 4,1kev 1kew 4,1koj 1kol 4,1kow 1koy 4,1kqe 1kqj 4,1kqo 1kqp 4",
    "1kqq 1kqr 4,1kre 1krf 4,1ovk 1ow1 4,1ow7 1owm 4,1xr2 1xre 4,1xrh 1xrk 4,1zow 1zp1 4,1zqo 1zqv 4",
    "20jz 20k0 4,20lr 20lv 4,20o4 20o5 4,2ftp 2ftr 4,2fts 2ftw 4,2jgg 2jhq 4,2jhs 2jif 4,2jxj 2jxm 4",
    "2jxv 2jyb 4,2jyd 2jyk 4,2jze 2jzi 4,2k3m 2k3p 4,2lmo 2lo7 4,2lob 2lpp 4,2lpx 2lpy 4,2lqc 2lqd 4",
    "2lqz 2lr4 4,2lr5 2lrk 4,2mtc 2mtj 4,2mtk 2mu1 4,2mu3 2mua 4,2mub 2mud 4,2mue 2muj 4,2mxb 2mxc 4",
    "2n1s 2n1z 4,2nce 2ncf 4,2ne4 2ne8 4,2nsc 2nsg 4,2nzi 2nzk 4,2o6b 2o6c 4,2o6e 2o6f 4,2o6m 2o6o 4",
    "2o6t 2o6u 4,2ok0 2ok7 4,2olc 2on8 3,2on8 2ong 4,jny9 jnya 4,jnz4 jo1s 4,jo5c joc0 4"
  ]

/-- A run of characters that join alike. -/
structure JoiningRun where
  start : Nat
  stop : Nat
  joining : Joining

/-- The runs of characters that join. -/
def joiningRuns : List JoiningRun := (Text.Packed.rows joiningLines).filterMap fun
  | [start, stop, number] => some ⟨start, stop, .ofNumber number⟩
  | _ => none

/-- How a character joins, if it does. -/
def joining? (c : Char) : Option Joining :=
  (joiningRuns.find? fun run => decide (run.start ≤ c.toNat ∧ c.toNat < run.stop)).map JoiningRun.joining

/-- The character that parts letters. -/
def parter : Char := Char.ofNat 0x200c

/-- The character that joins letters. -/
def joiner : Char := Char.ofNat 0x200d

/-- How the next letter joins. -/
def nextJoining? (text : List Char) : Option Joining :=
  ((text.dropWhile fun c => joining? c == some .through).head?).bind joining?

/-- Whether the joiners in a text stand where they may, given the text before, whose last character is
first. -/
def joinersFit (before : List Char) : List Char → Bool
  | [] => true
  | c :: rest =>
    let afterKiller := (before.head?.map Text.markOrder) == some Text.vowelKiller
    let between :=
      [some Joining.forward, some .both].contains (nextJoining? before) &&
        [some Joining.back, some .both].contains (nextJoining? rest)
    let fits :=
      if c == joiner then afterKiller else if c == parter then afterKiller || between else true
    fits && joinersFit (c :: before) rest

end Stepwise.Domain

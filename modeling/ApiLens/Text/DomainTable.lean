import ApiLens.Text.PointTable

/-!
Unicode characters in domain names: what they are mapped to, how they are composed and ordered, and how they
are written and joined.
-/

namespace ApiLens.DomainTable

/-- What becomes of each character beyond ASCII in a domain name; one that is not listed stays. -/
def mapping : PointTable :=
  PointTable.read [
    "3k*w! w-3k 8:w.lk 2-21 3: 2:w.lg 3*2-3k 2:w.ld 1+lj 3:w.mf 1-3s 1-23 2:1d.6dg.1g 1:1d.6dg.1e",
    "1:1f.6dg.1g 2*n+w o*7+w 14*o/2+1 1c:2x.lj 2:2x.2y 1:2x.2y 1*2/2+1 5*4/4+1 2+1 4:30.53",
    "1:30.53 3*2/4+1 6:jg.32 1*n/2+1 1a-3d 1*3/2+1 6-7g 2+5u 1*2/2+1 4+5q 1*2/4+1 2*2+5p 5+27",
    "1+5m 1+5n 1+1 2+5p 1+5r 2+5v 1+5t 1+1 4+5v 1+5x 2+5y 1*3/2+1 6*2/3+62 1+1 5*2/3+1 2+62",
    "3*2+61 2*2/2+1 4+63 1*2/4+1 c:2s.am 1:2s.am 1:2s.am 1:30.2y 1:30.2y 1:30.2y 1:32.2y 1:32.2y",
    "1:32.2y 1*8/2+1 h*9/2+1 j:2s.3e 1:2s.3e 1:2s.3e 1*b/4+1 2-2p 1-1k 3*f/4+1 12-3m 4*4/4+1",
    "m+8bv 1+1 2-4j 1+8bs 3+1 2-5f 1+1x 1+1z 1*5/2+1 2y*2/2-g8 1-23 2-g1 1-1n 1-1m 1-1h 1-g0 1-fz",
    "w:w.li 1:w.lj 1:w.lm 1:w.mg 1:w.lf 1:w.ln 3-3h 1-hh 1-hb 1-h7 1-27 2k*2-1s 3-1c 1:lk.ld 1+38",
    "a: x*2/2+1 4-57 2+1 2*2! 2:w.qh 4-n7 1+38 1*4! 4:w.ld 1:w.lk.ld 1+12 1-k0 1*3+11 3! 1+1s 1!",
    "1*2+1r 3*h+w h! 1*9+w 18+8 1-u 1-p 1-d 1-6 1-9 1-f 1-m 2*c/2+1 o-1i 1-1c 1-1b 2-1o 1-1s",
    "2*2/3+1 2-1i 4*3-3m 3*g+28 g*w+w 28*h/2+1 16*r/2+1 1i+f 1*7/2+1 f*1c/2+1 2o! 1*12+1c 12*2!",
    "1c:12d.136 4*2! 5! 1k*8! z*4! a*h! 13! 2h:17r.19w 1:18o.19w 1:1c7.19w 1:18q.19w 2t! 1d*2!",
    "1p*2! 2v*e! 21*2! 1f*2! h! t*2! 3! c*5! 11*7! 2a! 3a:1sl.1to 1:1sm.1to 1:1sn.1to 1:1ss.1to",
    "1:1sx.1to 1:1sy.1to 1:1t7.1to 1:1tb.1to 11! 9*2! 4*2! o! 8! 2*3! 7*2! b*2! 4*2! 6*8! 9*4!",
    "4:1wh.1x8 1:1wi.1x8 1! 1:1wv.1x8 5*2! r*2! 5! 7*4! 6*2! o! 8! 2:20i.20s 1! 2:20o.20s 1! 3*2!",
    "3! 6*4! 6*2! 5*3! 4*7! 7:1zq.20s 1:1zr.20s 1:1zw.20s 2! 1:20b.20s 1*7! o*a! d! a! 4! n! 8!",
    "3! 6*2! c! 4! 4*2! 3*f! j*2! e*7! e! 4! 9*2! 4*2! o! 8! 3! 6*2! b*2! 4*2! 5*7! a*4!",
    "4:275.27w 1:276.27w 1! 6*2! k*a! c! 7*3! 6! 5*3! 5! 2! 3*3! 5*3! 6*3! f*4! 9*3! 6! 5*2! 3*6!",
    "7*e! z*5! i! 4! o! h*2! b! 4! 5*7! 9! 4! 3*2! 6*2! c*7! t! 4! o! b! 6*2! b! 4! 5*7! 9*5! 8!",
    "5*2! c! 4*c! p! 4! 1g! 4! 7*4! k*2! s! 4! j*3! r! a! 2*2! 9*3! 4*4! a! 2! 9*6! g*2! 5*c!",
    "1q:2tp.2sy 8*4! x*11! 13! 2! 6! p! 2! d:2x9.2wi b*2! 7! 2! 8! b*2! 2:2wb.2vt 1:2wb.2w1 3*w!",
    "18-1 1j:30i.33r 5! 5:30s.33r 5:30x.33r 5:312.33r 5:317.33r d:30g.33p 4*4! 6:31t.31u",
    "2:31t.31w 1:33m.328 1:33m.31t.328 1:33n.328 1:33n.31t.328 8:31t.328 i:32q.33r 5! 5:330.33r",
    "5:335.33r 5:33a.33r 5:33f.33r d:32o.33p 4! g! e*11! 5h*12+5ls 12! 1+5ls 1*5! 5+5ls 1*2! 1a-w",
    "2r*2: 6i! 5*2! 9! 2! 5*2! 17! 5*2! z! 5*2! 9! 2! 5*2! h! 1m! 5*2! 1x*2! y*3! t*6! 2k*2!",
    "2*6-8 6*2! hu! t*3! 2k*7! t*9! x*9! t*c! p! 4! 3*c! 1s*2: 16*2! c*6! g*6! h*5: f*6! 2n*7!",
    "1e*5! 23*a! 15! d*4! g*4! 5*3! 19*2! 7*b! 1j*4! u*6! h*3! 1t*2! 1v! u*2! d*6! g*6! k*2!",
    "1c*2! e*k! 2p! 4n*8! 1w*3! i*3! 1i-4su 1-4st 1-4sk 1*2-4si 2-4sj 1-4sc 1-4ro 1+r7n 1+1 2*5!",
    "5*17-2bk 17*2! 2*3-2bk b*8! 1f*5! 1d-5or 1-5l3 1*5/3-5os 2*4/3-5os 2-5ed 3*2/3-5os 7*2/3-5ot",
    "1-5cq 1-5ou 2*2-5os 2-5or 1-5pe 1*2-5bo 2-1w 1-5ph 1*2-5pg 2-5bl 1*2-5bk 2-5pi 2-5pg",
    "1*2/2-5pf 1-5ja 2-5bz 1*2-1q 2-5pi 1*2-5pf 2-1o 1-5bf 1-5ph 1-1j 1*3-52j 3*2-522 2-5q1 1-5pt",
    "1*2-5pr 2*2-52s 2-52f 1*2-52b f-4zf z-5e1 1-5rt 1-5e0 1-5ny 1-5dv 1-5ru 1-5du 1-5dt 1-5dq",
    "1*3-5do 3-18 1-5cb 1-5do 1-11 1-5cc 1-5dn 1-5dp 1*4-5do 4-5dm 1*2-5dd 2-5je 1*2-5d9 2-4c",
    "1*2-5da 2-5s1 1*3-5d8 3-553 1t*23/2+1 4a:2p.ji 1-1m 3-5vj 2*1c/2+1 2w*8-8 e*2! 2*6-8 6*2!",
    "a*8-8 g*8-8 e*2! 2*6-8 6*2! a! 1*4/2-8 1! 2! 2! a*8-8 9-5hh 2-5hi 2-5hj 2-5hk 2-5gt 2-5gu",
    "2-5gv 1*2! 2:64g.qh 1:64h.qh 1:64i.qh 1:64j.qh 1:64k.qh 1:64l.qh 1:64m.qh 1:64n.qh 1:64g.qh",
    "1:64h.qh 1:64i.qh 1:64j.qh 1:64k.qh 1:64l.qh 1:64m.qh 1:64n.qh 1:65c.qh 1:65d.qh 1:65e.qh",
    "1:65f.qh 1:65g.qh 1:65h.qh 1:65i.qh 1:65j.qh 1:65c.qh 1:65d.qh 1:65e.qh 1:65f.qh 1:65g.qh",
    "1:65h.qh 1:65i.qh 1:65j.qh 1:674.qh 1:675.qh 1:676.qh 1:677.qh 1:678.qh 1:679.qh 1:67a.qh",
    "1:67b.qh 1:674.qh 1:675.qh 1:676.qh 1:677.qh 1:678.qh 1:679.qh 1:67a.qh 1:67b.qh 3:67k.qh",
    "1:q9.qh 1:q4.qh 1! 2:69i.qh 1*2-8 2-22 1-5jj 1:q9.qh 1:w.lv 1-5j9 1:w.lv 1:w.n6 1:w.lk.n6",
    "1:67o.qh 1:qf.qh 1:q6.qh 1! 2:69y.qh 1*2/2-2e 1-5jw 2-5jx 1:qf.qh 1:w.lv.lc 1:w.lv.ld",
    "1:w.lv.n6 4-5kz 1*2! 4*2-8 2-2s 1-5kc 1! 1:w.lw.lc 1:w.lw.ld 1:w.lw.n6 4-5kj 5*2-8 2-34",
    "1-5jy 1-7 1:w.lk.lc 1:w.lk.ld 1-68f 1*2! 2:67w.qh 1:qx.qh 1:r2.qh 1! 2:6ba.qh 1-3k 1*2/2-5kd",
    "1-3i 2:qx.qh 1:w.ld 1:w.lw 1! 1-6ao 1-6ap 1-6aq 1-6ar 1-6as 1-6at 1-6au 1-6av 1-6aw 1-6ax",
    "1-6ay 1: 3*2! 3-1 6:w.mr d*3! 4*7! 7-6bz 4:6cy.6cy 1:6cy.6cy.6cy 2:6d1.6d1 1:6d1.6d1.6d1",
    "5:x.x 2:w.lh 9:1r.1r 1:1r.x 1:x.1r e:6cy.6cy.6cy.6cy 8-6db 1*5: 5*5! 5*6: 6*3/4-6dc 1-6bs",
    "1*2! 3*3-6dc 4-6dc 1-6dr 1+bb 1-6db 1*2-6dx 2-6c1 1*a-6ds a-6e7 1+av 1-6dr 1*2-6ed 2! 1-6cv",
    "1-6cs 1-6cj 1-6cb 1-5yz 1-6ct 1*4-6cr 4-6cq 1*2-6co 2*3! b:36.37 q*e! 1b*f! f:2p.1b.2r",
    "1:2p.1b.37 1-6fz 1:4w.2r 2:2r.1b.33 1:2r.1b.39 1-624 2:4w.2u 1*2-6g3 2-6g4 1-6g5 1*2/4-6g6",
    "1-6aw 1*2/3-6g7 1-6g8 4-6g7 1:32.33 3*3-6g9 3-6ga 1-6gb 3:37.31 1:38.2t.30 1:38.31 2-6ga",
    "2-5st 2-6ge 2-6gv 1-6di 1*2-6h6 3-6h6 1*2-6h7 2+s 1-6h2 1-6h1 1*4-5et 4-6hc 2:2u.2p.3c 1-5to",
    "1-5u2 1-5u3 1-5tr 1+5t 5-6ht 1*2-6hu 2*2-6hr 8:1d.6dg.1j 1:1d.6dg.1l 1:1d.6dg.1d.1c",
    "1:1d.6dg.1f 1:1e.6dg.1f 1:1d.6dg.1h 1:1e.6dg.1h 1:1f.6dg.1h 1:1g.6dg.1h 1:1d.6dg.1i",
    "1:1h.6dg.1i 1:1d.6dg.1k 1:1f.6dg.1k 1:1h.6dg.1k 1:1j.6dg.1k 1:1d.6dg 1-6if 1:2x.2x",
    "1:2x.2x.2x 1:2x.3a 1-6i6 1:3a.2x 1:3a.2x.2x 1:3a.2x.2x.2x 1:2x.3c 1-6i9 1:3c.2x 1:3c.2x.2x",
    "1-6io 1*2-6iy 2-6iq 1-6iv 1:2x.2x 1:2x.2x.2x 1:2x.3a 1-6im 1:3a.2x 1:3a.2x.2x 1:3a.2x.2x.2x",
    "1:2x.3c 1-6ip 1:3c.2x 1:3c.2x.2x 1-6j4 1*2-6je 2-6j6 4+1 6:1c.6dg.1f 3*4! 4g:6qz.6qz",
    "1:6qz.6qz.6qz 2:6r2.6r2 1:6r2.6r2.6r2 6x*2+2jj 75*m! x*l! l*9-75b 9:1d.1c 1:1d.1d 1:1d.1e",
    "1:1d.1f 1:1d.1g 1:1d.1h 1:1d.1i 1:1d.1j 1:1d.1k 1:1d.1l 1:1e.1c 1:14.1d.15 1:14.1e.15",
    "1:14.1f.15 1:14.1g.15 1:14.1h.15 1:14.1i.15 1:14.1j.15 1:14.1k.15 1:14.1l.15 1:14.1d.1c.15",
    "1:14.1d.1d.15 1:14.1d.1e.15 1:14.1d.1f.15 1:14.1d.1g.15 1:14.1d.1h.15 1:14.1d.1i.15",
    "1:14.1d.1j.15 1:14.1d.1k.15 1:14.1d.1l.15 1:14.1e.1c.15 1*k! k:14.2p.15 1:14.2q.15",
    "1:14.2r.15 1:14.2s.15 1:14.2t.15 1:14.2u.15 1:14.2v.15 1:14.2w.15 1:14.2x.15 1:14.2y.15",
    "1:14.2z.15 1:14.30.15 1:14.31.15 1:14.32.15 1:14.33.15 1:14.34.15 1:14.35.15 1:14.36.15",
    "1:14.37.15 1:14.38.15 1:14.39.15 1:14.3a.15 1:14.3b.15 1:14.3c.15 1:14.3d.15 1:14.3e.15",
    "1*q-76d q*q-773 q-796 10i:6qz.6qz.6qz.6qz 2w:1m.1m.1p 1:1p.1p 1:1p.1p.1p 2u:8gt.mw 48*2!",
    "3w*1c+1c 2o+1 2-8af 1-2xy 1-89z 3*3/2+1 6-8bg 1-8al 1-8bj 1-8bi 2*2/3+1 a-8pe 1-8p3 1*2-8cf",
    "2*1e/2+1 2z*2/2+1 7+1 2*5! 1e! 2*5! 6*2! 1m*7! 7-e 2*e! 12*9! g! 8! 8! 8! 8! 8! 8! 8! 3j*y!",
    "1o! 5+c32 2c+m98 1*c! c+64g 1+65j 1+65w 1+664 1+66t 1+680 1+686 1+68p 1+69e 1+6ra 1+6sb",
    "1+6sg 1+6t2 1+6tl 1+6u5 1+6vl 1+6w5 1+6wf 1+70p 1+73a 1+741 1+745 1+74y 1+756 1+75w 1+768",
    "1+76w 1+78b 1+78s 1+79i 1+7uh 1+7wg 1+897 1+89t 1+8a0 1+8aa 1+8ar 1+8cu 1+8q2 1+8rd 1+8uo",
    "1+8va 1+8vs 1+8wd 1+8xu 1+8xw 1+97x 1+986 1+98h 1+98t 1+9c0 1+9c7 1+9cb 1+9fj 1+9fs 1+9g4",
    "1+9gb 1+9hz 1+9if 1+9iw 1+9l3 1+a17 1+a2g 1+a30 1+anj 1+ann 1+apx 1+aqc 1+aqo 1+ar8 1+asa",
    "1+ase 1+azs 1+b0f 1+b1a 1+bth 1+bva 1+bvw 1+bxh 1+by4 1+byc 1+byi 1+bzx 1+c01 1+c0w 1+cuu",
    "1+d78 1+d7j 1+d7n 1+d7q 1+d7x 1+d8e 1+d8f 1+dan 1+dgm 1+dgq 1+dq4 1+dqd 1+drq 1+drw 1+ds4",
    "1+dsb 1+dut 1+duz 1+e1a 1+e1g 1+e2s 1+e38 1+e4i 1+eb2 1+eb8 1+ebo 1+ekq 1+eo7 1+eoc 1+etd",
    "1+evr 1+ex0 1+f7h 1+fb5 1+fr2 1+frs 1+ftc 1+fuq 1+fwl 1+fwv 1+fx0 1+fxw 1+fzz 1+g08 1+g9t",
    "1+g9z 1+ga7 1+gaf 1+gau 1+gb8 1+gbb 1+gdh 1+gdk 1+gdp 1+h4x 1+h5q 1+hiq 1+hj1 1+hjn 1+hrh",
    "1+hrt 1+htr 1+hv0 1+iaq 1+ib4 1+ibi 1+icg 1+idg 1+iiy 1+ij9 1+il3 1+iry 1+iss 1+iyk 1+iz4",
    "1+iz8 1+j5b 1+jae 1+jdu 1+jdz 1+je3 1+k40 1+k48 1+k8j 1+kcs 1+kcu 1+ke4 1+kh0 1+khc 1+khf",
    "1+khl 1+kka 1+kl7 1+klc 1+klp 1+kqb 1+krp 1+krs 1+kwu 1+kww 1+kxe 1+l4d 1+l5o 1+l5u 1+l7r",
    "1+l80 1+l82 1+l8b 1+l94 1+lk2 1+lv5 1+lve 1+lwf 1+lx0 1+lx7 1+lxg 1+lxj 1+lym 1+lyp 1+lz5",
    "1+lz9 1+lzl 1+m0b 1+m0p 1+m0w 1+m2i 1+m2w 1+m2z 1*16! 16-9gg 2-9g4 1g-10 2+6x5 1*2+6x7 7!",
    "2f*2! 4:w.9ll 1:w.9lm 3:9l4.9l6 2o:9mb.9mw 1*5! 1c! 1*2-6cx 2*2/2-689 1-6cy 2-689 1*3-6d0",
    "3*6-68a 6-6cm 1*3-6d7 3-6cj 1*a-6d8 a*l-6b2 l: 1*2-6dt 2*2-68w 2-68t 1-68s 1-68o 1-68l 1-68k",
    "1-6du 1-68i 1-68h 1*2-6dw 2-6dv 1*2-6du 2-6dr 1-6dq 1*5-6dp 5-6dn 1-6dk 1-6db 1-6d5 1-6d1",
    "1*2-68h 2*3-6ct 3*2-6bn 2-6bl 1*2-6bd 2-6bc 1-6b3 1-6b1 1! 3+5m6 1+5q1 1+5md 1+7d2 1+5mc",
    "1+5na 1+5mb 1+dcp 1+5of 1+5mm 1+5lx 1+7t8 1+7f6 1+5qz 1z*a! q:14.3cw.15 1:14.3cy.15",
    "1:14.3cz.15 1:14.3d1.15 1:14.3d2.15 1:14.3d3.15 1:14.3d5.15 1:14.3d7.15 1:14.3d8.15",
    "1:14.3da.15 1:14.3db.15 1:14.3dc.15 1:14.3dd.15 1:14.3de.15 1:14.xz4.15 1:14.yvs.15",
    "1:14.zc4.15 1:14.108s.15 1:14.10p4.15 1:14.115g.15 1:14.1224.15 1:14.12ys.15 1:14.13f4.15",
    "1:14.14bs.15 1:14.14s4.15 1:14.158g.15 1:14.15os.15 1:14.1654.15 1:14.13p8.15",
    "1:14.1350.13ic.15 1:14.1350.16f8.15 1! 1:14.feo.15 1:14.fik.15 1:14.fex.15 1:14.h5n.15",
    "1:14.fis.15 1:14.g31.15 1:14.fer.15 1:14.g2z.15 1:14.fh9.15 1:14.gg1.15 1:14.kco.15",
    "1:14.m7f.15 1:14.ldg.15 1:14.kdk.15 1:14.ssx.15 1:14.h7j.15 1:14.k4l.15 1:14.kkq.15",
    "1:14.kcp.15 1:14.ny6.15 1:14.glp.15 1:14.mm1.15 1:14.rs1.15 1:14.nz1.15 1:14.gc4.15",
    "1:14.fkz.15 1:14.gos.15 1:14.i1y.15 1:14.nhf.15 1:14.flt.15 1:14.rt3.15 1:14.ggk.15",
    "1:14.nzh.15 1:14.fm9.15 1:14.pnu.15 1:14.po3.15 1+6x7 1+8qf 1+a4h 1+eh4 9:34.38.2t 1:1e.1d",
    "1:1e.1e 1:1e.1f 1:1e.1g 1:1e.1h 1:1e.1i 1:1e.1j 1:1e.1k 1:1e.1l 1:1f.1c 1:1f.1d 1:1f.1e",
    "1:1f.1f 1:1f.1g 1:1f.1h 1-6lc 1*2-6lb 2*3-6la 3-6l9 1*2-6l8 2*5-6l7 5+o0i 1+ox5 1+pdg 1+qa3",
    "1+qqe 1+r6p 1+s3c 1+szz 1+tga 1+ucx 1+ut8 1+v9j 1+vpu 1+w65 1:14c8.y5c 1:13p8.13dk 1+t9u",
    "2+5fk 1+5jf 1+5fr 1+76g 1+5jk 1+63s 1+5fh 1+63o 1+5hx 1+6go 1+ada 1+c80 1+be0 1+ae3 1+itf",
    "1+780 1+a51 1+al5 1+ad3 1+dyj 1+6m1 1+cmc 1+hsb 1+dza 1+6cc 1+e2n 1+d5p 1+7o8 1+ij1 1+619",
    "1+6he 1+bih 1+k11 1+5m8 1+647 1+b7k 1+5eu 1+5fs 1+5et 1+8jj 1+6kr 1+6fm 1+831 1+81n 1+dh3",
    "1+5lg 1+hsp 1+6g5 1+7l8 1:1f.1i 1:1f.1j 1:1f.1k 1:1f.1l 1:1g.1c 1:1g.1d 1:1g.1e 1:1g.1f",
    "1:1g.1g 1:1g.1h 1:1g.1i 1:1g.1j 1:1g.1k 1:1g.1l 1:1h.1c 1:1d.kco 1:1e.kco 1:1f.kco 1:1g.kco",
    "1:1h.kco 1:1i.kco 1:1j.kco 1:1k.kco 1:1l.kco 1:1d.1c.kco 1:1d.1d.kco 1:1d.1e.kco 1:2w.2v",
    "1:2t.36.2v 1:2t.3a 1:30.38.2s 1-fi 1-fh 1-fg 1-ff 1*2-fe 2-fd 1-fc 1-fb 1-fa 1-f9 1-f8 1-f7",
    "1-f6 1-f5 1-f4 1-f3 1-f1 1-f0 1-ez 1*6-ey 6-ew 1-eu 1-es 1-eq 1*5-eo 5-en 1-em 1*6-el 6*4-ek",
    "4:fl0.gp8 1:9lu.9n5.9oc.9mw 1:9lu.9nv.9n9.9lt 1:9lu.9o3.9ne.9lu 1:9lu.9oc.9nv",
    "1:9lw.9mz.9o3.9m8 1:9lw.9o3.9mp 1:9ly.9m1.9o3 1:9m0.9mh.9m7.9oc.9mx 1:9m0.9oc.9m3.9oc",
    "1:9m2.9o3.9mh 1:9m2.9oc.9nk 1:9m3.9lw.9nu 1:9m3.9nt.9mr.9mw 1:9m3.9nx.9nu.9oc 1:9m4.9nx.9o3",
    "1:9m4.9o3.9ni 1:9m6.9m4 1:9m6.9mz.9oc 1:9m5.9np.9nu.9oc 1:9m6.9nv.9mo.9oc 1:9m5.9nx",
    "1:9m5.9nx.9m8.9nt.9nk 1:9m5.9nx.9nl.9oc.9mw.9nv 1:9m5.9nx.9nz.9mr.9mw 1:9m8.9nt.9nk",
    "1:9m8.9nt.9nk.9mw.9o3 1:9m7.9nv.9mk.9lw.9nx 1:9m7.9nx.9oc.9n1 1:9m9.9oc.9mh 1:9mb.9nv.9my",
    "1:9mb.9oc.9nh 1:9md.9lw.9m7.9nv 1:9md.9o3.9mp.9oc.9nk 1:9mf.9nu.9o3.9m8 1:9mj.9o3.9mp",
    "1:9mj.9o3.9mw 1:9mo.9oc.9mh 1:9mv.9mf 1:9mx.9nv 1:9mw.9o3 1:9my.9n2 1:9n2.9mr.9mw",
    "1:9n3.9lw.9ms 1:9n5.9oc.9mj.9o3.9mw 1:9n5.9oc.9ms 1:9n4.9oc.9nw.9nv 1:9n8.9lu.9mh.9mw.9nv",
    "1:9n8.9m7.9nv 1:9n8.9mb 1:9n7.9nv 1:9n9.9lt.9nt.9mr.9mx 1:9n9.9lv.9oc.9mw",
    "1:9na.9mr.9mf.9lz.9nv 1:9n9.9nt.9o3 1:9nc.9m7.9mn.9oc.9nv 1:9ne.9ml 1:9ne.9mz.9n6",
    "1:9nc.9nv.9ms 1:9ne.9o3.9mh 1:9ne.9oc.9mg 1:9nd.9oc.9mn 1:9nh.9lw.9o3.9mw 1:9ng.9nv.9mw",
    "1:9nf.9o3 1:9nh.9o3.9mx 1:9nf.9oc.9nv 1:9nf.9oc.9o3 1:9ni.9lw.9m7.9nx 1:9ni.9lw.9nv",
    "1:9ni.9mr.9n3 1:9ni.9nv.9m7 1:9ni.9o3.9mf.9nr.9o3 1:9nj.9m7.9nx.9o3 1:9nj.9nu",
    "1:9nj.9nu.9n4.9oc.9nv 1:9nl.9m4 1:9nl.9m4.9mw.9o3 1:9nl.9oc.9mw.9nv 1:9no.9oc.9mx",
    "1:9no.9oc.9nv 1:9nq.9lu.9o3 1:9nu.9mr.9mw.9nv 1:9nu.9nt 1:9nv.9n8.9oc 1:9nv.9oc.9na.9nv",
    "1:9nw.9nk 1:9nw.9o3.9mw.9ma.9o3 1:9nz.9mr.9mw 1:1c.m9l 1:1d.m9l 1:1e.m9l 1:1f.m9l 1:1g.m9l",
    "1:1h.m9l 1:1i.m9l 1:1j.m9l 1:1k.m9l 1:1l.m9l 1:1d.1c.m9l 1:1d.1d.m9l 1:1d.1e.m9l 1:1d.1f.m9l",
    "1:1d.1g.m9l 1:1d.1h.m9l 1:1d.1i.m9l 1:1d.1j.m9l 1:1d.1k.m9l 1:1d.1l.m9l 1:1e.1c.m9l",
    "1:1e.1d.m9l 1:1e.1e.m9l 1:1e.1f.m9l 1:1e.1g.m9l 1:2w.34.2p 1:2s.2p 1:2p.39 1:2q.2p.36",
    "1:33.3a 1:34.2r 1:2s.31 1:2s.31.1e 1:2s.31.1f 1:2x.39 1:inn.jdc 1:k6l.gp8 1:hlz.l7n",
    "1:k5q.lh7 1:kkq.irz.fmi.ny6 1:34.2p 1:32.2p 1:qk.2p 1:31.2p 1:2z.2p 1:2z.2q 1:31.2q 1:2v.2q",
    "1:2r.2p.30 1:2z.2r.2p.30 1:34.2u 1:32.2u 1:qk.2u 1:qk.2v 1:31.2v 1:2z.2v 1:2w.3e 1:2z.2w.3e",
    "1:31.2w.3e 1:2v.2w.3e 1:38.2w.3e 1:qk.30 1:31.30 1:2s.30 1:2z.30 1:2u.31 1:32.31 1:qk.31",
    "1:31.31 1:2r.31 1:2z.31 1:31.31.1e 1:2r.31.1e 1:31.1e 1:2z.31.1e 1:31.31.1f 1:2r.31.1f",
    "1:31.1f 1:2z.31.1f 1:31.6qd.37 1:31.6qd.37.1e 1:34.2p 1:2z.34.2p 1:31.34.2p 1:2v.34.2p",
    "1:36.2p.2s 1:36.2p.2s.6qd.37 1:36.2p.2s.6qd.37.1e 1:34.37 1:32.37 1:qk.37 1:31.37 1:34.3a",
    "1:32.3a 1:qk.3a 1:31.3a 1:2z.3a 1:31.3a 1:34.3b 1:32.3b 1:qk.3b 1:31.3b 1:2z.3b 1:31.3b",
    "1:2z.qx 1:31.qx 1! 1:2q.35 1:2r.2r 1:2r.2s 1:2r.6qd.2z.2v 1! 1:2s.2q 1:2v.3d 1:2w.2p 1:2w.34",
    "1:2x.32 1:2z.2z 1:2z.31 1:2z.38 1:30.31 1:30.32 1:30.33.2v 1:30.3c 1:31.2q 1:31.2x.30",
    "1:31.33.30 1:34.2w 1! 1:34.34.31 1:34.36 1:37.36 1:37.3a 1:3b.2q 1:3a.6qd.31 1:2p.6qd.31",
    "1:1d.k4l 1:1e.k4l 1:1f.k4l 1:1g.k4l 1:1h.k4l 1:1i.k4l 1:1j.k4l 1:1k.k4l 1:1l.k4l 1:1d.1c.k4l",
    "1:1d.1d.k4l 1:1d.1e.k4l 1:1d.1f.k4l 1:1d.1g.k4l 1:1d.1h.k4l 1:1d.1i.k4l 1:1d.1j.k4l",
    "1:1d.1k.k4l 1:1d.1l.k4l 1:1e.1c.k4l 1:1e.1d.k4l 1:1e.1e.k4l 1:1e.1f.k4l 1:1e.1g.k4l",
    "1:1e.1h.k4l 1:1e.1i.k4l 1:1e.1j.k4l 1:1e.1k.k4l 1:1e.1l.k4l 1:1f.1c.k4l 1:1f.1d.k4l",
    "1:2v.2p.30 m8e*3! 1m*9! 9x*k! k*n/2+1 1s*e/2+1 s-w2a 1-w29 2j*8! 16*k/4+1 2*3/4+1 g*f/4+1",
    "1o-1 9*2/2+1 4-r9g 1*5/2+1 d+1 2-wmg 3*2/2+1 6*a/2+1 k*2/4-wn8 1-wnj 1-wnf 1-wn5 3-wlu 1-wmi",
    "1-wlx 1+ps 1*8/2+1 g-1c 1-wn7 1-raw 1*2/2+1 4-wo7 1*8/2+1 g-wu9 1*k! k-x32 1-x3j 1-x3h 1-x37",
    "1+1 3-wy9 1-wx2 1g*3! d*6! 1q*8! 26*8! k*6! 3e*b! 15*3! 29! c*4! 11! 1k*9! n*2! c*2! 2x*o!",
    "1g*a! g*2! 8*2! 8*9! g! 8! 19-tx 1-12 1-xdf 1-d a-xcs 3*4! 4*28-tzk 3i*2! c*6! 8mi*c! z*4!",
    "1h*6is! 6is-lh4 1-sul 1-kzc 1-ldn 1-rar 1-xqr 1-wm9 1-hnv 1-hnw 1-vjs 1-ke1 1-was 1-vk4",
    "1-tuf 1-pt1 1-o0a 1-moh 1-mdz 1-m56 1-kn8 1-s9e 1-rne 1-qwt 1-qbd 1-n2z 1-khb 1-isp 1-xp5",
    "1-wpz 1-s2h 1-qo3 1-mpe 1-hz6 1-us1 1-r3r 1-ms6 1-m2o 1-tp8 1-nke 1-mbs 1-uhq 1-suq 1-rls",
    "1-qi7 1-km6 1-xif 1-x2v 1-wup 1-tbg 1-s4e 1-qoy 1-pqk 1-nxv 1-mr3 1-moq 1-l6w 1-jd2 1-iiy",
    "1-i0w 1-pf3 1-p8d 1-of1 1-n79 1-k6z 1-hxd 1-lt7 1-voj 1-ugv 1-oo4 1-nuv 1-qn8 1-pdp 1-lfq",
    "1-jf6 1-voy 1-uzt 1-sah 1-rjn 1-rb3 1-oio 1-obd 1-jk6 1-ww0 1-nuw 1-x2w 1-x3d 1-p4q 1-oex",
    "1-n6v 1-jj8 1-lp6 1-tqk 1-sbe 1-lsv 1-xt1 1-v3s 1-ua6 1-qfu 1-q2a 1-wuk 1-pd5 1-xie 1-ud9",
    "1-xui 1-rrw 1-t81 1-ojs 1-wq0 1-vta 1-prg 1-n51 1-lvp 1-rzq 1-kw1 1-ru2 1-tpx 1-nf3 1-tlh",
    "1-q35 1-xqh 1-x73 1-x4g 1-smx 1-olw 1-nil 1-luz 1-khb 1-wwa 1-wn2 1-vm6 1-uja 1-t6m 1-r5y",
    "1-pcr 1-jq1 1-isd 1-hyp 1-hx7 1-wz3 1-szp 1-s2d 1-kyz 1-umy 1-u0v 1-txs 1-tfb 1-rcf 1-qx6",
    "1-qa3 1-p8r 1-of6 1-nxk 1-l0y 1-n1n 1-ktz 1-k7l 1-x39 1-wze 1-wkh 1-r13 1-mam 1-lx3 1-ul5",
    "1-ucu 1-tnt 1-s1j 1-ors 1-qia 1-xqc 1-w4w 1-v5v 1-usx 1-uc0 1-qgr 1-qbp 1-o45 1-nze 1-kfx",
    "1-ji4 1-jfv 1-ja4 1-xm2 1-pag 1-kjn 1-jk0 1-u6w 1-xtg 1-xcx 1-v66 1-v3y 1-t9h 1-se5 1-quq",
    "1-pz3 1-n2e 1-ksn 1-htj 1-t31 1-jo8 1-x1a 1-swd 1-st2 1-rrd 1-rhr 1-qf7 1-q5w 1-pk3 1-on3",
    "1-j8y 1-x9g 1-tyc 1-jmj 1-xih 1-uyk 1-rn0 1-l2l 1-uh9 1-u51 1-ssj 1-qj8 1-jme 1-x4k 1-wr3",
    "1-v3u 1-t71 1-syb 1-soq 1-rum 1-qfy 1-q2r 1-o6l 1-mc8 1-mbr 1-kkd 1-jk8 1-wx8 1-rhu 1-wr4",
    "1-qvy 1-qc7 1-mwm 1-jm6 1-ihn 1-i1g 1-swt 1-roq 1-npq 1-p4c 1-p20 1-orr 1-qpm 1-r4y 1-lus",
    "1-xtp 1-ngo 1-x51 1-x6h 1-uor 1-tv3 1-oq5 1-vb3 1-rtz 1-t3m 1-l3g 1-mgs 1-jp8 1-m7z 1-uns",
    "1-xcc 1-wgd 3-vxy 2-t5q 3-x87 1-qng 1-pxp 1-pgc 1-pff 1-pf9 1-pe4 1-jie 1-orj 1-o69 2-mxa",
    "2-lyi 3-kx9 1-krt 4-j7f 1-j73 1-j5w 1-i9l 1-ksw 1-jnc 1-xoi 1-xfu 1-xd1 1-x2i 1-x1s 1-wys",
    "1-wih 1-wfl 1-wcw 1-vzt 1-vwy 1-v6f 1-v66 1-ucp 1-u6u 1-u5t 1-u32 1-tf6 1-tb4 1-t6a 1-ssf",
    "1-rta 1-ros 1-rhh 1-r16 1-qvy 1-qi0 1-pmi 1-phq 1-phg 1-phi 1-phb 1-ph6 1-ph0 1*2-pfp 2-pas",
    "1-p90 1-p06 1-okj 1-ojz 1-oig 1-oa0 1-o5y 1-nsf 1-nok 1-nol 1-nbc 1-mds 1-ma3 1-m01 1-lyi",
    "1-ln5 1-llp 1-l2o 1-kz3 1-jnp 1-jfu 1-je7 1-ueu 1+1sw2 1-nrp 1*2! 2-y16 1-xbw 1-xe2 1-xrn",
    "1-xf3 1-xdh 1-x4f 1-x31 1-wkb 1-wmc 1-wkh 1-wih 1-w0y 1-vyi 1-vui 1-vu3 1-vmm 1-vh5 1-ur4",
    "1-uqy 1-umz 1-ul4 1-ucu 1-u9l 1-ubk 1-u7v 1-u96 1-u55 1-u3c 1-ts9 1-tpu 1-tod 1-th6 1-t99",
    "1-t4r 1-t4o 1-t32 1-s9o 1-s7w 1-rx2 1-rlp 1-rm6 1-rjs 1-rct 1-r3i 1-pva 1-qy1 1-quo 1-qra",
    "1-qi8 1-qe4 1-qco 1-q6f 1-q6e 1-q1o 1-q18 1-q0k 1-py7 1-pyi 1-pnj 1-pa3 1-p2l 1-oxf 1-or8",
    "1-on0 1-odv 1-o8d 1-nkx 1-ngl 1-mrg 1-met 1-mcx 1-mci 1-m4a 1-m2q 1-m40 1-m2j 1-m2n 1-m35",
    "1-m12 1-lyu 1-lo9 1-l8q 1-l01 1-krv 1-klr 1-jt6 1-jqc 1-jn6 1-jji 1-jij 1-ji8 1-jgx 1-iwr",
    "1-i0i 1+1njv 1+1njo 1+1ptw 1-11rp 1-10vv 1-10uz 1+1vuc 1+1xx6 1+24n0 1-i39 1-i17 1*12!",
    "12:2u.2u 1:2u.2x 1:2u.30 1:2u.2u.2x 1:2u.2u.30 1:37.38 1:37.38 1*c! c:12s.12u 1:12s.12d",
    "1:12s.12j 1:132.12u 1:12s.12l 1*5! 5:15l.14k 2:16a.14n 1-1cfy 1-1cgh 1*2-1cgf 2*3-1cg9",
    "3-1cfz 1-1cfy 1-1dku 1:161.14x 1:161.14y 1:161.14s.14x 1:161.14s.14y 1:15c.14n 1:15c.14o",
    "1:15c.14s 1:15d.14s 1:15e.14s 1:15f.14s 1:15g.14s 1:15h.14s 1:15i.14s 1! 1:15k.14s 1:15l.14s",
    "1:15m.14s 1:15n.14s 1:15o.14s 1! 1:15q.14s 1! 1:15s.14s 1:15t.14s 1! 1:15v.14s 1:15w.14s 1!",
    "1:15y.14s 1:15z.14s 1:160.14s 1:161.14s 1:162.14s 1:15h.14p 1:15d.14v 1:15n.14v 1:15w.14v",
    "1:15c.15o 1-1cdb 1-1cdc 1-1cd3 1*2/3-1cd4 1*2/3-1cd5 1*2/3-1cd6 4*2/2-1cd7 1-1cd6 2-1cd8",
    "1-1cd9 1-1cdg 1-1cdh 1-1cdi 1-1cdj 1-1cdf 1-1cdg 1-1cdh 1-1cdi 1-1cdp 1-1cdq 1-1cdr 1-1cds",
    "1-1ccm 1-1ccn 1*2/2-1cco 1*2/2-1ccp 3-1ccq 1-1ccr 1-1cdq 1-1cdr 1-1cds 1-1cdt 1-1cdv",
    "1*2/3-1cdw 1*2/3-1cdx 1*2/3-1cdy 4*2-1cdz 2-1ce0 1-1ce1 1-1ce2 1-1cdx 1-1cdy 1*2/2-1ce0",
    "1*2/2-1ce1 3-1ce8 1-1ce9 1-1cdu 1-1cdv 1-1ce3 1-1ce4 1-1cdh 1-1cdi 1-1cdj 1-1cdk 1*2/4-1cdf",
    "1*2/4-1cdg 1*2/4-1cdh 1*2/4-1cdi 5-1cdl 1-1cdm 1-1cdn 1-1cdo 1-1cdg 1*2-1cdh 2-1cdi 1-1cdj",
    "1-1cdk 1-1cdg 1*2-1cdh 2-1cdi 1-1cdj 1-1cdk 1-1cdo 1-1cdp 1-1cdq 1-1cdr 1-1cd8 1*2-1cd9",
    "2-1cda y-1cfa 1-1cfb 1-1cfc 1-1cfd 1-1ceo 1-1cep 1*2/2-1cer 1*2/2-1ces 3:1c7.19w 1-1cer",
    "1-1ces 1-1cez 1-1cf0 1-1cex 1-1cey 1-1ces 1-1cet 1-1ceu 1-1cev 1-1cin 1-1cio 1:17q.17r",
    "1:17q.17r 1:17q.1cl 1:17q.1cl 1:17q.18o 1:17q.18o 1:17q.1c7 1:17q.1c7 1:17q.1c6 1:17q.1c6",
    "1:17q.1c8 1:17q.1c8 1:17q.1cg 1:17q.1cg 1:17q.1cg 1:17q.18p 1:17q.18p 1:17q.18p 1-1cfk",
    "1-1cfl 1-1cfm 1-1cfn 1:17q.17w 1:17q.17x 1:17q.18l 1:17q.18p 1:17q.18q 1:17s.17w 1:17s.17x",
    "1:17s.17y 1:17s.18l 1:17s.18p 1:17s.18q 1:17u.17w 1:17u.17x 1:17u.17y 1:17u.18l 1:17u.18p",
    "1:17u.18q 1:17v.17w 1:17v.18l 1:17v.18p 1:17v.18q 1:17w.17x 1:17w.18l 1:17x.17w 1:17x.18l",
    "1:17y.17w 1:17y.17x 1:17y.18l 1:183.17w 1:183.17x 1:183.17y 1:183.18l 1:185.17x 1:185.18l",
    "1:186.17w 1:186.17x 1:186.17y 1:186.18l 1:187.17x 1:187.18l 1:188.18l 1:189.17w 1:189.18l",
    "1:18a.17w 1:18a.18l 1:18h.17w 1:18h.17x 1:18h.17y 1:18h.18l 1:18h.18p 1:18h.18q 1:18i.17x",
    "1:18i.18l 1:18i.18p 1:18i.18q 1:18j.17r 1:18j.17w 1:18j.17x 1:18j.17y 1:18j.18k 1:18j.18l",
    "1:18j.18p 1:18j.18q 1:18k.17w 1:18k.17x 1:18k.17y 1:18k.18l 1:18k.18p 1:18k.18q 1:18l.17w",
    "1:18l.17x 1:18l.17y 1:18l.18l 1:18l.18p 1:18l.18q 1:18m.17w 1:18m.17x 1:18m.17y 1:18m.18l",
    "1:18m.18p 1:18m.18q 1:18n.17w 1:18n.18l 1:18n.18p 1:18n.18q 1:18q.17w 1:18q.17x 1:18q.17y",
    "1:18q.18l 1:18q.18p 1:18q.18q 1:180.19s 1:181.19s 1:18p.19s 1:w.18s.18x 1:w.18t.18x",
    "1:w.18u.18x 1:w.18v.18x 1:w.18w.18x 1:w.18x.19s 1:17q.181 1:17q.182 1:17q.18l 1:17q.18m",
    "1:17q.18p 1:17q.18q 1:17s.181 1:17s.182 1:17s.18l 1:17s.18m 1:17s.18p 1:17s.18q 1:17u.181",
    "1:17u.182 1:17u.18l 1:17u.18m 1:17u.18p 1:17u.18q 1:17v.181 1:17v.182 1:17v.18l 1:17v.18m",
    "1:17v.18p 1:17v.18q 1:18h.18p 1:18h.18q 1:18i.18p 1:18i.18q 1:18j.17r 1:18j.18k 1:18j.18l",
    "1:18j.18p 1:18j.18q 1:18k.18l 1:18k.18p 1:18k.18q 1:18l.17r 1:18l.18l 1:18m.181 1:18m.182",
    "1:18m.18l 1:18m.18m 1:18m.18p 1:18m.18q 1:18p.19s 1:18q.181 1:18q.182 1:18q.18l 1:18q.18m",
    "1:18q.18p 1:18q.18q 1:17q.17w 1:17q.17x 1:17q.17y 1:17q.18l 1:17q.18n 1:17s.17w 1:17s.17x",
    "1:17s.17y 1:17s.18l 1:17s.18n 1:17u.17w 1:17u.17x 1:17u.17y 1:17u.18l 1:17u.18n 1:17v.18l",
    "1:17w.17x 1:17w.18l 1:17x.17w 1:17x.18l 1:17y.17w 1:17y.18l 1:183.17w 1:183.17x 1:183.17y",
    "1:183.18l 1:185.17x 1:185.17y 1:185.18l 1:186.17w 1:186.17x 1:186.17y 1:186.18l 1:187.17x",
    "1:188.18l 1:189.17w 1:189.18l 1:18a.17w 1:18a.18l 1:18h.17w 1:18h.17x 1:18h.17y 1:18h.18l",
    "1:18i.17x 1:18i.18l 1:18j.17w 1:18j.17x 1:18j.17y 1:18j.18k 1:18j.18l 1:18k.17w 1:18k.17x",
    "1:18k.17y 1:18k.18l 1:18k.18n 1:18l.17w 1:18l.17x 1:18l.17y 1:18l.18l 1:18m.17w 1:18m.17x",
    "1:18m.17y 1:18m.18l 1:18m.18n 1:18n.17w 1:18n.18l 1:18n.19s 1:18q.17w 1:18q.17x 1:18q.17y",
    "1:18q.18l 1:18q.18n 1:17q.18l 1:17q.18n 1:17s.18l 1:17s.18n 1:17u.18l 1:17u.18n 1:17v.18l",
    "1:17v.18n 1:183.18l 1:183.18n 1:184.18l 1:184.18n 1:18j.18k 1:18j.18l 1:18k.18l 1:18m.18l",
    "1:18m.18n 1:18q.18l 1:18q.18n 1:18g.18u.18x 1:18g.18v.18x 1:18g.18w.18x 1:187.18p 1:187.18q",
    "1:189.18p 1:189.18q 1:18a.18p 1:18a.18q 1:183.18p 1:183.18q 1:184.18p 1:184.18q 1:17x.18p",
    "1:17x.18q 1:17w.18p 1:17w.18q 1:17y.18p 1:17y.18q 1:185.18p 1:185.18q 1:186.18p 1:186.18q",
    "1:184.17w 1:184.17x 1:184.17y 1:184.18l 1:184.181 1:183.181 1:185.181 1:186.181 1:187.18p",
    "1:187.18q 1:189.18p 1:189.18q 1:18a.18p 1:18a.18q 1:183.18p 1:183.18q 1:184.18p 1:184.18q",
    "1:17x.18p 1:17x.18q 1:17w.18p 1:17w.18q 1:17y.18p 1:17y.18q 1:185.18p 1:185.18q 1:186.18p",
    "1:186.18q 1:184.17w 1:184.17x 1:184.17y 1:184.18l 1:184.181 1:183.181 1:185.181 1:186.181",
    "1:184.17w 1:184.17x 1:184.17y 1:184.18l 1:183.18n 1:184.18n 1:187.18l 1:183.17w 1:183.17x",
    "1:183.17y 1:184.17w 1:184.17x 1:184.17y 1:187.18l 1:188.18l 1:17r.18r 1:17r.18r",
    "j:17u.17w.18l 1:17u.17x.17w 1:17u.17x.17w 1:17u.17x.18l 1:17u.17y.18l 1:17u.18l.17w",
    "1:17u.18l.17x 1:17u.18l.17y 1:17w.18l.17x 1:17w.18l.17x 1:17x.18l.18q 1:17x.18l.18p",
    "1:183.17x.17w 1:183.17w.17x 1:183.17w.18p 1:183.18l.17x 1:183.18l.17x 1:183.18l.17w",
    "1:183.18l.18l 1:183.18l.18l 1:185.17x.17x 1:185.17x.17x 1:185.18l.18l 1:184.17x.18l",
    "1:184.17x.18l 1:184.17w.18q 1:184.18l.17y 1:184.18l.17y 1:184.18l.18l 1:184.18l.18l",
    "1:186.17x.18p 1:186.17y.18l 1:186.17y.18l 1:187.18l.17x 1:187.18l.17x 1:187.18l.18l",
    "1:187.18l.18q 1:189.17w.18l 1:189.18l.18l 1:189.18l.18l 1:189.18l.18p 1:18a.18l.18l",
    "1:18a.18l.18q 1:18a.18l.18p 1:18h.17y.18l 1:18h.17y.18l 1:18i.18l.17x 1:18i.18l.18l",
    "1:18k.17x.18l 1:18k.17x.18q 1:18k.17x.18p 1:18k.17w.17w 1:18k.17w.17w 1:18k.17y.18l",
    "1:18k.17y.18l 1:18k.18l.17x 1:18k.18l.17x 1:18l.17x.17w 1:18l.17x.18l 1:18l.17x.18q",
    "1:18l.17w.17x 1:18l.17w.18l 1:18l.17y.17w 1:18l.17y.18l 3:18l.17w.17y 1:18n.18l.17w",
    "1:18n.18l.18l 1:18m.17x.18l 1:18m.17x.18p 1:18m.17w.18l 1:18m.17w.18l 1:18m.17w.18p",
    "1:18m.18l.18q 1:18m.18l.18p 1:18q.18l.18l 1:18q.18l.18l 1:17s.17y.18q 1:17u.17w.18q",
    "1:17u.17w.18p 1:17u.17y.18q 1:17u.17y.18p 1:17u.18l.18q 1:17u.18l.18p 1:17w.18l.18q",
    "1:17w.17x.18p 1:17w.18l.18p 1:183.17y.18p 1:185.17x.18q 1:184.17x.18q 1:186.17x.18q",
    "1:18k.17w.18q 1:18k.18l.18q 1:18q.17x.18q 1:18q.17w.18q 1:18q.18l.18q 1:18l.18l.18q",
    "1:18i.18l.18q 1:18m.17x.18q 1:18i.18l.17x 1:18k.17x.18l 1:189.18l.18q 1:18j.18l.18q",
    "1:18m.17w.17x 1:18l.17y.18q 1:18k.17w.18l 1:18j.18l.18l 1:18k.17w.18l 1:18m.17w.17x",
    "1:17w.17x.18q 1:17x.17w.18q 1:18l.17w.18q 1:18h.18l.18q 1:17s.17x.18q 1:18j.18l.18l",
    "1:189.17w.18l 1:185.18l.18l 1:183.17y.18q 1:18m.17w.18q 9*w! w:185.18k.1ci 1:18i.18k.1ci",
    "1:17r.18k.18k.18n 1:17r.18j.17s.181 1:18l.17x.18l.17z 1:185.18k.189.18l 1:181.183.18o.18k",
    "1:189.18k.18q.18n 1:18o.183.18k.18l 1:185.18k.18p",
    "1:185.18k.18p.w.17r.18k.18k.18n.w.189.18k.18q.18n.w.18o.183.18k.18l",
    "1:17w.18k.w.17w.18k.17r.18k.18n 1:181.1cc.17r.18k 4*g: g-1e5g 1-14pc 1! 1*2-1e55 2-1e5w",
    "1-1e53 1*2-14ox 2*7! n! 1-17vh 1-17vj 1-1e50 1-1e51 1*2-1e6l 2-1e4c 1-1e4b 1*2-14px 2*2-14q3",
    "2*2-14qb 2*2-14qf 2*4-14qd 6-1e5o 1-1e5n 1:w.lh 1:w.lh 1:w.lh 1:w.lh 1-1e5q 1-1e5r 1-1e5s",
    "1-1e78 1-14r4 1*2! 2-1e6x 1-1e6z 1-1e6v 1-1e7q 1-17wk 1*2-1e7l 2-1e5c 1-1e5b 1*2-14qx 2-1e7w",
    "1-1e7u 1*2-1e7r 2-1e7q 1-1e7c 1-1e7b 1-1e7d 1! 1-1e6k 1*2-1e85 2-1e7f 1*4! 4:w.18r 1:18g.18r",
    "1:w.18s 2:w.18t 1! 1:w.18u 1:18g.18u 1:w.18v 1:18g.18v 1:w.18w 1:18g.18w 1:w.18x 1:18g.18x",
    "1:w.18y 1:18g.18y 1*2-1d27 2*2-1d28 2*2-1d29 2*2-1d2a 2*2-1d2b 2-1d2c 1-1d2d 1*2-1d2e",
    "2*2-1d2f 2-1d2g 1-1d2h 1*2-1d2i 2*2-1d2j 2-1d2k 1-1d2l 1*2-1d2m 2-1d2n 1-1d2o 1*2-1d2p",
    "2-1d2q 1-1d2r 1*2-1d2s 2-1d2t 1-1d2u 1*2-1d2v 2-1d2w 1-1d2x 1*2-1d2y 2*2-1d2z 2*2-1d30",
    "2*2-1d31 2*2-1d32 2-1d33 1-1d34 1*2-1d35 2-1d36 1-1d37 1*2-1d38 2-1d39 1-1d3a 1*2-1d3b",
    "2-1d3c 1-1d3d 1*2-1d3e 2-1d3f 1-1d3g 1*2-1d3h 2-1d3i 1-1d3j 1*2-1d3k 2-1d3l 1-1d3m 1*2-1d3n",
    "2-1d3o 1-1d3p 1-1d3q 1-1d3k 1-1d3l 1-1d3m 1*2-1d3n 2-1d3o 1-1d3p 1*2-1d3q 2-1d3r 1-1d3s",
    "1*2-1d3t 2-1d3u 1-1d3v 1*2-1d3w 2-1d3x 1-1d3y 1*2-1d3z 2-1d40 1-1d41 1*2-1d42 2-1d43 1-1d44",
    "1*2-1d45 2*2-1d46 2*2-1d47 2-1d48 1-1d49 1-1d4a 1:18k.17m 1:18k.17m 1:18k.17n 1:18k.17n",
    "1:18k.17p 1:18k.17p 1:18k.17r 1:18k.17r 1*2! 2: 1! 1*w-1ecg w*q-1ebk q*10-1ecg 10*2-168q",
    "2-1eer 1*2-14ye 2-14yr 1-14ru 1-14s4 1-14ue 1-14ud 1-14uc 1-14ub 1-14ua 1-14sp 1-14so 1-14sn",
    "1-14to 1-14s4 1-14un 1-14um 1-14ul 1-14uk 1*2-14uj 2-14ui 1-14uh 1-14ug 1-14uf 1-14ue 1-14ud",
    "1-14uc 1-14ub 1-14ua 1-14u9 1-14u8 1-14u6 1-14u5 1-14u4 1*6-14u3 6-14u1 1-14tz 1-14tx 1-14tv",
    "1*5-14tt 5-14ts 1-14tr 1*6-14tq 6-14tp 1-14tm 1*2-14w5 2: 1*2-1b4x 2*2/2-1b09 1-1b4y 2-1b09",
    "1*3-1b50 3*6-1b0a 6-1b4m 1*3-1b57 3-1b4j 1*a-1b58 a*3! 3*6-1b35 6*2! 2*6-1b37 6*2! 2*6-1b39",
    "6*2! 2*3-1b3b 3*3! 3*2-1ef2 2-1eeu 1:w.lg 1-1ef2 1-1ef4 1-183h 1! 1-178m 1*4-17x5 4-174d",
    "1-1737 1*h! t! r! k! 3! g*2! g*y! 4d*5! 8*4! 1d*3! 2j! e*3! 4*1b! 2l*3m! 4f*3! 1g*f! 17*4!",
    "14*9! 13*5! 1c*5! z! 12*4! i*16! 16*14+14 4e*2! c*6! 6*10+14 10*4! 14*4! 18*8! 1o*b!",
    "c*j/2+13 1*a/4+13 2*2/4+13 8! 4*3/4+13 c! 4+13 4! 3! c! g! 8! 3*3! 1j*c! 8z*9! v*a! i*o!",
    "p*2-1fht 2-1fvh 1-1fjf 1-1fle 1! 1*2/2-1fj8 1-i76 2-1fja 1*2-1flh 2-1a7w 1-1fli 1-1fld",
    "1-1fjb 1-1fl9 1-1flc 1-1flf 1-1fjt 1-1fu6 1-1fju 1-1flc 1-1fkk 1*2-1fjj 2-1flb 1+16js 1-iz3",
    "1-1flc 1+16jq 1-1fki 1+16jp 1-1fvu 1*2-1fl9 2-1fzo 1-1fl8 1+16jl 1*2-1fl7 2-1fl6 1-1fk3",
    "1-1fk6 1-i86 1-1fk7 1-1fl3 1-17b3 1! 1-1fkz 1*2-1fki 2-1fkt 1*3-1fqu 3+16j5 1+16jo 1*1x!",
    "23*2! 3! 19! 3*3! 4*2! p! 21*8! h*1c! 1v! 3*5! 12*3! u*5! w*12! 2m*4! o*2! 1g! 3*5! d! 4!",
    "u*2! 5*4! e*7! g*7! 1z*w! 1z*4! g*9! 1r*3! w*2! t*5! v*7! b*c! j*28! 49*1j! 1j*1f+1s 1f*d!",
    "1s*7! 1h*8! i*6! m*m+w m*3! w*8! a*5s! 6n! 17! 4*2! 4*g! m*8! h*x! 27*8! 1e*m! 1c*12! 1u*k!",
    "17*9! 2f*4! 14*9! 1z! 6*d! 12*7! h*6! 1n! j*8! 1b*9! 2x! l*b! t! 1c*1q! 1x! 2! 5! g! c*6!",
    "1t*5! f*6! a! 9*2! 4*2! o! 8! 3! 6! b*2! 4*2! 5*2! 3*6! 7*5! c*2! 9*3! 8*b! l! 2*2! 3! 13!",
    "b! 2*2! 3! 5! b! 3*8! a*t! 3d! 6*u! 2u*8! i*4m! 64*2! 14*y! 2v*b! l*6! j*j! 25*6! g*6! q*s!",
    "1j*2! h*4! r*55! 6t*2s! 2s*w+w 2b*c! k*2! 3*2! a! 3! v! 3*2! e*9! j*1y! 26*2! 1c*2! d*r!",
    "2r*8! 2j*d! 2e*7! h*2e! 2m*2g! 3e*e! o*6! f! 1a! f*a! 13*3! z*2! o! f*21! 28! 3! 19*3! 4! 3!",
    "a*8! i*6! c! 3! 12! 3! 7*7! h*6! 1e*4! e*6u! 7j*7! o! 16*3! w*2d! 2e*f! 1t*d! q0*2u! 5x!",
    "6*b! 5r*218! 23z*d! u5*g! 12*a! 339*5! gc*5a1! 5bn*1c6! 1rz*7! 12! b*4! 2d! b*6! 10*2! 8*a!",
    "28*a! k! 8! m*5! o*c0! dm*5i! 5i*w+w 2j*5! 5*p+r p*2! r*18! 3b*4! 1p*7! o*1s! 1x*b! i*9!",
    "5pb*15! 21*2p! 5w*6pp! 6pt! 8! 3! 84*f! g*t! w*2! 3*e! i*8! b8*1s4! 1v3*5! i*3! c*7! h*2!",
    "6*4: 4*318! 376*q-2iyd q*a-2j0g d*3! c7*6! t*f! w*f! 1p*2! p*9! 3h*1o! 8i*a! 1d*2!",
    "1j:2jx3.2jxh 1:2jx4.2jxh 1:2jx4.2jxh.2jxq 1:2jx4.2jxh.2jxr 1:2jx4.2jxh.2jxs 1:2jx4.2jxh.2jxt",
    "1:2jx4.2jxh.2jxu f*8: 20:2jzt.2jxh 1:2jzu.2jxh 1:2jzt.2jxh.2jxq 1:2jzu.2jxh.2jxq",
    "1:2jzt.2jxh.2jxr 1:2jzu.2jxh.2jxr 17*l! 2j*3e! 3y*c! w*c! 2r*9! y*3r! 3r*q-2kdb q*q-2ke1",
    "q*q-2ker q*d/2-2kfh 1*7/4-2kfh 2-2kfh 4! 4*4/4-2kfh f*q-2kg7 q*q-2kgx q*4/3-2khn 1! 1-2khn",
    "2*2! 3*2! 3*6/3-2khn 1*2! 3*2-2khn 3! 1*3/3-2khn 2*2/3-2khn 6*4-2kid 4! 1*b/2-2kid 1!",
    "2*5/4-2kid 2-2kid 4! 4*2/4-2kid 8*q-2kj3 q*q-2kjt q*9/3-2kkj 1*2/3-2kkj 1! 3-2kkj 2*2!",
    "3*5/3-2kkj 1*2/3-2kkj 6! 3*2/3-2kkj 5! 1*q-2kl9 q*5/3-2klz 1*2/3-2klz 1! 3*4/3-2klz 2!",
    "3-2klz 3! 2*3! 3*7-2klz 7! 1*q-2kmp q*q-2knf q*q-2ko5 q*q-2kov q*q-2kpl q*q-2kqb q*q-2kr1",
    "q*q-2krr q*q-2ksh q*q-2kt7 q*q-2ktx q*q-2kun q*q-2kvd q-2kqb 1-2kj2 1*2! 2*h-2k8n h-2k8x",
    "1*7-2k8n 7-2e9m 1*h-2k9d h-2k9c 1*7-2k9d 7-2eah 1-2k9z 1-2k9x 1-2k9w 1-2k9l 1-2k9r 1-2k9t",
    "1*h-2ka9 h-2kaj 1*7-2ka9 7-2eb8 1*h-2kaz h-2kay 1*7-2kaz 7-2ec3 1-2kbl 1-2kbj 1-2kbi 1-2kb7",
    "1-2kbd 1-2kbf 1*h-2kbv h-2kc5 1*7-2kbv 7-2ecu 1*h-2kcl h-2kck 1*7-2kcl 7-2edp 1-2kd7 1-2kd5",
    "1-2kd4 1-2kct 1-2kcz 1-2kd1 1*h-2kdh h-2kdr 1*7-2kdh 7-2eeg 1*h-2ke7 h-2ke6 1*7-2ke7 7-2efb",
    "1-2ket 1-2ker 1-2keq 1-2kef 1-2kel 1-2ken 1*h-2kf3 h-2kfd 1*7-2kf3 7-2eg2 1*h-2kft h-2kfs",
    "1*7-2kft 7-2egx 1-2kgf 1-2kgd 1-2kgc 1-2kg1 1-2kg7 1-2kg9 1-2kfh 1-2kfi 1*2! 2*a-2l5q",
    "a*a-2l60 a*a-2l6a a*a-2l6k a*a-2l6u ie*f! k! g*uo! vj*6! c*5x! 64! i*2! 9! 3! 6*5! 5*9-2m0w",
    "9*3-2m0v 3*b-2m0u b-2m0s 1*2-2m0r 2-1pz5 1-2lwy 1-2m0m 1-2m0l 1-2lwl 1-2ly8 1-2lxd 1*9-2m1t",
    "9*2-2m1s 2*2-2m1q 2-2m1p 1*6-2m1o 6*2-2m1n 2-2lzq 1-2m1e 1-2m1g 1-2m17 1-2lz4 1-1q1n 1-2lz0",
    "1*x! y*34! 4d*3! h*2! c*4! 6*8w! 9r*h! 23*5! 6*cw! e2*5y! 75*4! 5*5c! 67! n*8! a*68! 6f! 5!",
    "3! g! 5i*2! i*15! 15*y+y 24*4! e*4! 6*lt! np*24! 3t*5e! 5e*2-2od5 2-2od2 1*2/3-2od0 1!",
    "1-2ocd 2-2od6 1-2ocx 1-2ocf 1*4-2ocn 4-2od7 1-2od2 1-2ocv 1-2od8 1-2ocw 1-2ode 1-2odc",
    "1*2-2odn 2-2odl 1-2odk 1-2odf 1-2ode 1-2odd 1-2oby 1-2o9v 1-2oal 1-2oc0 1! 1-2oe1 1-2ody 1!",
    "1-2od9 1*2! 2-2oe2 1! 1-2odb 1*4-2odj 4-2oe3 1-2ody 1-2odr 1-2oe4 1-2ods 1! 1-2oe8 1*2-2oej",
    "2-2oeh 1! 1-2oeb 1! 1-2oe9 1*6! 6-2oeu 1*4! 4-2oey 1! 1-2oe7 1! 1*2/2-2oef 1! 2-2oez 1-2oeu",
    "1! 1-2of0 1-2oeo 1! 1-2of4 1*2! 2-2ofd 1! 1-2of7 1! 1-2of5 1! 1-2obn 1! 1-2ods 1! 1-2oft",
    "1-2ofq 1! 1-2of1 1*2! 2-2ofu 1-2ofl 1-2of3 1*2/2-2ofb 1! 2-2ofb 1-2ofv 1-2ofq 1-2ofj 1-2ofw",
    "1-2ofk 1! 1-2og0 1*2-2ogb 2-2og9 1! 1-2og3 1-2og2 1-2og1 1-2oem 1! 1-2od9 1! 1*2-2ogp 2-2ogm",
    "1*2/3-2ogk 1*2-2ofx 3-2ogq 1-2ogh 1-2ofz 1! 1*3-2og7 3-2ogr 1-2ogm 1-2ogf 1-2ogs 1-2ogg",
    "1-2ogy 1-2ogw 1*2-2oh7 2-2oh5 1-2oh4 1-2ogz 1-2ogy 1-2ogx 1*5! 5-2ohl 1-2ohi 1*2/3-2ohg 1!",
    "1-2ogt 2-2ohm 1-2ohd 1-2ogv 1! 1*3-2oh3 3-2ohn 1-2ohi 1-2ohb 1-2oho 1-2ohc 1-2ohu 1-2ohs",
    "1*2-2oi3 2-2oi1 1-2oi0 1-2ohv 1-2ohu 1-2oht 1*1g! 1i*7i! 8q*4! 2w*c! r*2! h! g! 12*b!",
    "b:1c.18 1:1d.18 1:1e.18 1:1f.18 1:1g.18 1:1h.18 1:1i.18 1:1j.18 1:1k.18 1:1l.18 6:14.2p.15",
    "1:14.2q.15 1:14.2r.15 1:14.2s.15 1:14.2t.15 1:14.2u.15 1:14.2v.15 1:14.2w.15 1:14.2x.15",
    "1:14.2y.15 1:14.2z.15 1:14.30.15 1:14.31.15 1:14.32.15 1:14.33.15 1:14.34.15 1:14.35.15",
    "1:14.36.15 1:14.37.15 1:14.38.15 1:14.39.15 1:14.3a.15 1:14.3b.15 1:14.3c.15 1:14.3d.15",
    "1:14.3e.15 1:9hw.37.9hx 1-2q4o 1-2q4a 1:2r.2s 1:3b.3e 2*q-2q4v q:2w.3a 1:31.3a 1:37.2s",
    "1:37.37 1:34.34.3a 1:3b.2r r:31.2r 1:31.2s 1:31.36 10:2s.2y u*1k! 2a:9kr.9jf 1:9mb.9mb",
    "1-2gr1 1*d! d-26yt 1-28ca 1-29ty 1-2gr0 1-2avc 1-28sb 1-1z5f 1-28ry 1-2aus 1-267t 1-241l",
    "1-26bm 1-2a4v 1-27ip 1-2aa9 1-26b3 1-2a6b 1-21nj 1-239f 1-1ym2 1-28tw 1-29rg 1-24gi 1-26xe",
    "1-26s3 1-2azt 1-2azl 1-1xwh 1-27uu 1-2ayo 1-29tn 1-26ug 1-1ygw 1-26zi 1-22ep 1-227t 1-29t8",
    "1-24l1 1-2625 1-2627 1-239h 1-2a4n 1-29hg 1-1xpq 1*4! 4:9hw.kdo.9hx 1:9hw.fex.9hx",
    "1:9hw.fik.9hx 1:9hw.i2x.9hx 1:9hw.m9l.9hx 1:9hw.jf7.9hx 1:9hw.nh3.9hx 1:9hw.gd9.9hx",
    "1:9hw.k0n.9hx 1*7! 7-27jt 1-29uq 1*e! k*4a! vn*3! k*3! g*3! 65*6! i*4! 5*f! r*4! 1o*8! i*6!",
    "1a*8! 12*2! e*4! 6*e! n*13! an*8! m*2! f*3! e*3! 1o! 2*4! k*2! e*4! e*7! 4a! 2l*a-2sao b*sl!",
    "xr9*w! 3em*2! 4gg*2! 5rn*f! hp*1wi! 1wi-3qo3 1-3qo9 1-3qo1 1-1crl 1-3qg4 1-3qdz 1-3qdn",
    "1-3qbp 1-3q8e 1-3q7k 1-3q5f 1-3q64 1-3vqm 1-1brn 1-3q2p 1-3q2j 1-3q24 1-3q1m 1-1bzq 1-3vq2",
    "1-3q25 1-3q14 1-1byj 1-3q0w 1-3q0k 1-3qkt 1-3q0e 1-3q06 1-k71 1-3pyg 1-3py3 1-3vpc 1-3pwl",
    "1-3pwb 1-3pv4 1-3pv0 1-3vnz 1-3psu 1-3pst 1-3ps3 1-3pri 1*2-3pr8 2-3pqs 1-3ppf 1-3pp8 1-3pp0",
    "1-3poc 1*2/2-3po3 1-3po2 2-3po4 1-1b0o 1-3jyd 1-3pm4 1-3plk 1-1as5 1-3pla 1-3pl5 1-3pkl",
    "1*2/4-3pge 1-3pj9 1-3piu 1-3phz 2-3pe3 1-3pde 1-3pbk 1-3pb5 1-3pa9 1-3paa 1-3p9q 1-3p99",
    "1-3p92 1-3p8o 1-3oz9 1-3p6u 1-3oza 1-3p4t 1-3p3v 1-3pzd 1-3omb 1-3ouc 1-3otb 1-3osn 1-3owa",
    "1-3oro 1-3orq 1-3ooc 1-18xh 1-3omg 1-3omc 1-3oly 1-3olf 1-3ol8 1-3ojh 1-18l4 1-18jb 1-3ofq",
    "1-3oeg 1-3oe5 1-3ogd 1-3ocg 1-3vcp 1-3vcc 1-3o81 1-3o6k 1-3o6l 1-17z8 1-3o2y 1-3o2e 1-3o20",
    "1-3o1p 1-17q1 1-3o1f 1-3o19 1-3ndt 1-3o0j 1-3v91 1-3nyv 1-3nyi 1-3nw9 1-3nxp 1*2/2-176f",
    "1-3nsp 2-3nrk 1-3nro 1-3nr8 1*2-3nog 2-3v4k 1-3nnr 1-3nml 1-3nm1 1-3nku 1-3v3a 1-16h2 1-3v2m",
    "1-3niz 1-3nix 1-3niv 1-3nic 1-gsd 1-3ngy 1-165c 1-165d 1-3gk2 1-3ng2 1-3ng3 1-3v0v 1-1333",
    "1-try 1-3nef 1-3ne7 1-3v08 1-3ncy 1-3nbk 1-3nbb 1-3nae 1-3n6n 1-3uxz 1-3uyu 1-3n67 1-15g0",
    "1-3n4u 1-3n1a 1-3n17 1-3n16 1-3n19 1-3n00 1-3mzh 1-3myi 1-3myx 1-3myn 1-3mxd 1-3mwu 1-3mwr",
    "1-3mw2 1-3mvs 1-3mtz 1-3mro 1-3mqq 1-3mnb 1-14mk 1-3mnw 1-3mpq 1-3mmr 1-3mm1 1-3mjd 1-14gd",
    "1-3mhp 1-3mkb 1-3ml4 1-3us4 1-3mfu 1-3mfa 1-3meg 1-3mfj 1-3uqj 1-3m9l 1-3m8t 1-13nk 1-3m5k",
    "1-3lxw 1-3m2s 1-3ulx 1-3m0u 1-3umg 1-3unh 1-3q68 1-3q66 1-3lxw 1-3m0p 1-3gvd 1-3svy 1-3lxd",
    "1-3lxa 1-3lx5 1-3lvh 1-3lvt 1-12xm 1-3ul1 1-3lr9 1-3luj 1-3lov 1-3lnh 1-12t2 1-3lna 1-3lqe",
    "1-3ljm 1-3uiy 1-3lie 1-3lfq 1-3lds 1-3l8j 1-12dl 1-3l76 1-3ufq 1-3l5a 1-11zd 1-3l3x 1-3uec",
    "1-3l35 1-3l1x 1*2-3l17 2-11m2 1-17fx 1-11j3 1-3kx8 1-116n 1-3ku5 1-3kts 1-3kwn 1-3krt 1-3kqq",
    "1-3kp6 1-3kqp 1-3kpm 1-3kp8 1-3kow 1-1148 1-3kr7 1-3kk9 1-3kij 1-3u8n 1-3kg0 1-3kg5 1-10sc",
    "1-3klx 1-3kbl 1-10oi 1-10n7 1-3k98 1-3k62 1-3k6u 1-3k6y 1-3u68 1-3k5p 1-3k4b 1-3k4i 1-3k31",
    "1-1c6u 1-3jyv 1-103e 1-3jwi 1-zuc 1-3jso 1-3jsc 1-3jrm 1-zdn 1-3jqc 1-3jps 1-z5d 1-yz7",
    "1-3jji 1-3jj2 1-3tz2 1-3jie 1-3tys 1-3tyt 1-3jdz 1-3jdf 1-3jcv 1-3jcc 1-3jag 1-3tw8 1-3j80",
    "1-y67 1-3j7c 1-y3p 1-3j60 1-16l6 1-3j1m 1-xi2 1-xhg 1-xdl 1-3tqa 1-3tpz 1-3ivg 1-x8u 1-x8w",
    "1-x7u 1-x75 1*2-3iuf 2-3iug 1-3ita 1-3tow 1-3irj 1-3tol 1-3tme 1-wmo 1-3im8 1-3ikj 1-3iis",
    "1-3tke 1-w8c 1-3if1 1-w56 1-w40 1-3idj 1-3ib0 1-3tih 1-3i8p 1-3i8g 1-3i8c 1-vkw 1-vcm 1-vcn",
    "1-3i41 1-3tcu 1-v5i 1-3hy4 1-3hy2 1-3tbx 1-uzp 1-3hqs 1-3t8n 1-3hq8 1-3hqe 1-3hpm 1-ued",
    "1-3hmx 1-3t64 1-3hk7 1-3hil 1-3hgr 1-3t4t 1-tvu 1-tv0 1-3t3v 1-tr0 1-3h8c 1-to9 1-3h7n",
    "1-3h4v 1-3h4l 1-tcx 1-tax 1-3h25 1-t7a 1-3h1r 1-134x 1-3t0s 1-3h00 1-3gxs 1-3szd 1-3gw7",
    "1-3oi9 1-stc 1-ssz 1-133q 1-133i 1-3gqy 1-3gqw 1-3e27 1-3swz 1-3gn2 1-3gn9 1-3gms 1-3q3j",
    "1-3gma 1-3gm9 1-3gm0 1-3gkw 1-s4b 1-3gkz 1-3gjg 1-3ghj 1-3gfi 1-3gjd 1-3gf4 1-3gdz 1-3gaw",
    "1-3gi5 1-3gev 1-3geu 1-3gef 1-rxq 1-rp6 1-rtd 1-3ssc 1-3g6v 1-3g6u 1-3g5w 1-qg1 1-3g3s 1-rcx",
    "1-3sr5 1-3sr2 1-r9b 1-r1b 1-3sqv 1-3fxf 1-3fx4 1-3fwu 1-3fwt 1-3fv2 1-3fw0 1-3fsb 1-3ftk",
    "1-3fpe 1-3fro 1-3fpu 1-3fp4 1-3so8 1-3fmn 1-3fls 1-3snd 1-3fj7 1-3fj5 1-py6 1-3ffz 1-3fft",
    "1-3slv 1-3ff3 1-3w27 1-pi5 1-pd2 1-3si7 1-3shz 1-3f3j 1-3f1f 1-3ex3 1-3erh 1-oq3 1-3ep5",
    "1-3eok 1-3em3 1-3ejk 1-o89 1-1brp 1-3ehb 1-3ehr 1-3egc 1-1blr 1-3ea2 1-3e7b 1-mxa 1-mwk",
    "1-3dxq 1-3dv6 1-3dub 1-mnr 1-3du3 1-3dm7 1*2-3dht 2-3dke 1-3d9u 1-3d93 1-lpv 1-3cyr 1-3ryy",
    "1-3cxl 1-lfe 1-3rws 1-3cq8 1-3o02 1-3cnm 1-koh 1-kil 1-3rt6 1-3rsz 1-3cii 1-k4x 1-3rre 1-k13",
    "1-3chf 1-3chg 1-3cgn 1-jt7 1-3cbk 1-3ro0 1-3c9n 1-3c66 1-3c5g 1-3c3t 1-3rju 1-iqh 1-3bw8",
    "1-3bnv 1-3bin 1-3rcv 1-3rc1 1-3bfs 1-hmq 1-3rbt 1-hl9 1-hdx 1-hab 1-3b6i 1-3r9c 1-3b4u",
    "1-3b4q 1-3b4k 1-3b4b 1-3b45 1-3b35 1-gm5 1*15u! 4z1*5! 6jz*f62u! f62u*6o: 6o*47bk!"]

/-- The two characters of which each composed one consists. -/
def composition : PointTable :=
  PointTable.read [
    "68:2p.lc 1:2p.ld 1:2p.le 1:2p.lf 1:2p.lk 1:2p.lm 2:2r.mf 1:2t.lc 1:2t.ld 1:2t.le 1:2t.lk",
    "1:2x.lc 1:2x.ld 1:2x.le 1:2x.lk 2:32.lf 1:33.lc 1:33.ld 1:33.le 1:33.lf 1:33.lk 3:39.lc",
    "1:39.ld 1:39.le 1:39.lk 1:3d.ld 2:3d.lk 2:2p.lg 2:2p.li 2:2p.mg 2:2r.ld 2:2r.le 2:2r.lj",
    "2:2r.lo 2:2s.lo 4:2t.lg 2:2t.li 2:2t.lj 2:2t.mg 2:2t.lo 2:2v.le 2:2v.li 2:2v.lj 2:2v.mf",
    "2:2w.le 4:2x.lf 2:2x.lg 2:2x.li 2:2x.mg 6:2y.le 2:2z.mf 3:30.ld 2:30.mf 2:30.lo 6:32.ld",
    "2:32.mf 2:32.lo 5:33.lg 2:33.li 2:33.ln 4:36.ld 2:36.mf 2:36.lo 2:37.ld 2:37.le 2:37.mf",
    "2:37.lo 2:38.mf 2:38.lo 4:39.lf 2:39.lg 2:39.li 2:39.lm 2:39.ln 2:39.mg 2:3b.le 2:3d.le",
    "3:3e.ld 2:3e.lj 2:3e.lo z:33.m3 f:39.m3 u:2p.lo 2:2x.lo 2:33.lo 2:39.lo 2:70.lg 2:70.ld",
    "2:70.lo 2:70.lc 3:6c.lg 2:fb.lg 2:6e.lg 4:2v.lo 2:2z.lo 2:33.mg 2:dn.lg 2:ia.lo 1:2y.lo",
    "5:2v.ld 4:32.lc 2:6d.ld 2:6e.ld 2:6w.ld 2:2p.lr 2:2p.lt 2:2t.lr 2:2t.lt 2:2x.lr 2:2x.lt",
    "2:33.lr 2:33.lt 2:36.lr 2:36.lt 2:39.lr 2:39.lt 2:37.me 2:38.me 4:2w.lo 8:2p.lj 2:2t.mf",
    "2:6u.lg 2:6t.lg 2:33.lj 2:fj.lg 2:3d.lg 9p:qy.ld s:q9.ld 1:qd.ld 1:qf.ld 1:qh.ld 1:qz.ld",
    "q:qh.lk 1:qt.lk 1:qn.ld 1:qt.ld 1:qx.ld 2z:u0.li n:tx.lc 1:tx.lk 2:tv.ld 4:uu.lk 5:u2.ld",
    "1:u0.lc 1:ub.li p:vp.lr 23:ty.li f:ts.li 2:ts.lk 4:tx.li 4:yh.lk 2:ty.lk 2:tz.lk 4:u0.lg",
    "2:u0.lk 2:u6.lk 4:yx.lk 2:ul.lk 2:ub.lg 2:ub.lk 2:ub.ln 2:uf.lk 4:uj.lk 89:17r.18z 1:17r.190",
    "1:18o.190 1:17r.191 1:18q.190 4a:1cl.190 2:1c1.190 h:1ci.190 gm:1t4.1to 8:1tc.1to 3:1tf.1to",
    "47:1xj.1xa 1:1xj.1xz ak:287.28m 3:287.27y 1:287.28n 20:2aa.2c7 1i:2bq.2bi 1:2br.2bi",
    "1:2bq.2c7 3g:2fa.2fq 3c:2in.2j9 7:2iu.2j9 1:2iu.2ja 2:2iu.2iq 1:2iy.2j9 3j:2me.2m6 1:2mf.2m6",
    "1:2me.2mv 3y:2qh.2q2 2:2qh.2q7 1:2qk.2q2 1:2qh.2qn g8:36t.372 25c:5c5.5dh 2:5c7.5dh",
    "2:5c9.5dh 2:5cb.5dh 2:5cd.5dh 4:5ch.5dh 15:5dm.5dh 2:5do.5dh 3:5dq.5dh 1:5dr.5dh 2:5du.5dh",
    "ji:2p.md 2:2q.lj 2:2q.mb 2:2q.mp 2:6f.ld 2:2s.lj 2:2s.mb 2:2s.mp 2:2s.mf 2:2s.ml 2:7n.lc",
    "2:7n.ld 2:2t.ml 2:2t.mo 2:fd.li 2:2u.lj 2:2v.lg 2:2w.lj 2:2w.mb 2:2w.lk 2:2w.mf 2:2w.mm",
    "2:2x.mo 2:6n.ld 2:2z.ld 2:2z.mb 2:2z.mp 2:30.mb 2:5yv.lg 2:30.mp 2:30.ml 2:31.ld 2:31.lj",
    "2:31.mb 2:32.lj 2:32.mb 2:32.mp 2:32.ml 2:6t.ld 2:6t.lk 2:99.lc 2:99.ld 2:34.ld 2:34.lj",
    "2:36.lj 2:36.mb 2:5zv.lg 2:36.mp 2:37.lj 2:37.mb 2:9n.lj 2:9t.lj 2:603.lj 2:38.lj 2:38.mb",
    "2:38.mp 2:38.ml 2:39.mc 2:39.mo 2:39.ml 2:a1.ld 2:a3.lk 2:3a.lf 2:3a.mb 2:3b.lc 2:3b.ld",
    "2:3b.lk 2:3b.lj 2:3b.mb 2:3c.lj 2:3c.lk 2:3d.lj 2:3e.le 2:3e.mb 2:3e.mp 1:2w.mp 1:38.lk",
    "1:3b.lm 1:3d.lm 8:2p.mb 2:2p.ll 2:6a.ld 2:6a.lc 2:6a.ll 2:6a.lf 2:61t.le 2:77.ld 2:77.lc",
    "2:77.ll 2:77.lf 2:61t.li 2:2t.mb 2:2t.ll 2:2t.lf 2:6i.ld 2:6i.lc 2:6i.ll 2:6i.lf 2:62h.le",
    "2:2x.ll 2:2x.mb 2:33.mb 2:33.ll 2:6s.ld 2:6s.lc 2:6s.ll 2:6s.lf 2:631.le 2:bl.ld 2:bl.lc",
    "2:bl.ll 2:bl.lf 2:bl.mb 2:39.mb 2:39.ll 2:c0.ld 2:c0.lc 2:c0.ll 2:c0.lf 2:c0.mb 2:3d.lc",
    "2:3d.mb 2:3d.ll 2:3d.lf 7:q9.lv 1:q9.lw 1:64g.lc 1:64h.lc 1:64g.ld 1:64h.ld 1:64g.n6",
    "1:64h.n6 9:qd.lv 1:qd.lw 1:64w.lc 1:64x.lc 1:64w.ld 1:64x.ld b:qf.lv 1:qf.lw 1:65c.lc",
    "1:65d.lc 1:65c.ld 1:65d.ld 1:65c.n6 1:65d.n6 9:qh.lv 1:qh.lw 1:65s.lc 1:65t.lc 1:65s.ld",
    "1:65t.ld 1:65s.n6 1:65t.n6 9:qn.lv 1:qn.lw 1:668.lc 1:669.lc 1:668.ld 1:669.ld b:qt.lv",
    "1:qt.lw 1:66o.lc 1:66p.lc 1:66o.ld 1:66p.ld 1:66o.n6 1:66p.n6 9:qx.lv 1:qx.lw 1:674.lc",
    "1:675.lc 1:674.ld 1:675.ld 1:674.n6 1:675.n6 9:q9.lc 2:qd.lc 2:qf.lc 2:qh.lc 2:qn.lc 2:qt.lc",
    "2:qx.lc 1g:q9.li 1:q9.lg 5:q9.n6 g:qf.n6 a:qh.li 1:qh.lg 1:qy.lc 4:qh.n6 1:qy.n6 9:qt.li",
    "1:qt.lg 1:qz.lc 2:qp.lv 1:qp.lw 1:qt.n6 1:qz.n6 f:qx.n6 bo:6mo.mw 1:6mq.mw j:6ms.mw v:6og.mw",
    "1:6ok.mw 1:6oi.mw 1h:6pv.mw 5:6q0.mw 3:6q3.mw o:6qr.mw 2:6qt.mw r:6rg.mw 3:6rn.mw 3:6rp.mw",
    "2:6rs.mw n:1p.mw 2:6sh.mw b:6rx.mw 1:1o.mw 1:1q.mw 1:6sk.mw 1:6sl.mw 3:6sy.mw 1:6sz.mw",
    "3:6t2.mw 1:6t3.mw 7:6t6.mw 1:6t7.mw 3:6te.mw 1:6tf.mw 3:6ti.mw 1:6tj.mw z:6ua.mw 1:6ug.mw",
    "1:6uh.mw 1:6uj.mw 1d:6t8.mw 1:6t9.mw 1:6tt.mw 1:6tu.mw 7:6uq.mw 1:6ur.mw 1:6us.mw 1:6ut.mw",
    "2n3:9jf.9ll 2:9jh.9ll 2:9jj.9ll 2:9jl.9ll 2:9jn.9ll 2:9jp.9ll 2:9jr.9ll 2:9jt.9ll 2:9jv.9ll",
    "2:9jx.9ll 2:9jz.9ll 2:9k1.9ll 3:9k4.9ll 2:9k6.9ll 2:9k8.9ll 7:9kf.9ll 1:9kf.9lm 2:9ki.9ll",
    "1:9ki.9lm 2:9kl.9ll 1:9kl.9lm 2:9ko.9ll 1:9ko.9lm 2:9kr.9ll 1:9kr.9lm n:9ja.9ll a:9lp.9ll",
    "e:9m3.9ll 2:9m5.9ll 2:9m7.9ll 2:9m9.9ll 2:9mb.9ll 2:9md.9ll 2:9mf.9ll 2:9mh.9ll 2:9mj.9ll",
    "2:9ml.9ll 2:9mn.9ll 2:9mp.9ll 3:9ms.9ll 2:9mu.9ll 2:9mw.9ll 7:9n3.9ll 1:9n3.9lm 2:9n6.9ll",
    "1:9n6.9lm 2:9n9.9ll 1:9n9.9lm 2:9nc.9ll 1:9nc.9lm 2:9nf.9ll 1:9nf.9lm n:9ly.9ll 3:9nz.9ll",
    "1:9o0.9ll 1:9o1.9ll 1:9o2.9ll 4:9od.9ll 1617:1fpu.lj r:1fq2.lj 246:1huh.1hve 2:1huj.1hve",
    "f:1hut.1hve 3n:1hyp.1hyf 1:1hyq.1hyf f0:1idj.1ida 1:1idj.1idz 1j:1if6.1ih5 2:1if8.1igr",
    "9:1iff.1igy 3:1ifk.1ih5 1g:1igy.1igy 2:1igy.1igo 1:1igy.1ih5 6r:1int.1inu 1:1int.1ink",
    "2:1int.1inx 70:1iuw.1iun 1:1iux.1iun ot:1jjp.1jjk e7d:1xr2.1xr2 1:1xr2.1xrd 1:1xr2.1xr3",
    "1:1xrd.1xr3 1:1xr2.1xr4 1:1xr5.1xr3 1:1xr6.1xr3 1:1xr5.1xr4 2f4:206f.206f 1:206b.206f",
    "1:206h.206f"]

/-- The place of each mark among those after one letter, where it has one. -/
def order : PointTable :=
  PointTable.read [
    "lc*l:6e l:6g 1*4:64 4:6g 1:60 1*5:64 5*2:5m 2*4:64 4*2:5m 2*b:64 b*5:1 5*4:64 4*a:6e a*3:64",
    "3*3:6e 3*2:64 3*3:6e 3*4:64 4:6e 1:6g 1*2:64 2:6e 1:6h 1*2:6i 2:6h 1*2:6i 2:6h 1*d:6e",
    "80*5:6e 7i:64 1*4:6e 4:64 1*3:6e 3:66 1:64 1*6:6e 6*6:64 6*2:6e 2:64 1*2:6e 2:66 1:6c 1:6e",
    "1:a 1:b 1:c 1:d 1:e 1:f 1:g 1:h 1:i 1*2:j 2:k 1:l 1:m 2:n 2:o 1:p 2:6e 1:64 2:i 21*8:6e 8:u",
    "1:v 1:w 1d:r 1:s 1:t 1:u 1:v 1:w 1:x 1:y 1*2:6e 2*2:64 2*5:6e 5:64 1*2:6e 2:64 h:z 2u*7:6e",
    "9*4:6e 4:64 1:6e 3*2:6e 3:64 1*2:6e 2:64 10:10 v:6e 1:64 1*2:6e 2:64 1*2:6e 2*3:64 3:6e",
    "1*2:64 2:6e 1:64 1*3:6e 3:64 1:6e 1:64 1:6e 1:64 1:6e 1:64 1*2:6e 4i*7:6e 7:64 1:6e a:64",
    "p*4:6e 5*9:6e a*3:6e 4*5:6e 1c*3:64 1q*2:6e 2*3:64 3*4:6e 1a*5:6e 5*5:64 5*e:6e f:64 1*2:6e",
    "2:64 1*2:6e 2:64 1*3:6e 3*3:64 3:r 1:s 1:t 1*3:6e 3:64 1*2:6e 2*2:64 2*5:6e 1t:7 h:9 4:6e",
    "1:64 1*2:6e 2x:7 h:9 1d:6e 1q:7 h:9 33:7 h:9 33:7 h:9 3k:9 33:7 h:9 8:2c 1:2j 2u:7 h:9",
    "32*2:9 i:9 3h:9 32*2:2v 2:9 e*4:2z 34*2:3a 2:9 e*4:3e 28*2:64 t:64 2:64 2:60 1k:3l 1:3m 2:3o",
    "6*4:3m 6:3m 2*2:6e 2:9 2*2:6e 1s:64 35:7 2*2:9 2c:64 k0*3:6e qf*2:9 w:9 4e:9 b:6e 5o:6c",
    "40:66 1:6e 1:64 64:6e 1:64 20:9 l*8:6e a:64 1d*5:6e 5*6:64 6*2:6e 2:64 2*2:64 2*2:6e 2*2:64",
    "2*5:6e 5:64 1*i:6e i:64 3*6:6e 6:64 1*4:6e 4:6i 21:7 g:9 13:6e 1:64 1*7:6e 1p*2:9 1o:7 c*2:9",
    "1x:7 49*3:6e 4:1 1*5:64 5*2:6e 2*4:64 4:6e 2*7:1 b:64 7:6e 4*2:6e 5k*2:6e 2:64 1*7:6e 7:64",
    "1*2:6e 2:6i 1:5y 1:64 1:5m 1*11:6e 11:6g 1*2:6c 2:64 1:62 1:6e 1:6h 1:64 1:6e 1:64 k1*2:6e",
    "2*2:1 2*4:6e 4*3:1 3*2:6e 6:6e 4*2:1 2:6e 1:64 1:6e 1*2:1 2*4:64 4:6e 2db*3:6e 40:9 2p*w:6e",
    "ga:62 1:6c 1:6g 1:66 1*2:68 2z*2:8 n9y:6e 5*a:6e 16*2:6e 2a*2:6e 7q:9 12:9 48:9 s*i:6e",
    "23*3:64 14:9 2o:7 d:9 6o:6e 2*2:6e 2:64 3*2:6e 7*2:6e 3:6e 1h:9 6v:9 fn5:q le*7:6e 7*7:64",
    "7*2:6e r3:64 6b:64 46*5:6e 1av:64 2:6e 15:6e 1:1 1:64 5:9 4m:6e 1:64 fy*4:6e 1x*5:6e 8y*2:6e",
    "27*2:64 3*3:64 21*2:64 2*3:6e 3:64 1:6e 1*4:64 1h:6e 1:64 1:6e 1:64 5d:9 16:9 f:9 1m:9 1:7",
    "1y*3:6e 1f*2:9 1s:7 25:9 a:7 2z:9 1:7 4z:7 1:9 29*2:7 i:9 p*f:6e 2w*3:9 38:9 4:7 o:6e 2s:9",
    "1:7 70:9 1:7 3j:9 3b:9 1:7 38:9 7i:9 1:7 77*2:9 6:7 4d:9 2c:9 j:9 2a:9 bq:9 77:7 2*2:9 2b:9",
    "bu*2:9 d0u:9 1xd*5:1 1s*7:6e xs*2:6 f5a:1 43r*2:60 2*3:1 6:6a 1*5:60 d*8:64 a*5:6e 5*2:64",
    "w*4:6e 48*3:6e 2pq*40:6e 8g*7:6e am:6e 1q*4:6e e8*2:6g 2:64 1:6e 73:6e 1:64 6s:6e 3:6e",
    "8*2:6e 7:6e d7*7:64 38*6:6e 6:7"]

/-- Marks: 1 for those without a width of their own, 2 for the others. -/
def marks : PointTable :=
  PointTable.read [
    "lc*34:1 ar*7:1 7i*19:1 1a:1 2*2:1 3*2:1 3:1 21*b:1 1n*l:1 11:1 2u*7:1 9*6:1 8*2:1 3*4:1 13:1",
    "v*r:1 3a*b:1 1x*9:1 i:1 p*4:1 5*9:1 a*3:1 4*5:1 1c*3:1 1q*9:1 1f*1l:1 1l:2 1j:1 1:2 1:1",
    "2*3:2 3*8:1 8*4:2 4:1 1*2:2 3*7:1 h*2:1 v:1 1*2:2 1m:1 2*3:2 3*4:1 6*6:2 6:1 a:2 b*2:1 s*5:1",
    "5:2 1l:1 2*3:2 3*h:1 1b*2:1 5:1 c*2:1 2:2 1l:1 2*3:2 3*8:1 8*4:2 4:1 l*2:1 o*8:1 8*2:2 1m:1",
    "2:2 1:1 1:2 1*4:1 6*6:2 6*a:1 a:2 b*2:1 w:1 1o*2:2 2:1 1*c:2 c:1 a:2 15:1 1*3:2 3:1 1k:1",
    "2*3:1 3*4:2 5*h:1 s*2:1 v:1 1*2:2 1m:1 2:2 1:1 1*5:2 6:1 1*5:2 5*2:1 9*2:2 d*2:1 h:2 d*2:1",
    "2*2:2 1l*2:1 3*3:2 3*4:1 5*7:2 7:1 a:2 b*2:1 v:1 1*2:2 20:1 5*3:2 3*5:1 6*8:2 q*2:2 1r:1",
    "3*7:1 j*8:1 2y:1 3*9:1 k*7:1 28*2:1 t:1 2:1 2:1 5*2:2 1f*e:1 e:2 1*5:1 6*2:1 7*1c:1 1l:1",
    "2t*2:2 2*4:1 4:2 1*6:1 6:2 1*2:1 2*2:2 2*2:1 p*2:2 2*2:1 6*3:1 4*3:2 5*7:2 a*4:1 h:1 1*2:2",
    "2*2:1 2*6:2 6:1 2:2 b*3:2 3:1 jk*3:1 qd*3:1 3:2 t*2:1 2:2 u*2:1 w*2:1 1w:2 1*7:1 7*8:2 8:1",
    "1*2:2 2*b:1 k:1 4o*2:1 10:1 3b*3:1 3*4:2 4*2:1 2*9:2 9:1 1*6:2 6*3:1 66*2:1 2*2:2 2:1 1m:2",
    "1:1 1:2 1*9:1 9:2 1:1 1*2:2 2*8:1 8*6:2 6*d:1 1p*2c:1 2c:2 1c:1 1:2 1*5:1 5:2 1:1 1*5:2 5:1",
    "1*2:2 14*9:1 l*2:1 2:2 v:2 1*4:1 4*2:2 2*2:1 2:2 1*3:1 1n:1 1:2 1*2:1 2*3:2 3:1 1:2 1*3:1",
    "3*2:2 1e*8:2 8*8:1 8*2:2 2*2:1 4a*3:1 4*d:1 d:2 1*7:1 b:1 7:1 3:2 1*2:1 5k*1s:1 ls*x:1",
    "2e7*3:1 40:1 2p*w:1 ga*4:1 4*2:2 2z*2:1 n9y*4:1 5*a:1 16*2:1 2a*2:1 7m:1 4:1 5:1 o*2:2 2*2:1",
    "2:2 5:1 2c*2:2 1g*g:2 g*2:1 s*i:1 v:1 13*8:1 x*b:1 b*2:2 1a*3:1 3:2 1c:1 1*2:2 2*4:1 4*2:2",
    "2*2:1 2*3:2 13:1 1w*6:1 6*2:2 2*2:1 2*2:2 2*2:1 e:1 9:1 1:2 1a:2 1:1 1:2 1f:1 2*3:1 5*2:1",
    "7*2:1 3:1 16:2 1*2:1 2*2:2 7:2 1:1 6l*2:2 2:1 1*2:2 2:1 1*2:2 3:2 1:1 fn5:1 le*g:1 rh:1 6b:1",
    "46*5:1 1aj*f:1 1j*8:1 4t*2:1 fz*4:1 1x*5:1 8y*2:1 27*6:1 24*b:1 1o*4:1 3i:2 1:1 1:2 1i*f:1",
    "1k:1 3*2:1 c*3:1 3:2 1a*3:2 3*4:1 4*2:2 2*2:1 9:1 1q*3:1 13*5:1 5:2 1*8:1 o*2:2 1a:1 d*2:1",
    "2:2 1d*3:2 3*9:1 9*2:2 a*4:1 5:2 1:1 2l*3:2 3*3:1 3*2:2 2:1 1:2 1*2:1 8:1 3:1 4e:1 1*3:2",
    "3*8:1 t*2:1 2*2:2 1l*2:1 3*2:2 2:1 1*d:2 m:2 b*2:2 4*f:1 2a*3:2 3*6:1 7*c:2 c:1 1:2 1:1 2:1",
    "f*2:1 2c*3:2 3*8:1 8*2:2 2*3:1 3:2 1:1 o:1 2a*3:2 3*6:1 6:2 1:1 1*4:2 4*2:1 2:2 1*2:1 6l*3:2",
    "3*4:1 6*4:2 4*2:1 2:2 1*2:1 t*2:1 2c*3:2 3*8:1 8*2:2 2:1 1:2 1*2:1 30:1 1:2 1:1 1*2:2 2*6:1",
    "6:2 1:1 2u:1 1:2 1:1 1*2:2 2*4:1 4:2 1*5:1 79*3:2 3*9:1 9:2 1*2:1 6v*9:2 b*2:1 2:2 1:1 2:2",
    "2:2 1:1 3y*3:2 3*8:1 8*4:2 4:1 4:2 t*a:1 1e*6:1 6:2 2*4:1 c:1 a*6:1 6*2:2 2*3:1 1d*d:1 d:2",
    "1*2:1 5k:1 1:2 1*3:1 3:2 1:1 1:2 5k:2 1*e:1 e:2 1:1 2b*m:1 n:2 1*7:1 7:2 1*2:1 2:2 1*2:1",
    "3g*l:1 m:1 1v*5:2 6*2:1 3*2:2 2:1 1:2 1:1 9o*2:1 2*2:2 b*2:1 3:2 1d*2:2 2*5:1 8*2:2 2:1 1:2",
    "1:1 o:1 44m:1 7*f:1 8uv*c:1 c*3:2 3*3:1 1xf*5:1 1s*7:1 tb:1 2*1j:2 1q*4:1 2d:1 c*2:2 f59*2:1",
    "3mr*1z:1 h1*2:2 2*3:1 6*6:2 e*8:1 a*7:1 11*4:1 48*3:1 1j2*1j:1 1n*1e:1 1m:1 f:1 n*l:1",
    "12d*40:1 8g*7:1 am:1 1q*4:1 e8*4:1 76*2:1 6t:1 3:1 8*2:1 7:1 d7*7:1 38*7:1"]

/-- Directions of what is no mark without width and does not run to the right: 1 to the left, 2 an Arabic
number, 3 a European number, 4 neutral, 5 none that a name may have. -/
def directions : PointTable :=
  PointTable.read [
    "0*9:4 9*5:5 5*e:4 e*5:5 5*f:4 f*a:3 a*13:4 1t*2l:4 3g:4 ci*2:4 9*e:4 g*s:4 t*h:4 3q:4 3l:4",
    "b8*6:4 1g*1j:1 20*2:4 2:1 1*2:4 2:1 1:4 1:1 1*2:4 d*1c:1 1x*a:2 a:4 1*2:2 2*2x:1 35:4 7*2:1",
    "4:4 5*2:1 2*a:3 a*70:1 70*4:4 4*5s:1 e0*2:4 9:4 6u:4 76*8:4 3p*7:4 cn:4 6z*4:4 uu*a:4 34:4",
    "ij*2:4 8w:4 l*r:4 9c*6:4 4e*y:4 a8*2:4 1d:4 wd*8y:4 am*bw:4 dt*q:4 r*ly:4 lz*9f:4 gj*lc:4",
    "rp*6:4 k*7:4 7b*ed:4 eg*p:4 14:4 7:4 6*3:4 2r:4 2j:4 5h*12:4 5j4*1s:4 h5c*1j:4 al*3:4 2u*d:4",
    "3x*y:4 3s:4 4g*4:4 g*2:4 1o*4:4 l2*2:4 fuw*h:1 h*hw:4 j4:1 i6:4 1r*25:4 28*h:4 9d*r:3",
    "10f*7w:1 7z:4 1*eu:1 ex*7:4 7*dg:1 ds*q:2 q*6:1 10:4 1*x:1 6p*v:2 w*29:1 29*8:4 1b*6v:1",
    "9e*k:4 172*d:4 1v9*t:4 ft9:4 i72*kx:4 161*2l:4 7r*2f:4 35r:4 lc:4 e9*11a:1 1dc*g0:4 hp*3:4",
    "1s:4 4z*1wb:4"]

/-- How letters join: 1 on both sides, 2 to the letter after them only, 3 to the one before them only, 4 not
at all, and letters join around them. -/
def joining : PointTable :=
  PointTable.read [
    "17k:1 2*4:3 4:1 1:3 1:1 1:3 1*5:1 5*4:3 4*d:1 e*7:1 7:3 1*2:1 11*2:1 3*3:3 8*f:1 f*i:3",
    "i*12:1 12:3 1*2:1 2*9:3 9:1 1:3 1:1 1:3 1*2:1 2*2:3 3:3 p*2:3 c*3:1 5:1 h:3 2*3:1 3*5:3",
    "5*4:1 4:3 1*9:1 9:3 1:1 1:3 1:1 1:3 1*2:1 2*v:3 v*b:1 b*3:3 3*f:1 f*2:3 2*4:1 4:3 1:1 1*2:3",
    "2*3:1 3*2:3 2*6:1 28*x:1 3a:3 1*5:1 5*2:3 2:1 1:3 1*a:1 a:3 1:1 1*3:3 a:1 2*4:1 5:3 1:1",
    "1*q:3 t:1 3*5:1 5:3 1*r:1 r*3:3 4:3 1*2:1 2*2:3 2*6:1 6:3 1*f:1 30t:1 p*2h:1 2v*10:1",
    "se1*1e:1 1e:2 jf2*5:1 5:3 2:3 2*2:3 4:2 1*5:3 5*4:1 4:2 1*5:1 5:3 1*3:1 3:3 3:3 7*4:1 4:3",
    "41:1 1:3 1:1 1*3:3 3*3:1 3:3 1*2:1 2:3 1:1 1*2:3 2:1 1:3 o*4:3 4*2:1 9f:2 1*x:1 x:3 1:1 bj:3",
    "1*2:1 3*2:1 2y*3:1 3:3 1*h:1 t*3:1 3:3 s*4:1 4*2:3 2*c:1 1m:1 2*2:1 2*3:3 4:1 1*2:3 2*2:1",
    "2:3 1*2:1 3:1 1*2:3 2:1 5:3 1:1 1:2 16xj*y:1 15:4"]

end ApiLens.DomainTable

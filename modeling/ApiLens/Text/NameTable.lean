import ApiLens.Text.PointTable

/-!
Unicode characters in names.
-/

namespace ApiLens.NameTable

/-- Characters beyond ASCII: 1 for letters, among them those that stand for numbers, and 2 for others that a name may
go on with, which are digits, marks and characters that join words. -/
def kinds : PointTable :=
  PointTable.read [
    "4o:2 2:1 5:2 5:2 1:1 2*2:2 3:1 6*n:1 o*v:1 w*cq:1 cq*4:2 4*c:1 c*e:2 e*5:1 5*7:2 7:1 1:2 1:1",
    "1*3l:2 3l*5:1 5:2 1*2:1 4*4:1 5:1 5*2:2 2:1 2*3:1 4:1 2*k:1 l*2b:1 2c*3v:1 3w*5:2 7*4m:1",
    "4n*12:1 14:1 7*15:1 1d*19:2 1a:2 2*2:2 3*2:2 3:2 9*r:1 v*4:1 x*b:2 g*17:1 17*v:2 z*2:1 2:2",
    "1*2r:1 2s:1 1*7:2 9*6:2 6*2:1 2*2:2 3*4:2 4*2:1 2*a:2 a*3:1 5:1 h:1 1:2 1*u:1 u*r:2 t*2h:1",
    "2h*b:2 b:1 f*a:2 a*x:1 x*9:2 9*2:1 6:1 3:2 3*m:1 m*4:2 4:1 1*9:2 9:1 1*3:2 3:1 1*5:2 n*p:1",
    "p*3:2 7*b:1 g*o:1 p*7:1 e*9:2 9*16:1 16*o:2 p*w:2 x*1i:1 1i:2 2:2 1:1 4*8:2 c:2 3:1 1*7:2",
    "7*a:1 a*2:2 4*a:2 b*g:1 g:2 4*8:1 a*2:1 4*m:1 n*7:1 8:1 4*4:1 6:2 1:1 4*4:2 c:2 1:1 e*2:1",
    "3*3:1 3*2:2 4*a:2 a*2:1 c:1 2:2 3*2:2 4*6:1 a*2:1 4*m:1 n*7:1 8*2:1 3*2:1 3*2:1 4:2 5*2:2",
    "6*2:2 4*3:2 6:2 8*4:1 5:1 8*c:2 c*3:1 3:2 c*2:2 4*9:1 a*3:1 4*m:1 n*7:1 8*2:1 3*5:1 7:2 1:1",
    "4*5:2 6*2:2 6:2 3:1 g*2:1 2*2:2 4*a:2 j:1 1*6:2 7:2 4*8:1 a*2:1 4*m:1 n*7:1 8*2:1 3*5:1 7:2",
    "1:1 2:2 2*4:2 c:2 8*2:2 7*2:1 3*3:1 3*2:2 4*a:2 b:1 h:2 1:1 2*6:1 9*3:1 4*4:1 7*2:1 3:1",
    "2*2:1 5*2:1 5*3:1 6*c:1 i:2 d:2 3:1 m*a:2 q:2 4:2 1*8:1 9*3:1 4*n:1 o*g:1 i:2 1:1 1*3:2",
    "8*3:2 4*4:2 b*2:2 3*3:1 4*2:1 4*2:1 2*2:2 4*a:2 q:1 1:2 4*8:1 9*3:1 4*n:1 o*a:1 b*5:1 7:2",
    "1:1 2:2 7:2 6*2:2 g*3:1 4*2:1 2*2:2 4*a:2 b*2:1 f*2:2 4*9:1 a*3:1 4*15:1 15*2:2 2:1 4*4:2",
    "c:2 1:1 6*3:1 b*3:1 3*2:2 4*a:2 k*6:1 7:2 4*i:1 l*o:1 p*9:1 a:1 3*7:1 a:2 8*3:2 4:2 g*a:2",
    "r*1c:1 1c:2 1*2:1 2*7:2 c*7:1 7*8:2 9*a:2 1d*2:1 3:1 2*5:1 6*o:1 p:1 2*a:1 a:2 1*2:1 2*9:2",
    "9:1 3*5:1 6:1 2*7:2 8*a:2 c*4:1 10:1 o*2:2 8*a:2 l:2 2:2 2:2 5*2:2 2*8:1 9*10:1 14*e:2 f*5:2",
    "6*2:2 2*5:1 5*b:2 c*10:2 19:2 1m*17:1 19*4:2 5*6:2 7*2:2 4*2:2 2:1 1*a:2 g*6:1 8*2:2 2*4:1",
    "4*3:2 3:1 2*2:2 2*2:1 4*5:2 5*3:1 3*4:2 4*d:1 d:2 3*9:2 9:1 1*d:2 e:2 3*12:1 13:1 6:1 3*17:1",
    "18*99:1 9a*4:1 6*7:1 8:1 2*4:1 6*15:1 16*4:1 6*x:1 y*4:1 6*7:1 8:1 2*4:1 6*f:1 g*1l:1 1m*4:1",
    "6*1v:1 1x*3:2 z*g:1 w*2e:1 2g*6:1 9*h8:1 ha*h:1 i*q:1 v*23:1 26*b:1 i*i:1 i*4:2 d*j:1 j*3:2",
    "e*i:1 i*2:2 e*d:1 e*3:1 4*2:2 e*1g:1 1g*2:2 3*7:2 f:2 3*b:2 e:1 5:1 1:2 3*a:2 17*3:2 4*b:2",
    "h*2h:1 2o*5:1 5*2:2 2*y:1 y:2 1:1 6*1y:1 28*v:1 w*3:2 7*2:2 b:2 7*3:2 d*a:2 a*u:1 w*5:1",
    "g*18:1 1c*q:1 w*a:2 1c*n:1 n*2:2 4:2 5*1h:1 1i:2 2*7:2 8:2 2:2 3*8:2 e*a:2 c*b:2 h*a:2 n:1",
    "9*1a:2 1c*c:2 w*4:2 5*1b:1 1b:2 2*5:2 6:2 6:2 2:2 1*8:1 b*a:2 r*9:2 l*2:2 3*u:1 v*4:2 6*6:2",
    "6*2:1 2*a:2 a*18:1 18:2 2*2:2 5:2 2*5:2 h*10:1 18*8:2 a*2:2 a*a:2 d*3:1 3*a:2 a*10:1 12*b:1",
    "g*17:1 19*3:1 j*p:2 p*4:1 4:2 1*6:1 6:2 1*2:1 2*3:2 3:1 6*5c:1 5c*1s:2 1s*7q:1 7s*6:1 8*12:1",
    "14*6:1 8*8:1 9:1 2:1 2:1 2*v:1 x*1h:1 1i*7:1 7:2 1:1 1*3:2 3*3:1 4*7:1 7*3:2 3*4:1 6*6:1",
    "7*3:2 3*d:1 d*3:2 5*3:1 4*7:1 7*2:2 1u*2:2 l:2 t:1 e:1 h*d:1 1s*d:2 h:2 4*c:2 t:1 5:1 3*a:1",
    "b:1 4*5:1 b:1 2:1 2:1 2*4:1 5*b:1 d*4:1 9*5:1 9:1 i*15:1 23k*6d:1 6j*4:1 4*3:2 3*2:1 e*12:1",
    "13:1 6:1 3*1k:1 1r:1 g:2 1*n:1 w*7:1 8*7:1 8*7:1 8*7:1 8*7:1 8*7:1 8*7:1 8*7:1 8*w:2 27:1",
    "d2*3:1 s*9:1 9*6:2 7*5:1 7*5:1 9*2e:1 2g*4:2 4*3:1 4*2i:1 2j*4:1 9*17:1 18*2m:1 33*w:1",
    "28*g:1 eo*534:1 54w*h3h:1 h5c*1a:1 1c*7h:1 7k*g:1 g*a:2 a*2:1 m*1b:1 1b:2 5*a:2 b*v:1 v*2:2",
    "2*28:1 28*2:2 g*n:2 n*9:1 9*2:2 2*2v:1 2v*2:2 2*2a:1 2u*h:1 h:2 1*3:1 3:2 1*4:1 4:2 1*n:1",
    "p*2:2 7:2 k*1g:1 1u*1e:1 1u*2:2 c*a:2 g*i:2 i*6:1 9:1 2*2:1 2*b:2 b*s:1 s*9:2 a*n:1 n*b:2",
    "c:2 d*t:1 w*3:2 4*1b:1 1b:2 3*4:2 6*2:2 4:2 f:1 1*a:2 g*5:1 5:2 1*a:1 a*a:2 a*5:1 6*15:1",
    "15*6:2 8*2:2 4*2:2 b*3:1 3:2 1*8:1 8:2 4*a:2 g*n:1 q:1 1*3:2 3*1e:1 1e:2 1:1 1*3:2 3*2:1",
    "2*2:2 2*5:1 5*2:2 2:1 1:2 1:1 p*3:1 5*b:1 c*2:2 6*3:1 4:2 b*6:1 8*6:1 8*6:1 f*7:1 8*7:1",
    "8*17:1 17:2 1*e:1 e*2:2 6*37:1 39:2 3:2 4*2:2 4*a:2 g*8mc:1 8mo*n:1 r*1d:1 6k5*a6:1 a8*2y:1",
    "40*7:1 j*5:1 a:1 1:2 1*a:1 b*d:1 e*5:1 6:1 2*2:1 3*2:1 3*30:1 3x*a3:1 al*1s:1 1u*1i:1 2m*c:1",
    "g*g:2 w*g:2 j*2:2 q*3:2 z*5:1 6*3r:1 4a*a:2 h*q:1 t*3:2 3*q:1 11*2h:1 2k*6:1 8*6:1 8*6:1",
    "8*3:1 9:2 t*c:1 d*q:1 r*j:1 k*2:1 3*f:1 h*e:1 1c*3f:1 5c*1h:1 59:2 3n*t:1 w*1d:1 1s:2 w*w:1",
    "19*u:1 z*12:1 12*5:2 a*u:1 w*10:1 14*8:1 9*5:1 1b*4e:1 4g*a:2 g*10:1 14*10:1 14*14:1 1c*1g:1",
    "1s*b:1 c*f:1 g*7:1 8*2:1 3*b:1 c*f:1 g*7:1 8*2:1 5*1g:1 1s*8n:1 8w*m:1 w*8:1 w*6:1 7*16:1",
    "17*9:1 26*6:1 8:1 2*18:1 19*2:1 5:1 3*n:1 x*n:1 w*v:1 2o*j:1 k*2:1 c*m:1 w*q:1 w*q:1 1s*1k:1",
    "1q*2:1 1u:1 1*3:2 4*2:2 7*4:2 4*4:1 5*3:1 4*t:1 v*3:2 7:2 x*t:1 w*t:1 1s*8:1 9*s:1 s*2:2",
    "r*1i:1 1s*m:1 w*j:1 w*i:1 3k*21:1 3k*1f:1 1s*1f:1 1s*10:1 10*4:2 c*a:2 g*a:2 a*s:1 v*5:2",
    "6*n:1 7l*16:1 17*2:2 5*2:1 i*6:1 1k*6:2 6*t:1 13:1 9*m:1 m*b:2 16*i:1 i*4:2 1a*l:1 1c*n:1",
    "x:2 2*1h:1 1h*f:2 1a*b:2 b*2:1 2*2:2 2:1 a*3:2 4*19:1 1c*4:2 6*2:2 9:2 e*p:1 w*a:2 g*3:2",
    "3*10:1 10*5:2 6*8:2 9*a:2 e:1 3:1 9*z:1 z:2 3:1 a*2:2 3*1c:1 1f*9:2 a:2 1*4:1 8*4:2 6*b:2",
    "b:1 2:1 10*i:1 j*p:1 s*3:2 5*4:2 a:2 1*2:1 2:2 1r*7:1 8:1 2*4:1 5*f:1 g*a:1 h*1b:1 1b:2",
    "4*8:2 d*a:2 g*2:2 5*8:1 a*2:1 4*m:1 n*7:1 8*2:1 3*5:1 6*2:2 2:1 3:2 d:2 3:1 d*5:1 9*7:2",
    "a*5:2 g*a:1 b:1 3:1 2*12:1 13:1 4*6:2 j*3:2 3:1 1:2 1:1 e*2:2 v*1h:1 1k*8:2 a*3:2 4:2 1*4:1",
    "9*a:2 e:2 1*3:1 x*1c:1 1f*6:2 7:2 5*2:2 3*2:2 2*2:1 3:1 9*a:2 4w*1b:1 1e*4:2 a*2:2 3*2:2",
    "p*4:1 4*2:2 10*1c:1 1f*8:2 a:2 2*2:2 5:1 c*a:2 1c*17:1 17:2 2:2 3*8:2 8:1 8*a:2 g*k:2 1c*r:1",
    "t:2 2:2 3*4:2 5*5:2 9*a:2 g*7:1 5c*18:1 1b*9:2 a*2:2 2v*1s:1 1s*a:2 v*8:1 a:1 3*8:1 9*2:1",
    "3*o:1 z*4:2 4:1 2:1 2:2 d*a:2 28*8:1 a*13:1 16*4:2 6*2:2 6:2 1:1 2:1 t:1 1*a:2 a*14:1 14*6:2",
    "7:1 1*4:2 c:2 9:1 1*6:2 8*3:2 3*1a:1 1a*d:2 e*2:2 5:1 j*21:1 4w:2 2*3:2 4:2 2i*x:1 1c*a:2",
    "g*9:1 a*11:1 12*7:2 8*6:2 7:2 1:1 g*a:2 y*u:1 w*m:2 o*7:2 8*2:2 3*2:2 23*7:1 8*2:1 3*12:1",
    "12*6:2 9:2 2*2:2 3*7:2 7:1 1:2 9*a:2 g*6:1 7*2:1 3*w:1 12*2:2 5:2 2:2 1:1 8*a:2 g*18:1",
    "1c*a:2 74*j:1 j*2:2 d*2:2 2:1 2*d:1 e*y:1 10*5:2 a*3:2 g*b:2 2o:1 28*pm:1 sg*33:1 3k*5g:1",
    "26o*2p:1 34*ts:1 u8:2 1*6:1 6*f:2 p*32z:1 334*g7:1 5q8*u:1 u*c:2 f*d:2 1cj*ft:1 g0*v:1 w*a:2",
    "g*27:1 28*a:2 g*u:1 w*5:2 g*1c:1 1c*7:2 g*4:1 g*a:2 j*l:1 q*j:1 cj*19:1 1c*a:2 5s*1s:1",
    "2o*p:1 r*p:1 1x*23:1 27:2 1:1 1r*4:2 4*d:1 25*2:1 3:1 1:2 c*2:2 2*5:1 e*5p2:1 5q7*w:1",
    "3l*37:1 6sw*4:1 5*7:1 8*2:1 3*83:1 8i:1 u*3:1 5:1 f*4:1 c*b0:1 234*2z:1 34*d:1 g*9:1 g*a:1",
    "d*2:2 383*a:2 eo*1a:2 1c*n:2 fr*3:2 6*6:2 e*8:2 a*7:2 11*4:2 48*3:2 ce*2d:1 2e*1z:1 20*2:1",
    "4:1 3*2:1 4*4:1 5*c:1 d:1 2*7:1 8*1t:1 1u*4:1 6*8:1 9*7:1 8*s:1 t*4:1 5*5:1 6:1 4*7:1 8*9g:1",
    "9i*p:1 q*p:1 q*v:1 w*p:1 q*v:1 w*p:1 q*v:1 w*p:1 q*v:1 w*p:1 q*8:1 a*1e:2 fm*1j:2 1n*1e:2",
    "1m:2 f:2 n*5:2 6*f:2 v3*v:1 11*6:1 63*7:2 8*h:2 j*7:2 8*2:2 3*5:2 a*1q:1 2n:2 35*19:1 1c*7:2",
    "7*7:1 9*a:2 e:1 8y*u:1 u:2 i*18:1 18*e:2 dg*s:1 s*e:2 6c*u:1 u*2:2 2:1 1*a:2 5r*v:1 w*3:1",
    "3:2 1*2:1 2:2 1*7:1 7*2:2 2*5:1 5:2 9*2:1 6a*7:1 8*4:1 5*2:1 3*f:1 g*5h:1 5s*7:2 1c*1w:1",
    "1w*7:2 7:1 5*a:2 xc*4:1 5*r:1 s*2:1 3:1 3:1 2*a:1 b*4:1 5:1 2:1 7:1 5:1 2:1 2:1 2*3:1 4*2:1",
    "3:1 3:1 2:1 2:1 2:1 2:1 2*2:1 3:1 3*4:1 5*7:1 8*4:1 5*4:1 5:1 2*a:1 b*h:1 m*3:1 4*5:1 6*h:1",
    "2md*a:2 sw*wyo:1 wzk*3dq:1 3ds*4ge:1 4gg*5rl:1 5s0*ha:1 2ds*f2:1 1kw*3t7:1 3tc*6ju:1",
    "fcmo*6o:2"]

end ApiLens.NameTable

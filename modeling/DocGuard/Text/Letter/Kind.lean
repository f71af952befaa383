/-!
Kinds of characters.

Large and small letters, letters that begin a word in a title, characters with the value of a digit
or of a number, and characters that can stand in a name. Each kind is a list of runs of code points
at equal distances.
-/

namespace DocGuard.Text

/-- Code points at equal distances. -/
structure Stride where
  first : Nat
  count : Nat
  step : Nat

/-- The code point is one of the run. -/
def Stride.holds (run : Stride) (n : Nat) : Bool :=
  run.first ≤ n && n ≤ run.first + (run.count - 1) * run.step && (n - run.first) % run.step == 0

/-- Letters that are large. -/
def largeLetters : List Stride :=
  [⟨0x41, 26, 1⟩, ⟨0xc0, 23, 1⟩, ⟨0xd8, 7, 1⟩, ⟨0x100, 28, 2⟩, ⟨0x139, 8, 2⟩, ⟨0x14a, 24, 2⟩,
   ⟨0x179, 3, 2⟩, ⟨0x181, 2, 1⟩, ⟨0x184, 1, 1⟩, ⟨0x186, 2, 1⟩, ⟨0x189, 3, 1⟩, ⟨0x18e, 4, 1⟩,
   ⟨0x193, 2, 1⟩, ⟨0x196, 3, 1⟩, ⟨0x19c, 2, 1⟩, ⟨0x19f, 2, 1⟩, ⟨0x1a2, 3, 2⟩, ⟨0x1a7, 1, 1⟩,
   ⟨0x1a9, 1, 1⟩, ⟨0x1ac, 1, 1⟩, ⟨0x1ae, 2, 1⟩, ⟨0x1b1, 4, 2⟩, ⟨0x1b2, 1, 1⟩, ⟨0x1b8, 1, 1⟩,
   ⟨0x1bc, 1, 1⟩, ⟨0x1c4, 1, 1⟩, ⟨0x1c7, 1, 1⟩, ⟨0x1ca, 1, 1⟩, ⟨0x1cd, 8, 2⟩, ⟨0x1de, 9, 2⟩,
   ⟨0x1f1, 1, 1⟩, ⟨0x1f4, 32, 2⟩, ⟨0x1f7, 1, 1⟩, ⟨0x23a, 2, 1⟩, ⟨0x23d, 2, 1⟩, ⟨0x241, 3, 2⟩,
   ⟨0x244, 6, 2⟩, ⟨0x370, 1, 1⟩, ⟨0x372, 1, 1⟩, ⟨0x376, 1, 1⟩, ⟨0x37f, 1, 1⟩, ⟨0x386, 5, 2⟩,
   ⟨0x389, 1, 1⟩, ⟨0x38f, 15, 2⟩, ⟨0x392, 8, 2⟩, ⟨0x3a4, 4, 2⟩, ⟨0x3cf, 1, 1⟩, ⟨0x3d2, 3, 1⟩,
   ⟨0x3d8, 12, 2⟩, ⟨0x3f4, 1, 1⟩, ⟨0x3f7, 1, 1⟩, ⟨0x3f9, 2, 1⟩, ⟨0x3fd, 51, 1⟩, ⟨0x460, 17, 2⟩,
   ⟨0x48a, 28, 2⟩, ⟨0x4c1, 7, 2⟩, ⟨0x4d0, 48, 2⟩, ⟨0x531, 38, 1⟩, ⟨0x10a0, 38, 1⟩, ⟨0x10c7, 1, 1⟩,
   ⟨0x10cd, 1, 1⟩, ⟨0x13a0, 86, 1⟩, ⟨0x1c90, 43, 1⟩, ⟨0x1cbd, 3, 1⟩, ⟨0x1e00, 75, 2⟩,
   ⟨0x1e9e, 49, 2⟩, ⟨0x1f08, 8, 1⟩, ⟨0x1f18, 6, 1⟩, ⟨0x1f28, 8, 1⟩, ⟨0x1f38, 8, 1⟩,
   ⟨0x1f48, 6, 1⟩, ⟨0x1f59, 4, 2⟩, ⟨0x1f68, 8, 1⟩, ⟨0x1fb8, 4, 1⟩, ⟨0x1fc8, 4, 1⟩, ⟨0x1fd8, 4, 1⟩,
   ⟨0x1fe8, 5, 1⟩, ⟨0x1ff8, 4, 1⟩, ⟨0x2102, 1, 1⟩, ⟨0x2107, 1, 1⟩, ⟨0x210b, 3, 1⟩, ⟨0x2110, 3, 1⟩,
   ⟨0x2115, 1, 1⟩, ⟨0x2119, 5, 1⟩, ⟨0x2124, 5, 2⟩, ⟨0x212b, 2, 1⟩, ⟨0x212d, 1, 1⟩, ⟨0x2130, 4, 1⟩,
   ⟨0x213e, 2, 1⟩, ⟨0x2145, 1, 1⟩, ⟨0x2160, 16, 1⟩, ⟨0x2183, 1, 1⟩, ⟨0x24b6, 26, 1⟩,
   ⟨0x2c00, 48, 1⟩, ⟨0x2c60, 3, 2⟩, ⟨0x2c63, 1, 1⟩, ⟨0x2c67, 5, 2⟩, ⟨0x2c6e, 3, 2⟩,
   ⟨0x2c75, 1, 1⟩, ⟨0x2c7e, 51, 2⟩, ⟨0x2c7f, 1, 1⟩, ⟨0x2ceb, 1, 1⟩, ⟨0x2ced, 1, 1⟩,
   ⟨0x2cf2, 1, 1⟩, ⟨0xa640, 23, 2⟩, ⟨0xa680, 14, 2⟩, ⟨0xa722, 7, 2⟩, ⟨0xa732, 31, 2⟩,
   ⟨0xa779, 3, 2⟩, ⟨0xa77e, 5, 2⟩, ⟨0xa78b, 1, 1⟩, ⟨0xa78d, 1, 1⟩, ⟨0xa790, 1, 1⟩, ⟨0xa792, 1, 1⟩,
   ⟨0xa796, 25, 2⟩, ⟨0xa7ab, 2, 1⟩, ⟨0xa7ad, 1, 1⟩, ⟨0xa7b1, 2, 1⟩, ⟨0xa7b3, 1, 1⟩,
   ⟨0xa7c5, 3, 2⟩, ⟨0xa7d0, 1, 1⟩, ⟨0xa7d6, 1, 1⟩, ⟨0xa7d8, 1, 1⟩, ⟨0xa7f5, 1, 1⟩,
   ⟨0xff21, 26, 1⟩, ⟨0x10400, 40, 1⟩, ⟨0x104b0, 36, 1⟩, ⟨0x10570, 19, 2⟩, ⟨0x10571, 5, 2⟩,
   ⟨0x1057d, 7, 2⟩, ⟨0x1058d, 3, 2⟩, ⟨0x10595, 1, 1⟩, ⟨0x10c80, 51, 1⟩, ⟨0x118a0, 32, 1⟩,
   ⟨0x16e40, 32, 1⟩, ⟨0x1d400, 26, 1⟩, ⟨0x1d434, 26, 1⟩, ⟨0x1d468, 26, 1⟩, ⟨0x1d49c, 1, 1⟩,
   ⟨0x1d49e, 2, 1⟩, ⟨0x1d4a2, 1, 1⟩, ⟨0x1d4a5, 2, 1⟩, ⟨0x1d4a9, 4, 1⟩, ⟨0x1d4ae, 8, 1⟩,
   ⟨0x1d4d0, 26, 1⟩, ⟨0x1d504, 2, 1⟩, ⟨0x1d507, 4, 1⟩, ⟨0x1d50d, 8, 1⟩, ⟨0x1d516, 7, 1⟩,
   ⟨0x1d538, 2, 1⟩, ⟨0x1d53b, 4, 1⟩, ⟨0x1d540, 5, 1⟩, ⟨0x1d546, 1, 1⟩, ⟨0x1d54a, 7, 1⟩,
   ⟨0x1d56c, 26, 1⟩, ⟨0x1d5a0, 26, 1⟩, ⟨0x1d5d4, 26, 1⟩, ⟨0x1d608, 26, 1⟩, ⟨0x1d63c, 26, 1⟩,
   ⟨0x1d670, 26, 1⟩, ⟨0x1d6a8, 25, 1⟩, ⟨0x1d6e2, 25, 1⟩, ⟨0x1d71c, 25, 1⟩, ⟨0x1d756, 25, 1⟩,
   ⟨0x1d790, 25, 1⟩, ⟨0x1d7ca, 1, 1⟩, ⟨0x1e900, 34, 1⟩, ⟨0x1f130, 26, 1⟩, ⟨0x1f150, 26, 1⟩,
   ⟨0x1f170, 26, 1⟩]

/-- Letters that are small. -/
def smallLetters : List Stride :=
  [⟨0x61, 26, 1⟩, ⟨0xaa, 1, 1⟩, ⟨0xb5, 1, 1⟩, ⟨0xba, 1, 1⟩, ⟨0xdf, 24, 1⟩, ⟨0xf8, 8, 1⟩,
   ⟨0x101, 28, 2⟩, ⟨0x138, 9, 2⟩, ⟨0x149, 24, 2⟩, ⟨0x17a, 4, 2⟩, ⟨0x17f, 1, 1⟩, ⟨0x183, 1, 1⟩,
   ⟨0x185, 1, 1⟩, ⟨0x188, 1, 1⟩, ⟨0x18c, 2, 1⟩, ⟨0x192, 1, 1⟩, ⟨0x195, 1, 1⟩, ⟨0x199, 3, 1⟩,
   ⟨0x19e, 1, 1⟩, ⟨0x1a1, 3, 2⟩, ⟨0x1a8, 1, 1⟩, ⟨0x1aa, 2, 1⟩, ⟨0x1ad, 1, 1⟩, ⟨0x1b0, 1, 1⟩,
   ⟨0x1b4, 1, 1⟩, ⟨0x1b6, 1, 1⟩, ⟨0x1b9, 2, 1⟩, ⟨0x1bd, 3, 1⟩, ⟨0x1c6, 1, 1⟩, ⟨0x1c9, 1, 1⟩,
   ⟨0x1cc, 9, 2⟩, ⟨0x1dd, 10, 2⟩, ⟨0x1f0, 1, 1⟩, ⟨0x1f3, 1, 1⟩, ⟨0x1f5, 1, 1⟩, ⟨0x1f9, 33, 2⟩,
   ⟨0x234, 3, 2⟩, ⟨0x23c, 1, 1⟩, ⟨0x23f, 2, 1⟩, ⟨0x242, 1, 1⟩, ⟨0x247, 57, 2⟩, ⟨0x250, 34, 2⟩,
   ⟨0x296, 18, 2⟩, ⟨0x2c0, 2, 1⟩, ⟨0x2e0, 5, 1⟩, ⟨0x345, 1, 1⟩, ⟨0x371, 1, 1⟩, ⟨0x373, 1, 1⟩,
   ⟨0x377, 1, 1⟩, ⟨0x37a, 4, 1⟩, ⟨0x390, 1, 1⟩, ⟨0x3ac, 35, 1⟩, ⟨0x3d0, 2, 1⟩, ⟨0x3d5, 17, 2⟩,
   ⟨0x3d6, 1, 1⟩, ⟨0x3f0, 2, 1⟩, ⟨0x3f2, 1, 1⟩, ⟨0x3f8, 1, 1⟩, ⟨0x3fb, 2, 1⟩, ⟨0x430, 48, 1⟩,
   ⟨0x461, 17, 2⟩, ⟨0x48b, 27, 2⟩, ⟨0x4c2, 7, 2⟩, ⟨0x4cf, 49, 2⟩, ⟨0x560, 41, 1⟩, ⟨0x10d0, 43, 1⟩,
   ⟨0x10fd, 3, 1⟩, ⟨0x13f8, 6, 1⟩, ⟨0x1c80, 9, 1⟩, ⟨0x1d00, 192, 1⟩, ⟨0x1e01, 132, 2⟩,
   ⟨0x1e96, 4, 2⟩, ⟨0x1f00, 4, 2⟩, ⟨0x1f10, 6, 1⟩, ⟨0x1f20, 8, 1⟩, ⟨0x1f30, 8, 1⟩, ⟨0x1f40, 6, 1⟩,
   ⟨0x1f50, 8, 1⟩, ⟨0x1f60, 8, 1⟩, ⟨0x1f70, 14, 1⟩, ⟨0x1f80, 8, 1⟩, ⟨0x1f90, 8, 1⟩,
   ⟨0x1fa0, 8, 1⟩, ⟨0x1fb0, 5, 1⟩, ⟨0x1fb6, 2, 1⟩, ⟨0x1fbe, 1, 1⟩, ⟨0x1fc2, 3, 1⟩, ⟨0x1fc6, 2, 1⟩,
   ⟨0x1fd0, 4, 1⟩, ⟨0x1fd6, 2, 1⟩, ⟨0x1fe0, 8, 1⟩, ⟨0x1ff2, 3, 1⟩, ⟨0x1ff6, 2, 1⟩, ⟨0x2071, 1, 1⟩,
   ⟨0x207f, 1, 1⟩, ⟨0x2090, 13, 1⟩, ⟨0x210a, 1, 1⟩, ⟨0x210e, 2, 1⟩, ⟨0x2113, 1, 1⟩,
   ⟨0x212f, 1, 1⟩, ⟨0x2134, 1, 1⟩, ⟨0x2139, 1, 1⟩, ⟨0x213c, 2, 1⟩, ⟨0x2146, 4, 1⟩, ⟨0x214e, 1, 1⟩,
   ⟨0x2170, 16, 1⟩, ⟨0x2184, 1, 1⟩, ⟨0x24d0, 26, 1⟩, ⟨0x2c30, 48, 1⟩, ⟨0x2c61, 1, 1⟩,
   ⟨0x2c65, 2, 1⟩, ⟨0x2c68, 3, 2⟩, ⟨0x2c71, 1, 1⟩, ⟨0x2c73, 2, 1⟩, ⟨0x2c76, 8, 1⟩,
   ⟨0x2c81, 50, 2⟩, ⟨0x2ce4, 1, 1⟩, ⟨0x2cec, 1, 1⟩, ⟨0x2cee, 1, 1⟩, ⟨0x2cf3, 1, 1⟩,
   ⟨0x2d00, 38, 1⟩, ⟨0x2d27, 1, 1⟩, ⟨0x2d2d, 1, 1⟩, ⟨0xa641, 23, 2⟩, ⟨0xa681, 15, 2⟩,
   ⟨0xa69c, 1, 1⟩, ⟨0xa723, 43, 2⟩, ⟨0xa730, 1, 1⟩, ⟨0xa770, 7, 2⟩, ⟨0xa77f, 5, 2⟩,
   ⟨0xa78c, 1, 1⟩, ⟨0xa78e, 1, 1⟩, ⟨0xa791, 13, 2⟩, ⟨0xa794, 1, 1⟩, ⟨0xa7af, 1, 1⟩,
   ⟨0xa7b5, 8, 2⟩, ⟨0xa7c8, 1, 1⟩, ⟨0xa7ca, 1, 1⟩, ⟨0xa7d1, 5, 2⟩, ⟨0xa7f6, 3, 2⟩, ⟨0xa7f9, 1, 1⟩,
   ⟨0xab30, 43, 1⟩, ⟨0xab5c, 13, 1⟩, ⟨0xab70, 80, 1⟩, ⟨0xfb00, 7, 1⟩, ⟨0xfb13, 5, 1⟩,
   ⟨0xff41, 26, 1⟩, ⟨0x10428, 40, 1⟩, ⟨0x104d8, 36, 1⟩, ⟨0x10597, 19, 2⟩, ⟨0x10598, 5, 2⟩,
   ⟨0x105a4, 7, 2⟩, ⟨0x105b4, 3, 2⟩, ⟨0x105bc, 1, 1⟩, ⟨0x10780, 1, 1⟩, ⟨0x10783, 23, 2⟩,
   ⟨0x10784, 1, 1⟩, ⟨0x10788, 26, 2⟩, ⟨0x107b3, 4, 2⟩, ⟨0x10cc0, 51, 1⟩, ⟨0x118c0, 32, 1⟩,
   ⟨0x16e60, 32, 1⟩, ⟨0x1d41a, 26, 1⟩, ⟨0x1d44e, 13, 2⟩, ⟨0x1d44f, 3, 2⟩, ⟨0x1d457, 9, 2⟩,
   ⟨0x1d482, 26, 1⟩, ⟨0x1d4b6, 4, 1⟩, ⟨0x1d4bb, 11, 2⟩, ⟨0x1d4be, 3, 2⟩, ⟨0x1d4c6, 5, 2⟩,
   ⟨0x1d4ea, 26, 1⟩, ⟨0x1d51e, 26, 1⟩, ⟨0x1d552, 26, 1⟩, ⟨0x1d586, 26, 1⟩, ⟨0x1d5ba, 26, 1⟩,
   ⟨0x1d5ee, 26, 1⟩, ⟨0x1d622, 26, 1⟩, ⟨0x1d656, 26, 1⟩, ⟨0x1d68a, 28, 1⟩, ⟨0x1d6c2, 25, 1⟩,
   ⟨0x1d6dc, 6, 1⟩, ⟨0x1d6fc, 25, 1⟩, ⟨0x1d716, 6, 1⟩, ⟨0x1d736, 25, 1⟩, ⟨0x1d750, 6, 1⟩,
   ⟨0x1d770, 25, 1⟩, ⟨0x1d78a, 6, 1⟩, ⟨0x1d7aa, 25, 1⟩, ⟨0x1d7c4, 6, 1⟩, ⟨0x1d7cb, 1, 1⟩,
   ⟨0x1df00, 10, 1⟩, ⟨0x1df0b, 20, 1⟩, ⟨0x1e922, 34, 1⟩]

/-- Letters that begin a word in a title and are not large. -/
def titleLetters : List Stride :=
  [⟨0x1c5, 1, 1⟩, ⟨0x1c8, 1, 1⟩, ⟨0x1cb, 1, 1⟩, ⟨0x1f2, 1, 1⟩, ⟨0x1f88, 8, 1⟩, ⟨0x1f98, 8, 1⟩,
   ⟨0x1fa8, 8, 1⟩, ⟨0x1fbc, 1, 1⟩, ⟨0x1fcc, 1, 1⟩, ⟨0x1ffc, 1, 1⟩]

/-- Characters that are passed over when it is asked what stands before or behind a letter. -/
def passedLetters : List Stride :=
  [⟨0x27, 1, 1⟩, ⟨0x2e, 1, 1⟩, ⟨0x3a, 1, 1⟩, ⟨0x5e, 1, 1⟩, ⟨0x60, 1, 1⟩, ⟨0xa8, 1, 1⟩,
   ⟨0xad, 1, 1⟩, ⟨0xaf, 1, 1⟩, ⟨0xb4, 1, 1⟩, ⟨0xb7, 2, 1⟩, ⟨0x2b0, 192, 1⟩, ⟨0x374, 2, 1⟩,
   ⟨0x37a, 1, 1⟩, ⟨0x384, 2, 1⟩, ⟨0x387, 1, 1⟩, ⟨0x483, 7, 1⟩, ⟨0x559, 1, 1⟩, ⟨0x55f, 1, 1⟩,
   ⟨0x591, 45, 1⟩, ⟨0x5bf, 1, 1⟩, ⟨0x5c1, 2, 1⟩, ⟨0x5c4, 2, 1⟩, ⟨0x5c7, 1, 1⟩, ⟨0x5f4, 1, 1⟩,
   ⟨0x600, 6, 1⟩, ⟨0x610, 11, 1⟩, ⟨0x61c, 1, 1⟩, ⟨0x640, 1, 1⟩, ⟨0x64b, 21, 1⟩, ⟨0x670, 1, 1⟩,
   ⟨0x6d6, 8, 1⟩, ⟨0x6df, 10, 1⟩, ⟨0x6ea, 4, 1⟩, ⟨0x70f, 1, 1⟩, ⟨0x711, 1, 1⟩, ⟨0x730, 27, 1⟩,
   ⟨0x7a6, 11, 1⟩, ⟨0x7eb, 11, 1⟩, ⟨0x7fa, 1, 1⟩, ⟨0x7fd, 1, 1⟩, ⟨0x816, 24, 1⟩, ⟨0x859, 3, 1⟩,
   ⟨0x888, 1, 1⟩, ⟨0x890, 2, 1⟩, ⟨0x898, 8, 1⟩, ⟨0x8c9, 58, 1⟩, ⟨0x93a, 1, 1⟩, ⟨0x93c, 1, 1⟩,
   ⟨0x941, 8, 1⟩, ⟨0x94d, 1, 1⟩, ⟨0x951, 7, 1⟩, ⟨0x962, 2, 1⟩, ⟨0x971, 1, 1⟩, ⟨0x981, 1, 1⟩,
   ⟨0x9bc, 1, 1⟩, ⟨0x9c1, 4, 1⟩, ⟨0x9cd, 1, 1⟩, ⟨0x9e2, 2, 1⟩, ⟨0x9fe, 1, 1⟩, ⟨0xa01, 2, 1⟩,
   ⟨0xa3c, 1, 1⟩, ⟨0xa41, 2, 1⟩, ⟨0xa47, 2, 1⟩, ⟨0xa4b, 3, 1⟩, ⟨0xa51, 1, 1⟩, ⟨0xa70, 2, 1⟩,
   ⟨0xa75, 1, 1⟩, ⟨0xa81, 2, 1⟩, ⟨0xabc, 1, 1⟩, ⟨0xac1, 5, 1⟩, ⟨0xac7, 2, 1⟩, ⟨0xacd, 1, 1⟩,
   ⟨0xae2, 2, 1⟩, ⟨0xafa, 6, 1⟩, ⟨0xb01, 1, 1⟩, ⟨0xb3c, 1, 1⟩, ⟨0xb3f, 3, 2⟩, ⟨0xb42, 2, 1⟩,
   ⟨0xb44, 1, 1⟩, ⟨0xb4d, 1, 1⟩, ⟨0xb55, 2, 1⟩, ⟨0xb62, 2, 1⟩, ⟨0xb82, 1, 1⟩, ⟨0xbc0, 1, 1⟩,
   ⟨0xbcd, 1, 1⟩, ⟨0xc00, 1, 1⟩, ⟨0xc04, 1, 1⟩, ⟨0xc3c, 3, 2⟩, ⟨0xc3f, 1, 1⟩, ⟨0xc46, 4, 2⟩,
   ⟨0xc47, 1, 1⟩, ⟨0xc4b, 2, 1⟩, ⟨0xc4d, 1, 1⟩, ⟨0xc55, 2, 1⟩, ⟨0xc62, 2, 1⟩, ⟨0xc81, 1, 1⟩,
   ⟨0xcbc, 1, 1⟩, ⟨0xcbf, 1, 1⟩, ⟨0xcc6, 1, 1⟩, ⟨0xccc, 2, 1⟩, ⟨0xce2, 2, 1⟩, ⟨0xd00, 2, 1⟩,
   ⟨0xd3b, 2, 1⟩, ⟨0xd41, 4, 1⟩, ⟨0xd4d, 1, 1⟩, ⟨0xd62, 2, 1⟩, ⟨0xd81, 1, 1⟩, ⟨0xdca, 1, 1⟩,
   ⟨0xdd2, 3, 1⟩, ⟨0xdd6, 1, 1⟩, ⟨0xe31, 1, 1⟩, ⟨0xe34, 7, 1⟩, ⟨0xe46, 9, 1⟩, ⟨0xeb1, 1, 1⟩,
   ⟨0xeb4, 9, 1⟩, ⟨0xec6, 4, 2⟩, ⟨0xec9, 3, 2⟩, ⟨0xf18, 2, 1⟩, ⟨0xf35, 3, 2⟩, ⟨0xf71, 14, 1⟩,
   ⟨0xf80, 5, 1⟩, ⟨0xf86, 2, 1⟩, ⟨0xf8d, 24, 2⟩, ⟨0xf8e, 5, 2⟩, ⟨0xf9a, 18, 2⟩, ⟨0xfc6, 1, 1⟩,
   ⟨0x102d, 4, 1⟩, ⟨0x1032, 6, 1⟩, ⟨0x1039, 2, 1⟩, ⟨0x103d, 2, 1⟩, ⟨0x1058, 2, 1⟩, ⟨0x105e, 3, 1⟩,
   ⟨0x1071, 4, 1⟩, ⟨0x1082, 1, 1⟩, ⟨0x1085, 2, 1⟩, ⟨0x108d, 1, 1⟩, ⟨0x109d, 1, 1⟩, ⟨0x10fc, 1, 1⟩,
   ⟨0x135d, 3, 1⟩, ⟨0x1712, 3, 1⟩, ⟨0x1732, 2, 1⟩, ⟨0x1752, 2, 1⟩, ⟨0x1772, 2, 1⟩, ⟨0x17b4, 2, 1⟩,
   ⟨0x17b7, 7, 1⟩, ⟨0x17c6, 1, 1⟩, ⟨0x17c9, 11, 1⟩, ⟨0x17d7, 1, 1⟩, ⟨0x17dd, 1, 1⟩,
   ⟨0x180b, 5, 1⟩, ⟨0x1843, 1, 1⟩, ⟨0x1885, 2, 1⟩, ⟨0x18a9, 1, 1⟩, ⟨0x1920, 3, 1⟩, ⟨0x1927, 2, 1⟩,
   ⟨0x1932, 1, 1⟩, ⟨0x1939, 3, 1⟩, ⟨0x1a17, 2, 1⟩, ⟨0x1a1b, 1, 1⟩, ⟨0x1a56, 7, 2⟩, ⟨0x1a59, 3, 2⟩,
   ⟨0x1a65, 8, 1⟩, ⟨0x1a73, 10, 1⟩, ⟨0x1a7f, 1, 1⟩, ⟨0x1aa7, 1, 1⟩, ⟨0x1ab0, 31, 1⟩,
   ⟨0x1b00, 4, 1⟩, ⟨0x1b34, 5, 2⟩, ⟨0x1b37, 2, 1⟩, ⟨0x1b39, 1, 1⟩, ⟨0x1b42, 1, 1⟩, ⟨0x1b6b, 9, 1⟩,
   ⟨0x1b80, 2, 1⟩, ⟨0x1ba2, 4, 1⟩, ⟨0x1ba8, 2, 1⟩, ⟨0x1bab, 3, 1⟩, ⟨0x1be6, 1, 1⟩, ⟨0x1be8, 2, 1⟩,
   ⟨0x1bed, 3, 2⟩, ⟨0x1bf0, 1, 1⟩, ⟨0x1c2c, 8, 1⟩, ⟨0x1c36, 2, 1⟩, ⟨0x1c78, 6, 1⟩,
   ⟨0x1cd0, 13, 2⟩, ⟨0x1cd1, 1, 1⟩, ⟨0x1cd5, 6, 2⟩, ⟨0x1ce3, 3, 2⟩, ⟨0x1ced, 1, 1⟩,
   ⟨0x1cf4, 1, 1⟩, ⟨0x1cf8, 2, 1⟩, ⟨0x1d2c, 63, 1⟩, ⟨0x1d78, 1, 1⟩, ⟨0x1d9b, 101, 1⟩,
   ⟨0x1fbd, 3, 2⟩, ⟨0x1fc0, 1, 1⟩, ⟨0x1fcd, 3, 1⟩, ⟨0x1fdd, 3, 1⟩, ⟨0x1fed, 3, 1⟩, ⟨0x1ffd, 2, 1⟩,
   ⟨0x200b, 5, 1⟩, ⟨0x2018, 2, 1⟩, ⟨0x2024, 1, 1⟩, ⟨0x2027, 1, 1⟩, ⟨0x202a, 5, 1⟩, ⟨0x2060, 8, 2⟩,
   ⟨0x2061, 2, 1⟩, ⟨0x2063, 1, 1⟩, ⟨0x2067, 6, 2⟩, ⟨0x207f, 1, 1⟩, ⟨0x2090, 13, 1⟩,
   ⟨0x20d0, 33, 1⟩, ⟨0x2c7c, 2, 1⟩, ⟨0x2cef, 3, 1⟩, ⟨0x2d6f, 1, 1⟩, ⟨0x2d7f, 1, 1⟩,
   ⟨0x2de0, 32, 1⟩, ⟨0x2e2f, 1, 1⟩, ⟨0x3005, 1, 1⟩, ⟨0x302a, 4, 1⟩, ⟨0x3031, 5, 1⟩,
   ⟨0x303b, 1, 1⟩, ⟨0x3099, 6, 1⟩, ⟨0x30fc, 3, 1⟩, ⟨0xa015, 1, 1⟩, ⟨0xa4f8, 6, 1⟩, ⟨0xa60c, 1, 1⟩,
   ⟨0xa66f, 4, 1⟩, ⟨0xa674, 10, 1⟩, ⟨0xa67f, 1, 1⟩, ⟨0xa69c, 4, 1⟩, ⟨0xa6f0, 2, 1⟩,
   ⟨0xa700, 34, 1⟩, ⟨0xa770, 1, 1⟩, ⟨0xa788, 3, 1⟩, ⟨0xa7f2, 3, 1⟩, ⟨0xa7f8, 2, 1⟩,
   ⟨0xa802, 1, 1⟩, ⟨0xa806, 1, 1⟩, ⟨0xa80b, 1, 1⟩, ⟨0xa825, 2, 1⟩, ⟨0xa82c, 1, 1⟩, ⟨0xa8c4, 2, 1⟩,
   ⟨0xa8e0, 18, 1⟩, ⟨0xa8ff, 1, 1⟩, ⟨0xa926, 8, 1⟩, ⟨0xa947, 11, 1⟩, ⟨0xa980, 3, 1⟩,
   ⟨0xa9b3, 1, 1⟩, ⟨0xa9b6, 4, 1⟩, ⟨0xa9bc, 2, 1⟩, ⟨0xa9cf, 1, 1⟩, ⟨0xa9e5, 2, 1⟩, ⟨0xaa29, 6, 1⟩,
   ⟨0xaa31, 2, 1⟩, ⟨0xaa35, 2, 1⟩, ⟨0xaa43, 1, 1⟩, ⟨0xaa4c, 1, 1⟩, ⟨0xaa70, 1, 1⟩, ⟨0xaa7c, 1, 1⟩,
   ⟨0xaab0, 3, 2⟩, ⟨0xaab3, 1, 1⟩, ⟨0xaab7, 2, 1⟩, ⟨0xaabe, 2, 1⟩, ⟨0xaac1, 1, 1⟩, ⟨0xaadd, 1, 1⟩,
   ⟨0xaaec, 2, 1⟩, ⟨0xaaf3, 2, 1⟩, ⟨0xaaf6, 1, 1⟩, ⟨0xab5b, 5, 1⟩, ⟨0xab69, 3, 1⟩, ⟨0xabe5, 1, 1⟩,
   ⟨0xabe8, 1, 1⟩, ⟨0xabed, 1, 1⟩, ⟨0xfb1e, 1, 1⟩, ⟨0xfbb2, 17, 1⟩, ⟨0xfe00, 16, 1⟩,
   ⟨0xfe13, 1, 1⟩, ⟨0xfe20, 16, 1⟩, ⟨0xfe52, 1, 1⟩, ⟨0xfe55, 1, 1⟩, ⟨0xfeff, 1, 1⟩,
   ⟨0xff07, 1, 1⟩, ⟨0xff0e, 1, 1⟩, ⟨0xff1a, 1, 1⟩, ⟨0xff3e, 1, 1⟩, ⟨0xff40, 1, 1⟩, ⟨0xff70, 1, 1⟩,
   ⟨0xff9e, 2, 1⟩, ⟨0xffe3, 1, 1⟩, ⟨0xfff9, 3, 1⟩, ⟨0x101fd, 1, 1⟩, ⟨0x102e0, 1, 1⟩,
   ⟨0x10376, 5, 1⟩, ⟨0x10780, 6, 1⟩, ⟨0x10787, 42, 1⟩, ⟨0x107b2, 9, 1⟩, ⟨0x10a01, 3, 1⟩,
   ⟨0x10a05, 2, 1⟩, ⟨0x10a0c, 4, 1⟩, ⟨0x10a38, 3, 1⟩, ⟨0x10a3f, 1, 1⟩, ⟨0x10ae5, 2, 1⟩,
   ⟨0x10d24, 4, 1⟩, ⟨0x10eab, 2, 1⟩, ⟨0x10f46, 11, 1⟩, ⟨0x10f82, 4, 1⟩, ⟨0x11001, 1, 1⟩,
   ⟨0x11038, 15, 1⟩, ⟨0x11070, 1, 1⟩, ⟨0x11073, 2, 1⟩, ⟨0x1107f, 3, 1⟩, ⟨0x110b3, 4, 1⟩,
   ⟨0x110b9, 2, 1⟩, ⟨0x110bd, 1, 1⟩, ⟨0x110c2, 1, 1⟩, ⟨0x110cd, 1, 1⟩, ⟨0x11100, 3, 1⟩,
   ⟨0x11127, 7, 2⟩, ⟨0x11128, 2, 1⟩, ⟨0x1112a, 1, 1⟩, ⟨0x1112e, 4, 2⟩, ⟨0x11173, 1, 1⟩,
   ⟨0x11180, 2, 1⟩, ⟨0x111b6, 9, 1⟩, ⟨0x111c9, 4, 1⟩, ⟨0x111cf, 1, 1⟩, ⟨0x1122f, 3, 1⟩,
   ⟨0x11234, 1, 1⟩, ⟨0x11236, 2, 1⟩, ⟨0x1123e, 1, 1⟩, ⟨0x112df, 1, 1⟩, ⟨0x112e3, 8, 1⟩,
   ⟨0x11300, 2, 1⟩, ⟨0x1133b, 2, 1⟩, ⟨0x11340, 1, 1⟩, ⟨0x11366, 7, 1⟩, ⟨0x11370, 5, 1⟩,
   ⟨0x11438, 8, 1⟩, ⟨0x11442, 3, 1⟩, ⟨0x11446, 1, 1⟩, ⟨0x1145e, 1, 1⟩, ⟨0x114b3, 6, 1⟩,
   ⟨0x114ba, 1, 1⟩, ⟨0x114bf, 2, 1⟩, ⟨0x114c2, 2, 1⟩, ⟨0x115b2, 4, 1⟩, ⟨0x115bc, 2, 1⟩,
   ⟨0x115bf, 2, 1⟩, ⟨0x115dc, 2, 1⟩, ⟨0x11633, 8, 1⟩, ⟨0x1163d, 1, 1⟩, ⟨0x1163f, 2, 1⟩,
   ⟨0x116ab, 1, 1⟩, ⟨0x116ad, 1, 1⟩, ⟨0x116b0, 6, 1⟩, ⟨0x116b7, 1, 1⟩, ⟨0x1171d, 3, 1⟩,
   ⟨0x11722, 4, 1⟩, ⟨0x11727, 5, 1⟩, ⟨0x1182f, 9, 1⟩, ⟨0x11839, 2, 1⟩, ⟨0x1193b, 2, 1⟩,
   ⟨0x1193e, 1, 1⟩, ⟨0x11943, 1, 1⟩, ⟨0x119d4, 4, 1⟩, ⟨0x119da, 2, 1⟩, ⟨0x119e0, 1, 1⟩,
   ⟨0x11a01, 10, 1⟩, ⟨0x11a33, 6, 1⟩, ⟨0x11a3b, 4, 1⟩, ⟨0x11a47, 1, 1⟩, ⟨0x11a51, 6, 1⟩,
   ⟨0x11a59, 3, 1⟩, ⟨0x11a8a, 13, 1⟩, ⟨0x11a98, 2, 1⟩, ⟨0x11c30, 7, 1⟩, ⟨0x11c38, 6, 1⟩,
   ⟨0x11c3f, 1, 1⟩, ⟨0x11c92, 22, 1⟩, ⟨0x11caa, 7, 1⟩, ⟨0x11cb2, 2, 1⟩, ⟨0x11cb5, 2, 1⟩,
   ⟨0x11d31, 6, 1⟩, ⟨0x11d3a, 1, 1⟩, ⟨0x11d3c, 2, 1⟩, ⟨0x11d3f, 7, 1⟩, ⟨0x11d47, 1, 1⟩,
   ⟨0x11d90, 2, 1⟩, ⟨0x11d95, 1, 1⟩, ⟨0x11d97, 1, 1⟩, ⟨0x11ef3, 2, 1⟩, ⟨0x13430, 9, 1⟩,
   ⟨0x16af0, 5, 1⟩, ⟨0x16b30, 7, 1⟩, ⟨0x16b40, 4, 1⟩, ⟨0x16f4f, 1, 1⟩, ⟨0x16f8f, 17, 1⟩,
   ⟨0x16fe0, 2, 1⟩, ⟨0x16fe3, 2, 1⟩, ⟨0x1aff0, 4, 1⟩, ⟨0x1aff5, 7, 1⟩, ⟨0x1affd, 2, 1⟩,
   ⟨0x1bc9d, 2, 1⟩, ⟨0x1bca0, 4, 1⟩, ⟨0x1cf00, 46, 1⟩, ⟨0x1cf30, 23, 1⟩, ⟨0x1d167, 3, 1⟩,
   ⟨0x1d173, 16, 1⟩, ⟨0x1d185, 7, 1⟩, ⟨0x1d1aa, 4, 1⟩, ⟨0x1d242, 3, 1⟩, ⟨0x1da00, 55, 1⟩,
   ⟨0x1da3b, 50, 1⟩, ⟨0x1da75, 1, 1⟩, ⟨0x1da84, 1, 1⟩, ⟨0x1da9b, 11, 2⟩, ⟨0x1da9c, 2, 1⟩,
   ⟨0x1da9e, 1, 1⟩, ⟨0x1daa2, 7, 2⟩, ⟨0x1e000, 13, 2⟩, ⟨0x1e001, 3, 2⟩, ⟨0x1e009, 8, 2⟩,
   ⟨0x1e01b, 7, 1⟩, ⟨0x1e023, 2, 1⟩, ⟨0x1e026, 5, 1⟩, ⟨0x1e130, 14, 1⟩, ⟨0x1e2ae, 1, 1⟩,
   ⟨0x1e2ec, 4, 1⟩, ⟨0x1e8d0, 7, 1⟩, ⟨0x1e944, 8, 1⟩, ⟨0x1f3fb, 5, 1⟩, ⟨0xe0001, 1, 1⟩,
   ⟨0xe0020, 96, 1⟩, ⟨0xe0100, 240, 1⟩]

/-- Characters with the value of a digit that are no decimal digits. -/
def raisedDigits : List Stride :=
  [⟨0xb2, 2, 1⟩, ⟨0xb9, 1, 1⟩, ⟨0x1369, 9, 1⟩, ⟨0x19da, 1, 1⟩, ⟨0x2070, 1, 1⟩, ⟨0x2074, 6, 1⟩,
   ⟨0x2080, 10, 1⟩, ⟨0x2460, 9, 1⟩, ⟨0x2474, 9, 1⟩, ⟨0x2488, 9, 1⟩, ⟨0x24ea, 1, 1⟩,
   ⟨0x24f5, 9, 1⟩, ⟨0x24ff, 1, 1⟩, ⟨0x2776, 15, 2⟩, ⟨0x2777, 4, 2⟩, ⟨0x2781, 4, 2⟩,
   ⟨0x278b, 4, 2⟩, ⟨0x10a40, 4, 1⟩, ⟨0x10e60, 9, 1⟩, ⟨0x11052, 9, 1⟩, ⟨0x1f100, 11, 1⟩]

/-- Characters with the value of a number that are no letters. -/
def numberSigns : List Stride :=
  [⟨0x30, 10, 1⟩, ⟨0xb2, 2, 1⟩, ⟨0xb9, 1, 1⟩, ⟨0xbc, 3, 1⟩, ⟨0x660, 10, 1⟩, ⟨0x6f0, 10, 1⟩,
   ⟨0x7c0, 10, 1⟩, ⟨0x966, 10, 1⟩, ⟨0x9e6, 10, 1⟩, ⟨0x9f4, 6, 1⟩, ⟨0xa66, 10, 1⟩, ⟨0xae6, 10, 1⟩,
   ⟨0xb66, 10, 1⟩, ⟨0xb72, 6, 1⟩, ⟨0xbe6, 13, 1⟩, ⟨0xc66, 10, 1⟩, ⟨0xc78, 7, 1⟩, ⟨0xce6, 10, 1⟩,
   ⟨0xd58, 7, 1⟩, ⟨0xd66, 19, 1⟩, ⟨0xde6, 10, 1⟩, ⟨0xe50, 10, 1⟩, ⟨0xed0, 10, 1⟩, ⟨0xf20, 20, 1⟩,
   ⟨0x1040, 10, 1⟩, ⟨0x1090, 10, 1⟩, ⟨0x1369, 20, 1⟩, ⟨0x16ee, 3, 1⟩, ⟨0x17e0, 10, 1⟩,
   ⟨0x17f0, 10, 1⟩, ⟨0x1810, 10, 1⟩, ⟨0x1946, 10, 1⟩, ⟨0x19d0, 11, 1⟩, ⟨0x1a80, 10, 1⟩,
   ⟨0x1a90, 10, 1⟩, ⟨0x1b50, 10, 1⟩, ⟨0x1bb0, 10, 1⟩, ⟨0x1c40, 10, 1⟩, ⟨0x1c50, 10, 1⟩,
   ⟨0x2070, 1, 1⟩, ⟨0x2074, 6, 1⟩, ⟨0x2080, 10, 1⟩, ⟨0x2150, 51, 1⟩, ⟨0x2185, 5, 1⟩,
   ⟨0x2460, 60, 1⟩, ⟨0x24ea, 22, 1⟩, ⟨0x2776, 30, 1⟩, ⟨0x2cfd, 1, 1⟩, ⟨0x3007, 1, 1⟩,
   ⟨0x3021, 9, 1⟩, ⟨0x3038, 3, 1⟩, ⟨0x3192, 4, 1⟩, ⟨0x3220, 10, 1⟩, ⟨0x3248, 8, 1⟩,
   ⟨0x3251, 15, 1⟩, ⟨0x3280, 10, 1⟩, ⟨0x32b1, 15, 1⟩, ⟨0xa620, 10, 1⟩, ⟨0xa6e6, 10, 1⟩,
   ⟨0xa830, 6, 1⟩, ⟨0xa8d0, 10, 1⟩, ⟨0xa900, 10, 1⟩, ⟨0xa9d0, 10, 1⟩, ⟨0xa9f0, 10, 1⟩,
   ⟨0xaa50, 10, 1⟩, ⟨0xabf0, 10, 1⟩, ⟨0xff10, 10, 1⟩, ⟨0x10107, 45, 1⟩, ⟨0x10140, 57, 1⟩,
   ⟨0x1018a, 2, 1⟩, ⟨0x102e1, 27, 1⟩, ⟨0x10320, 4, 1⟩, ⟨0x10341, 1, 1⟩, ⟨0x1034a, 1, 1⟩,
   ⟨0x103d1, 5, 1⟩, ⟨0x104a0, 10, 1⟩, ⟨0x10858, 8, 1⟩, ⟨0x10879, 7, 1⟩, ⟨0x108a7, 9, 1⟩,
   ⟨0x108fb, 5, 1⟩, ⟨0x10916, 6, 1⟩, ⟨0x109bc, 2, 1⟩, ⟨0x109c0, 16, 1⟩, ⟨0x109d2, 46, 1⟩,
   ⟨0x10a40, 9, 1⟩, ⟨0x10a7d, 2, 1⟩, ⟨0x10a9d, 3, 1⟩, ⟨0x10aeb, 5, 1⟩, ⟨0x10b58, 8, 1⟩,
   ⟨0x10b78, 8, 1⟩, ⟨0x10ba9, 7, 1⟩, ⟨0x10cfa, 6, 1⟩, ⟨0x10d30, 10, 1⟩, ⟨0x10e60, 31, 1⟩,
   ⟨0x10f1d, 10, 1⟩, ⟨0x10f51, 4, 1⟩, ⟨0x10fc5, 7, 1⟩, ⟨0x11052, 30, 1⟩, ⟨0x110f0, 10, 1⟩,
   ⟨0x11136, 10, 1⟩, ⟨0x111d0, 10, 1⟩, ⟨0x111e1, 20, 1⟩, ⟨0x112f0, 10, 1⟩, ⟨0x11450, 10, 1⟩,
   ⟨0x114d0, 10, 1⟩, ⟨0x11650, 10, 1⟩, ⟨0x116c0, 10, 1⟩, ⟨0x11730, 12, 1⟩, ⟨0x118e0, 19, 1⟩,
   ⟨0x11950, 10, 1⟩, ⟨0x11c50, 29, 1⟩, ⟨0x11d50, 10, 1⟩, ⟨0x11da0, 10, 1⟩, ⟨0x11fc0, 21, 1⟩,
   ⟨0x12400, 111, 1⟩, ⟨0x16a60, 10, 1⟩, ⟨0x16ac0, 10, 1⟩, ⟨0x16b50, 10, 1⟩, ⟨0x16b5b, 7, 1⟩,
   ⟨0x16e80, 23, 1⟩, ⟨0x1d2e0, 20, 1⟩, ⟨0x1d360, 25, 1⟩, ⟨0x1d7ce, 50, 1⟩, ⟨0x1e140, 10, 1⟩,
   ⟨0x1e2f0, 10, 1⟩, ⟨0x1e8c7, 9, 1⟩, ⟨0x1e950, 10, 1⟩, ⟨0x1ec71, 59, 1⟩, ⟨0x1ecad, 4, 2⟩,
   ⟨0x1ecae, 1, 1⟩, ⟨0x1ecb2, 2, 1⟩, ⟨0x1ecb4, 1, 1⟩, ⟨0x1ed01, 45, 1⟩, ⟨0x1ed2f, 15, 1⟩,
   ⟨0x1f100, 13, 1⟩, ⟨0x1fbf0, 10, 1⟩]

/-- Letters with the value of a number. -/
def numberLetters : List Stride :=
  [⟨0x3405, 1, 1⟩, ⟨0x3483, 1, 1⟩, ⟨0x382a, 1, 1⟩, ⟨0x3b4d, 1, 1⟩, ⟨0x4e00, 1, 1⟩, ⟨0x4e03, 1, 1⟩,
   ⟨0x4e07, 1, 1⟩, ⟨0x4e09, 1, 1⟩, ⟨0x4e5d, 1, 1⟩, ⟨0x4e8c, 1, 1⟩, ⟨0x4e94, 1, 1⟩, ⟨0x4e96, 1, 1⟩,
   ⟨0x4ebf, 2, 1⟩, ⟨0x4edf, 1, 1⟩, ⟨0x4ee8, 1, 1⟩, ⟨0x4f0d, 1, 1⟩, ⟨0x4f70, 1, 1⟩, ⟨0x5104, 1, 1⟩,
   ⟨0x5146, 1, 1⟩, ⟨0x5169, 3, 2⟩, ⟨0x5341, 3, 2⟩, ⟨0x5344, 1, 1⟩, ⟨0x534c, 1, 1⟩, ⟨0x53c1, 4, 1⟩,
   ⟨0x56db, 1, 1⟩, ⟨0x58f1, 1, 1⟩, ⟨0x58f9, 1, 1⟩, ⟨0x5e7a, 1, 1⟩, ⟨0x5efe, 2, 1⟩, ⟨0x5f0c, 3, 1⟩,
   ⟨0x5f10, 1, 1⟩, ⟨0x62fe, 1, 1⟩, ⟨0x634c, 1, 1⟩, ⟨0x67d2, 1, 1⟩, ⟨0x6f06, 1, 1⟩, ⟨0x7396, 1, 1⟩,
   ⟨0x767e, 1, 1⟩, ⟨0x8086, 1, 1⟩, ⟨0x842c, 1, 1⟩, ⟨0x8cae, 1, 1⟩, ⟨0x8cb3, 1, 1⟩, ⟨0x8d30, 1, 1⟩,
   ⟨0x9621, 1, 1⟩, ⟨0x9646, 1, 1⟩, ⟨0x964c, 1, 1⟩, ⟨0x9678, 1, 1⟩, ⟨0x96f6, 1, 1⟩, ⟨0xf96b, 1, 1⟩,
   ⟨0xf973, 1, 1⟩, ⟨0xf978, 1, 1⟩, ⟨0xf9b2, 1, 1⟩, ⟨0xf9d1, 1, 1⟩, ⟨0xf9d3, 1, 1⟩, ⟨0xf9fd, 1, 1⟩,
   ⟨0x20001, 1, 1⟩, ⟨0x20064, 1, 1⟩, ⟨0x200e2, 1, 1⟩, ⟨0x20121, 1, 1⟩, ⟨0x2092a, 1, 1⟩,
   ⟨0x20983, 1, 1⟩, ⟨0x2098c, 1, 1⟩, ⟨0x2099c, 1, 1⟩, ⟨0x20aea, 1, 1⟩, ⟨0x20afd, 1, 1⟩,
   ⟨0x20b19, 1, 1⟩, ⟨0x22390, 1, 1⟩, ⟨0x22998, 1, 1⟩, ⟨0x23b1b, 1, 1⟩, ⟨0x2626d, 1, 1⟩,
   ⟨0x2f890, 1, 1⟩]

/-- Characters that are no letters and can begin a name. -/
def nameSigns : List Stride :=
  [⟨0x5f, 1, 1⟩, ⟨0x16ee, 3, 1⟩, ⟨0x1885, 2, 1⟩, ⟨0x2118, 1, 1⟩, ⟨0x212e, 1, 1⟩, ⟨0x2160, 35, 1⟩,
   ⟨0x2185, 4, 1⟩, ⟨0x3007, 1, 1⟩, ⟨0x3021, 9, 1⟩, ⟨0x3038, 3, 1⟩, ⟨0xa6e6, 10, 1⟩,
   ⟨0x10140, 53, 1⟩, ⟨0x10341, 1, 1⟩, ⟨0x1034a, 1, 1⟩, ⟨0x103d1, 5, 1⟩, ⟨0x12400, 111, 1⟩]

/-- Characters that can stand in a name, but not at its beginning. -/
def nameMarks : List Stride :=
  [⟨0x30, 10, 1⟩, ⟨0xb7, 1, 1⟩, ⟨0x300, 112, 1⟩, ⟨0x387, 1, 1⟩, ⟨0x483, 5, 1⟩, ⟨0x591, 45, 1⟩,
   ⟨0x5bf, 1, 1⟩, ⟨0x5c1, 2, 1⟩, ⟨0x5c4, 2, 1⟩, ⟨0x5c7, 1, 1⟩, ⟨0x610, 11, 1⟩, ⟨0x64b, 31, 1⟩,
   ⟨0x670, 1, 1⟩, ⟨0x6d6, 7, 1⟩, ⟨0x6df, 6, 1⟩, ⟨0x6e7, 2, 1⟩, ⟨0x6ea, 4, 1⟩, ⟨0x6f0, 10, 1⟩,
   ⟨0x711, 1, 1⟩, ⟨0x730, 27, 1⟩, ⟨0x7a6, 11, 1⟩, ⟨0x7c0, 10, 1⟩, ⟨0x7eb, 9, 1⟩, ⟨0x7fd, 1, 1⟩,
   ⟨0x816, 4, 1⟩, ⟨0x81b, 10, 2⟩, ⟨0x81c, 4, 2⟩, ⟨0x826, 1, 1⟩, ⟨0x82a, 2, 1⟩, ⟨0x82c, 1, 1⟩,
   ⟨0x859, 3, 1⟩, ⟨0x898, 8, 1⟩, ⟨0x8ca, 24, 1⟩, ⟨0x8e3, 33, 1⟩, ⟨0x93a, 11, 2⟩, ⟨0x93b, 1, 1⟩,
   ⟨0x93f, 13, 2⟩, ⟨0x952, 3, 2⟩, ⟨0x962, 2, 1⟩, ⟨0x966, 10, 1⟩, ⟨0x981, 3, 1⟩, ⟨0x9bc, 5, 2⟩,
   ⟨0x9bf, 3, 2⟩, ⟨0x9c7, 2, 1⟩, ⟨0x9cb, 3, 1⟩, ⟨0x9d7, 1, 1⟩, ⟨0x9e2, 2, 1⟩, ⟨0x9e6, 10, 1⟩,
   ⟨0x9fe, 1, 1⟩, ⟨0xa01, 3, 1⟩, ⟨0xa3c, 4, 2⟩, ⟨0xa3f, 2, 1⟩, ⟨0xa41, 1, 1⟩, ⟨0xa47, 2, 1⟩,
   ⟨0xa4b, 3, 1⟩, ⟨0xa51, 1, 1⟩, ⟨0xa66, 12, 1⟩, ⟨0xa75, 1, 1⟩, ⟨0xa81, 3, 1⟩, ⟨0xabc, 5, 2⟩,
   ⟨0xabf, 8, 2⟩, ⟨0xac8, 1, 1⟩, ⟨0xacc, 1, 1⟩, ⟨0xae2, 2, 1⟩, ⟨0xae6, 10, 1⟩, ⟨0xafa, 6, 1⟩,
   ⟨0xb01, 3, 1⟩, ⟨0xb3c, 5, 2⟩, ⟨0xb3f, 3, 2⟩, ⟨0xb47, 2, 1⟩, ⟨0xb4b, 3, 1⟩, ⟨0xb55, 3, 1⟩,
   ⟨0xb62, 2, 1⟩, ⟨0xb66, 10, 1⟩, ⟨0xb82, 1, 1⟩, ⟨0xbbe, 5, 1⟩, ⟨0xbc6, 4, 2⟩, ⟨0xbc7, 1, 1⟩,
   ⟨0xbcb, 2, 1⟩, ⟨0xbcd, 1, 1⟩, ⟨0xbd7, 1, 1⟩, ⟨0xbe6, 10, 1⟩, ⟨0xc00, 5, 1⟩, ⟨0xc3c, 9, 2⟩,
   ⟨0xc3f, 3, 2⟩, ⟨0xc47, 1, 1⟩, ⟨0xc4b, 2, 1⟩, ⟨0xc4d, 1, 1⟩, ⟨0xc55, 2, 1⟩, ⟨0xc62, 2, 1⟩,
   ⟨0xc66, 10, 1⟩, ⟨0xc81, 3, 1⟩, ⟨0xcbc, 9, 2⟩, ⟨0xcbf, 3, 2⟩, ⟨0xcc7, 1, 1⟩, ⟨0xccb, 2, 1⟩,
   ⟨0xccd, 1, 1⟩, ⟨0xcd5, 2, 1⟩, ⟨0xce2, 2, 1⟩, ⟨0xce6, 10, 1⟩, ⟨0xd00, 4, 1⟩, ⟨0xd3b, 2, 1⟩,
   ⟨0xd3e, 8, 2⟩, ⟨0xd3f, 3, 2⟩, ⟨0xd47, 1, 1⟩, ⟨0xd4b, 2, 1⟩, ⟨0xd4d, 1, 1⟩, ⟨0xd57, 1, 1⟩,
   ⟨0xd62, 2, 1⟩, ⟨0xd66, 10, 1⟩, ⟨0xd81, 3, 1⟩, ⟨0xdca, 1, 1⟩, ⟨0xdcf, 6, 1⟩, ⟨0xdd6, 5, 2⟩,
   ⟨0xdd9, 4, 2⟩, ⟨0xde6, 10, 1⟩, ⟨0xdf2, 2, 1⟩, ⟨0xe31, 5, 2⟩, ⟨0xe34, 4, 2⟩, ⟨0xe47, 8, 1⟩,
   ⟨0xe50, 10, 1⟩, ⟨0xeb1, 6, 2⟩, ⟨0xeb4, 5, 2⟩, ⟨0xec8, 6, 1⟩, ⟨0xed0, 10, 1⟩, ⟨0xf18, 2, 1⟩,
   ⟨0xf20, 10, 1⟩, ⟨0xf35, 3, 2⟩, ⟨0xf3e, 2, 1⟩, ⟨0xf71, 20, 1⟩, ⟨0xf86, 2, 1⟩, ⟨0xf8d, 24, 2⟩,
   ⟨0xf8e, 5, 2⟩, ⟨0xf9a, 18, 2⟩, ⟨0xfc6, 1, 1⟩, ⟨0x102b, 20, 1⟩, ⟨0x1040, 10, 1⟩, ⟨0x1056, 4, 1⟩,
   ⟨0x105e, 4, 2⟩, ⟨0x105f, 1, 1⟩, ⟨0x1063, 1, 1⟩, ⟨0x1067, 7, 1⟩, ⟨0x1071, 4, 1⟩,
   ⟨0x1082, 12, 1⟩, ⟨0x108f, 15, 1⟩, ⟨0x135d, 3, 1⟩, ⟨0x1369, 9, 1⟩, ⟨0x1712, 4, 1⟩,
   ⟨0x1732, 3, 1⟩, ⟨0x1752, 2, 1⟩, ⟨0x1772, 2, 1⟩, ⟨0x17b4, 32, 1⟩, ⟨0x17dd, 1, 1⟩,
   ⟨0x17e0, 10, 1⟩, ⟨0x180b, 8, 2⟩, ⟨0x180c, 1, 1⟩, ⟨0x1810, 5, 2⟩, ⟨0x18a9, 1, 1⟩,
   ⟨0x1920, 12, 1⟩, ⟨0x1930, 12, 1⟩, ⟨0x1946, 10, 1⟩, ⟨0x19d0, 11, 1⟩, ⟨0x1a17, 5, 1⟩,
   ⟨0x1a55, 10, 1⟩, ⟨0x1a60, 29, 1⟩, ⟨0x1a7f, 11, 1⟩, ⟨0x1a90, 10, 1⟩, ⟨0x1ab0, 14, 1⟩,
   ⟨0x1abf, 16, 1⟩, ⟨0x1b00, 5, 1⟩, ⟨0x1b34, 17, 1⟩, ⟨0x1b50, 10, 1⟩, ⟨0x1b6b, 9, 1⟩,
   ⟨0x1b80, 3, 1⟩, ⟨0x1ba1, 13, 1⟩, ⟨0x1bb0, 10, 1⟩, ⟨0x1be6, 14, 1⟩, ⟨0x1c24, 20, 1⟩,
   ⟨0x1c40, 10, 1⟩, ⟨0x1c50, 10, 1⟩, ⟨0x1cd0, 13, 2⟩, ⟨0x1cd1, 1, 1⟩, ⟨0x1cd5, 10, 2⟩,
   ⟨0x1ced, 1, 1⟩, ⟨0x1cf4, 1, 1⟩, ⟨0x1cf7, 3, 1⟩, ⟨0x1dc0, 64, 1⟩, ⟨0x203f, 2, 1⟩,
   ⟨0x2054, 1, 1⟩, ⟨0x20d0, 13, 1⟩, ⟨0x20e1, 1, 1⟩, ⟨0x20e5, 12, 1⟩, ⟨0x2cef, 3, 1⟩,
   ⟨0x2d7f, 1, 1⟩, ⟨0x2de0, 32, 1⟩, ⟨0x302a, 6, 1⟩, ⟨0x3099, 2, 1⟩, ⟨0xa620, 10, 1⟩,
   ⟨0xa66f, 1, 1⟩, ⟨0xa674, 10, 1⟩, ⟨0xa69e, 2, 1⟩, ⟨0xa6f0, 2, 1⟩, ⟨0xa802, 1, 1⟩,
   ⟨0xa806, 1, 1⟩, ⟨0xa80b, 1, 1⟩, ⟨0xa823, 5, 1⟩, ⟨0xa82c, 1, 1⟩, ⟨0xa880, 2, 1⟩,
   ⟨0xa8b4, 18, 1⟩, ⟨0xa8d0, 10, 1⟩, ⟨0xa8e0, 18, 1⟩, ⟨0xa8ff, 11, 1⟩, ⟨0xa926, 8, 1⟩,
   ⟨0xa947, 13, 1⟩, ⟨0xa980, 4, 1⟩, ⟨0xa9b3, 14, 1⟩, ⟨0xa9d0, 10, 1⟩, ⟨0xa9e5, 1, 1⟩,
   ⟨0xa9f0, 10, 1⟩, ⟨0xaa29, 14, 1⟩, ⟨0xaa43, 1, 1⟩, ⟨0xaa4c, 2, 1⟩, ⟨0xaa50, 10, 1⟩,
   ⟨0xaa7b, 3, 1⟩, ⟨0xaab0, 3, 2⟩, ⟨0xaab3, 1, 1⟩, ⟨0xaab7, 2, 1⟩, ⟨0xaabe, 2, 1⟩, ⟨0xaac1, 1, 1⟩,
   ⟨0xaaeb, 5, 1⟩, ⟨0xaaf5, 2, 1⟩, ⟨0xabe3, 8, 1⟩, ⟨0xabec, 2, 1⟩, ⟨0xabf0, 10, 1⟩,
   ⟨0xfb1e, 1, 1⟩, ⟨0xfe00, 16, 1⟩, ⟨0xfe20, 16, 1⟩, ⟨0xfe33, 2, 1⟩, ⟨0xfe4d, 3, 1⟩,
   ⟨0xff10, 10, 1⟩, ⟨0xff3f, 1, 1⟩, ⟨0xff9e, 2, 1⟩, ⟨0x101fd, 1, 1⟩, ⟨0x102e0, 1, 1⟩,
   ⟨0x10376, 5, 1⟩, ⟨0x104a0, 10, 1⟩, ⟨0x10a01, 3, 1⟩, ⟨0x10a05, 2, 1⟩, ⟨0x10a0c, 4, 1⟩,
   ⟨0x10a38, 3, 1⟩, ⟨0x10a3f, 1, 1⟩, ⟨0x10ae5, 2, 1⟩, ⟨0x10d24, 4, 1⟩, ⟨0x10d30, 10, 1⟩,
   ⟨0x10eab, 2, 1⟩, ⟨0x10f46, 11, 1⟩, ⟨0x10f82, 4, 1⟩, ⟨0x11000, 3, 1⟩, ⟨0x11038, 15, 1⟩,
   ⟨0x11066, 11, 1⟩, ⟨0x11073, 2, 1⟩, ⟨0x1107f, 4, 1⟩, ⟨0x110b0, 11, 1⟩, ⟨0x110c2, 1, 1⟩,
   ⟨0x110f0, 10, 1⟩, ⟨0x11100, 3, 1⟩, ⟨0x11127, 14, 1⟩, ⟨0x11136, 10, 1⟩, ⟨0x11145, 2, 1⟩,
   ⟨0x11173, 1, 1⟩, ⟨0x11180, 3, 1⟩, ⟨0x111b3, 14, 1⟩, ⟨0x111c9, 4, 1⟩, ⟨0x111ce, 12, 1⟩,
   ⟨0x1122c, 12, 1⟩, ⟨0x1123e, 1, 1⟩, ⟨0x112df, 12, 1⟩, ⟨0x112f0, 10, 1⟩, ⟨0x11300, 4, 1⟩,
   ⟨0x1133b, 2, 1⟩, ⟨0x1133e, 7, 1⟩, ⟨0x11347, 2, 1⟩, ⟨0x1134b, 3, 1⟩, ⟨0x11357, 1, 1⟩,
   ⟨0x11362, 2, 1⟩, ⟨0x11366, 7, 1⟩, ⟨0x11370, 5, 1⟩, ⟨0x11435, 18, 1⟩, ⟨0x11450, 10, 1⟩,
   ⟨0x1145e, 1, 1⟩, ⟨0x114b0, 20, 1⟩, ⟨0x114d0, 10, 1⟩, ⟨0x115af, 7, 1⟩, ⟨0x115b8, 9, 1⟩,
   ⟨0x115dc, 2, 1⟩, ⟨0x11630, 17, 1⟩, ⟨0x11650, 10, 1⟩, ⟨0x116ab, 13, 1⟩, ⟨0x116c0, 10, 1⟩,
   ⟨0x1171d, 15, 1⟩, ⟨0x11730, 10, 1⟩, ⟨0x1182c, 15, 1⟩, ⟨0x118e0, 10, 1⟩, ⟨0x11930, 6, 1⟩,
   ⟨0x11937, 2, 1⟩, ⟨0x1193b, 4, 1⟩, ⟨0x11940, 1, 1⟩, ⟨0x11942, 2, 1⟩, ⟨0x11950, 10, 1⟩,
   ⟨0x119d1, 7, 1⟩, ⟨0x119da, 7, 1⟩, ⟨0x119e4, 1, 1⟩, ⟨0x11a01, 10, 1⟩, ⟨0x11a33, 7, 1⟩,
   ⟨0x11a3b, 4, 1⟩, ⟨0x11a47, 1, 1⟩, ⟨0x11a51, 11, 1⟩, ⟨0x11a8a, 16, 1⟩, ⟨0x11c2f, 8, 1⟩,
   ⟨0x11c38, 8, 1⟩, ⟨0x11c50, 10, 1⟩, ⟨0x11c92, 22, 1⟩, ⟨0x11ca9, 14, 1⟩, ⟨0x11d31, 6, 1⟩,
   ⟨0x11d3a, 1, 1⟩, ⟨0x11d3c, 2, 1⟩, ⟨0x11d3f, 7, 1⟩, ⟨0x11d47, 1, 1⟩, ⟨0x11d50, 10, 1⟩,
   ⟨0x11d8a, 5, 1⟩, ⟨0x11d90, 2, 1⟩, ⟨0x11d93, 5, 1⟩, ⟨0x11da0, 10, 1⟩, ⟨0x11ef3, 4, 1⟩,
   ⟨0x16a60, 10, 1⟩, ⟨0x16ac0, 10, 1⟩, ⟨0x16af0, 5, 1⟩, ⟨0x16b30, 7, 1⟩, ⟨0x16b50, 10, 1⟩,
   ⟨0x16f4f, 29, 2⟩, ⟨0x16f52, 27, 2⟩, ⟨0x16f8f, 4, 1⟩, ⟨0x16fe4, 1, 1⟩, ⟨0x16ff0, 2, 1⟩,
   ⟨0x1bc9d, 2, 1⟩, ⟨0x1cf00, 46, 1⟩, ⟨0x1cf30, 23, 1⟩, ⟨0x1d165, 5, 1⟩, ⟨0x1d16d, 6, 1⟩,
   ⟨0x1d17b, 8, 1⟩, ⟨0x1d185, 7, 1⟩, ⟨0x1d1aa, 4, 1⟩, ⟨0x1d242, 3, 1⟩, ⟨0x1d7ce, 50, 1⟩,
   ⟨0x1da00, 55, 1⟩, ⟨0x1da3b, 50, 1⟩, ⟨0x1da75, 1, 1⟩, ⟨0x1da84, 1, 1⟩, ⟨0x1da9b, 11, 2⟩,
   ⟨0x1da9c, 2, 1⟩, ⟨0x1da9e, 1, 1⟩, ⟨0x1daa2, 7, 2⟩, ⟨0x1e000, 13, 2⟩, ⟨0x1e001, 3, 2⟩,
   ⟨0x1e009, 8, 2⟩, ⟨0x1e01b, 7, 1⟩, ⟨0x1e023, 2, 1⟩, ⟨0x1e026, 5, 1⟩, ⟨0x1e130, 7, 1⟩,
   ⟨0x1e140, 10, 1⟩, ⟨0x1e2ae, 1, 1⟩, ⟨0x1e2ec, 14, 1⟩, ⟨0x1e8d0, 7, 1⟩, ⟨0x1e944, 7, 1⟩,
   ⟨0x1e950, 10, 1⟩, ⟨0x1fbf0, 10, 1⟩, ⟨0xe0100, 240, 1⟩]

/-- Letters that cannot begin a name. -/
def namelessLetters : List Stride :=
  [⟨0x37a, 1, 1⟩, ⟨0xe33, 1, 1⟩, ⟨0xeb3, 1, 1⟩, ⟨0x2e2f, 1, 1⟩, ⟨0xfc5e, 6, 1⟩, ⟨0xfdfa, 2, 1⟩,
   ⟨0xfe70, 8, 2⟩, ⟨0xff9e, 2, 1⟩]

end DocGuard.Text

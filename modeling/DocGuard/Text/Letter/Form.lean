/-!
The forms of letters.

A letter has a large form, a small form, a form that begins a word in a title, and a form in which
texts are compared without regard to these. Most forms are one letter; the few that are several
stand in lists of their own. A letter that is in none of the tables is its own form.
-/

namespace DocGuard.Text

/-- Letters at equal distances, and the form of the first of them. The forms of the others are as
far from them. -/
structure CaseRun where
  first : Nat
  count : Nat
  step : Nat
  form : Nat

/-- Letters with a large form of one letter. -/
def largeRuns : List CaseRun :=
  [⟨0x61, 26, 1, 0x41⟩, ⟨0xb5, 1, 1, 0x39c⟩, ⟨0xe0, 23, 1, 0xc0⟩, ⟨0xf8, 7, 1, 0xd8⟩,
   ⟨0xff, 1, 1, 0x178⟩, ⟨0x101, 24, 2, 0x100⟩, ⟨0x131, 1, 1, 0x49⟩, ⟨0x133, 3, 2, 0x132⟩,
   ⟨0x13a, 8, 2, 0x139⟩, ⟨0x14b, 23, 2, 0x14a⟩, ⟨0x17a, 3, 2, 0x179⟩, ⟨0x17f, 1, 1, 0x53⟩,
   ⟨0x180, 1, 1, 0x243⟩, ⟨0x183, 2, 2, 0x182⟩, ⟨0x188, 1, 1, 0x187⟩, ⟨0x18c, 1, 1, 0x18b⟩,
   ⟨0x192, 1, 1, 0x191⟩, ⟨0x195, 1, 1, 0x1f6⟩, ⟨0x199, 1, 1, 0x198⟩, ⟨0x19a, 1, 1, 0x23d⟩,
   ⟨0x19e, 1, 1, 0x220⟩, ⟨0x1a1, 3, 2, 0x1a0⟩, ⟨0x1a8, 1, 1, 0x1a7⟩, ⟨0x1ad, 1, 1, 0x1ac⟩,
   ⟨0x1b0, 1, 1, 0x1af⟩, ⟨0x1b4, 2, 2, 0x1b3⟩, ⟨0x1b9, 1, 1, 0x1b8⟩, ⟨0x1bd, 1, 1, 0x1bc⟩,
   ⟨0x1bf, 1, 1, 0x1f7⟩, ⟨0x1c5, 1, 1, 0x1c4⟩, ⟨0x1c6, 1, 1, 0x1c4⟩, ⟨0x1c8, 1, 1, 0x1c7⟩,
   ⟨0x1c9, 1, 1, 0x1c7⟩, ⟨0x1cb, 1, 1, 0x1ca⟩, ⟨0x1cc, 1, 1, 0x1ca⟩, ⟨0x1ce, 8, 2, 0x1cd⟩,
   ⟨0x1dd, 1, 1, 0x18e⟩, ⟨0x1df, 9, 2, 0x1de⟩, ⟨0x1f2, 1, 1, 0x1f1⟩, ⟨0x1f3, 1, 1, 0x1f1⟩,
   ⟨0x1f5, 1, 1, 0x1f4⟩, ⟨0x1f9, 20, 2, 0x1f8⟩, ⟨0x223, 9, 2, 0x222⟩, ⟨0x23c, 1, 1, 0x23b⟩,
   ⟨0x23f, 2, 1, 0x2c7e⟩, ⟨0x242, 1, 1, 0x241⟩, ⟨0x247, 5, 2, 0x246⟩, ⟨0x250, 1, 1, 0x2c6f⟩,
   ⟨0x251, 1, 1, 0x2c6d⟩, ⟨0x252, 1, 1, 0x2c70⟩, ⟨0x253, 1, 1, 0x181⟩, ⟨0x254, 1, 1, 0x186⟩,
   ⟨0x256, 2, 1, 0x189⟩, ⟨0x259, 1, 1, 0x18f⟩, ⟨0x25b, 1, 1, 0x190⟩, ⟨0x25c, 1, 1, 0xa7ab⟩,
   ⟨0x260, 1, 1, 0x193⟩, ⟨0x261, 1, 1, 0xa7ac⟩, ⟨0x263, 1, 1, 0x194⟩, ⟨0x265, 1, 1, 0xa78d⟩,
   ⟨0x266, 1, 1, 0xa7aa⟩, ⟨0x268, 1, 1, 0x197⟩, ⟨0x269, 1, 1, 0x196⟩, ⟨0x26a, 1, 1, 0xa7ae⟩,
   ⟨0x26b, 1, 1, 0x2c62⟩, ⟨0x26c, 1, 1, 0xa7ad⟩, ⟨0x26f, 1, 1, 0x19c⟩, ⟨0x271, 1, 1, 0x2c6e⟩,
   ⟨0x272, 1, 1, 0x19d⟩, ⟨0x275, 1, 1, 0x19f⟩, ⟨0x27d, 1, 1, 0x2c64⟩, ⟨0x280, 1, 1, 0x1a6⟩,
   ⟨0x282, 1, 1, 0xa7c5⟩, ⟨0x283, 1, 1, 0x1a9⟩, ⟨0x287, 1, 1, 0xa7b1⟩, ⟨0x288, 1, 1, 0x1ae⟩,
   ⟨0x289, 1, 1, 0x244⟩, ⟨0x28a, 2, 1, 0x1b1⟩, ⟨0x28c, 1, 1, 0x245⟩, ⟨0x292, 1, 1, 0x1b7⟩,
   ⟨0x29d, 1, 1, 0xa7b2⟩, ⟨0x29e, 1, 1, 0xa7b0⟩, ⟨0x345, 1, 1, 0x399⟩, ⟨0x371, 2, 2, 0x370⟩,
   ⟨0x377, 1, 1, 0x376⟩, ⟨0x37b, 3, 1, 0x3fd⟩, ⟨0x3ac, 1, 1, 0x386⟩, ⟨0x3ad, 3, 1, 0x388⟩,
   ⟨0x3b1, 17, 1, 0x391⟩, ⟨0x3c2, 1, 1, 0x3a3⟩, ⟨0x3c3, 9, 1, 0x3a3⟩, ⟨0x3cc, 1, 1, 0x38c⟩,
   ⟨0x3cd, 2, 1, 0x38e⟩, ⟨0x3d0, 1, 1, 0x392⟩, ⟨0x3d1, 1, 1, 0x398⟩, ⟨0x3d5, 1, 1, 0x3a6⟩,
   ⟨0x3d6, 1, 1, 0x3a0⟩, ⟨0x3d7, 1, 1, 0x3cf⟩, ⟨0x3d9, 12, 2, 0x3d8⟩, ⟨0x3f0, 1, 1, 0x39a⟩,
   ⟨0x3f1, 1, 1, 0x3a1⟩, ⟨0x3f2, 1, 1, 0x3f9⟩, ⟨0x3f3, 1, 1, 0x37f⟩, ⟨0x3f5, 1, 1, 0x395⟩,
   ⟨0x3f8, 1, 1, 0x3f7⟩, ⟨0x3fb, 1, 1, 0x3fa⟩, ⟨0x430, 32, 1, 0x410⟩, ⟨0x450, 16, 1, 0x400⟩,
   ⟨0x461, 17, 2, 0x460⟩, ⟨0x48b, 27, 2, 0x48a⟩, ⟨0x4c2, 7, 2, 0x4c1⟩, ⟨0x4cf, 1, 1, 0x4c0⟩,
   ⟨0x4d1, 48, 2, 0x4d0⟩, ⟨0x561, 38, 1, 0x531⟩, ⟨0x10d0, 43, 1, 0x1c90⟩, ⟨0x10fd, 3, 1, 0x1cbd⟩,
   ⟨0x13f8, 6, 1, 0x13f0⟩, ⟨0x1c80, 1, 1, 0x412⟩, ⟨0x1c81, 1, 1, 0x414⟩, ⟨0x1c82, 1, 1, 0x41e⟩,
   ⟨0x1c83, 2, 1, 0x421⟩, ⟨0x1c85, 1, 1, 0x422⟩, ⟨0x1c86, 1, 1, 0x42a⟩, ⟨0x1c87, 1, 1, 0x462⟩,
   ⟨0x1c88, 1, 1, 0xa64a⟩, ⟨0x1d79, 1, 1, 0xa77d⟩, ⟨0x1d7d, 1, 1, 0x2c63⟩, ⟨0x1d8e, 1, 1, 0xa7c6⟩,
   ⟨0x1e01, 75, 2, 0x1e00⟩, ⟨0x1e9b, 1, 1, 0x1e60⟩, ⟨0x1ea1, 48, 2, 0x1ea0⟩,
   ⟨0x1f00, 8, 1, 0x1f08⟩, ⟨0x1f10, 6, 1, 0x1f18⟩, ⟨0x1f20, 8, 1, 0x1f28⟩, ⟨0x1f30, 8, 1, 0x1f38⟩,
   ⟨0x1f40, 6, 1, 0x1f48⟩, ⟨0x1f51, 4, 2, 0x1f59⟩, ⟨0x1f60, 8, 1, 0x1f68⟩, ⟨0x1f70, 2, 1, 0x1fba⟩,
   ⟨0x1f72, 4, 1, 0x1fc8⟩, ⟨0x1f76, 2, 1, 0x1fda⟩, ⟨0x1f78, 2, 1, 0x1ff8⟩, ⟨0x1f7a, 2, 1, 0x1fea⟩,
   ⟨0x1f7c, 2, 1, 0x1ffa⟩, ⟨0x1fb0, 2, 1, 0x1fb8⟩, ⟨0x1fbe, 1, 1, 0x399⟩, ⟨0x1fd0, 2, 1, 0x1fd8⟩,
   ⟨0x1fe0, 2, 1, 0x1fe8⟩, ⟨0x1fe5, 1, 1, 0x1fec⟩, ⟨0x214e, 1, 1, 0x2132⟩,
   ⟨0x2170, 16, 1, 0x2160⟩, ⟨0x2184, 1, 1, 0x2183⟩, ⟨0x24d0, 26, 1, 0x24b6⟩,
   ⟨0x2c30, 48, 1, 0x2c00⟩, ⟨0x2c61, 1, 1, 0x2c60⟩, ⟨0x2c65, 1, 1, 0x23a⟩, ⟨0x2c66, 1, 1, 0x23e⟩,
   ⟨0x2c68, 3, 2, 0x2c67⟩, ⟨0x2c73, 1, 1, 0x2c72⟩, ⟨0x2c76, 1, 1, 0x2c75⟩,
   ⟨0x2c81, 50, 2, 0x2c80⟩, ⟨0x2cec, 2, 2, 0x2ceb⟩, ⟨0x2cf3, 1, 1, 0x2cf2⟩,
   ⟨0x2d00, 38, 1, 0x10a0⟩, ⟨0x2d27, 1, 1, 0x10c7⟩, ⟨0x2d2d, 1, 1, 0x10cd⟩,
   ⟨0xa641, 23, 2, 0xa640⟩, ⟨0xa681, 14, 2, 0xa680⟩, ⟨0xa723, 7, 2, 0xa722⟩,
   ⟨0xa733, 31, 2, 0xa732⟩, ⟨0xa77a, 2, 2, 0xa779⟩, ⟨0xa77f, 5, 2, 0xa77e⟩,
   ⟨0xa78c, 1, 1, 0xa78b⟩, ⟨0xa791, 2, 2, 0xa790⟩, ⟨0xa794, 1, 1, 0xa7c4⟩,
   ⟨0xa797, 10, 2, 0xa796⟩, ⟨0xa7b5, 8, 2, 0xa7b4⟩, ⟨0xa7c8, 2, 2, 0xa7c7⟩,
   ⟨0xa7d1, 1, 1, 0xa7d0⟩, ⟨0xa7d7, 2, 2, 0xa7d6⟩, ⟨0xa7f6, 1, 1, 0xa7f5⟩, ⟨0xab53, 1, 1, 0xa7b3⟩,
   ⟨0xab70, 80, 1, 0x13a0⟩, ⟨0xff41, 26, 1, 0xff21⟩, ⟨0x10428, 40, 1, 0x10400⟩,
   ⟨0x104d8, 36, 1, 0x104b0⟩, ⟨0x10597, 19, 2, 0x10570⟩, ⟨0x10598, 5, 2, 0x10571⟩,
   ⟨0x105a4, 7, 2, 0x1057d⟩, ⟨0x105b4, 3, 2, 0x1058d⟩, ⟨0x105bc, 1, 1, 0x10595⟩,
   ⟨0x10cc0, 51, 1, 0x10c80⟩, ⟨0x118c0, 32, 1, 0x118a0⟩, ⟨0x16e60, 32, 1, 0x16e40⟩,
   ⟨0x1e922, 34, 1, 0x1e900⟩]

/-- Letters with a large form of several letters. -/
def largeGroups : List (Nat × List Nat) :=
  [(0xdf, [0x53, 0x53]), (0x149, [0x2bc, 0x4e]), (0x1f0, [0x4a, 0x30c]),
   (0x390, [0x399, 0x308, 0x301]), (0x3b0, [0x3a5, 0x308, 0x301]), (0x587, [0x535, 0x552]),
   (0x1e96, [0x48, 0x331]), (0x1e97, [0x54, 0x308]), (0x1e98, [0x57, 0x30a]),
   (0x1e99, [0x59, 0x30a]), (0x1e9a, [0x41, 0x2be]), (0x1f50, [0x3a5, 0x313]),
   (0x1f52, [0x3a5, 0x313, 0x300]), (0x1f54, [0x3a5, 0x313, 0x301]),
   (0x1f56, [0x3a5, 0x313, 0x342]), (0x1f80, [0x1f08, 0x399]), (0x1f81, [0x1f09, 0x399]),
   (0x1f82, [0x1f0a, 0x399]), (0x1f83, [0x1f0b, 0x399]), (0x1f84, [0x1f0c, 0x399]),
   (0x1f85, [0x1f0d, 0x399]), (0x1f86, [0x1f0e, 0x399]), (0x1f87, [0x1f0f, 0x399]),
   (0x1f88, [0x1f08, 0x399]), (0x1f89, [0x1f09, 0x399]), (0x1f8a, [0x1f0a, 0x399]),
   (0x1f8b, [0x1f0b, 0x399]), (0x1f8c, [0x1f0c, 0x399]), (0x1f8d, [0x1f0d, 0x399]),
   (0x1f8e, [0x1f0e, 0x399]), (0x1f8f, [0x1f0f, 0x399]), (0x1f90, [0x1f28, 0x399]),
   (0x1f91, [0x1f29, 0x399]), (0x1f92, [0x1f2a, 0x399]), (0x1f93, [0x1f2b, 0x399]),
   (0x1f94, [0x1f2c, 0x399]), (0x1f95, [0x1f2d, 0x399]), (0x1f96, [0x1f2e, 0x399]),
   (0x1f97, [0x1f2f, 0x399]), (0x1f98, [0x1f28, 0x399]), (0x1f99, [0x1f29, 0x399]),
   (0x1f9a, [0x1f2a, 0x399]), (0x1f9b, [0x1f2b, 0x399]), (0x1f9c, [0x1f2c, 0x399]),
   (0x1f9d, [0x1f2d, 0x399]), (0x1f9e, [0x1f2e, 0x399]), (0x1f9f, [0x1f2f, 0x399]),
   (0x1fa0, [0x1f68, 0x399]), (0x1fa1, [0x1f69, 0x399]), (0x1fa2, [0x1f6a, 0x399]),
   (0x1fa3, [0x1f6b, 0x399]), (0x1fa4, [0x1f6c, 0x399]), (0x1fa5, [0x1f6d, 0x399]),
   (0x1fa6, [0x1f6e, 0x399]), (0x1fa7, [0x1f6f, 0x399]), (0x1fa8, [0x1f68, 0x399]),
   (0x1fa9, [0x1f69, 0x399]), (0x1faa, [0x1f6a, 0x399]), (0x1fab, [0x1f6b, 0x399]),
   (0x1fac, [0x1f6c, 0x399]), (0x1fad, [0x1f6d, 0x399]), (0x1fae, [0x1f6e, 0x399]),
   (0x1faf, [0x1f6f, 0x399]), (0x1fb2, [0x1fba, 0x399]), (0x1fb3, [0x391, 0x399]),
   (0x1fb4, [0x386, 0x399]), (0x1fb6, [0x391, 0x342]), (0x1fb7, [0x391, 0x342, 0x399]),
   (0x1fbc, [0x391, 0x399]), (0x1fc2, [0x1fca, 0x399]), (0x1fc3, [0x397, 0x399]),
   (0x1fc4, [0x389, 0x399]), (0x1fc6, [0x397, 0x342]), (0x1fc7, [0x397, 0x342, 0x399]),
   (0x1fcc, [0x397, 0x399]), (0x1fd2, [0x399, 0x308, 0x300]), (0x1fd3, [0x399, 0x308, 0x301]),
   (0x1fd6, [0x399, 0x342]), (0x1fd7, [0x399, 0x308, 0x342]), (0x1fe2, [0x3a5, 0x308, 0x300]),
   (0x1fe3, [0x3a5, 0x308, 0x301]), (0x1fe4, [0x3a1, 0x313]), (0x1fe6, [0x3a5, 0x342]),
   (0x1fe7, [0x3a5, 0x308, 0x342]), (0x1ff2, [0x1ffa, 0x399]), (0x1ff3, [0x3a9, 0x399]),
   (0x1ff4, [0x38f, 0x399]), (0x1ff6, [0x3a9, 0x342]), (0x1ff7, [0x3a9, 0x342, 0x399]),
   (0x1ffc, [0x3a9, 0x399]), (0xfb00, [0x46, 0x46]), (0xfb01, [0x46, 0x49]),
   (0xfb02, [0x46, 0x4c]), (0xfb03, [0x46, 0x46, 0x49]), (0xfb04, [0x46, 0x46, 0x4c]),
   (0xfb05, [0x53, 0x54]), (0xfb06, [0x53, 0x54]), (0xfb13, [0x544, 0x546]),
   (0xfb14, [0x544, 0x535]), (0xfb15, [0x544, 0x53b]), (0xfb16, [0x54e, 0x546]),
   (0xfb17, [0x544, 0x53d])]

/-- Letters with a small form of one letter. -/
def smallRuns : List CaseRun :=
  [⟨0x41, 26, 1, 0x61⟩, ⟨0xc0, 23, 1, 0xe0⟩, ⟨0xd8, 7, 1, 0xf8⟩, ⟨0x100, 24, 2, 0x101⟩,
   ⟨0x132, 3, 2, 0x133⟩, ⟨0x139, 8, 2, 0x13a⟩, ⟨0x14a, 23, 2, 0x14b⟩, ⟨0x178, 1, 1, 0xff⟩,
   ⟨0x179, 3, 2, 0x17a⟩, ⟨0x181, 1, 1, 0x253⟩, ⟨0x182, 2, 2, 0x183⟩, ⟨0x186, 1, 1, 0x254⟩,
   ⟨0x187, 1, 1, 0x188⟩, ⟨0x189, 2, 1, 0x256⟩, ⟨0x18b, 1, 1, 0x18c⟩, ⟨0x18e, 1, 1, 0x1dd⟩,
   ⟨0x18f, 1, 1, 0x259⟩, ⟨0x190, 1, 1, 0x25b⟩, ⟨0x191, 1, 1, 0x192⟩, ⟨0x193, 1, 1, 0x260⟩,
   ⟨0x194, 1, 1, 0x263⟩, ⟨0x196, 1, 1, 0x269⟩, ⟨0x197, 1, 1, 0x268⟩, ⟨0x198, 1, 1, 0x199⟩,
   ⟨0x19c, 1, 1, 0x26f⟩, ⟨0x19d, 1, 1, 0x272⟩, ⟨0x19f, 1, 1, 0x275⟩, ⟨0x1a0, 3, 2, 0x1a1⟩,
   ⟨0x1a6, 1, 1, 0x280⟩, ⟨0x1a7, 1, 1, 0x1a8⟩, ⟨0x1a9, 1, 1, 0x283⟩, ⟨0x1ac, 1, 1, 0x1ad⟩,
   ⟨0x1ae, 1, 1, 0x288⟩, ⟨0x1af, 1, 1, 0x1b0⟩, ⟨0x1b1, 2, 1, 0x28a⟩, ⟨0x1b3, 2, 2, 0x1b4⟩,
   ⟨0x1b7, 1, 1, 0x292⟩, ⟨0x1b8, 1, 1, 0x1b9⟩, ⟨0x1bc, 1, 1, 0x1bd⟩, ⟨0x1c4, 1, 1, 0x1c6⟩,
   ⟨0x1c5, 1, 1, 0x1c6⟩, ⟨0x1c7, 1, 1, 0x1c9⟩, ⟨0x1c8, 1, 1, 0x1c9⟩, ⟨0x1ca, 1, 1, 0x1cc⟩,
   ⟨0x1cb, 9, 2, 0x1cc⟩, ⟨0x1de, 9, 2, 0x1df⟩, ⟨0x1f1, 1, 1, 0x1f3⟩, ⟨0x1f2, 2, 2, 0x1f3⟩,
   ⟨0x1f6, 1, 1, 0x195⟩, ⟨0x1f7, 1, 1, 0x1bf⟩, ⟨0x1f8, 20, 2, 0x1f9⟩, ⟨0x220, 1, 1, 0x19e⟩,
   ⟨0x222, 9, 2, 0x223⟩, ⟨0x23a, 1, 1, 0x2c65⟩, ⟨0x23b, 1, 1, 0x23c⟩, ⟨0x23d, 1, 1, 0x19a⟩,
   ⟨0x23e, 1, 1, 0x2c66⟩, ⟨0x241, 1, 1, 0x242⟩, ⟨0x243, 1, 1, 0x180⟩, ⟨0x244, 1, 1, 0x289⟩,
   ⟨0x245, 1, 1, 0x28c⟩, ⟨0x246, 5, 2, 0x247⟩, ⟨0x370, 2, 2, 0x371⟩, ⟨0x376, 1, 1, 0x377⟩,
   ⟨0x37f, 1, 1, 0x3f3⟩, ⟨0x386, 1, 1, 0x3ac⟩, ⟨0x388, 3, 1, 0x3ad⟩, ⟨0x38c, 1, 1, 0x3cc⟩,
   ⟨0x38e, 2, 1, 0x3cd⟩, ⟨0x391, 17, 1, 0x3b1⟩, ⟨0x3a3, 9, 1, 0x3c3⟩, ⟨0x3cf, 1, 1, 0x3d7⟩,
   ⟨0x3d8, 12, 2, 0x3d9⟩, ⟨0x3f4, 1, 1, 0x3b8⟩, ⟨0x3f7, 1, 1, 0x3f8⟩, ⟨0x3f9, 1, 1, 0x3f2⟩,
   ⟨0x3fa, 1, 1, 0x3fb⟩, ⟨0x3fd, 3, 1, 0x37b⟩, ⟨0x400, 16, 1, 0x450⟩, ⟨0x410, 32, 1, 0x430⟩,
   ⟨0x460, 17, 2, 0x461⟩, ⟨0x48a, 27, 2, 0x48b⟩, ⟨0x4c0, 1, 1, 0x4cf⟩, ⟨0x4c1, 7, 2, 0x4c2⟩,
   ⟨0x4d0, 48, 2, 0x4d1⟩, ⟨0x531, 38, 1, 0x561⟩, ⟨0x10a0, 38, 1, 0x2d00⟩, ⟨0x10c7, 1, 1, 0x2d27⟩,
   ⟨0x10cd, 1, 1, 0x2d2d⟩, ⟨0x13a0, 80, 1, 0xab70⟩, ⟨0x13f0, 6, 1, 0x13f8⟩,
   ⟨0x1c90, 43, 1, 0x10d0⟩, ⟨0x1cbd, 3, 1, 0x10fd⟩, ⟨0x1e00, 75, 2, 0x1e01⟩, ⟨0x1e9e, 1, 1, 0xdf⟩,
   ⟨0x1ea0, 48, 2, 0x1ea1⟩, ⟨0x1f08, 8, 1, 0x1f00⟩, ⟨0x1f18, 6, 1, 0x1f10⟩,
   ⟨0x1f28, 8, 1, 0x1f20⟩, ⟨0x1f38, 8, 1, 0x1f30⟩, ⟨0x1f48, 6, 1, 0x1f40⟩, ⟨0x1f59, 4, 2, 0x1f51⟩,
   ⟨0x1f68, 8, 1, 0x1f60⟩, ⟨0x1f88, 8, 1, 0x1f80⟩, ⟨0x1f98, 8, 1, 0x1f90⟩, ⟨0x1fa8, 8, 1, 0x1fa0⟩,
   ⟨0x1fb8, 2, 1, 0x1fb0⟩, ⟨0x1fba, 2, 1, 0x1f70⟩, ⟨0x1fbc, 1, 1, 0x1fb3⟩, ⟨0x1fc8, 4, 1, 0x1f72⟩,
   ⟨0x1fcc, 1, 1, 0x1fc3⟩, ⟨0x1fd8, 2, 1, 0x1fd0⟩, ⟨0x1fda, 2, 1, 0x1f76⟩, ⟨0x1fe8, 2, 1, 0x1fe0⟩,
   ⟨0x1fea, 2, 1, 0x1f7a⟩, ⟨0x1fec, 1, 1, 0x1fe5⟩, ⟨0x1ff8, 2, 1, 0x1f78⟩, ⟨0x1ffa, 2, 1, 0x1f7c⟩,
   ⟨0x1ffc, 1, 1, 0x1ff3⟩, ⟨0x2126, 1, 1, 0x3c9⟩, ⟨0x212a, 1, 1, 0x6b⟩, ⟨0x212b, 1, 1, 0xe5⟩,
   ⟨0x2132, 1, 1, 0x214e⟩, ⟨0x2160, 16, 1, 0x2170⟩, ⟨0x2183, 1, 1, 0x2184⟩,
   ⟨0x24b6, 26, 1, 0x24d0⟩, ⟨0x2c00, 48, 1, 0x2c30⟩, ⟨0x2c60, 1, 1, 0x2c61⟩,
   ⟨0x2c62, 1, 1, 0x26b⟩, ⟨0x2c63, 1, 1, 0x1d7d⟩, ⟨0x2c64, 1, 1, 0x27d⟩, ⟨0x2c67, 3, 2, 0x2c68⟩,
   ⟨0x2c6d, 1, 1, 0x251⟩, ⟨0x2c6e, 1, 1, 0x271⟩, ⟨0x2c6f, 1, 1, 0x250⟩, ⟨0x2c70, 1, 1, 0x252⟩,
   ⟨0x2c72, 1, 1, 0x2c73⟩, ⟨0x2c75, 1, 1, 0x2c76⟩, ⟨0x2c7e, 2, 1, 0x23f⟩, ⟨0x2c80, 50, 2, 0x2c81⟩,
   ⟨0x2ceb, 2, 2, 0x2cec⟩, ⟨0x2cf2, 1, 1, 0x2cf3⟩, ⟨0xa640, 23, 2, 0xa641⟩,
   ⟨0xa680, 14, 2, 0xa681⟩, ⟨0xa722, 7, 2, 0xa723⟩, ⟨0xa732, 31, 2, 0xa733⟩,
   ⟨0xa779, 2, 2, 0xa77a⟩, ⟨0xa77d, 1, 1, 0x1d79⟩, ⟨0xa77e, 5, 2, 0xa77f⟩, ⟨0xa78b, 1, 1, 0xa78c⟩,
   ⟨0xa78d, 1, 1, 0x265⟩, ⟨0xa790, 2, 2, 0xa791⟩, ⟨0xa796, 10, 2, 0xa797⟩, ⟨0xa7aa, 1, 1, 0x266⟩,
   ⟨0xa7ab, 1, 1, 0x25c⟩, ⟨0xa7ac, 1, 1, 0x261⟩, ⟨0xa7ad, 1, 1, 0x26c⟩, ⟨0xa7ae, 1, 1, 0x26a⟩,
   ⟨0xa7b0, 1, 1, 0x29e⟩, ⟨0xa7b1, 1, 1, 0x287⟩, ⟨0xa7b2, 1, 1, 0x29d⟩, ⟨0xa7b3, 1, 1, 0xab53⟩,
   ⟨0xa7b4, 8, 2, 0xa7b5⟩, ⟨0xa7c4, 1, 1, 0xa794⟩, ⟨0xa7c5, 1, 1, 0x282⟩, ⟨0xa7c6, 1, 1, 0x1d8e⟩,
   ⟨0xa7c7, 2, 2, 0xa7c8⟩, ⟨0xa7d0, 1, 1, 0xa7d1⟩, ⟨0xa7d6, 2, 2, 0xa7d7⟩, ⟨0xa7f5, 1, 1, 0xa7f6⟩,
   ⟨0xff21, 26, 1, 0xff41⟩, ⟨0x10400, 40, 1, 0x10428⟩, ⟨0x104b0, 36, 1, 0x104d8⟩,
   ⟨0x10570, 19, 2, 0x10597⟩, ⟨0x10571, 5, 2, 0x10598⟩, ⟨0x1057d, 7, 2, 0x105a4⟩,
   ⟨0x1058d, 3, 2, 0x105b4⟩, ⟨0x10595, 1, 1, 0x105bc⟩, ⟨0x10c80, 51, 1, 0x10cc0⟩,
   ⟨0x118a0, 32, 1, 0x118c0⟩, ⟨0x16e40, 32, 1, 0x16e60⟩, ⟨0x1e900, 34, 1, 0x1e922⟩]

/-- Letters with a small form of several letters. -/
def smallGroups : List (Nat × List Nat) :=
  [(0x130, [0x69, 0x307])]

/-- Letters of which the form that begins a word is one letter and not the large form. -/
def titleRuns : List CaseRun :=
  [⟨0x1c4, 1, 1, 0x1c5⟩, ⟨0x1c5, 1, 1, 0x1c5⟩, ⟨0x1c6, 1, 1, 0x1c5⟩, ⟨0x1c7, 1, 1, 0x1c8⟩,
   ⟨0x1c8, 1, 1, 0x1c8⟩, ⟨0x1c9, 1, 1, 0x1c8⟩, ⟨0x1ca, 1, 1, 0x1cb⟩, ⟨0x1cb, 1, 1, 0x1cb⟩,
   ⟨0x1cc, 1, 1, 0x1cb⟩, ⟨0x1f1, 1, 1, 0x1f2⟩, ⟨0x1f2, 1, 1, 0x1f2⟩, ⟨0x1f3, 1, 1, 0x1f2⟩,
   ⟨0x10d0, 43, 1, 0x10d0⟩, ⟨0x10fd, 3, 1, 0x10fd⟩, ⟨0x1f80, 8, 1, 0x1f88⟩,
   ⟨0x1f88, 8, 1, 0x1f88⟩, ⟨0x1f90, 8, 1, 0x1f98⟩, ⟨0x1f98, 8, 1, 0x1f98⟩, ⟨0x1fa0, 8, 1, 0x1fa8⟩,
   ⟨0x1fa8, 8, 1, 0x1fa8⟩, ⟨0x1fb3, 1, 1, 0x1fbc⟩, ⟨0x1fbc, 1, 1, 0x1fbc⟩, ⟨0x1fc3, 1, 1, 0x1fcc⟩,
   ⟨0x1fcc, 1, 1, 0x1fcc⟩, ⟨0x1ff3, 1, 1, 0x1ffc⟩, ⟨0x1ffc, 1, 1, 0x1ffc⟩]

/-- Letters of which the form that begins a word is several letters and not the large form. -/
def titleGroups : List (Nat × List Nat) :=
  [(0xdf, [0x53, 0x73]), (0x587, [0x535, 0x582]), (0x1fb2, [0x1fba, 0x345]),
   (0x1fb4, [0x386, 0x345]), (0x1fb7, [0x391, 0x342, 0x345]), (0x1fc2, [0x1fca, 0x345]),
   (0x1fc4, [0x389, 0x345]), (0x1fc7, [0x397, 0x342, 0x345]), (0x1ff2, [0x1ffa, 0x345]),
   (0x1ff4, [0x38f, 0x345]), (0x1ff7, [0x3a9, 0x342, 0x345]), (0xfb00, [0x46, 0x66]),
   (0xfb01, [0x46, 0x69]), (0xfb02, [0x46, 0x6c]), (0xfb03, [0x46, 0x66, 0x69]),
   (0xfb04, [0x46, 0x66, 0x6c]), (0xfb05, [0x53, 0x74]), (0xfb06, [0x53, 0x74]),
   (0xfb13, [0x544, 0x576]), (0xfb14, [0x544, 0x565]), (0xfb15, [0x544, 0x56b]),
   (0xfb16, [0x54e, 0x576]), (0xfb17, [0x544, 0x56d])]

/-- Letters that are compared as one letter which is not the small form. -/
def foldRuns : List CaseRun :=
  [⟨0xb5, 1, 1, 0x3bc⟩, ⟨0x17f, 1, 1, 0x73⟩, ⟨0x345, 1, 1, 0x3b9⟩, ⟨0x3c2, 1, 1, 0x3c3⟩,
   ⟨0x3d0, 1, 1, 0x3b2⟩, ⟨0x3d1, 1, 1, 0x3b8⟩, ⟨0x3d5, 1, 1, 0x3c6⟩, ⟨0x3d6, 1, 1, 0x3c0⟩,
   ⟨0x3f0, 1, 1, 0x3ba⟩, ⟨0x3f1, 1, 1, 0x3c1⟩, ⟨0x3f5, 1, 1, 0x3b5⟩, ⟨0x13a0, 86, 1, 0x13a0⟩,
   ⟨0x13f8, 6, 1, 0x13f0⟩, ⟨0x1c80, 1, 1, 0x432⟩, ⟨0x1c81, 1, 1, 0x434⟩, ⟨0x1c82, 1, 1, 0x43e⟩,
   ⟨0x1c83, 2, 1, 0x441⟩, ⟨0x1c85, 1, 1, 0x442⟩, ⟨0x1c86, 1, 1, 0x44a⟩, ⟨0x1c87, 1, 1, 0x463⟩,
   ⟨0x1c88, 1, 1, 0xa64b⟩, ⟨0x1e9b, 1, 1, 0x1e61⟩, ⟨0x1fbe, 1, 1, 0x3b9⟩, ⟨0xab70, 80, 1, 0x13a0⟩]

/-- Letters that are compared as several letters. -/
def foldGroups : List (Nat × List Nat) :=
  [(0xdf, [0x73, 0x73]), (0x149, [0x2bc, 0x6e]), (0x1f0, [0x6a, 0x30c]),
   (0x390, [0x3b9, 0x308, 0x301]), (0x3b0, [0x3c5, 0x308, 0x301]), (0x587, [0x565, 0x582]),
   (0x1e96, [0x68, 0x331]), (0x1e97, [0x74, 0x308]), (0x1e98, [0x77, 0x30a]),
   (0x1e99, [0x79, 0x30a]), (0x1e9a, [0x61, 0x2be]), (0x1e9e, [0x73, 0x73]),
   (0x1f50, [0x3c5, 0x313]), (0x1f52, [0x3c5, 0x313, 0x300]), (0x1f54, [0x3c5, 0x313, 0x301]),
   (0x1f56, [0x3c5, 0x313, 0x342]), (0x1f80, [0x1f00, 0x3b9]), (0x1f81, [0x1f01, 0x3b9]),
   (0x1f82, [0x1f02, 0x3b9]), (0x1f83, [0x1f03, 0x3b9]), (0x1f84, [0x1f04, 0x3b9]),
   (0x1f85, [0x1f05, 0x3b9]), (0x1f86, [0x1f06, 0x3b9]), (0x1f87, [0x1f07, 0x3b9]),
   (0x1f88, [0x1f00, 0x3b9]), (0x1f89, [0x1f01, 0x3b9]), (0x1f8a, [0x1f02, 0x3b9]),
   (0x1f8b, [0x1f03, 0x3b9]), (0x1f8c, [0x1f04, 0x3b9]), (0x1f8d, [0x1f05, 0x3b9]),
   (0x1f8e, [0x1f06, 0x3b9]), (0x1f8f, [0x1f07, 0x3b9]), (0x1f90, [0x1f20, 0x3b9]),
   (0x1f91, [0x1f21, 0x3b9]), (0x1f92, [0x1f22, 0x3b9]), (0x1f93, [0x1f23, 0x3b9]),
   (0x1f94, [0x1f24, 0x3b9]), (0x1f95, [0x1f25, 0x3b9]), (0x1f96, [0x1f26, 0x3b9]),
   (0x1f97, [0x1f27, 0x3b9]), (0x1f98, [0x1f20, 0x3b9]), (0x1f99, [0x1f21, 0x3b9]),
   (0x1f9a, [0x1f22, 0x3b9]), (0x1f9b, [0x1f23, 0x3b9]), (0x1f9c, [0x1f24, 0x3b9]),
   (0x1f9d, [0x1f25, 0x3b9]), (0x1f9e, [0x1f26, 0x3b9]), (0x1f9f, [0x1f27, 0x3b9]),
   (0x1fa0, [0x1f60, 0x3b9]), (0x1fa1, [0x1f61, 0x3b9]), (0x1fa2, [0x1f62, 0x3b9]),
   (0x1fa3, [0x1f63, 0x3b9]), (0x1fa4, [0x1f64, 0x3b9]), (0x1fa5, [0x1f65, 0x3b9]),
   (0x1fa6, [0x1f66, 0x3b9]), (0x1fa7, [0x1f67, 0x3b9]), (0x1fa8, [0x1f60, 0x3b9]),
   (0x1fa9, [0x1f61, 0x3b9]), (0x1faa, [0x1f62, 0x3b9]), (0x1fab, [0x1f63, 0x3b9]),
   (0x1fac, [0x1f64, 0x3b9]), (0x1fad, [0x1f65, 0x3b9]), (0x1fae, [0x1f66, 0x3b9]),
   (0x1faf, [0x1f67, 0x3b9]), (0x1fb2, [0x1f70, 0x3b9]), (0x1fb3, [0x3b1, 0x3b9]),
   (0x1fb4, [0x3ac, 0x3b9]), (0x1fb6, [0x3b1, 0x342]), (0x1fb7, [0x3b1, 0x342, 0x3b9]),
   (0x1fbc, [0x3b1, 0x3b9]), (0x1fc2, [0x1f74, 0x3b9]), (0x1fc3, [0x3b7, 0x3b9]),
   (0x1fc4, [0x3ae, 0x3b9]), (0x1fc6, [0x3b7, 0x342]), (0x1fc7, [0x3b7, 0x342, 0x3b9]),
   (0x1fcc, [0x3b7, 0x3b9]), (0x1fd2, [0x3b9, 0x308, 0x300]), (0x1fd3, [0x3b9, 0x308, 0x301]),
   (0x1fd6, [0x3b9, 0x342]), (0x1fd7, [0x3b9, 0x308, 0x342]), (0x1fe2, [0x3c5, 0x308, 0x300]),
   (0x1fe3, [0x3c5, 0x308, 0x301]), (0x1fe4, [0x3c1, 0x313]), (0x1fe6, [0x3c5, 0x342]),
   (0x1fe7, [0x3c5, 0x308, 0x342]), (0x1ff2, [0x1f7c, 0x3b9]), (0x1ff3, [0x3c9, 0x3b9]),
   (0x1ff4, [0x3ce, 0x3b9]), (0x1ff6, [0x3c9, 0x342]), (0x1ff7, [0x3c9, 0x342, 0x3b9]),
   (0x1ffc, [0x3c9, 0x3b9]), (0xfb00, [0x66, 0x66]), (0xfb01, [0x66, 0x69]),
   (0xfb02, [0x66, 0x6c]), (0xfb03, [0x66, 0x66, 0x69]), (0xfb04, [0x66, 0x66, 0x6c]),
   (0xfb05, [0x73, 0x74]), (0xfb06, [0x73, 0x74]), (0xfb13, [0x574, 0x576]),
   (0xfb14, [0x574, 0x565]), (0xfb15, [0x574, 0x56b]), (0xfb16, [0x57e, 0x576]),
   (0xfb17, [0x574, 0x56d])]

end DocGuard.Text

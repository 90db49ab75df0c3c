import TemplateCompiler.Text.CharacterTable

/-!
# Letter case

Lower case, upper case and comparison without regard to case use the one-to-one case mappings, so
a character always becomes one character.  Texts are compared without regard to case by mapping
every character to the representative of its class: `s`, `S` and the long s are one class, the
dotted and the dotless i are classes of their own.
-/

namespace TemplateCompiler

namespace Text

/-- The lower-case form of each character beyond ASCII that has one. -/
def lowerTable : MapTable := .ofString
  "c0-d6:e0 d8-de:f8 100/12e:101 130:69 132/136:133 139/147:13a 14a/176:14b 178:ff 179/17d:17a
   181:253 182:183 184:185 186:254 187:188 189-18a:256 18b:18c 18e:1dd 18f:259 190:25b 191:192
   193:260 194:263 196:269 197:268 198:199 19c:26f 19d:272 19f:275 1a0/1a4:1a1 1a6:280 1a7:1a8
   1a9:283 1ac:1ad 1ae:288 1af:1b0 1b1-1b2:28a 1b3:1b4 1b5:1b6 1b7:292 1b8:1b9 1bc:1bd 1c4:1c6
   1c5:1c6 1c7:1c9 1c8:1c9 1ca:1cc 1cb/1db:1cc 1de/1ee:1df 1f1:1f3 1f2:1f3 1f4:1f5 1f6:195
   1f7:1bf 1f8/21e:1f9 220:19e 222/232:223 23a:2c65 23b:23c 23d:19a 23e:2c66 241:242 243:180
   244:289 245:28c 246/24e:247 370:371 372:373 376:377 37f:3f3 386:3ac 388-38a:3ad 38c:3cc
   38e-38f:3cd 391-3a1:3b1 3a3-3ab:3c3 3cf:3d7 3d8/3ee:3d9 3f4:3b8 3f7:3f8 3f9:3f2 3fa:3fb
   3fd-3ff:37b 400-40f:450 410-42f:430 460/480:461 48a/4be:48b 4c0:4cf 4c1/4cd:4c2 4d0/52e:4d1
   531-556:561 10a0-10c5:2d00 10c7:2d27 10cd:2d2d 13a0-13ef:ab70 13f0-13f5:13f8 1c90-1cba:10d0
   1cbd-1cbf:10fd 1e00/1e94:1e01 1e9e:df 1ea0/1efe:1ea1 1f08-1f0f:1f00 1f18-1f1d:1f10
   1f28-1f2f:1f20 1f38-1f3f:1f30 1f48-1f4d:1f40 1f59/1f5f:1f51 1f68-1f6f:1f60 1f88-1f8f:1f80
   1f98-1f9f:1f90 1fa8-1faf:1fa0 1fb8-1fb9:1fb0 1fba-1fbb:1f70 1fbc:1fb3 1fc8-1fcb:1f72 1fcc:1fc3
   1fd8-1fd9:1fd0 1fda-1fdb:1f76 1fe8-1fe9:1fe0 1fea-1feb:1f7a 1fec:1fe5 1ff8-1ff9:1f78
   1ffa-1ffb:1f7c 1ffc:1ff3 2126:3c9 212a:6b 212b:e5 2132:214e 2160-216f:2170 2183:2184
   24b6-24cf:24d0 2c00-2c2f:2c30 2c60:2c61 2c62:26b 2c63:1d7d 2c64:27d 2c67/2c6b:2c68 2c6d:251
   2c6e:271 2c6f:250 2c70:252 2c72:2c73 2c75:2c76 2c7e-2c7f:23f 2c80/2ce2:2c81 2ceb:2cec
   2ced:2cee 2cf2:2cf3 a640/a66c:a641 a680/a69a:a681 a722/a72e:a723 a732/a76e:a733 a779:a77a
   a77b:a77c a77d:1d79 a77e/a786:a77f a78b:a78c a78d:265 a790:a791 a792:a793 a796/a7a8:a797
   a7aa:266 a7ab:25c a7ac:261 a7ad:26c a7ae:26a a7b0:29e a7b1:287 a7b2:29d a7b3:ab53
   a7b4/a7c2:a7b5 a7c4:a794 a7c5:282 a7c6:1d8e a7c7:a7c8 a7c9:a7ca a7d0:a7d1 a7d6:a7d7 a7d8:a7d9
   a7f5:a7f6 ff21-ff3a:ff41 10400-10427:10428 104b0-104d3:104d8 10570-1057a:10597
   1057c-1058a:105a3 1058c-10592:105b3 10594-10595:105bb 10c80-10cb2:10cc0 118a0-118bf:118c0
   16e40-16e5f:16e60 1e900-1e921:1e922"

/-- The upper-case form of each character beyond ASCII that has one. -/
def upperTable : MapTable := .ofString
  "b5:39c e0-f6:c0 f8-fe:d8 ff:178 101/12f:100 131:49 133/137:132 13a/148:139 14b/177:14a
   17a/17e:179 17f:53 180:243 183:182 185:184 188:187 18c:18b 192:191 195:1f6 199:198 19a:23d
   19e:220 1a1/1a5:1a0 1a8:1a7 1ad:1ac 1b0:1af 1b4:1b3 1b6:1b5 1b9:1b8 1bd:1bc 1bf:1f7 1c5:1c4
   1c6:1c4 1c8:1c7 1c9:1c7 1cb:1ca 1cc:1ca 1ce/1dc:1cd 1dd:18e 1df/1ef:1de 1f2:1f1 1f3:1f1
   1f5:1f4 1f9/21f:1f8 223/233:222 23c:23b 23f-240:2c7e 242:241 247/24f:246 250:2c6f 251:2c6d
   252:2c70 253:181 254:186 256-257:189 259:18f 25b:190 25c:a7ab 260:193 261:a7ac 263:194
   265:a78d 266:a7aa 268:197 269:196 26a:a7ae 26b:2c62 26c:a7ad 26f:19c 271:2c6e 272:19d 275:19f
   27d:2c64 280:1a6 282:a7c5 283:1a9 287:a7b1 288:1ae 289:244 28a-28b:1b1 28c:245 292:1b7
   29d:a7b2 29e:a7b0 345:399 371:370 373:372 377:376 37b-37d:3fd 3ac:386 3ad-3af:388 3b1-3c1:391
   3c2:3a3 3c3-3cb:3a3 3cc:38c 3cd-3ce:38e 3d0:392 3d1:398 3d5:3a6 3d6:3a0 3d7:3cf 3d9/3ef:3d8
   3f0:39a 3f1:3a1 3f2:3f9 3f3:37f 3f5:395 3f8:3f7 3fb:3fa 430-44f:410 450-45f:400 461/481:460
   48b/4bf:48a 4c2/4ce:4c1 4cf:4c0 4d1/52f:4d0 561-586:531 10d0-10fa:1c90 10fd-10ff:1cbd
   13f8-13fd:13f0 1c80:412 1c81:414 1c82:41e 1c83-1c84:421 1c85:422 1c86:42a 1c87:462 1c88:a64a
   1d79:a77d 1d7d:2c63 1d8e:a7c6 1e01/1e95:1e00 1e9b:1e60 1ea1/1eff:1ea0 1f00-1f07:1f08
   1f10-1f15:1f18 1f20-1f27:1f28 1f30-1f37:1f38 1f40-1f45:1f48 1f51/1f57:1f59 1f60-1f67:1f68
   1f70-1f71:1fba 1f72-1f75:1fc8 1f76-1f77:1fda 1f78-1f79:1ff8 1f7a-1f7b:1fea 1f7c-1f7d:1ffa
   1f80-1f87:1f88 1f90-1f97:1f98 1fa0-1fa7:1fa8 1fb0-1fb1:1fb8 1fb3:1fbc 1fbe:399 1fc3:1fcc
   1fd0-1fd1:1fd8 1fe0-1fe1:1fe8 1fe5:1fec 1ff3:1ffc 214e:2132 2170-217f:2160 2184:2183
   24d0-24e9:24b6 2c30-2c5f:2c00 2c61:2c60 2c65:23a 2c66:23e 2c68/2c6c:2c67 2c73:2c72 2c76:2c75
   2c81/2ce3:2c80 2cec:2ceb 2cee:2ced 2cf3:2cf2 2d00-2d25:10a0 2d27:10c7 2d2d:10cd a641/a66d:a640
   a681/a69b:a680 a723/a72f:a722 a733/a76f:a732 a77a:a779 a77c:a77b a77f/a787:a77e a78c:a78b
   a791:a790 a793:a792 a794:a7c4 a797/a7a9:a796 a7b5/a7c3:a7b4 a7c8:a7c7 a7ca:a7c9 a7d1:a7d0
   a7d7:a7d6 a7d9:a7d8 a7f6:a7f5 ab53:a7b3 ab70-abbf:13a0 ff41-ff5a:ff21 10428-1044f:10400
   104d8-104fb:104b0 10597-105a1:10570 105a3-105b1:1057c 105b3-105b9:1058c 105bb-105bc:10594
   10cc0-10cf2:10c80 118c0-118df:118a0 16e60-16e7f:16e40 1e922-1e943:1e900"

/-- The representative of each class of characters that differ in case only.  The table is not read
from a text, since what it does to a character is asked in proofs. -/
def foldTable : MapTable where
  shifts := #[
    .single 0xb5 0x3bc, .run 0xc0 0xd6 0xe0, .run 0xd8 0xde 0xf8, .alternating 0x100 0x12e 0x101,
    .alternating 0x132 0x136 0x133, .alternating 0x139 0x147 0x13a,
    .alternating 0x14a 0x176 0x14b, .single 0x178 0xff, .alternating 0x179 0x17d 0x17a,
    .single 0x17f 0x73, .single 0x181 0x253, .single 0x182 0x183, .single 0x184 0x185,
    .single 0x186 0x254, .single 0x187 0x188, .run 0x189 0x18a 0x256, .single 0x18b 0x18c,
    .single 0x18e 0x1dd, .single 0x18f 0x259, .single 0x190 0x25b, .single 0x191 0x192,
    .single 0x193 0x260, .single 0x194 0x263, .single 0x196 0x269, .single 0x197 0x268,
    .single 0x198 0x199, .single 0x19c 0x26f, .single 0x19d 0x272, .single 0x19f 0x275,
    .alternating 0x1a0 0x1a4 0x1a1, .single 0x1a6 0x280, .single 0x1a7 0x1a8, .single 0x1a9 0x283,
    .single 0x1ac 0x1ad, .single 0x1ae 0x288, .single 0x1af 0x1b0, .run 0x1b1 0x1b2 0x28a,
    .single 0x1b3 0x1b4, .single 0x1b5 0x1b6, .single 0x1b7 0x292, .single 0x1b8 0x1b9,
    .single 0x1bc 0x1bd, .single 0x1c4 0x1c6, .single 0x1c5 0x1c6, .single 0x1c7 0x1c9,
    .single 0x1c8 0x1c9, .single 0x1ca 0x1cc, .alternating 0x1cb 0x1db 0x1cc,
    .alternating 0x1de 0x1ee 0x1df, .single 0x1f1 0x1f3, .single 0x1f2 0x1f3, .single 0x1f4 0x1f5,
    .single 0x1f6 0x195, .single 0x1f7 0x1bf, .alternating 0x1f8 0x21e 0x1f9, .single 0x220 0x19e,
    .alternating 0x222 0x232 0x223, .single 0x23a 0x2c65, .single 0x23b 0x23c,
    .single 0x23d 0x19a, .single 0x23e 0x2c66, .single 0x241 0x242, .single 0x243 0x180,
    .single 0x244 0x289, .single 0x245 0x28c, .alternating 0x246 0x24e 0x247, .single 0x345 0x3b9,
    .single 0x370 0x371, .single 0x372 0x373, .single 0x376 0x377, .single 0x37f 0x3f3,
    .single 0x386 0x3ac, .run 0x388 0x38a 0x3ad, .single 0x38c 0x3cc, .run 0x38e 0x38f 0x3cd,
    .run 0x391 0x3a1 0x3b1, .run 0x3a3 0x3ab 0x3c3, .single 0x3c2 0x3c3, .single 0x3cf 0x3d7,
    .single 0x3d0 0x3b2, .single 0x3d1 0x3b8, .single 0x3d5 0x3c6, .single 0x3d6 0x3c0,
    .alternating 0x3d8 0x3ee 0x3d9, .single 0x3f0 0x3ba, .single 0x3f1 0x3c1, .single 0x3f4 0x3b8,
    .single 0x3f5 0x3b5, .single 0x3f7 0x3f8, .single 0x3f9 0x3f2, .single 0x3fa 0x3fb,
    .run 0x3fd 0x3ff 0x37b, .run 0x400 0x40f 0x450, .run 0x410 0x42f 0x430,
    .alternating 0x460 0x480 0x461, .alternating 0x48a 0x4be 0x48b, .single 0x4c0 0x4cf,
    .alternating 0x4c1 0x4cd 0x4c2, .alternating 0x4d0 0x52e 0x4d1, .run 0x531 0x556 0x561,
    .run 0x10a0 0x10c5 0x2d00, .single 0x10c7 0x2d27, .single 0x10cd 0x2d2d,
    .run 0x13f8 0x13fd 0x13f0, .single 0x1c80 0x432, .single 0x1c81 0x434, .single 0x1c82 0x43e,
    .run 0x1c83 0x1c84 0x441, .single 0x1c85 0x442, .single 0x1c86 0x44a, .single 0x1c87 0x463,
    .single 0x1c88 0xa64b, .run 0x1c90 0x1cba 0x10d0, .run 0x1cbd 0x1cbf 0x10fd,
    .alternating 0x1e00 0x1e94 0x1e01, .single 0x1e9b 0x1e61, .single 0x1e9e 0xdf,
    .alternating 0x1ea0 0x1efe 0x1ea1, .run 0x1f08 0x1f0f 0x1f00, .run 0x1f18 0x1f1d 0x1f10,
    .run 0x1f28 0x1f2f 0x1f20, .run 0x1f38 0x1f3f 0x1f30, .run 0x1f48 0x1f4d 0x1f40,
    .alternating 0x1f59 0x1f5f 0x1f51, .run 0x1f68 0x1f6f 0x1f60, .run 0x1f88 0x1f8f 0x1f80,
    .run 0x1f98 0x1f9f 0x1f90, .run 0x1fa8 0x1faf 0x1fa0, .run 0x1fb8 0x1fb9 0x1fb0,
    .run 0x1fba 0x1fbb 0x1f70, .single 0x1fbc 0x1fb3, .single 0x1fbe 0x3b9,
    .run 0x1fc8 0x1fcb 0x1f72, .single 0x1fcc 0x1fc3, .run 0x1fd8 0x1fd9 0x1fd0,
    .run 0x1fda 0x1fdb 0x1f76, .run 0x1fe8 0x1fe9 0x1fe0, .run 0x1fea 0x1feb 0x1f7a,
    .single 0x1fec 0x1fe5, .run 0x1ff8 0x1ff9 0x1f78, .run 0x1ffa 0x1ffb 0x1f7c,
    .single 0x1ffc 0x1ff3, .single 0x2126 0x3c9, .single 0x212a 0x6b, .single 0x212b 0xe5,
    .single 0x2132 0x214e, .run 0x2160 0x216f 0x2170, .single 0x2183 0x2184,
    .run 0x24b6 0x24cf 0x24d0, .run 0x2c00 0x2c2f 0x2c30, .single 0x2c60 0x2c61,
    .single 0x2c62 0x26b, .single 0x2c63 0x1d7d, .single 0x2c64 0x27d,
    .alternating 0x2c67 0x2c6b 0x2c68, .single 0x2c6d 0x251, .single 0x2c6e 0x271,
    .single 0x2c6f 0x250, .single 0x2c70 0x252, .single 0x2c72 0x2c73, .single 0x2c75 0x2c76,
    .run 0x2c7e 0x2c7f 0x23f, .alternating 0x2c80 0x2ce2 0x2c81, .single 0x2ceb 0x2cec,
    .single 0x2ced 0x2cee, .single 0x2cf2 0x2cf3, .alternating 0xa640 0xa66c 0xa641,
    .alternating 0xa680 0xa69a 0xa681, .alternating 0xa722 0xa72e 0xa723,
    .alternating 0xa732 0xa76e 0xa733, .single 0xa779 0xa77a, .single 0xa77b 0xa77c,
    .single 0xa77d 0x1d79, .alternating 0xa77e 0xa786 0xa77f, .single 0xa78b 0xa78c,
    .single 0xa78d 0x265, .single 0xa790 0xa791, .single 0xa792 0xa793,
    .alternating 0xa796 0xa7a8 0xa797, .single 0xa7aa 0x266, .single 0xa7ab 0x25c,
    .single 0xa7ac 0x261, .single 0xa7ad 0x26c, .single 0xa7ae 0x26a, .single 0xa7b0 0x29e,
    .single 0xa7b1 0x287, .single 0xa7b2 0x29d, .single 0xa7b3 0xab53,
    .alternating 0xa7b4 0xa7c2 0xa7b5, .single 0xa7c4 0xa794, .single 0xa7c5 0x282,
    .single 0xa7c6 0x1d8e, .single 0xa7c7 0xa7c8, .single 0xa7c9 0xa7ca, .single 0xa7d0 0xa7d1,
    .single 0xa7d6 0xa7d7, .single 0xa7d8 0xa7d9, .single 0xa7f5 0xa7f6,
    .run 0xab70 0xabbf 0x13a0, .run 0xff21 0xff3a 0xff41, .run 0x10400 0x10427 0x10428,
    .run 0x104b0 0x104d3 0x104d8, .run 0x10570 0x1057a 0x10597, .run 0x1057c 0x1058a 0x105a3,
    .run 0x1058c 0x10592 0x105b3, .run 0x10594 0x10595 0x105bb, .run 0x10c80 0x10cb2 0x10cc0,
    .run 0x118a0 0x118bf 0x118c0, .run 0x16e40 0x16e5f 0x16e60, .run 0x1e900 0x1e921 0x1e922]

/-- The lower-case form of a character. -/
def lowerChar (c : Char) : Char := if c.toNat < 0x80 then c.toLower else lowerTable.apply c

/-- The upper-case form of a character. -/
def upperChar (c : Char) : Char := if c.toNat < 0x80 then c.toUpper else upperTable.apply c

/-- The representative of a character's case class.  Two characters are equal without regard to case
exactly if they have the same one. -/
def foldChar (c : Char) : Char := if c.toNat < 0x80 then c.toLower else foldTable.apply c

/-- A text in lower case; ill-formed bytes become replacement characters. -/
def toLower (t : Text) : Text := mapChars lowerChar t

/-- A text in upper case; ill-formed bytes become replacement characters. -/
def toUpper (t : Text) : Text := mapChars upperChar t

/-- The representatives of a text's characters; two texts are equal but for case when these
agree. -/
def foldKey (t : Text) : List Char := t.chars.map foldChar

/-- Equality without regard to case. -/
def equalFold (s t : Text) : Bool := s.foldKey == t.foldKey

end Text

end TemplateCompiler

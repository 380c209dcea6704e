import MapClient.Text.Spans

/-!
# Small letters

Each capital letter of any script has a small one, and one of them two
characters. Besides runs of letters, whose small letters are a run as well,
there are runs in which capital and small letters alternate.
-/

set_option autoImplicit false

namespace MapClient.Text

def alternatingCaseSpans : List Span := Span.ofText "
100-12f 132-137 139-148 14a-177 179-17e 182-185 1a0-1a5 1b3-1b6 1cb-1dc 1de-1ef 1f2-1f5 1f8-21f
222-233 246-24f 370-373 3d8-3ef 460-481 48a-4bf 4c1-4ce 4d0-52f 1e00-1e95 1ea0-1eff 2c67-2c6c
2c80-2ce3 2ceb-2cee a640-a66d a680-a69b a722-a72f a732-a76f a779-a77c a77e-a787 a790-a793
a796-a7a9 a7b4-a7c3 a7c7-a7ca a7cc-a7db"

def capitalSpans : List Span := Span.ofText "
c0-d6:e0 d8-de:f8 130:69+307 178:ff 181:253 186:254 187:188 189-18a:256 18b:18c 18e:1dd 18f:259
190:25b 191:192 193:260 194:263 196:269 197:268 198:199 19c:26f 19d:272 19f:275 1a6:280 1a7:1a8
1a9:283 1ac:1ad 1ae:288 1af:1b0 1b1-1b2:28a 1b7:292 1b8:1b9 1bc:1bd 1c4:1c6 1c5:1c6 1c7:1c9
1c8:1c9 1ca:1cc 1f1:1f3 1f6:195 1f7:1bf 220:19e 23a:2c65 23b:23c 23d:19a 23e:2c66 241:242
243:180 244:289 245:28c 376:377 37f:3f3 386:3ac 388-38a:3ad 38c:3cc 38e-38f:3cd 391-3a1:3b1
3a3-3ab:3c3 3cf:3d7 3f4:3b8 3f7:3f8 3f9:3f2 3fa:3fb 3fd-3ff:37b 400-40f:450 410-42f:430 4c0:4cf
531-556:561 10a0-10c5:2d00 10c7:2d27 10cd:2d2d 13a0-13ef:ab70 13f0-13f5:13f8 1c89:1c8a
1c90-1cba:10d0 1cbd-1cbf:10fd 1e9e:df 1f08-1f0f:1f00 1f18-1f1d:1f10 1f28-1f2f:1f20
1f38-1f3f:1f30 1f48-1f4d:1f40 1f59:1f51 1f5b:1f53 1f5d:1f55 1f5f:1f57 1f68-1f6f:1f60
1f88-1f8f:1f80 1f98-1f9f:1f90 1fa8-1faf:1fa0 1fb8-1fb9:1fb0 1fba-1fbb:1f70 1fbc:1fb3
1fc8-1fcb:1f72 1fcc:1fc3 1fd8-1fd9:1fd0 1fda-1fdb:1f76 1fe8-1fe9:1fe0 1fea-1feb:1f7a 1fec:1fe5
1ff8-1ff9:1f78 1ffa-1ffb:1f7c 1ffc:1ff3 2126:3c9 212a:6b 212b:e5 2132:214e 2160-216f:2170
2183:2184 24b6-24cf:24d0 2c00-2c2f:2c30 2c60:2c61 2c62:26b 2c63:1d7d 2c64:27d 2c6d:251 2c6e:271
2c6f:250 2c70:252 2c72:2c73 2c75:2c76 2c7e-2c7f:23f 2cf2:2cf3 a77d:1d79 a78b:a78c a78d:265
a7aa:266 a7ab:25c a7ac:261 a7ad:26c a7ae:26a a7b0:29e a7b1:287 a7b2:29d a7b3:ab53 a7c4:a794
a7c5:282 a7c6:1d8e a7cb:264 a7dc:19b a7f5:a7f6 ff21-ff3a:ff41 10400-10427:10428
104b0-104d3:104d8 10570-1057a:10597 1057c-1058a:105a3 1058c-10592:105b3 10594-10595:105bb
10c80-10cb2:10cc0 10d50-10d65:10d70 118a0-118bf:118c0 16e40-16e5f:16e60 16ea0-16eb8:16ebb
1e900-1e921:1e922"

def lowerChar (c : Char) : List Char :=
  if c.toNat < 0x80 then
    if 'A' ≤ c ∧ c ≤ 'Z' then [Char.ofNat (c.toNat + 32)] else [c]
  else
    match spanOf? alternatingCaseSpans c with
    | some s => if (c.toNat - s.low) % 2 = 0 then [Char.ofNat (c.toNat + 1)] else [c]
    | none =>
      match spanOf? capitalSpans c with
      | some s => s.image c.toNat
      | none => [c]

def lowerCase (cs : List Char) : List Char := cs.flatMap lowerChar

end MapClient.Text

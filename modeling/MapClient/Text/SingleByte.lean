import MapClient.Text.Spans

/-!
# Encodings of one byte per character

The bytes below 128 are ASCII in all of these. The tables say what the others
stand for; a byte that a table leaves out stands for nothing.
-/

set_option autoImplicit false

namespace MapClient.Text.SingleByte

def ibm866 : List Span := Span.ofText "
80-af:410 b0-b2:2591 b3:2502 b4:2524 b5-b6:2561 b7:2556 b8:2555 b9:2563 ba:2551 bb:2557 bc:255d
bd:255c be:255b bf:2510 c0:2514 c1:2534 c2:252c c3:251c c4:2500 c5:253c c6-c7:255e c8:255a
c9:2554 ca:2569 cb:2566 cc:2560 cd:2550 ce:256c cf-d0:2567 d1-d2:2564 d3:2559 d4:2558 d5-d6:2552
d7:256b d8:256a d9:2518 da:250c db:2588 dc:2584 dd:258c de:2590 df:2580 e0-ef:440 f0:401 f1:451
f2:404 f3:454 f4:407 f5:457 f6:40e f7:45e f8:b0 f9:2219 fa:b7 fb:221a fc:2116 fd:a4 fe:25a0
ff:a0"

def iso88592 : List Span := Span.ofText "
80-a0:80 a1:104 a2:2d8 a3:141 a4:a4 a5:13d a6:15a a7-a8:a7 a9:160 aa:15e ab:164 ac:179 ad:ad
ae:17d af:17b b0:b0 b1:105 b2:2db b3:142 b4:b4 b5:13e b6:15b b7:2c7 b8:b8 b9:161 ba:15f bb:165
bc:17a bd:2dd be:17e bf:17c c0:154 c1-c2:c1 c3:102 c4:c4 c5:139 c6:106 c7:c7 c8:10c c9:c9 ca:118
cb:cb cc:11a cd-ce:cd cf:10e d0:110 d1:143 d2:147 d3-d4:d3 d5:150 d6-d7:d6 d8:158 d9:16e da:da
db:170 dc-dd:dc de:162 df:df e0:155 e1-e2:e1 e3:103 e4:e4 e5:13a e6:107 e7:e7 e8:10d e9:e9
ea:119 eb:eb ec:11b ed-ee:ed ef:10f f0:111 f1:144 f2:148 f3-f4:f3 f5:151 f6-f7:f6 f8:159 f9:16f
fa:fa fb:171 fc-fd:fc fe:163 ff:2d9"

def iso88593 : List Span := Span.ofText "
80-a0:80 a1:126 a2:2d8 a3-a4:a3 a6:124 a7-a8:a7 a9:130 aa:15e ab:11e ac:134 ad:ad af:17b b0:b0
b1:127 b2-b5:b2 b6:125 b7-b8:b7 b9:131 ba:15f bb:11f bc:135 bd:bd bf:17c c0-c2:c0 c4:c4 c5:10a
c6:108 c7-cf:c7 d1-d4:d1 d5:120 d6-d7:d6 d8:11c d9-dc:d9 dd:16c de:15c df-e2:df e4:e4 e5:10b
e6:109 e7-ef:e7 f1-f4:f1 f5:121 f6-f7:f6 f8:11d f9-fc:f9 fd:16d fe:15d ff:2d9"

def iso88594 : List Span := Span.ofText "
80-a0:80 a1:104 a2:138 a3:156 a4:a4 a5:128 a6:13b a7-a8:a7 a9:160 aa:112 ab:122 ac:166 ad:ad
ae:17d af-b0:af b1:105 b2:2db b3:157 b4:b4 b5:129 b6:13c b7:2c7 b8:b8 b9:161 ba:113 bb:123
bc:167 bd:14a be:17e bf:14b c0:100 c1-c6:c1 c7:12e c8:10c c9:c9 ca:118 cb:cb cc:116 cd-ce:cd
cf:12a d0:110 d1:145 d2:14c d3:136 d4-d8:d4 d9:172 da-dc:da dd:168 de:16a df:df e0:101 e1-e6:e1
e7:12f e8:10d e9:e9 ea:119 eb:eb ec:117 ed-ee:ed ef:12b f0:111 f1:146 f2:14d f3:137 f4-f8:f4
f9:173 fa-fc:fa fd:169 fe:16b ff:2d9"

def iso88595 : List Span := Span.ofText "
80-a0:80 a1-ac:401 ad:ad ae-ef:40e f0:2116 f1-fc:451 fd:a7 fe-ff:45e"

def iso88596 : List Span := Span.ofText "
80-a0:80 a4:a4 ac:60c ad:ad bb:61b bf:61f c1-da:621 e0-f2:640"

def iso88597 : List Span := Span.ofText "
80-a0:80 a1-a2:2018 a3:a3 a4:20ac a5:20af a6-a9:a6 aa:37a ab-ad:ab af:2015 b0-b3:b0 b4-b6:384
b7:b7 b8-ba:388 bb:bb bc:38c bd:bd be-d1:38e d3-fe:3a3"

def iso88598 : List Span := Span.ofText "
80-a0:80 a2-a9:a2 aa:d7 ab-b9:ab ba:f7 bb-be:bb df:2017 e0-fa:5d0 fd-fe:200e"

def iso885910 : List Span := Span.ofText "
80-a0:80 a1:104 a2:112 a3:122 a4:12a a5:128 a6:136 a7:a7 a8:13b a9:110 aa:160 ab:166 ac:17d
ad:ad ae:16a af:14a b0:b0 b1:105 b2:113 b3:123 b4:12b b5:129 b6:137 b7:b7 b8:13c b9:111 ba:161
bb:167 bc:17e bd:2015 be:16b bf:14b c0:100 c1-c6:c1 c7:12e c8:10c c9:c9 ca:118 cb:cb cc:116
cd-d0:cd d1:145 d2:14c d3-d6:d3 d7:168 d8:d8 d9:172 da-df:da e0:101 e1-e6:e1 e7:12f e8:10d e9:e9
ea:119 eb:eb ec:117 ed-f0:ed f1:146 f2:14d f3-f6:f3 f7:169 f8:f8 f9:173 fa-fe:fa ff:138"

def iso885913 : List Span := Span.ofText "
80-a0:80 a1:201d a2-a4:a2 a5:201e a6-a7:a6 a8:d8 a9:a9 aa:156 ab-ae:ab af:c6 b0-b3:b0 b4:201c
b5-b7:b5 b8:f8 b9:b9 ba:157 bb-be:bb bf:e6 c0:104 c1:12e c2:100 c3:106 c4-c5:c4 c6:118 c7:112
c8:10c c9:c9 ca:179 cb:116 cc:122 cd:136 ce:12a cf:13b d0:160 d1:143 d2:145 d3:d3 d4:14c
d5-d7:d5 d8:172 d9:141 da:15a db:16a dc:dc dd:17b de:17d df:df e0:105 e1:12f e2:101 e3:107
e4-e5:e4 e6:119 e7:113 e8:10d e9:e9 ea:17a eb:117 ec:123 ed:137 ee:12b ef:13c f0:161 f1:144
f2:146 f3:f3 f4:14d f5-f7:f5 f8:173 f9:142 fa:15b fb:16b fc:fc fd:17c fe:17e ff:2019"

def iso885914 : List Span := Span.ofText "
80-a0:80 a1-a2:1e02 a3:a3 a4-a5:10a a6:1e0a a7:a7 a8:1e80 a9:a9 aa:1e82 ab:1e0b ac:1ef2 ad-ae:ad
af:178 b0-b1:1e1e b2-b3:120 b4-b5:1e40 b6:b6 b7:1e56 b8:1e81 b9:1e57 ba:1e83 bb:1e60 bc:1ef3
bd-be:1e84 bf:1e61 c0-cf:c0 d0:174 d1-d6:d1 d7:1e6a d8-dd:d8 de:176 df-ef:df f0:175 f1-f6:f1
f7:1e6b f8-fd:f8 fe:177 ff:ff"

def iso885915 : List Span := Span.ofText "
80-a3:80 a4:20ac a5:a5 a6:160 a7:a7 a8:161 a9-b3:a9 b4:17d b5-b7:b5 b8:17e b9-bb:b9 bc-bd:152
be:178 bf-ff:bf"

def iso885916 : List Span := Span.ofText "
80-a0:80 a1-a2:104 a3:141 a4:20ac a5:201e a6:160 a7:a7 a8:161 a9:a9 aa:218 ab:ab ac:179 ad:ad
ae-af:17a b0-b1:b0 b2:10c b3:142 b4:17d b5:201d b6-b7:b6 b8:17e b9:10d ba:219 bb:bb bc-bd:152
be:178 bf:17c c0-c2:c0 c3:102 c4:c4 c5:106 c6-cf:c6 d0:110 d1:143 d2-d4:d2 d5:150 d6:d6 d7:15a
d8:170 d9-dc:d9 dd:118 de:21a df-e2:df e3:103 e4:e4 e5:107 e6-ef:e6 f0:111 f1:144 f2-f4:f2
f5:151 f6:f6 f7:15b f8:171 f9-fc:f9 fd:119 fe:21b ff:ff"

def koi8R : List Span := Span.ofText "
80:2500 81:2502 82:250c 83:2510 84:2514 85:2518 86:251c 87:2524 88:252c 89:2534 8a:253c 8b:2580
8c:2584 8d:2588 8e:258c 8f-92:2590 93:2320 94:25a0 95-96:2219 97:2248 98-99:2264 9a:a0 9b:2321
9c:b0 9d:b2 9e:b7 9f:f7 a0-a2:2550 a3:451 a4-b2:2553 b3:401 b4-be:2562 bf:a9 c0:44e c1-c2:430
c3:446 c4-c5:434 c6:444 c7:433 c8:445 c9-d0:438 d1:44f d2-d5:440 d6:436 d7:432 d8:44c d9:44b
da:437 db:448 dc:44d dd:449 de:447 df:44a e0:42e e1-e2:410 e3:426 e4-e5:414 e6:424 e7:413 e8:425
e9-f0:418 f1:42f f2-f5:420 f6:416 f7:412 f8:42c f9:42b fa:417 fb:428 fc:42d fd:429 fe:427 ff:42a"

def koi8U : List Span := Span.ofText "
80:2500 81:2502 82:250c 83:2510 84:2514 85:2518 86:251c 87:2524 88:252c 89:2534 8a:253c 8b:2580
8c:2584 8d:2588 8e:258c 8f-92:2590 93:2320 94:25a0 95-96:2219 97:2248 98-99:2264 9a:a0 9b:2321
9c:b0 9d:b2 9e:b7 9f:f7 a0-a2:2550 a3:451 a4:454 a5:2554 a6-a7:456 a8-ac:2557 ad:491 ae:45e
af-b2:255e b3:401 b4:404 b5:2563 b6-b7:406 b8-bc:2566 bd:490 be:40e bf:a9 c0:44e c1-c2:430
c3:446 c4-c5:434 c6:444 c7:433 c8:445 c9-d0:438 d1:44f d2-d5:440 d6:436 d7:432 d8:44c d9:44b
da:437 db:448 dc:44d dd:449 de:447 df:44a e0:42e e1-e2:410 e3:426 e4-e5:414 e6:424 e7:413 e8:425
e9-f0:418 f1:42f f2-f5:420 f6:416 f7:412 f8:42c f9:42b fa:417 fb:428 fc:42d fd:429 fe:427 ff:42a"

def macintosh : List Span := Span.ofText "
80-81:c4 82:c7 83:c9 84:d1 85:d6 86:dc 87:e1 88:e0 89:e2 8a:e4 8b:e3 8c:e5 8d:e7 8e:e9 8f:e8
90-91:ea 92:ed 93:ec 94-95:ee 96:f1 97:f3 98:f2 99:f4 9a:f6 9b:f5 9c:fa 9d:f9 9e-9f:fb a0:2020
a1:b0 a2-a3:a2 a4:a7 a5:2022 a6:b6 a7:df a8:ae a9:a9 aa:2122 ab:b4 ac:a8 ad:2260 ae:c6 af:d8
b0:221e b1:b1 b2-b3:2264 b4:a5 b5:b5 b6:2202 b7:2211 b8:220f b9:3c0 ba:222b bb:aa bc:ba bd:3a9
be:e6 bf:f8 c0:bf c1:a1 c2:ac c3:221a c4:192 c5:2248 c6:2206 c7:ab c8:bb c9:2026 ca:a0 cb:c0
cc:c3 cd:d5 ce-cf:152 d0-d1:2013 d2-d3:201c d4-d5:2018 d6:f7 d7:25ca d8:ff d9:178 da:2044
db:20ac dc-dd:2039 de-df:fb01 e0:2021 e1:b7 e2:201a e3:201e e4:2030 e5:c2 e6:ca e7:c1 e8:cb
e9:c8 ea-ec:cd ed:cc ee-ef:d3 f0:f8ff f1:d2 f2-f3:da f4:d9 f5:131 f6:2c6 f7:2dc f8:af f9-fb:2d8
fc:b8 fd:2dd fe:2db ff:2c7"

def windows874 : List Span := Span.ofText "
80:20ac 81-84:81 85:2026 86-90:86 91-92:2018 93-94:201c 95:2022 96-97:2013 98-a0:98 a1-da:e01
df-fb:e3f"

def windows1250 : List Span := Span.ofText "
80:20ac 81:81 82:201a 83:83 84:201e 85:2026 86-87:2020 88:88 89:2030 8a:160 8b:2039 8c:15a
8d:164 8e:17d 8f:179 90:90 91-92:2018 93-94:201c 95:2022 96-97:2013 98:98 99:2122 9a:161 9b:203a
9c:15b 9d:165 9e:17e 9f:17a a0:a0 a1:2c7 a2:2d8 a3:141 a4:a4 a5:104 a6-a9:a6 aa:15e ab-ae:ab
af:17b b0-b1:b0 b2:2db b3:142 b4-b8:b4 b9:105 ba:15f bb:bb bc:13d bd:2dd be:13e bf:17c c0:154
c1-c2:c1 c3:102 c4:c4 c5:139 c6:106 c7:c7 c8:10c c9:c9 ca:118 cb:cb cc:11a cd-ce:cd cf:10e
d0:110 d1:143 d2:147 d3-d4:d3 d5:150 d6-d7:d6 d8:158 d9:16e da:da db:170 dc-dd:dc de:162 df:df
e0:155 e1-e2:e1 e3:103 e4:e4 e5:13a e6:107 e7:e7 e8:10d e9:e9 ea:119 eb:eb ec:11b ed-ee:ed
ef:10f f0:111 f1:144 f2:148 f3-f4:f3 f5:151 f6-f7:f6 f8:159 f9:16f fa:fa fb:171 fc-fd:fc fe:163
ff:2d9"

def windows1251 : List Span := Span.ofText "
80-81:402 82:201a 83:453 84:201e 85:2026 86-87:2020 88:20ac 89:2030 8a:409 8b:2039 8c:40a 8d:40c
8e:40b 8f:40f 90:452 91-92:2018 93-94:201c 95:2022 96-97:2013 98:98 99:2122 9a:459 9b:203a
9c:45a 9d:45c 9e:45b 9f:45f a0:a0 a1:40e a2:45e a3:408 a4:a4 a5:490 a6-a7:a6 a8:401 a9:a9 aa:404
ab-ae:ab af:407 b0-b1:b0 b2:406 b3:456 b4:491 b5-b7:b5 b8:451 b9:2116 ba:454 bb:bb bc:458 bd:405
be:455 bf:457 c0-ff:410"

def windows1252 : List Span := Span.ofText "
80:20ac 81:81 82:201a 83:192 84:201e 85:2026 86-87:2020 88:2c6 89:2030 8a:160 8b:2039 8c:152
8d:8d 8e:17d 8f-90:8f 91-92:2018 93-94:201c 95:2022 96-97:2013 98:2dc 99:2122 9a:161 9b:203a
9c:153 9d:9d 9e:17e 9f:178 a0-ff:a0"

def windows1253 : List Span := Span.ofText "
80:20ac 81:81 82:201a 83:192 84:201e 85:2026 86-87:2020 88:88 89:2030 8a:8a 8b:2039 8c-90:8c
91-92:2018 93-94:201c 95:2022 96-97:2013 98:98 99:2122 9a:9a 9b:203a 9c-a0:9c a1-a2:385 a3-a9:a3
ab-ae:ab af:2015 b0-b3:b0 b4:384 b5-b7:b5 b8-ba:388 bb:bb bc:38c bd:bd be-d1:38e d3-fe:3a3"

def windows1254 : List Span := Span.ofText "
80:20ac 81:81 82:201a 83:192 84:201e 85:2026 86-87:2020 88:2c6 89:2030 8a:160 8b:2039 8c:152
8d-90:8d 91-92:2018 93-94:201c 95:2022 96-97:2013 98:2dc 99:2122 9a:161 9b:203a 9c:153 9d-9e:9d
9f:178 a0-cf:a0 d0:11e d1-dc:d1 dd:130 de:15e df-ef:df f0:11f f1-fc:f1 fd:131 fe:15f ff:ff"

def windows1255 : List Span := Span.ofText "
80:20ac 81:81 82:201a 83:192 84:201e 85:2026 86-87:2020 88:2c6 89:2030 8a:8a 8b:2039 8c-90:8c
91-92:2018 93-94:201c 95:2022 96-97:2013 98:2dc 99:2122 9a:9a 9b:203a 9c-a3:9c a4:20aa a5-a9:a5
aa:d7 ab-b9:ab ba:f7 bb-bf:bb c0-d3:5b0 d4-d8:5f0 e0-fa:5d0 fd-fe:200e"

def windows1256 : List Span := Span.ofText "
80:20ac 81:67e 82:201a 83:192 84:201e 85:2026 86-87:2020 88:2c6 89:2030 8a:679 8b:2039 8c:152
8d:686 8e:698 8f:688 90:6af 91-92:2018 93-94:201c 95:2022 96-97:2013 98:6a9 99:2122 9a:691
9b:203a 9c:153 9d-9e:200c 9f:6ba a0:a0 a1:60c a2-a9:a2 aa:6be ab-b9:ab ba:61b bb-be:bb bf:61f
c0:6c1 c1-d6:621 d7:d7 d8-db:637 dc-df:640 e0:e0 e1:644 e2:e2 e3-e6:645 e7-eb:e7 ec-ed:649
ee-ef:ee f0-f3:64b f4:f4 f5-f6:64f f7:f7 f8:651 f9:f9 fa:652 fb-fc:fb fd-fe:200e ff:6d2"

def windows1257 : List Span := Span.ofText "
80:20ac 81:81 82:201a 83:83 84:201e 85:2026 86-87:2020 88:88 89:2030 8a:8a 8b:2039 8c:8c 8d:a8
8e:2c7 8f:b8 90:90 91-92:2018 93-94:201c 95:2022 96-97:2013 98:98 99:2122 9a:9a 9b:203a 9c:9c
9d:af 9e:2db 9f-a0:9f a2-a4:a2 a6-a7:a6 a8:d8 a9:a9 aa:156 ab-ae:ab af:c6 b0-b7:b0 b8:f8 b9:b9
ba:157 bb-be:bb bf:e6 c0:104 c1:12e c2:100 c3:106 c4-c5:c4 c6:118 c7:112 c8:10c c9:c9 ca:179
cb:116 cc:122 cd:136 ce:12a cf:13b d0:160 d1:143 d2:145 d3:d3 d4:14c d5-d7:d5 d8:172 d9:141
da:15a db:16a dc:dc dd:17b de:17d df:df e0:105 e1:12f e2:101 e3:107 e4-e5:e4 e6:119 e7:113
e8:10d e9:e9 ea:17a eb:117 ec:123 ed:137 ee:12b ef:13c f0:161 f1:144 f2:146 f3:f3 f4:14d
f5-f7:f5 f8:173 f9:142 fa:15b fb:16b fc:fc fd:17c fe:17e ff:2d9"

def windows1258 : List Span := Span.ofText "
80:20ac 81:81 82:201a 83:192 84:201e 85:2026 86-87:2020 88:2c6 89:2030 8a:8a 8b:2039 8c:152
8d-90:8d 91-92:2018 93-94:201c 95:2022 96-97:2013 98:2dc 99:2122 9a:9a 9b:203a 9c:153 9d-9e:9d
9f:178 a0-c2:a0 c3:102 c4-cb:c4 cc:300 cd-cf:cd d0:110 d1:d1 d2:309 d3-d4:d3 d5:1a0 d6-dc:d6
dd:1af de:303 df-e2:df e3:103 e4-eb:e4 ec:301 ed-ef:ed f0:111 f1:f1 f2:323 f3-f4:f3 f5:1a1
f6-fc:f6 fd:1b0 fe:20ab ff:ff"

def xMacCyrillic : List Span := Span.ofText "
80-9f:410 a0:2020 a1:b0 a2:490 a3:a3 a4:a7 a5:2022 a6:b6 a7:406 a8:ae a9:a9 aa:2122 ab:402
ac:452 ad:2260 ae:403 af:453 b0:221e b1:b1 b2-b3:2264 b4:456 b5:b5 b6:491 b7:408 b8:404 b9:454
ba:407 bb:457 bc:409 bd:459 be:40a bf:45a c0:458 c1:405 c2:ac c3:221a c4:192 c5:2248 c6:2206
c7:ab c8:bb c9:2026 ca:a0 cb:40b cc:45b cd:40c ce:45c cf:455 d0-d1:2013 d2-d3:201c d4-d5:2018
d6:f7 d7:201e d8:40e d9:45e da:40f db:45f dc:2116 dd:401 de:451 df:44f e0-fe:430 ff:20ac"

def char (table : List Span) (b : UInt8) : Char :=
  if b < 0x80 then Char.ofNat b.toNat
  else
    match table.find? (·.holds b.toNat) with
    | none => '\ufffd'
    | some s => (s.image b.toNat).headD '\ufffd'

def decode (table : List Span) (bs : List UInt8) : List Char := bs.map (char table)

end MapClient.Text.SingleByte

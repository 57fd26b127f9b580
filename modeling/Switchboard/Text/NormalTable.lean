/-
# Normalization data

What putting a text into its composed form reads (Unicode 17): the classes of marks, and the pairs
of characters that are one character together.  Only characters of valid host names are listed,
and ranges may cover others.
-/
import Switchboard.Text.Ranges

namespace Switchboard.Text

/-- The classes of marks, which order the marks on one letter, with their members. -/
def markClasses : List (Nat × Ranges) := [
  (1, .ofTable ["334-338 1cd4 1ce2-1ce8 20d2-20d3 20d8-20da 20e5-20e6 20ea-20eb 10a39",
    "16af0-16af4 1bc9e 1d167-1d169"]),
  (6, .ofTable ["16ff0-16ff1"]),
  (7, .ofTable ["93c 9bc a3c abc b3c c3c cbc 1037 1b34 1be6 1c37 a9b3 110ba 11173 111ca 11236",
    "112e9 1133b-1133c 11446 114c3 115c0 116b7 1183a 11943 11d42 1e94a"]),
  (8, .ofTable ["3099-309a"]),
  (9, .ofTable ["94d 9cd a4d acd b4d bcd c4d ccd d3b-d3c d4d dca e3a eba f84 1039-103a",
    "1714-1715 1734 17d2 1a60 1b44 1baa-1bab 1bf2-1bf3 2d7f a806 a82c a8c4 a953 a9c0 aaf6 abed",
    "10a3f 11046 11070 1107f 110b9 11133-11134 111c0 11235 112ea 1134d 113ce-113d0 11442 114c2",
    "115bf 1163f 116b6 1172b 11839 1193d-1193e 119e0 11a34 11a47 11a99 11c3f 11d44-11d45 11d97",
    "11f41-11f42 1612f"]),
  (10, .ofTable ["5b0"]),
  (11, .ofTable ["5b1"]),
  (12, .ofTable ["5b2"]),
  (13, .ofTable ["5b3"]),
  (14, .ofTable ["5b4"]),
  (15, .ofTable ["5b5"]),
  (16, .ofTable ["5b6"]),
  (17, .ofTable ["5b7"]),
  (18, .ofTable ["5b8 5c7"]),
  (19, .ofTable ["5b9-5ba"]),
  (20, .ofTable ["5bb"]),
  (21, .ofTable ["5bc"]),
  (22, .ofTable ["5bd"]),
  (23, .ofTable ["5bf"]),
  (24, .ofTable ["5c1"]),
  (25, .ofTable ["5c2"]),
  (26, .ofTable ["fb1e"]),
  (27, .ofTable ["64b 8f0"]),
  (28, .ofTable ["64c 8f1"]),
  (29, .ofTable ["64d 8f2"]),
  (30, .ofTable ["618 64e"]),
  (31, .ofTable ["619 64f"]),
  (32, .ofTable ["61a 650"]),
  (33, .ofTable ["651"]),
  (34, .ofTable ["652"]),
  (35, .ofTable ["670"]),
  (36, .ofTable ["711"]),
  (84, .ofTable ["c55"]),
  (91, .ofTable ["c56"]),
  (103, .ofTable ["e38-e39"]),
  (107, .ofTable ["e48-e4b"]),
  (118, .ofTable ["eb8-eb9"]),
  (122, .ofTable ["ec8-ecb"]),
  (129, .ofTable ["f71"]),
  (130, .ofTable ["f72 f7a-f7d f80"]),
  (132, .ofTable ["f74"]),
  (202, .ofTable ["321-322 327-328 1dd0"]),
  (214, .ofTable ["1dce"]),
  (216, .ofTable ["31b f39 1d165-1d166 1d16e-1d172"]),
  (218, .ofTable ["1dfa 302a"]),
  (220, .ofTable ["316-319 31c-320 323-326 329-333 339-33c 347-349 34d-34e 353-356 359-35a 591",
    "596 59b 5a2-5a7 5aa 5c5 655-656 65c 65f 6e3 6ea 6ed 731 734 737-739 73b-73c 73e 742 744 746",
    "748 7f2 7fd 859-85b 899-89b 8cf-8d3 8e3 8e6 8e9 8ed-8ef 8f6 8f9-8fa 952 f18-f19 f35 f37 fc6",
    "108d 193b 1a18 1a7f 1ab5-1aba 1abd 1abf-1ac0 1ac3-1ac4 1aca 1add 1ae6 1b6c 1cd5-1cd9",
    "1cdc-1cdf 1ced 1dc2 1dca 1dcf 1df9 1dfd 1dff 20e8 20ec-20ef a92b-a92d aab4 fe27-fe2d 101fd",
    "102e0 10a0d 10a3a 10ae6 10efa-10efb 10efd-10eff 10f46-10f47 10f4b 10f4d-10f50 10f83 10f85",
    "1d17b-1d182 1d18a-1d18b 1e4ee 1e5ef 1e8d0-1e8d6"]),
  (222, .ofTable ["59a 5ad 1939 302d"]),
  (224, .ofTable ["302e-302f"]),
  (226, .ofTable ["1d16d"]),
  (228, .ofTable ["5ae 18a9 1df7-1df8 302b"]),
  (230, .ofTable ["300-314 33d-346 34a-34c 350-352 357 35b 363-36f 483-487 592-595 597-599",
    "59c-5a1 5a8-5a9 5ab-5ac 5af 5c4 610-617 653-654 657-65b 65d-65e 6d6-6dc 6df-6e2 6e4 6e7-6e8",
    "6eb-6ec 730 732-733 735-736 73a 73d 73f-741 743 745 747 749-74a 7eb-7f1 7f3 816-819 81b-823",
    "825-827 829-82d 897-898 89c-89f 8ca-8ce 8d4-8e1 8e4-8e5 8e7-8e8 8ea-8ec 8f3-8f5 8f7-8f8",
    "8fb-8ff 951 953-954 9fe f82-f83 f86-f87 135d-135f 17dd 193a 1a17 1a75-1a7c 1ab0-1ab4",
    "1abb-1abc 1ac1-1ac2 1ac5-1ac9 1acb-1adc 1ae0-1ae5 1ae7-1aea 1b6b 1b6d-1b73 1cd0-1cd2",
    "1cda-1cdb 1ce0 1cf4 1cf8-1cf9 1dc0-1dc1 1dc3-1dc9 1dcb-1dcc 1dd1-1df5 1dfb 1dfe 20d0-20d1",
    "20d4-20d7 20db-20dc 20e1 20e7 20e9 20f0 2cef-2cf1 2de0-2dff a66f a674-a67d a69e-a69f",
    "a6f0-a6f1 a8e0-a8f1 aab0 aab2-aab3 aab7-aab8 aabe-aabf aac1 fe20-fe26 fe2e-fe2f 10376-1037a",
    "10a0f 10a38 10ae5 10d24-10d27 10d69-10d6d 10eab-10eac 10f48-10f4a 10f4c 10f82 10f84",
    "11100-11102 11366-11374 1145e 16b30-16b36 1d185-1d189 1d1aa-1d1ad 1d242-1d244 1e000-1e08f",
    "1e130-1e136 1e2ae 1e2ec-1e2ef 1e4ef 1e5ee 1e6e3 1e6e6 1e6ee-1e6ef 1e6f5 1e944-1e949"]),
  (232, .ofTable ["315 31a 358 1df6 302c 1e4ec-1e4ed"]),
  (233, .ofTable ["35c 35f 362 1dfc"]),
  (234, .ofTable ["35d-35e 360-361 1aeb 1dcd"])]

/-- The first part and the composite that a word like `61=e0` names. -/
def compositeOf (w : List Char) : Nat × Nat :=
  match cut '=' w with
  | (first, some whole) => (ofHex first, ofHex whole)
  | (first, none) => (ofHex first, 0)

/-- The composites of a table. -/
def composites (table : List String) : List (Nat × Nat) := (tableWords table).map compositeOf

/-- The pairs that are one character together: the second part, then first parts with composites. -/
def compositions : List (Nat × List (Nat × Nat)) := [
  (0x300, composites ["61=e0 65=e8 69=ec 6e=1f9 6f=f2 75=f9 77=1e81 79=1ef3 e2=1ea7 ea=1ec1",
    "f4=1ed3 fc=1dc 103=1eb1 113=1e15 14d=1e51 1a1=1edd 1b0=1eeb 3b1=1f70 3b5=1f72 3b7=1f74",
    "3b9=1f76 3bf=1f78 3c5=1f7a 3c9=1f7c 3ca=1fd2 3cb=1fe2 435=450 438=45d 1f00=1f02 1f01=1f03",
    "1f10=1f12 1f11=1f13 1f20=1f22 1f21=1f23 1f30=1f32 1f31=1f33 1f40=1f42 1f41=1f43 1f50=1f52",
    "1f51=1f53 1f60=1f62 1f61=1f63"]),
  (0x301, composites ["61=e1 63=107 65=e9 67=1f5 69=ed 6b=1e31 6c=13a 6d=1e3f 6e=144 6f=f3",
    "70=1e55 72=155 73=15b 75=fa 77=1e83 79=fd 7a=17a e2=1ea5 e5=1fb e6=1fd e7=1e09 ea=1ebf",
    "ef=1e2f f4=1ed1 f5=1e4d f8=1ff fc=1d8 103=1eaf 113=1e17 14d=1e53 169=1e79 1a1=1edb 1b0=1ee9",
    "3b1=3ac 3b5=3ad 3b7=3ae 3b9=3af 3bf=3cc 3c5=3cd 3c9=3ce 3ca=390 3cb=3b0 433=453 43a=45c",
    "1f00=1f04 1f01=1f05 1f10=1f14 1f11=1f15 1f20=1f24 1f21=1f25 1f30=1f34 1f31=1f35 1f40=1f44",
    "1f41=1f45 1f50=1f54 1f51=1f55 1f60=1f64 1f61=1f65"]),
  (0x302, composites ["61=e2 63=109 65=ea 67=11d 68=125 69=ee 6a=135 6f=f4 73=15d 75=fb 77=175",
    "79=177 7a=1e91 1ea1=1ead 1eb9=1ec7 1ecd=1ed9"]),
  (0x303, composites ["61=e3 65=1ebd 69=129 6e=f1 6f=f5 75=169 76=1e7d 79=1ef9 e2=1eab ea=1ec5",
    "f4=1ed7 103=1eb5 1a1=1ee1 1b0=1eef"]),
  (0x304, composites ["61=101 65=113 67=1e21 69=12b 6f=14d 75=16b 79=233 e4=1df e6=1e3 f5=22d",
    "f6=22b fc=1d6 1eb=1ed 227=1e1 22f=231 3b1=1fb1 3b9=1fd1 3c5=1fe1 438=4e3 443=4ef 1e37=1e39",
    "1e5b=1e5d"]),
  (0x306, composites ["61=103 65=115 67=11f 69=12d 6f=14f 75=16d 229=1e1d 3b1=1fb0 3b9=1fd0",
    "3c5=1fe0 430=4d1 435=4d7 436=4c2 438=439 443=45e 1ea1=1eb7"]),
  (0x307, composites ["61=227 62=1e03 63=10b 64=1e0b 65=117 66=1e1f 67=121 68=1e23 6d=1e41",
    "6e=1e45 6f=22f 70=1e57 72=1e59 73=1e61 74=1e6b 77=1e87 78=1e8b 79=1e8f 7a=17c 15b=1e65",
    "161=1e67 1e63=1e69 105d2=105c9 105da=105e4"]),
  (0x308, composites ["61=e4 65=eb 68=1e27 69=ef 6f=f6 74=1e97 75=fc 77=1e85 78=1e8d 79=ff",
    "f5=1e4f 16b=1e7b 3b9=3ca 3c5=3cb 430=4d3 435=451 436=4dd 437=4df 438=4e5 43e=4e7 443=4f1",
    "447=4f5 44b=4f9 44d=4ed 456=457 4d9=4db 4e9=4eb"]),
  (0x309, composites ["61=1ea3 65=1ebb 69=1ec9 6f=1ecf 75=1ee7 79=1ef7 e2=1ea9 ea=1ec3 f4=1ed5",
    "103=1eb3 1a1=1edf 1b0=1eed"]),
  (0x30a, composites ["61=e5 75=16f 77=1e98 79=1e99"]),
  (0x30b, composites ["6f=151 75=171 443=4f3"]),
  (0x30c, composites ["61=1ce 63=10d 64=10f 65=11b 67=1e7 68=21f 69=1d0 6a=1f0 6b=1e9 6c=13e",
    "6e=148 6f=1d2 72=159 73=161 74=165 75=1d4 7a=17e fc=1da 292=1ef"]),
  (0x30f, composites ["61=201 65=205 69=209 6f=20d 72=211 75=215 475=477"]),
  (0x311, composites ["61=203 65=207 69=20b 6f=20f 72=213 75=217"]),
  (0x313, composites ["3b1=1f00 3b5=1f10 3b7=1f20 3b9=1f30 3bf=1f40 3c1=1fe4 3c5=1f50 3c9=1f60"]),
  (0x314, composites ["3b1=1f01 3b5=1f11 3b7=1f21 3b9=1f31 3bf=1f41 3c1=1fe5 3c5=1f51 3c9=1f61"]),
  (0x31b, composites ["6f=1a1 75=1b0"]),
  (0x323, composites ["61=1ea1 62=1e05 64=1e0d 65=1eb9 68=1e25 69=1ecb 6b=1e33 6c=1e37 6d=1e43",
    "6e=1e47 6f=1ecd 72=1e5b 73=1e63 74=1e6d 75=1ee5 76=1e7f 77=1e89 79=1ef5 7a=1e93 1a1=1ee3",
    "1b0=1ef1"]),
  (0x324, composites ["75=1e73"]),
  (0x325, composites ["61=1e01"]),
  (0x326, composites ["73=219 74=21b"]),
  (0x327, composites ["63=e7 64=1e11 65=229 67=123 68=1e29 6b=137 6c=13c 6e=146 72=157 73=15f",
    "74=163"]),
  (0x328, composites ["61=105 65=119 69=12f 6f=1eb 75=173"]),
  (0x32d, composites ["64=1e13 65=1e19 6c=1e3d 6e=1e4b 74=1e71 75=1e77"]),
  (0x32e, composites ["68=1e2b"]),
  (0x330, composites ["65=1e1b 69=1e2d 75=1e75"]),
  (0x331, composites ["62=1e07 64=1e0f 68=1e96 6b=1e35 6c=1e3b 6e=1e49 72=1e5f 74=1e6f 7a=1e95"]),
  (0x338, composites ["3c=226e 3d=2260 3e=226f 2190=219a 2192=219b 2194=21ae 21d0=21cd",
    "21d2=21cf 21d4=21ce 2203=2204 2208=2209 220b=220c 2223=2224 2225=2226 223c=2241 2243=2244",
    "2245=2247 2248=2249 224d=226d 2261=2262 2264=2270 2265=2271 2272=2274 2273=2275 2276=2278",
    "2277=2279 227a=2280 227b=2281 227c=22e0 227d=22e1 2282=2284 2283=2285 2286=2288 2287=2289",
    "2291=22e2 2292=22e3 22a2=22ac 22a8=22ad 22a9=22ae 22ab=22af 22b2=22ea 22b3=22eb 22b4=22ec",
    "22b5=22ed"]),
  (0x342, composites ["3b1=1fb6 3b7=1fc6 3b9=1fd6 3c5=1fe6 3c9=1ff6 3ca=1fd7 3cb=1fe7 1f00=1f06",
    "1f01=1f07 1f20=1f26 1f21=1f27 1f30=1f36 1f31=1f37 1f50=1f56 1f51=1f57 1f60=1f66 1f61=1f67"]),
  (0x653, composites ["627=622"]),
  (0x654, composites ["627=623 648=624 64a=626 6c1=6c2 6d2=6d3 6d5=6c0"]),
  (0x655, composites ["627=625"]),
  (0x93c, composites ["928=929 930=931 933=934"]),
  (0x9be, composites ["9c7=9cb"]),
  (0x9d7, composites ["9c7=9cc"]),
  (0xb3e, composites ["b47=b4b"]),
  (0xb56, composites ["b47=b48"]),
  (0xb57, composites ["b47=b4c"]),
  (0xbbe, composites ["bc6=bca bc7=bcb"]),
  (0xbd7, composites ["b92=b94 bc6=bcc"]),
  (0xc56, composites ["c46=c48"]),
  (0xcc2, composites ["cc6=cca"]),
  (0xcd5, composites ["cbf=cc0 cc6=cc7 cca=ccb"]),
  (0xcd6, composites ["cc6=cc8"]),
  (0xd3e, composites ["d46=d4a d47=d4b"]),
  (0xd57, composites ["d46=d4c"]),
  (0xdca, composites ["dd9=dda ddc=ddd"]),
  (0xdcf, composites ["dd9=ddc"]),
  (0xddf, composites ["dd9=dde"]),
  (0x102e, composites ["1025=1026"]),
  (0x1b35, composites ["1b05=1b06 1b07=1b08 1b09=1b0a 1b0b=1b0c 1b0d=1b0e 1b11=1b12 1b3a=1b3b",
    "1b3c=1b3d 1b3e=1b40 1b3f=1b41 1b42=1b43"]),
  (0x3099, composites ["3046=3094 304b=304c 304d=304e 304f=3050 3051=3052 3053=3054 3055=3056",
    "3057=3058 3059=305a 305b=305c 305d=305e 305f=3060 3061=3062 3064=3065 3066=3067 3068=3069",
    "306f=3070 3072=3073 3075=3076 3078=3079 307b=307c 309d=309e 30a6=30f4 30ab=30ac 30ad=30ae",
    "30af=30b0 30b1=30b2 30b3=30b4 30b5=30b6 30b7=30b8 30b9=30ba 30bb=30bc 30bd=30be 30bf=30c0",
    "30c1=30c2 30c4=30c5 30c6=30c7 30c8=30c9 30cf=30d0 30d2=30d3 30d5=30d6 30d8=30d9 30db=30dc",
    "30ef=30f7 30f0=30f8 30f1=30f9 30f2=30fa 30fd=30fe"]),
  (0x309a, composites ["306f=3071 3072=3074 3075=3077 3078=307a 307b=307d 30cf=30d1 30d2=30d4",
    "30d5=30d7 30d8=30da 30db=30dd"]),
  (0x110ba, composites ["11099=1109a 1109b=1109c 110a5=110ab"]),
  (0x11127, composites ["11131=1112e 11132=1112f"]),
  (0x1133e, composites ["11347=1134b"]),
  (0x11357, composites ["11347=1134c"]),
  (0x113b8, composites ["113c2=113c7"]),
  (0x113bb, composites ["11384=11385"]),
  (0x113c2, composites ["1138b=1138e 113c2=113c5"]),
  (0x113c9, composites ["11382=11383 11390=11391 113c2=113c8"]),
  (0x114b0, composites ["114b9=114bc"]),
  (0x114ba, composites ["114b9=114bb"]),
  (0x114bd, composites ["114b9=114be"]),
  (0x115af, composites ["115b8=115ba 115b9=115bb"]),
  (0x11930, composites ["11935=11938"]),
  (0x1611e, composites ["1611e=16121"]),
  (0x1611f, composites ["1611e=16123 16121=16126 16122=16127 16129=16124"]),
  (0x16120, composites ["1611e=16125 16121=16128"]),
  (0x16129, composites ["1611e=16122"]),
  (0x16d67, composites ["16d63=16d69 16d67=16d68 16d69=16d6a"])]

end Switchboard.Text

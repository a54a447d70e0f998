/-!
# The characters that domains fold

The tables of the mapping of domain names, written as rows of hexadecimal numbers or as switch
points. What a table leaves out is kept as it stands, up to its canonical composition.
-/

namespace LintRelay.Domain

/-- Runs of characters that each stand for one other: the first character, how many there are, the
step between them, what the first one stands for, and the step between the targets. -/
def runRows : List String := [
  "41 1A 1 61 1;A0 1 1 20 1;AA 1 1 61 1;B2 2 1 32 1;B5 1 1 3BC 1;B9 1 1 31 1;BA 1 1 6F 1",
  "C0 17 1 E0 1;D8 7 1 F8 1;100 18 2 101 2;134 2 2 135 2;139 3 2 13A 2;141 4 2 142 2",
  "14A 17 2 14B 2;178 1 1 FF 1;179 3 2 17A 2;17F 1 1 73 1;181 1 1 253 1;182 2 2 183 2",
  "186 1 1 254 1;187 1 1 188 1;189 2 1 256 1;18B 1 1 18C 1;18E 1 1 1DD 1;18F 2 1 259 2",
  "191 1 1 192 1;193 1 1 260 1;194 1 1 263 1;196 1 1 269 1;197 1 1 268 1;198 1 1 199 1",
  "19C 1 1 26F 1;19D 1 1 272 1;19F 1 1 275 1;1A0 3 2 1A1 2;1A6 1 1 280 1;1A7 1 1 1A8 1",
  "1A9 1 1 283 1;1AC 1 1 1AD 1;1AE 1 1 288 1;1AF 1 1 1B0 1;1B1 2 1 28A 1;1B3 2 2 1B4 2",
  "1B7 1 1 292 1;1B8 1 1 1B9 1;1BC 1 1 1BD 1;1CD 8 2 1CE 2;1DE 9 2 1DF 2;1F4 1 1 1F5 1",
  "1F6 1 1 195 1;1F7 1 1 1BF 1;1F8 14 2 1F9 2;220 1 1 19E 1;222 9 2 223 2;23A 1 1 2C65 1",
  "23B 1 1 23C 1;23D 1 1 19A 1;23E 1 1 2C66 1;241 1 1 242 1;243 1 1 180 1;244 1 1 289 1",
  "245 1 1 28C 1;246 5 2 247 2;2B0 1 1 68 1;2B1 1 1 266 1;2B2 1 1 6A 1;2B3 1 1 72 1",
  "2B4 2 1 279 2;2B6 1 1 281 1;2B7 2 1 77 2;2E0 1 1 263 1;2E1 1 1 6C 1;2E2 1 1 73 1",
  "2E3 1 1 78 1;2E4 1 1 295 1;345 1 1 3B9 1;370 2 2 371 2;376 1 1 377 1;37F 1 1 3F3 1",
  "386 2 2 3AC 1;389 2 1 3AE 1;38C 2 2 3CC 1;38F 1 1 3CE 1;391 11 1 3B1 1;3A3 9 1 3C3 1",
  "3CF 1 1 3D7 1;3D0 1 1 3B2 1;3D1 1 1 3B8 1;3D2 1 1 3C5 1;3D3 1 1 3CD 1;3D4 1 1 3CB 1",
  "3D5 1 1 3C6 1;3D6 1 1 3C0 1;3D8 C 2 3D9 2;3F0 1 1 3BA 1;3F1 2 1 3C1 2;3F4 1 1 3B8 1",
  "3F5 1 1 3B5 1;3F7 1 1 3F8 1;3F9 1 1 3C3 1;3FA 1 1 3FB 1;3FD 3 1 37B 1;400 10 1 450 1",
  "410 20 1 430 1;460 11 2 461 2;48A 1B 2 48B 2;4C0 1 1 4CF 1;4C1 7 2 4C2 2;4D0 30 2 4D1 2",
  "531 26 1 561 1;F0C 1 1 F0B 1;10A0 26 1 2D00 1;10C7 1 1 2D27 1;10CD 1 1 2D2D 1",
  "10FC 1 1 10DC 1;13F8 6 1 13F0 1;1C80 2 1 432 2;1C82 1 1 43E 1;1C83 2 1 441 1;1C85 1 1 442 1",
  "1C86 1 1 44A 1;1C87 1 1 463 1;1C88 1 1 A64B 1;1C89 1 1 1C8A 1;1C90 2B 1 10D0 1",
  "1CBD 3 1 10FD 1;1D2C 1 1 61 1;1D2D 1 1 E6 1;1D2E 2 2 62 2;1D31 1 1 65 1;1D32 1 1 1DD 1",
  "1D33 8 1 67 1;1D3C 1 1 6F 1;1D3D 1 1 223 1;1D3E 3 1 70 2;1D41 2 1 75 2;1D43 1 1 61 1",
  "1D44 2 1 250 1;1D46 1 1 1D02 1;1D47 2 1 62 2;1D49 1 1 65 1;1D4A 2 1 259 2;1D4C 1 1 25C 1",
  "1D4D 1 1 67 1;1D4F 2 1 6B 2;1D51 1 1 14B 1;1D52 1 1 6F 1;1D53 1 1 254 1;1D54 2 1 1D16 1",
  "1D56 1 1 70 1;1D57 2 1 74 1;1D59 1 1 1D1D 1;1D5A 1 1 26F 1;1D5B 1 1 76 1;1D5C 1 1 1D25 1",
  "1D5D 3 1 3B2 1;1D60 2 1 3C6 1;1D62 1 1 69 1;1D63 1 1 72 1;1D64 2 1 75 1;1D66 2 1 3B2 1",
  "1D68 1 1 3C1 1;1D69 2 1 3C6 1;1D78 1 1 43D 1;1D9B 1 1 252 1;1D9C 1 1 63 1;1D9D 1 1 255 1",
  "1D9E 1 1 F0 1;1D9F 1 1 25C 1;1DA0 1 1 66 1;1DA1 2 1 25F 2;1DA3 1 1 265 1;1DA4 3 1 268 1",
  "1DA7 1 1 1D7B 1;1DA8 1 1 29D 1;1DA9 1 1 26D 1;1DAA 1 1 1D85 1;1DAB 1 1 29F 1;1DAC 1 1 271 1",
  "1DAD 2 1 270 2;1DAF 3 1 273 1;1DB2 1 1 278 1;1DB3 2 1 282 1;1DB5 1 1 1AB 1;1DB6 2 1 289 1",
  "1DB8 1 1 1D1C 1;1DB9 2 1 28B 1;1DBB 1 1 7A 1;1DBC 3 1 290 1;1DBF 1 1 3B8 1;1E00 4B 2 1E01 2",
  "1E9B 1 1 1E61 1;1E9E 1 1 DF 1;1EA0 30 2 1EA1 2;1F08 8 1 1F00 1;1F18 6 1 1F10 1",
  "1F28 8 1 1F20 1;1F38 8 1 1F30 1;1F48 6 1 1F40 1;1F59 4 2 1F51 2;1F68 8 1 1F60 1",
  "1FB8 2 1 1FB0 1;1FBA 1 1 1F70 1;1FBB 1 1 3AC 1;1FC8 1 1 1F72 1;1FC9 1 1 3AD 1",
  "1FCA 1 1 1F74 1;1FCB 1 1 3AE 1;1FD8 2 1 1FD0 1;1FDA 1 1 1F76 1;1FDB 1 1 3AF 1",
  "1FE8 2 1 1FE0 1;1FEA 1 1 1F7A 1;1FEB 1 1 3CD 1;1FEC 1 1 1FE5 1;1FF8 1 1 1F78 1",
  "1FF9 1 1 3CC 1;1FFA 1 1 1F7C 1;1FFB 1 1 3CE 1;2000 B 1 20 0;2011 1 1 2010 1;202F 1 1 20 1",
  "205F 1 1 20 1;2070 1 1 30 1;2071 1 1 69 1;2074 6 1 34 1;207A 1 1 2B 1;207B 1 1 2212 1",
  "207C 1 1 3D 1;207D 2 1 28 1;207F 1 1 6E 1;2080 A 1 30 1;208A 1 1 2B 1;208B 1 1 2212 1",
  "208C 1 1 3D 1;208D 2 1 28 1;2090 1 1 61 1;2091 1 1 65 1;2092 1 1 6F 1;2093 1 1 78 1",
  "2094 1 1 259 1;2095 1 1 68 1;2096 4 1 6B 1;209A 1 1 70 1;209B 2 1 73 1;2102 1 1 63 1",
  "2107 1 1 25B 1;210A 2 1 67 1;210C 3 1 68 0;210F 1 1 127 1;2110 2 1 69 0;2112 2 1 6C 0",
  "2115 1 1 6E 1;2119 3 1 70 1;211C 2 1 72 0;2124 1 1 7A 1;2126 1 1 3C9 1;2128 1 1 7A 1",
  "212A 1 1 6B 1;212B 1 1 E5 1;212C 2 1 62 1;212F 2 1 65 0;2131 1 1 66 1;2132 1 1 214E 1",
  "2133 2 1 6D 2;2135 4 1 5D0 1;2139 1 1 69 1;213C 1 1 3C0 1;213D 2 1 3B3 0;213F 1 1 3C0 1",
  "2140 1 1 2211 1;2145 2 1 64 0;2147 1 1 65 1;2148 2 1 69 1;2160 1 1 69 1;2164 1 1 76 1",
  "2169 1 1 78 1;216C 1 1 6C 1;216D 2 1 63 1;216F 1 1 6D 1;2170 1 1 69 1;2174 1 1 76 1",
  "2179 1 1 78 1;217C 1 1 6C 1;217D 2 1 63 1;217F 1 1 6D 1;2183 1 1 2184 1;2460 9 1 31 1",
  "24B6 1A 1 61 1;24D0 1A 1 61 1;24EA 1 1 30 1;2C00 30 1 2C30 1;2C60 1 1 2C61 1;2C62 1 1 26B 1",
  "2C63 1 1 1D7D 1;2C64 1 1 27D 1;2C67 3 2 2C68 2;2C6D 1 1 251 1;2C6E 1 1 271 1;2C6F 2 1 250 2",
  "2C72 1 1 2C73 1;2C75 1 1 2C76 1;2C7C 1 1 6A 1;2C7D 1 1 76 1;2C7E 2 1 23F 1;2C80 32 2 2C81 2",
  "2CEB 2 2 2CEC 2;2CF2 1 1 2CF3 1;2D6F 1 1 2D61 1;2E9F 1 1 6BCD 1;2EF3 1 1 9F9F 1",
  "2F00 1 1 4E00 1;2F01 1 1 4E28 1;2F02 1 1 4E36 1;2F03 1 1 4E3F 1;2F04 1 1 4E59 1",
  "2F05 1 1 4E85 1;2F06 1 1 4E8C 1;2F07 1 1 4EA0 1;2F08 1 1 4EBA 1;2F09 1 1 513F 1",
  "2F0A 1 1 5165 1;2F0B 1 1 516B 1;2F0C 1 1 5182 1;2F0D 1 1 5196 1;2F0E 1 1 51AB 1",
  "2F0F 1 1 51E0 1;2F10 1 1 51F5 1;2F11 1 1 5200 1;2F12 1 1 529B 1;2F13 1 1 52F9 1",
  "2F14 1 1 5315 1;2F15 1 1 531A 1;2F16 1 1 5338 1;2F17 1 1 5341 1;2F18 1 1 535C 1",
  "2F19 1 1 5369 1;2F1A 1 1 5382 1;2F1B 1 1 53B6 1;2F1C 1 1 53C8 1;2F1D 1 1 53E3 1",
  "2F1E 1 1 56D7 1;2F1F 1 1 571F 1;2F20 1 1 58EB 1;2F21 1 1 5902 1;2F22 1 1 590A 1",
  "2F23 1 1 5915 1;2F24 1 1 5927 1;2F25 1 1 5973 1;2F26 1 1 5B50 1;2F27 1 1 5B80 1",
  "2F28 1 1 5BF8 1;2F29 1 1 5C0F 1;2F2A 1 1 5C22 1;2F2B 1 1 5C38 1;2F2C 1 1 5C6E 1",
  "2F2D 1 1 5C71 1;2F2E 1 1 5DDB 1;2F2F 1 1 5DE5 1;2F30 1 1 5DF1 1;2F31 1 1 5DFE 1",
  "2F32 1 1 5E72 1;2F33 1 1 5E7A 1;2F34 1 1 5E7F 1;2F35 1 1 5EF4 1;2F36 1 1 5EFE 1",
  "2F37 1 1 5F0B 1;2F38 1 1 5F13 1;2F39 1 1 5F50 1;2F3A 1 1 5F61 1;2F3B 1 1 5F73 1",
  "2F3C 1 1 5FC3 1;2F3D 1 1 6208 1;2F3E 1 1 6236 1;2F3F 1 1 624B 1;2F40 1 1 652F 1",
  "2F41 1 1 6534 1;2F42 1 1 6587 1;2F43 1 1 6597 1;2F44 1 1 65A4 1;2F45 1 1 65B9 1",
  "2F46 1 1 65E0 1;2F47 1 1 65E5 1;2F48 1 1 66F0 1;2F49 1 1 6708 1;2F4A 1 1 6728 1",
  "2F4B 1 1 6B20 1;2F4C 1 1 6B62 1;2F4D 1 1 6B79 1;2F4E 1 1 6BB3 1;2F4F 1 1 6BCB 1",
  "2F50 1 1 6BD4 1;2F51 1 1 6BDB 1;2F52 1 1 6C0F 1;2F53 1 1 6C14 1;2F54 1 1 6C34 1",
  "2F55 1 1 706B 1;2F56 1 1 722A 1;2F57 1 1 7236 1;2F58 1 1 723B 1;2F59 1 1 723F 1",
  "2F5A 1 1 7247 1;2F5B 2 1 7259 2;2F5D 1 1 72AC 1;2F5E 1 1 7384 1;2F5F 1 1 7389 1",
  "2F60 1 1 74DC 1;2F61 1 1 74E6 1;2F62 1 1 7518 1;2F63 1 1 751F 1;2F64 1 1 7528 1",
  "2F65 1 1 7530 1;2F66 1 1 758B 1;2F67 1 1 7592 1;2F68 1 1 7676 1;2F69 1 1 767D 1",
  "2F6A 1 1 76AE 1;2F6B 1 1 76BF 1;2F6C 1 1 76EE 1;2F6D 1 1 77DB 1;2F6E 1 1 77E2 1",
  "2F6F 1 1 77F3 1;2F70 1 1 793A 1;2F71 1 1 79B8 1;2F72 1 1 79BE 1;2F73 1 1 7A74 1",
  "2F74 1 1 7ACB 1;2F75 1 1 7AF9 1;2F76 1 1 7C73 1;2F77 1 1 7CF8 1;2F78 1 1 7F36 1",
  "2F79 1 1 7F51 1;2F7A 1 1 7F8A 1;2F7B 1 1 7FBD 1;2F7C 1 1 8001 1;2F7D 1 1 800C 1",
  "2F7E 1 1 8012 1;2F7F 1 1 8033 1;2F80 1 1 807F 1;2F81 1 1 8089 1;2F82 1 1 81E3 1",
  "2F83 1 1 81EA 1;2F84 1 1 81F3 1;2F85 1 1 81FC 1;2F86 1 1 820C 1;2F87 1 1 821B 1",
  "2F88 1 1 821F 1;2F89 1 1 826E 1;2F8A 1 1 8272 1;2F8B 1 1 8278 1;2F8C 1 1 864D 1",
  "2F8D 1 1 866B 1;2F8E 1 1 8840 1;2F8F 1 1 884C 1;2F90 1 1 8863 1;2F91 1 1 897E 1",
  "2F92 1 1 898B 1;2F93 1 1 89D2 1;2F94 1 1 8A00 1;2F95 1 1 8C37 1;2F96 1 1 8C46 1",
  "2F97 1 1 8C55 1;2F98 1 1 8C78 1;2F99 1 1 8C9D 1;2F9A 1 1 8D64 1;2F9B 1 1 8D70 1",
  "2F9C 1 1 8DB3 1;2F9D 1 1 8EAB 1;2F9E 1 1 8ECA 1;2F9F 1 1 8F9B 1;2FA0 1 1 8FB0 1",
  "2FA1 1 1 8FB5 1;2FA2 1 1 9091 1;2FA3 1 1 9149 1;2FA4 1 1 91C6 1;2FA5 1 1 91CC 1",
  "2FA6 1 1 91D1 1;2FA7 1 1 9577 1;2FA8 1 1 9580 1;2FA9 1 1 961C 1;2FAA 1 1 96B6 1",
  "2FAB 1 1 96B9 1;2FAC 1 1 96E8 1;2FAD 1 1 9751 1;2FAE 1 1 975E 1;2FAF 1 1 9762 1",
  "2FB0 1 1 9769 1;2FB1 1 1 97CB 1;2FB2 1 1 97ED 1;2FB3 1 1 97F3 1;2FB4 1 1 9801 1",
  "2FB5 1 1 98A8 1;2FB6 1 1 98DB 1;2FB7 1 1 98DF 1;2FB8 1 1 9996 1;2FB9 1 1 9999 1",
  "2FBA 1 1 99AC 1;2FBB 1 1 9AA8 1;2FBC 1 1 9AD8 1;2FBD 1 1 9ADF 1;2FBE 1 1 9B25 1",
  "2FBF 1 1 9B2F 1;2FC0 1 1 9B32 1;2FC1 1 1 9B3C 1;2FC2 1 1 9B5A 1;2FC3 1 1 9CE5 1",
  "2FC4 1 1 9E75 1;2FC5 1 1 9E7F 1;2FC6 1 1 9EA5 1;2FC7 1 1 9EBB 1;2FC8 1 1 9EC3 1",
  "2FC9 1 1 9ECD 1;2FCA 1 1 9ED1 1;2FCB 1 1 9EF9 1;2FCC 1 1 9EFD 1;2FCD 1 1 9F0E 1",
  "2FCE 1 1 9F13 1;2FCF 1 1 9F20 1;2FD0 1 1 9F3B 1;2FD1 1 1 9F4A 1;2FD2 1 1 9F52 1",
  "2FD3 1 1 9F8D 1;2FD4 1 1 9F9C 1;2FD5 1 1 9FA0 1;3000 1 1 20 1;3002 1 1 2E 1;3036 1 1 3012 1",
  "3038 1 1 5341 1;3039 2 1 5344 1;3131 2 1 1100 1;3133 1 1 11AA 1;3134 1 1 1102 1",
  "3135 2 1 11AC 1;3137 3 1 1103 1;313A 6 1 11B0 1;3140 1 1 111A 1;3141 3 1 1106 1",
  "3144 1 1 1121 1;3145 A 1 1109 1;314F 15 1 1161 1;3165 2 1 1114 1;3167 2 1 11C7 1",
  "3169 2 1 11CC 2;316B 1 1 11D3 1;316C 2 1 11D7 2;316E 1 1 111C 1;316F 2 1 11DD 2",
  "3171 2 1 111D 1;3173 2 1 1120 2;3175 1 1 1123 1;3176 3 1 1127 2;3179 4 1 112C 1",
  "317D 1 1 1132 1;317E 1 1 1136 1;317F 1 1 1140 1;3180 1 1 1147 1;3181 1 1 114C 1",
  "3182 2 1 11F1 1;3184 3 1 1157 1;3187 2 1 1184 1;3189 1 1 1188 1;318A 2 1 1191 1",
  "318C 1 1 1194 1;318D 1 1 119E 1;318E 1 1 11A1 1;3192 1 1 4E00 1;3193 1 1 4E8C 1",
  "3194 1 1 4E09 1;3195 1 1 56DB 1;3196 1 1 4E0A 1;3197 1 1 4E2D 1;3198 1 1 4E0B 1",
  "3199 1 1 7532 1;319A 1 1 4E59 1;319B 1 1 4E19 1;319C 1 1 4E01 1;319D 1 1 5929 1",
  "319E 1 1 5730 1;319F 1 1 4EBA 1;3244 1 1 554F 1;3245 1 1 5E7C 1;3246 1 1 6587 1",
  "3247 1 1 7B8F 1;3260 2 1 1100 2;3262 2 1 1103 2;3264 2 1 1106 1;3266 2 1 1109 2",
  "3268 2 1 110C 2;326A 4 1 110F 1;326E 1 1 AC00 1;326F 1 1 B098 1;3270 1 1 B2E4 1",
  "3271 1 1 B77C 1;3272 1 1 B9C8 1;3273 1 1 BC14 1;3274 1 1 C0AC 1;3275 1 1 C544 1",
  "3276 1 1 C790 1;3277 1 1 CC28 1;3278 1 1 CE74 1;3279 1 1 D0C0 1;327A 1 1 D30C 1",
  "327B 1 1 D558 1;327E 1 1 C6B0 1;3280 1 1 4E00 1;3281 1 1 4E8C 1;3282 1 1 4E09 1",
  "3283 1 1 56DB 1;3284 1 1 4E94 1;3285 1 1 516D 1;3286 1 1 4E03 1;3287 1 1 516B 1",
  "3288 1 1 4E5D 1;3289 1 1 5341 1;328A 1 1 6708 1;328B 1 1 706B 1;328C 1 1 6C34 1",
  "328D 1 1 6728 1;328E 1 1 91D1 1;328F 1 1 571F 1;3290 1 1 65E5 1;3291 1 1 682A 1",
  "3292 1 1 6709 1;3293 1 1 793E 1;3294 1 1 540D 1;3295 1 1 7279 1;3296 1 1 8CA1 1",
  "3297 1 1 795D 1;3298 1 1 52B4 1;3299 1 1 79D8 1;329A 1 1 7537 1;329B 1 1 5973 1",
  "329C 1 1 9069 1;329D 1 1 512A 1;329E 1 1 5370 1;329F 1 1 6CE8 1;32A0 1 1 9805 1",
  "32A1 1 1 4F11 1;32A2 1 1 5199 1;32A3 1 1 6B63 1;32A4 1 1 4E0A 1;32A5 1 1 4E2D 1",
  "32A6 1 1 4E0B 1;32A7 1 1 5DE6 1;32A8 1 1 53F3 1;32A9 1 1 533B 1;32AA 1 1 5B97 1",
  "32AB 1 1 5B66 1;32AC 1 1 76E3 1;32AD 1 1 4F01 1;32AE 1 1 8CC7 1;32AF 1 1 5354 1",
  "32B0 1 1 591C 1;32D0 5 1 30A2 2;32D5 C 1 30AB 2;32E1 4 1 30C4 2;32E5 5 1 30CB 1",
  "32EA 1 1 30D2 1;32EB 1 1 30D5 1;32EC 1 1 30D8 1;32ED 1 1 30DB 1;32EE 5 1 30DE 1",
  "32F3 3 1 30E4 2;32F6 5 1 30E9 1;32FB 4 1 30EF 1;A640 17 2 A641 2;A680 E 2 A681 2",
  "A69C 2 1 44A 2;A722 7 2 A723 2;A732 1F 2 A733 2;A770 1 1 A76F 1;A779 2 2 A77A 2",
  "A77D 1 1 1D79 1;A77E 5 2 A77F 2;A78B 1 1 A78C 1;A78D 1 1 265 1;A790 2 2 A791 2",
  "A796 A 2 A797 2;A7AA 1 1 266 1;A7AB 1 1 25C 1;A7AC 1 1 261 1;A7AD 1 1 26C 1;A7AE 1 1 26A 1",
  "A7B0 1 1 29E 1;A7B1 1 1 287 1;A7B2 1 1 29D 1;A7B3 1 1 AB53 1;A7B4 8 2 A7B5 2;A7C4 1 1 A794 1",
  "A7C5 1 1 282 1;A7C6 1 1 1D8E 1;A7C7 2 2 A7C8 2;A7CB 1 1 264 1;A7CC 8 2 A7CD 2;A7DC 1 1 19B 1",
  "A7F1 1 1 73 1;A7F2 1 1 63 1;A7F3 1 1 66 1;A7F4 1 1 71 1;A7F5 1 1 A7F6 1;A7F8 1 1 127 1",
  "A7F9 1 1 153 1;AB5C 1 1 A727 1;AB5D 1 1 AB37 1;AB5E 1 1 26B 1;AB5F 1 1 AB52 1;AB69 1 1 28D 1",
  "AB70 50 1 13A0 1;FB20 1 1 5E2 1;FB21 1 1 5D0 1;FB22 2 1 5D3 1;FB24 3 1 5DB 1;FB27 2 1 5E8 2",
  "FB29 1 1 2B 1;FB50 2 1 671 0;FB52 4 1 67B 0;FB56 4 1 67E 0;FB5A 4 1 680 0;FB5E 4 1 67A 0",
  "FB62 4 1 67F 0;FB66 4 1 679 0;FB6A 4 1 6A4 0;FB6E 4 1 6A6 0;FB72 4 1 684 0;FB76 4 1 683 0",
  "FB7A 4 1 686 0;FB7E 4 1 687 0;FB82 2 1 68D 0;FB84 2 1 68C 0;FB86 2 1 68E 0;FB88 2 1 688 0",
  "FB8A 2 1 698 0;FB8C 2 1 691 0;FB8E 4 1 6A9 0;FB92 4 1 6AF 0;FB96 4 1 6B3 0;FB9A 4 1 6B1 0",
  "FB9E 2 1 6BA 0;FBA0 4 1 6BB 0;FBA4 2 1 6C0 0;FBA6 4 1 6C1 0;FBAA 4 1 6BE 0;FBAE 2 1 6D2 0",
  "FBB0 2 1 6D3 0;FBD3 4 1 6AD 0;FBD7 2 1 6C7 0;FBD9 2 1 6C6 0;FBDB 2 1 6C8 0;FBDE 2 1 6CB 0",
  "FBE0 2 1 6C5 0;FBE2 2 1 6C9 0;FBE4 4 1 6D0 0;FBE8 2 1 649 0;FBFC 4 1 6CC 0;FE10 1 1 2C 1",
  "FE11 1 1 3001 1;FE13 2 1 3A 1;FE15 1 1 21 1;FE16 1 1 3F 1;FE17 2 1 3016 1;FE31 1 1 2014 1",
  "FE32 1 1 2013 1;FE33 2 1 5F 0;FE35 2 1 28 1;FE37 2 1 7B 2;FE39 2 1 3014 1;FE3B 2 1 3010 1",
  "FE3D 2 1 300A 1;FE3F 2 1 3008 1;FE41 4 1 300C 1;FE47 2 1 5B 2;FE4D 3 1 5F 0;FE50 1 1 2C 1",
  "FE51 1 1 3001 1;FE54 1 1 3B 1;FE55 1 1 3A 1;FE56 1 1 3F 1;FE57 1 1 21 1;FE58 1 1 2014 1",
  "FE59 2 1 28 1;FE5B 2 1 7B 2;FE5D 2 1 3014 1;FE5F 1 1 23 1;FE60 1 1 26 1;FE61 2 1 2A 1",
  "FE63 1 1 2D 1;FE64 2 1 3C 2;FE66 1 1 3D 1;FE68 1 1 5C 1;FE69 2 1 24 1;FE6B 1 1 40 1",
  "FE80 2 1 621 1;FE82 2 1 622 1;FE84 2 1 623 1;FE86 2 1 624 1;FE88 2 1 625 1;FE8A 3 1 626 0",
  "FE8D 2 1 627 0;FE8F 4 1 628 0;FE93 2 1 629 0;FE95 4 1 62A 0;FE99 4 1 62B 0;FE9D 4 1 62C 0",
  "FEA1 4 1 62D 0;FEA5 4 1 62E 0;FEA9 2 1 62F 0;FEAB 2 1 630 0;FEAD 2 1 631 0;FEAF 2 1 632 0",
  "FEB1 4 1 633 0;FEB5 4 1 634 0;FEB9 4 1 635 0;FEBD 4 1 636 0;FEC1 4 1 637 0;FEC5 4 1 638 0",
  "FEC9 4 1 639 0;FECD 4 1 63A 0;FED1 4 1 641 0;FED5 4 1 642 0;FED9 4 1 643 0;FEDD 4 1 644 0",
  "FEE1 4 1 645 0;FEE5 4 1 646 0;FEE9 4 1 647 0;FEED 2 1 648 0;FEEF 2 1 649 0;FEF1 4 1 64A 0",
  "FF01 20 1 21 1;FF21 1A 1 61 1;FF3B 24 1 5B 1;FF5F 2 1 2985 1;FF61 1 1 2E 1;FF62 2 1 300C 1",
  "FF64 1 1 3001 1;FF65 1 1 30FB 1;FF66 1 1 30F2 1;FF67 5 1 30A1 2;FF6C 3 1 30E3 2",
  "FF6F 1 1 30C3 1;FF70 1 1 30FC 1;FF71 5 1 30A2 2;FF76 C 1 30AB 2;FF82 4 1 30C4 2",
  "FF86 5 1 30CB 1;FF8B 1 1 30D2 1;FF8C 1 1 30D5 1;FF8D 1 1 30D8 1;FF8E 1 1 30DB 1",
  "FF8F 5 1 30DE 1;FF94 3 1 30E4 2;FF97 5 1 30E9 1;FF9C 1 1 30EF 1;FF9D 1 1 30F3 1",
  "FF9E 2 1 3099 1;FFA1 2 1 1100 1;FFA3 1 1 11AA 1;FFA4 1 1 1102 1;FFA5 2 1 11AC 1",
  "FFA7 3 1 1103 1;FFAA 6 1 11B0 1;FFB0 1 1 111A 1;FFB1 3 1 1106 1;FFB4 1 1 1121 1",
  "FFB5 A 1 1109 1;FFC2 6 1 1161 1;FFCA 6 1 1167 1;FFD2 6 1 116D 1;FFDA 3 1 1173 1",
  "FFE0 2 1 A2 1;FFE2 1 1 AC 1;FFE4 1 1 A6 1;FFE5 1 1 A5 1;FFE6 1 1 20A9 1;FFE8 1 1 2502 1",
  "FFE9 4 1 2190 1;FFED 1 1 25A0 1;FFEE 1 1 25CB 1;10400 28 1 10428 1;104B0 24 1 104D8 1",
  "10570 B 1 10597 1;1057C F 1 105A3 1;1058C 7 1 105B3 1;10594 2 1 105BB 1;10781 2 1 2D0 1",
  "10783 1 1 E6 1;10784 1 1 299 1;10785 1 1 253 1;10787 1 1 2A3 1;10788 1 1 AB66 1",
  "10789 1 1 2A5 1;1078A 1 1 2A4 1;1078B 2 1 256 1;1078D 1 1 1D91 1;1078E 1 1 258 1",
  "1078F 1 1 25E 1;10790 1 1 2A9 1;10791 1 1 264 1;10792 1 1 262 1;10793 1 1 260 1",
  "10794 1 1 29B 1;10795 1 1 127 1;10796 1 1 29C 1;10797 1 1 267 1;10798 1 1 284 1",
  "10799 2 1 2AA 1;1079B 1 1 26C 1;1079C 1 1 1DF04 1;1079D 1 1 A78E 1;1079E 1 1 26E 1",
  "1079F 1 1 1DF05 1;107A0 1 1 28E 1;107A1 1 1 1DF06 1;107A2 1 1 F8 1;107A3 2 1 276 1",
  "107A5 1 1 71 1;107A6 1 1 27A 1;107A7 1 1 1DF08 1;107A8 2 1 27D 1;107AA 1 1 280 1",
  "107AB 1 1 2A8 1;107AC 1 1 2A6 1;107AD 1 1 AB67 1;107AE 1 1 2A7 1;107AF 1 1 288 1",
  "107B0 1 1 2C71 1;107B2 1 1 28F 1;107B3 2 1 2A1 1;107B5 1 1 298 1;107B6 3 1 1C0 1",
  "107B9 1 1 1DF0A 1;107BA 1 1 1DF1E 1;10C80 33 1 10CC0 1;10D50 16 1 10D70 1;118A0 20 1 118C0 1",
  "16E40 20 1 16E60 1;16EA0 19 1 16EBB 1;1CCD6 1A 1 61 1;1CCF0 A 1 30 1;1D400 1A 1 61 1",
  "1D41A 1A 1 61 1;1D434 1A 1 61 1;1D44E 7 1 61 1;1D456 12 1 69 1;1D468 1A 1 61 1",
  "1D482 1A 1 61 1;1D49C 2 2 61 2;1D49F 1 1 64 1;1D4A2 1 1 67 1;1D4A5 2 1 6A 1;1D4A9 4 1 6E 1",
  "1D4AE 8 1 73 1;1D4B6 4 1 61 1;1D4BB 2 2 66 2;1D4BE 6 1 69 1;1D4C5 B 1 70 1;1D4D0 1A 1 61 1",
  "1D4EA 1A 1 61 1;1D504 2 1 61 1;1D507 4 1 64 1;1D50D 8 1 6A 1;1D516 7 1 73 1;1D51E 1A 1 61 1",
  "1D538 2 1 61 1;1D53B 4 1 64 1;1D540 5 1 69 1;1D546 1 1 6F 1;1D54A 7 1 73 1;1D552 1A 1 61 1",
  "1D56C 1A 1 61 1;1D586 1A 1 61 1;1D5A0 1A 1 61 1;1D5BA 1A 1 61 1;1D5D4 1A 1 61 1",
  "1D5EE 1A 1 61 1;1D608 1A 1 61 1;1D622 1A 1 61 1;1D63C 1A 1 61 1;1D656 1A 1 61 1",
  "1D670 1A 1 61 1;1D68A 1A 1 61 1;1D6A4 1 1 131 1;1D6A5 1 1 237 1;1D6A8 11 1 3B1 1",
  "1D6B9 1 1 3B8 1;1D6BA 7 1 3C3 1;1D6C1 1 1 2207 1;1D6C2 11 1 3B1 1;1D6D3 2 1 3C3 0",
  "1D6D5 6 1 3C4 1;1D6DB 1 1 2202 1;1D6DC 1 1 3B5 1;1D6DD 2 1 3B8 2;1D6DF 1 1 3C6 1",
  "1D6E0 1 1 3C1 1;1D6E1 1 1 3C0 1;1D6E2 11 1 3B1 1;1D6F3 1 1 3B8 1;1D6F4 7 1 3C3 1",
  "1D6FB 1 1 2207 1;1D6FC 11 1 3B1 1;1D70D 2 1 3C3 0;1D70F 6 1 3C4 1;1D715 1 1 2202 1",
  "1D716 1 1 3B5 1;1D717 2 1 3B8 2;1D719 1 1 3C6 1;1D71A 1 1 3C1 1;1D71B 1 1 3C0 1",
  "1D71C 11 1 3B1 1;1D72D 1 1 3B8 1;1D72E 7 1 3C3 1;1D735 1 1 2207 1;1D736 11 1 3B1 1",
  "1D747 2 1 3C3 0;1D749 6 1 3C4 1;1D74F 1 1 2202 1;1D750 1 1 3B5 1;1D751 2 1 3B8 2",
  "1D753 1 1 3C6 1;1D754 1 1 3C1 1;1D755 1 1 3C0 1;1D756 11 1 3B1 1;1D767 1 1 3B8 1",
  "1D768 7 1 3C3 1;1D76F 1 1 2207 1;1D770 11 1 3B1 1;1D781 2 1 3C3 0;1D783 6 1 3C4 1",
  "1D789 1 1 2202 1;1D78A 1 1 3B5 1;1D78B 2 1 3B8 2;1D78D 1 1 3C6 1;1D78E 1 1 3C1 1",
  "1D78F 1 1 3C0 1;1D790 11 1 3B1 1;1D7A1 1 1 3B8 1;1D7A2 7 1 3C3 1;1D7A9 1 1 2207 1",
  "1D7AA 11 1 3B1 1;1D7BB 2 1 3C3 0;1D7BD 6 1 3C4 1;1D7C3 1 1 2202 1;1D7C4 1 1 3B5 1",
  "1D7C5 2 1 3B8 2;1D7C7 1 1 3C6 1;1D7C8 1 1 3C1 1;1D7C9 1 1 3C0 1;1D7CA 2 1 3DD 0",
  "1D7CE A 1 30 1;1D7D8 A 1 30 1;1D7E2 A 1 30 1;1D7EC A 1 30 1;1D7F6 A 1 30 1;1E030 9 1 430 1",
  "1E039 3 1 43A 1;1E03C B 1 43E 1;1E047 2 1 44B 2;1E049 1 1 44E 1;1E04A 1 1 A689 1",
  "1E04B 1 1 4D9 1;1E04C 2 1 456 2;1E04E 1 1 4E9 1;1E04F 1 1 4AF 1;1E050 1 1 4CF 1",
  "1E051 9 1 430 1;1E05A 2 1 43A 1;1E05C 2 1 43E 1;1E05E 2 1 441 2;1E060 5 1 444 1",
  "1E065 2 1 44A 1;1E067 1 1 491 1;1E068 1 1 456 1;1E069 1 1 455 1;1E06A 1 1 45F 1",
  "1E06B 1 1 4AB 1;1E06C 1 1 A651 1;1E06D 1 1 4B1 1;1E900 22 1 1E922 1;1EE00 2 1 627 1",
  "1EE02 1 1 62C 1;1EE03 1 1 62F 1;1EE05 1 1 648 1;1EE06 1 1 632 1;1EE07 1 1 62D 1",
  "1EE08 1 1 637 1;1EE09 1 1 64A 1;1EE0A 4 1 643 1;1EE0E 1 1 633 1;1EE0F 1 1 639 1",
  "1EE10 1 1 641 1;1EE11 1 1 635 1;1EE12 1 1 642 1;1EE13 1 1 631 1;1EE14 1 1 634 1",
  "1EE15 2 1 62A 1;1EE17 2 1 62E 2;1EE19 3 1 636 2;1EE1C 1 1 66E 1;1EE1D 1 1 6BA 1",
  "1EE1E 1 1 6A1 1;1EE1F 1 1 66F 1;1EE21 1 1 628 1;1EE22 1 1 62C 1;1EE24 1 1 647 1",
  "1EE27 1 1 62D 1;1EE29 1 1 64A 1;1EE2A 4 1 643 1;1EE2E 1 1 633 1;1EE2F 1 1 639 1",
  "1EE30 1 1 641 1;1EE31 1 1 635 1;1EE32 1 1 642 1;1EE34 1 1 634 1;1EE35 2 1 62A 1",
  "1EE37 1 1 62E 1;1EE39 1 1 636 1;1EE3B 1 1 63A 1;1EE42 1 1 62C 1;1EE47 1 1 62D 1",
  "1EE49 1 1 64A 1;1EE4B 2 2 644 2;1EE4E 1 1 633 1;1EE4F 1 1 639 1;1EE51 1 1 635 1",
  "1EE52 1 1 642 1;1EE54 1 1 634 1;1EE57 1 1 62E 1;1EE59 1 1 636 1;1EE5B 1 1 63A 1",
  "1EE5D 1 1 6BA 1;1EE5F 1 1 66F 1;1EE61 1 1 628 1;1EE62 1 1 62C 1;1EE64 1 1 647 1",
  "1EE67 1 1 62D 1;1EE68 1 1 637 1;1EE69 1 1 64A 1;1EE6A 2 2 643 2;1EE6D 1 1 646 1",
  "1EE6E 1 1 633 1;1EE6F 1 1 639 1;1EE70 1 1 641 1;1EE71 1 1 635 1;1EE72 1 1 642 1",
  "1EE74 1 1 634 1;1EE75 2 1 62A 1;1EE77 1 1 62E 1;1EE79 3 1 636 2;1EE7C 1 1 66E 1",
  "1EE7E 1 1 6A1 1;1EE80 2 1 627 1;1EE82 1 1 62C 1;1EE83 1 1 62F 1;1EE84 2 1 647 1",
  "1EE86 1 1 632 1;1EE87 1 1 62D 1;1EE88 1 1 637 1;1EE89 1 1 64A 1;1EE8B 3 1 644 1",
  "1EE8E 1 1 633 1;1EE8F 1 1 639 1;1EE90 1 1 641 1;1EE91 1 1 635 1;1EE92 1 1 642 1",
  "1EE93 1 1 631 1;1EE94 1 1 634 1;1EE95 2 1 62A 1;1EE97 2 1 62E 2;1EE99 3 1 636 2",
  "1EEA1 1 1 628 1;1EEA2 1 1 62C 1;1EEA3 1 1 62F 1;1EEA5 1 1 648 1;1EEA6 1 1 632 1",
  "1EEA7 1 1 62D 1;1EEA8 1 1 637 1;1EEA9 1 1 64A 1;1EEAB 3 1 644 1;1EEAE 1 1 633 1",
  "1EEAF 1 1 639 1;1EEB0 1 1 641 1;1EEB1 1 1 635 1;1EEB2 1 1 642 1;1EEB3 1 1 631 1",
  "1EEB4 1 1 634 1;1EEB5 2 1 62A 1;1EEB7 2 1 62E 2;1EEB9 3 1 636 2;1F12B 1 1 63 1",
  "1F12C 1 1 72 1;1F130 1A 1 61 1;1F202 1 1 30B5 1;1F210 1 1 624B 1;1F211 1 1 5B57 1",
  "1F212 1 1 53CC 1;1F213 1 1 30C7 1;1F214 1 1 4E8C 1;1F215 1 1 591A 1;1F216 1 1 89E3 1",
  "1F217 1 1 5929 1;1F218 1 1 4EA4 1;1F219 1 1 6620 1;1F21A 1 1 7121 1;1F21B 1 1 6599 1",
  "1F21C 1 1 524D 1;1F21D 1 1 5F8C 1;1F21E 1 1 518D 1;1F21F 1 1 65B0 1;1F220 1 1 521D 1",
  "1F221 1 1 7D42 1;1F222 1 1 751F 1;1F223 1 1 8CA9 1;1F224 1 1 58F0 1;1F225 1 1 5439 1",
  "1F226 1 1 6F14 1;1F227 1 1 6295 1;1F228 1 1 6355 1;1F229 1 1 4E00 1;1F22A 1 1 4E09 1",
  "1F22B 1 1 904A 1;1F22C 1 1 5DE6 1;1F22D 1 1 4E2D 1;1F22E 1 1 53F3 1;1F22F 1 1 6307 1",
  "1F230 1 1 8D70 1;1F231 1 1 6253 1;1F232 1 1 7981 1;1F233 1 1 7A7A 1;1F234 1 1 5408 1",
  "1F235 1 1 6E80 1;1F236 1 1 6709 1;1F237 1 1 6708 1;1F238 1 1 7533 1;1F239 1 1 5272 1",
  "1F23A 1 1 55B6 1;1F23B 1 1 914D 1;1F250 1 1 5F97 1;1F251 1 1 53EF 1;1FBF0 A 1 30 1"]

/-- A character and the characters that it stands for. -/
def sequenceRows : List String := [
  "A8 20 308;AF 20 304;B4 20 301;B8 20 327;BC 31 2044 34;BD 31 2044 32;BE 33 2044 34;130 69 307",
  "132 69 6A;133 69 6A;13F 6C B7;140 6C B7;149 2BC 6E;1C4 64 17E;1C5 64 17E;1C6 64 17E",
  "1C7 6C 6A;1C8 6C 6A;1C9 6C 6A;1CA 6E 6A;1CB 6E 6A;1CC 6E 6A;1F1 64 7A;1F2 64 7A;1F3 64 7A",
  "2D8 20 306;2D9 20 307;2DA 20 30A;2DB 20 328;2DC 20 303;2DD 20 30B;37A 20 3B9;384 20 301",
  "385 20 308 301;587 565 582;675 627 674;676 648 674;677 6C7 674;678 64A 674;E33 E4D E32",
  "EB3 ECD EB2;EDC EAB E99;EDD EAB EA1;F77 FB2 F71 F80;F79 FB3 F71 F80;1E9A 61 2BE",
  "1F80 1F00 3B9;1F81 1F01 3B9;1F82 1F02 3B9;1F83 1F03 3B9;1F84 1F04 3B9;1F85 1F05 3B9",
  "1F86 1F06 3B9;1F87 1F07 3B9;1F88 1F00 3B9;1F89 1F01 3B9;1F8A 1F02 3B9;1F8B 1F03 3B9",
  "1F8C 1F04 3B9;1F8D 1F05 3B9;1F8E 1F06 3B9;1F8F 1F07 3B9;1F90 1F20 3B9;1F91 1F21 3B9",
  "1F92 1F22 3B9;1F93 1F23 3B9;1F94 1F24 3B9;1F95 1F25 3B9;1F96 1F26 3B9;1F97 1F27 3B9",
  "1F98 1F20 3B9;1F99 1F21 3B9;1F9A 1F22 3B9;1F9B 1F23 3B9;1F9C 1F24 3B9;1F9D 1F25 3B9",
  "1F9E 1F26 3B9;1F9F 1F27 3B9;1FA0 1F60 3B9;1FA1 1F61 3B9;1FA2 1F62 3B9;1FA3 1F63 3B9",
  "1FA4 1F64 3B9;1FA5 1F65 3B9;1FA6 1F66 3B9;1FA7 1F67 3B9;1FA8 1F60 3B9;1FA9 1F61 3B9",
  "1FAA 1F62 3B9;1FAB 1F63 3B9;1FAC 1F64 3B9;1FAD 1F65 3B9;1FAE 1F66 3B9;1FAF 1F67 3B9",
  "1FB2 1F70 3B9;1FB3 3B1 3B9;1FB4 3AC 3B9;1FB7 1FB6 3B9;1FBC 3B1 3B9;1FBD 20 313;1FBF 20 313",
  "1FC0 20 342;1FC1 20 308 342;1FC2 1F74 3B9;1FC3 3B7 3B9;1FC4 3AE 3B9;1FC7 1FC6 3B9",
  "1FCC 3B7 3B9;1FCD 20 313 300;1FCE 20 313 301;1FCF 20 313 342;1FDD 20 314 300;1FDE 20 314 301",
  "1FDF 20 314 342;1FED 20 308 300;1FEE 20 308 301;1FF2 1F7C 3B9;1FF3 3C9 3B9;1FF4 3CE 3B9",
  "1FF7 1FF6 3B9;1FFC 3C9 3B9;1FFD 20 301;1FFE 20 314;2017 20 333;2033 2032 2032",
  "2034 2032 2032 2032;2036 2035 2035;2037 2035 2035 2035;203C 21 21;203E 20 305;2047 3F 3F",
  "2048 3F 21;2049 21 3F;2057 2032 2032 2032 2032;20A8 72 73;2100 61 2F 63;2101 61 2F 73",
  "2103 B0 63;2105 63 2F 6F;2106 63 2F 75;2109 B0 66;2116 6E 6F;2120 73 6D;2121 74 65 6C",
  "2122 74 6D;213B 66 61 78;2150 31 2044 37;2151 31 2044 39;2152 31 2044 31 30;2153 31 2044 33",
  "2154 32 2044 33;2155 31 2044 35;2156 32 2044 35;2157 33 2044 35;2158 34 2044 35",
  "2159 31 2044 36;215A 35 2044 36;215B 31 2044 38;215C 33 2044 38;215D 35 2044 38",
  "215E 37 2044 38;215F 31 2044;2161 69 69;2162 69 69 69;2163 69 76;2165 76 69;2166 76 69 69",
  "2167 76 69 69 69;2168 69 78;216A 78 69;216B 78 69 69;2171 69 69;2172 69 69 69;2173 69 76",
  "2175 76 69;2176 76 69 69;2177 76 69 69 69;2178 69 78;217A 78 69;217B 78 69 69",
  "2189 30 2044 33;222C 222B 222B;222D 222B 222B 222B;222F 222E 222E;2230 222E 222E 222E",
  "2469 31 30;246A 31 31;246B 31 32;246C 31 33;246D 31 34;246E 31 35;246F 31 36;2470 31 37",
  "2471 31 38;2472 31 39;2473 32 30;2474 28 31 29;2475 28 32 29;2476 28 33 29;2477 28 34 29",
  "2478 28 35 29;2479 28 36 29;247A 28 37 29;247B 28 38 29;247C 28 39 29;247D 28 31 30 29",
  "247E 28 31 31 29;247F 28 31 32 29;2480 28 31 33 29;2481 28 31 34 29;2482 28 31 35 29",
  "2483 28 31 36 29;2484 28 31 37 29;2485 28 31 38 29;2486 28 31 39 29;2487 28 32 30 29",
  "249C 28 61 29;249D 28 62 29;249E 28 63 29;249F 28 64 29;24A0 28 65 29;24A1 28 66 29",
  "24A2 28 67 29;24A3 28 68 29;24A4 28 69 29;24A5 28 6A 29;24A6 28 6B 29;24A7 28 6C 29",
  "24A8 28 6D 29;24A9 28 6E 29;24AA 28 6F 29;24AB 28 70 29;24AC 28 71 29;24AD 28 72 29",
  "24AE 28 73 29;24AF 28 74 29;24B0 28 75 29;24B1 28 76 29;24B2 28 77 29;24B3 28 78 29",
  "24B4 28 79 29;24B5 28 7A 29;2A0C 222B 222B 222B 222B;2A74 3A 3A 3D;2A75 3D 3D;2A76 3D 3D 3D",
  "309B 20 3099;309C 20 309A;309F 3088 308A;30FF 30B3 30C8;3200 28 1100 29;3201 28 1102 29",
  "3202 28 1103 29;3203 28 1105 29;3204 28 1106 29;3205 28 1107 29;3206 28 1109 29",
  "3207 28 110B 29;3208 28 110C 29;3209 28 110E 29;320A 28 110F 29;320B 28 1110 29",
  "320C 28 1111 29;320D 28 1112 29;320E 28 AC00 29;320F 28 B098 29;3210 28 B2E4 29",
  "3211 28 B77C 29;3212 28 B9C8 29;3213 28 BC14 29;3214 28 C0AC 29;3215 28 C544 29",
  "3216 28 C790 29;3217 28 CC28 29;3218 28 CE74 29;3219 28 D0C0 29;321A 28 D30C 29",
  "321B 28 D558 29;321C 28 C8FC 29;321D 28 C624 C804 29;321E 28 C624 D6C4 29;3220 28 4E00 29",
  "3221 28 4E8C 29;3222 28 4E09 29;3223 28 56DB 29;3224 28 4E94 29;3225 28 516D 29",
  "3226 28 4E03 29;3227 28 516B 29;3228 28 4E5D 29;3229 28 5341 29;322A 28 6708 29",
  "322B 28 706B 29;322C 28 6C34 29;322D 28 6728 29;322E 28 91D1 29;322F 28 571F 29",
  "3230 28 65E5 29;3231 28 682A 29;3232 28 6709 29;3233 28 793E 29;3234 28 540D 29",
  "3235 28 7279 29;3236 28 8CA1 29;3237 28 795D 29;3238 28 52B4 29;3239 28 4EE3 29",
  "323A 28 547C 29;323B 28 5B66 29;323C 28 76E3 29;323D 28 4F01 29;323E 28 8CC7 29",
  "323F 28 5354 29;3240 28 796D 29;3241 28 4F11 29;3242 28 81EA 29;3243 28 81F3 29",
  "3250 70 74 65;3251 32 31;3252 32 32;3253 32 33;3254 32 34;3255 32 35;3256 32 36;3257 32 37",
  "3258 32 38;3259 32 39;325A 33 30;325B 33 31;325C 33 32;325D 33 33;325E 33 34;325F 33 35",
  "327C CC38 ACE0;327D C8FC C758;32B1 33 36;32B2 33 37;32B3 33 38;32B4 33 39;32B5 34 30",
  "32B6 34 31;32B7 34 32;32B8 34 33;32B9 34 34;32BA 34 35;32BB 34 36;32BC 34 37;32BD 34 38",
  "32BE 34 39;32BF 35 30;32C0 31 6708;32C1 32 6708;32C2 33 6708;32C3 34 6708;32C4 35 6708",
  "32C5 36 6708;32C6 37 6708;32C7 38 6708;32C8 39 6708;32C9 31 30 6708;32CA 31 31 6708",
  "32CB 31 32 6708;32CC 68 67;32CD 65 72 67;32CE 65 76;32CF 6C 74 64;32FF 4EE4 548C",
  "3300 30A2 30D1 30FC 30C8;3301 30A2 30EB 30D5 30A1;3302 30A2 30F3 30DA 30A2",
  "3303 30A2 30FC 30EB;3304 30A4 30CB 30F3 30B0;3305 30A4 30F3 30C1;3306 30A6 30A9 30F3",
  "3307 30A8 30B9 30AF 30FC 30C9;3308 30A8 30FC 30AB 30FC;3309 30AA 30F3 30B9",
  "330A 30AA 30FC 30E0;330B 30AB 30A4 30EA;330C 30AB 30E9 30C3 30C8;330D 30AB 30ED 30EA 30FC",
  "330E 30AC 30ED 30F3;330F 30AC 30F3 30DE;3310 30AE 30AC;3311 30AE 30CB 30FC",
  "3312 30AD 30E5 30EA 30FC;3313 30AE 30EB 30C0 30FC;3314 30AD 30ED",
  "3315 30AD 30ED 30B0 30E9 30E0;3316 30AD 30ED 30E1 30FC 30C8 30EB",
  "3317 30AD 30ED 30EF 30C3 30C8;3318 30B0 30E9 30E0;3319 30B0 30E9 30E0 30C8 30F3",
  "331A 30AF 30EB 30BC 30A4 30ED;331B 30AF 30ED 30FC 30CD;331C 30B1 30FC 30B9",
  "331D 30B3 30EB 30CA;331E 30B3 30FC 30DD;331F 30B5 30A4 30AF 30EB",
  "3320 30B5 30F3 30C1 30FC 30E0;3321 30B7 30EA 30F3 30B0;3322 30BB 30F3 30C1",
  "3323 30BB 30F3 30C8;3324 30C0 30FC 30B9;3325 30C7 30B7;3326 30C9 30EB;3327 30C8 30F3",
  "3328 30CA 30CE;3329 30CE 30C3 30C8;332A 30CF 30A4 30C4;332B 30D1 30FC 30BB 30F3 30C8",
  "332C 30D1 30FC 30C4;332D 30D0 30FC 30EC 30EB;332E 30D4 30A2 30B9 30C8 30EB",
  "332F 30D4 30AF 30EB;3330 30D4 30B3;3331 30D3 30EB;3332 30D5 30A1 30E9 30C3 30C9",
  "3333 30D5 30A3 30FC 30C8;3334 30D6 30C3 30B7 30A7 30EB;3335 30D5 30E9 30F3",
  "3336 30D8 30AF 30BF 30FC 30EB;3337 30DA 30BD;3338 30DA 30CB 30D2;3339 30D8 30EB 30C4",
  "333A 30DA 30F3 30B9;333B 30DA 30FC 30B8;333C 30D9 30FC 30BF;333D 30DD 30A4 30F3 30C8",
  "333E 30DC 30EB 30C8;333F 30DB 30F3;3340 30DD 30F3 30C9;3341 30DB 30FC 30EB",
  "3342 30DB 30FC 30F3;3343 30DE 30A4 30AF 30ED;3344 30DE 30A4 30EB;3345 30DE 30C3 30CF",
  "3346 30DE 30EB 30AF;3347 30DE 30F3 30B7 30E7 30F3;3348 30DF 30AF 30ED 30F3;3349 30DF 30EA",
  "334A 30DF 30EA 30D0 30FC 30EB;334B 30E1 30AC;334C 30E1 30AC 30C8 30F3",
  "334D 30E1 30FC 30C8 30EB;334E 30E4 30FC 30C9;334F 30E4 30FC 30EB;3350 30E6 30A2 30F3",
  "3351 30EA 30C3 30C8 30EB;3352 30EA 30E9;3353 30EB 30D4 30FC;3354 30EB 30FC 30D6 30EB",
  "3355 30EC 30E0;3356 30EC 30F3 30C8 30B2 30F3;3357 30EF 30C3 30C8;3358 30 70B9;3359 31 70B9",
  "335A 32 70B9;335B 33 70B9;335C 34 70B9;335D 35 70B9;335E 36 70B9;335F 37 70B9;3360 38 70B9",
  "3361 39 70B9;3362 31 30 70B9;3363 31 31 70B9;3364 31 32 70B9;3365 31 33 70B9;3366 31 34 70B9",
  "3367 31 35 70B9;3368 31 36 70B9;3369 31 37 70B9;336A 31 38 70B9;336B 31 39 70B9",
  "336C 32 30 70B9;336D 32 31 70B9;336E 32 32 70B9;336F 32 33 70B9;3370 32 34 70B9",
  "3371 68 70 61;3372 64 61;3373 61 75;3374 62 61 72;3375 6F 76;3376 70 63;3377 64 6D",
  "3378 64 6D 32;3379 64 6D 33;337A 69 75;337B 5E73 6210;337C 662D 548C;337D 5927 6B63",
  "337E 660E 6CBB;337F 682A 5F0F 4F1A 793E;3380 70 61;3381 6E 61;3382 3BC 61;3383 6D 61",
  "3384 6B 61;3385 6B 62;3386 6D 62;3387 67 62;3388 63 61 6C;3389 6B 63 61 6C;338A 70 66",
  "338B 6E 66;338C 3BC 66;338D 3BC 67;338E 6D 67;338F 6B 67;3390 68 7A;3391 6B 68 7A",
  "3392 6D 68 7A;3393 67 68 7A;3394 74 68 7A;3395 3BC 6C;3396 6D 6C;3397 64 6C;3398 6B 6C",
  "3399 66 6D;339A 6E 6D;339B 3BC 6D;339C 6D 6D;339D 63 6D;339E 6B 6D;339F 6D 6D 32",
  "33A0 63 6D 32;33A1 6D 32;33A2 6B 6D 32;33A3 6D 6D 33;33A4 63 6D 33;33A5 6D 33;33A6 6B 6D 33",
  "33A7 6D 2215 73;33A8 6D 2215 73 32;33A9 70 61;33AA 6B 70 61;33AB 6D 70 61;33AC 67 70 61",
  "33AD 72 61 64;33AE 72 61 64 2215 73;33AF 72 61 64 2215 73 32;33B0 70 73;33B1 6E 73",
  "33B2 3BC 73;33B3 6D 73;33B4 70 76;33B5 6E 76;33B6 3BC 76;33B7 6D 76;33B8 6B 76;33B9 6D 76",
  "33BA 70 77;33BB 6E 77;33BC 3BC 77;33BD 6D 77;33BE 6B 77;33BF 6D 77;33C0 6B 3C9;33C1 6D 3C9",
  "33C3 62 71;33C4 63 63;33C5 63 64;33C6 63 2215 6B 67;33C8 64 62;33C9 67 79;33CA 68 61",
  "33CB 68 70;33CC 69 6E;33CD 6B 6B;33CE 6B 6D;33CF 6B 74;33D0 6C 6D;33D1 6C 6E;33D2 6C 6F 67",
  "33D3 6C 78;33D4 6D 62;33D5 6D 69 6C;33D6 6D 6F 6C;33D7 70 68;33D9 70 70 6D;33DA 70 72",
  "33DB 73 72;33DC 73 76;33DD 77 62;33DE 76 2215 6D;33DF 61 2215 6D;33E0 31 65E5;33E1 32 65E5",
  "33E2 33 65E5;33E3 34 65E5;33E4 35 65E5;33E5 36 65E5;33E6 37 65E5;33E7 38 65E5;33E8 39 65E5",
  "33E9 31 30 65E5;33EA 31 31 65E5;33EB 31 32 65E5;33EC 31 33 65E5;33ED 31 34 65E5",
  "33EE 31 35 65E5;33EF 31 36 65E5;33F0 31 37 65E5;33F1 31 38 65E5;33F2 31 39 65E5",
  "33F3 32 30 65E5;33F4 32 31 65E5;33F5 32 32 65E5;33F6 32 33 65E5;33F7 32 34 65E5",
  "33F8 32 35 65E5;33F9 32 36 65E5;33FA 32 37 65E5;33FB 32 38 65E5;33FC 32 39 65E5",
  "33FD 33 30 65E5;33FE 33 31 65E5;33FF 67 61 6C;FB00 66 66;FB01 66 69;FB02 66 6C;FB03 66 66 69",
  "FB04 66 66 6C;FB05 73 74;FB06 73 74;FB13 574 576;FB14 574 565;FB15 574 56B;FB16 57E 576",
  "FB17 574 56D;FB4F 5D0 5DC;FBDD 6C7 674;FBEA 626 627;FBEB 626 627;FBEC 626 6D5;FBED 626 6D5",
  "FBEE 626 648;FBEF 626 648;FBF0 626 6C7;FBF1 626 6C7;FBF2 626 6C6;FBF3 626 6C6;FBF4 626 6C8",
  "FBF5 626 6C8;FBF6 626 6D0;FBF7 626 6D0;FBF8 626 6D0;FBF9 626 649;FBFA 626 649;FBFB 626 649",
  "FC00 626 62C;FC01 626 62D;FC02 626 645;FC03 626 649;FC04 626 64A;FC05 628 62C;FC06 628 62D",
  "FC07 628 62E;FC08 628 645;FC09 628 649;FC0A 628 64A;FC0B 62A 62C;FC0C 62A 62D;FC0D 62A 62E",
  "FC0E 62A 645;FC0F 62A 649;FC10 62A 64A;FC11 62B 62C;FC12 62B 645;FC13 62B 649;FC14 62B 64A",
  "FC15 62C 62D;FC16 62C 645;FC17 62D 62C;FC18 62D 645;FC19 62E 62C;FC1A 62E 62D;FC1B 62E 645",
  "FC1C 633 62C;FC1D 633 62D;FC1E 633 62E;FC1F 633 645;FC20 635 62D;FC21 635 645;FC22 636 62C",
  "FC23 636 62D;FC24 636 62E;FC25 636 645;FC26 637 62D;FC27 637 645;FC28 638 645;FC29 639 62C",
  "FC2A 639 645;FC2B 63A 62C;FC2C 63A 645;FC2D 641 62C;FC2E 641 62D;FC2F 641 62E;FC30 641 645",
  "FC31 641 649;FC32 641 64A;FC33 642 62D;FC34 642 645;FC35 642 649;FC36 642 64A;FC37 643 627",
  "FC38 643 62C;FC39 643 62D;FC3A 643 62E;FC3B 643 644;FC3C 643 645;FC3D 643 649;FC3E 643 64A",
  "FC3F 644 62C;FC40 644 62D;FC41 644 62E;FC42 644 645;FC43 644 649;FC44 644 64A;FC45 645 62C",
  "FC46 645 62D;FC47 645 62E;FC48 645 645;FC49 645 649;FC4A 645 64A;FC4B 646 62C;FC4C 646 62D",
  "FC4D 646 62E;FC4E 646 645;FC4F 646 649;FC50 646 64A;FC51 647 62C;FC52 647 645;FC53 647 649",
  "FC54 647 64A;FC55 64A 62C;FC56 64A 62D;FC57 64A 62E;FC58 64A 645;FC59 64A 649;FC5A 64A 64A",
  "FC5B 630 670;FC5C 631 670;FC5D 649 670;FC5E 20 64C 651;FC5F 20 64D 651;FC60 20 64E 651",
  "FC61 20 64F 651;FC62 20 650 651;FC63 20 651 670;FC64 626 631;FC65 626 632;FC66 626 645",
  "FC67 626 646;FC68 626 649;FC69 626 64A;FC6A 628 631;FC6B 628 632;FC6C 628 645;FC6D 628 646",
  "FC6E 628 649;FC6F 628 64A;FC70 62A 631;FC71 62A 632;FC72 62A 645;FC73 62A 646;FC74 62A 649",
  "FC75 62A 64A;FC76 62B 631;FC77 62B 632;FC78 62B 645;FC79 62B 646;FC7A 62B 649;FC7B 62B 64A",
  "FC7C 641 649;FC7D 641 64A;FC7E 642 649;FC7F 642 64A;FC80 643 627;FC81 643 644;FC82 643 645",
  "FC83 643 649;FC84 643 64A;FC85 644 645;FC86 644 649;FC87 644 64A;FC88 645 627;FC89 645 645",
  "FC8A 646 631;FC8B 646 632;FC8C 646 645;FC8D 646 646;FC8E 646 649;FC8F 646 64A;FC90 649 670",
  "FC91 64A 631;FC92 64A 632;FC93 64A 645;FC94 64A 646;FC95 64A 649;FC96 64A 64A;FC97 626 62C",
  "FC98 626 62D;FC99 626 62E;FC9A 626 645;FC9B 626 647;FC9C 628 62C;FC9D 628 62D;FC9E 628 62E",
  "FC9F 628 645;FCA0 628 647;FCA1 62A 62C;FCA2 62A 62D;FCA3 62A 62E;FCA4 62A 645;FCA5 62A 647",
  "FCA6 62B 645;FCA7 62C 62D;FCA8 62C 645;FCA9 62D 62C;FCAA 62D 645;FCAB 62E 62C;FCAC 62E 645",
  "FCAD 633 62C;FCAE 633 62D;FCAF 633 62E;FCB0 633 645;FCB1 635 62D;FCB2 635 62E;FCB3 635 645",
  "FCB4 636 62C;FCB5 636 62D;FCB6 636 62E;FCB7 636 645;FCB8 637 62D;FCB9 638 645;FCBA 639 62C",
  "FCBB 639 645;FCBC 63A 62C;FCBD 63A 645;FCBE 641 62C;FCBF 641 62D;FCC0 641 62E;FCC1 641 645",
  "FCC2 642 62D;FCC3 642 645;FCC4 643 62C;FCC5 643 62D;FCC6 643 62E;FCC7 643 644;FCC8 643 645",
  "FCC9 644 62C;FCCA 644 62D;FCCB 644 62E;FCCC 644 645;FCCD 644 647;FCCE 645 62C;FCCF 645 62D",
  "FCD0 645 62E;FCD1 645 645;FCD2 646 62C;FCD3 646 62D;FCD4 646 62E;FCD5 646 645;FCD6 646 647",
  "FCD7 647 62C;FCD8 647 645;FCD9 647 670;FCDA 64A 62C;FCDB 64A 62D;FCDC 64A 62E;FCDD 64A 645",
  "FCDE 64A 647;FCDF 626 645;FCE0 626 647;FCE1 628 645;FCE2 628 647;FCE3 62A 645;FCE4 62A 647",
  "FCE5 62B 645;FCE6 62B 647;FCE7 633 645;FCE8 633 647;FCE9 634 645;FCEA 634 647;FCEB 643 644",
  "FCEC 643 645;FCED 644 645;FCEE 646 645;FCEF 646 647;FCF0 64A 645;FCF1 64A 647",
  "FCF2 640 64E 651;FCF3 640 64F 651;FCF4 640 650 651;FCF5 637 649;FCF6 637 64A;FCF7 639 649",
  "FCF8 639 64A;FCF9 63A 649;FCFA 63A 64A;FCFB 633 649;FCFC 633 64A;FCFD 634 649;FCFE 634 64A",
  "FCFF 62D 649;FD00 62D 64A;FD01 62C 649;FD02 62C 64A;FD03 62E 649;FD04 62E 64A;FD05 635 649",
  "FD06 635 64A;FD07 636 649;FD08 636 64A;FD09 634 62C;FD0A 634 62D;FD0B 634 62E;FD0C 634 645",
  "FD0D 634 631;FD0E 633 631;FD0F 635 631;FD10 636 631;FD11 637 649;FD12 637 64A;FD13 639 649",
  "FD14 639 64A;FD15 63A 649;FD16 63A 64A;FD17 633 649;FD18 633 64A;FD19 634 649;FD1A 634 64A",
  "FD1B 62D 649;FD1C 62D 64A;FD1D 62C 649;FD1E 62C 64A;FD1F 62E 649;FD20 62E 64A;FD21 635 649",
  "FD22 635 64A;FD23 636 649;FD24 636 64A;FD25 634 62C;FD26 634 62D;FD27 634 62E;FD28 634 645",
  "FD29 634 631;FD2A 633 631;FD2B 635 631;FD2C 636 631;FD2D 634 62C;FD2E 634 62D;FD2F 634 62E",
  "FD30 634 645;FD31 633 647;FD32 634 647;FD33 637 645;FD34 633 62C;FD35 633 62D;FD36 633 62E",
  "FD37 634 62C;FD38 634 62D;FD39 634 62E;FD3A 637 645;FD3B 638 645;FD3C 627 64B;FD3D 627 64B",
  "FD50 62A 62C 645;FD51 62A 62D 62C;FD52 62A 62D 62C;FD53 62A 62D 645;FD54 62A 62E 645",
  "FD55 62A 645 62C;FD56 62A 645 62D;FD57 62A 645 62E;FD58 62C 645 62D;FD59 62C 645 62D",
  "FD5A 62D 645 64A;FD5B 62D 645 649;FD5C 633 62D 62C;FD5D 633 62C 62D;FD5E 633 62C 649",
  "FD5F 633 645 62D;FD60 633 645 62D;FD61 633 645 62C;FD62 633 645 645;FD63 633 645 645",
  "FD64 635 62D 62D;FD65 635 62D 62D;FD66 635 645 645;FD67 634 62D 645;FD68 634 62D 645",
  "FD69 634 62C 64A;FD6A 634 645 62E;FD6B 634 645 62E;FD6C 634 645 645;FD6D 634 645 645",
  "FD6E 636 62D 649;FD6F 636 62E 645;FD70 636 62E 645;FD71 637 645 62D;FD72 637 645 62D",
  "FD73 637 645 645;FD74 637 645 64A;FD75 639 62C 645;FD76 639 645 645;FD77 639 645 645",
  "FD78 639 645 649;FD79 63A 645 645;FD7A 63A 645 64A;FD7B 63A 645 649;FD7C 641 62E 645",
  "FD7D 641 62E 645;FD7E 642 645 62D;FD7F 642 645 645;FD80 644 62D 645;FD81 644 62D 64A",
  "FD82 644 62D 649;FD83 644 62C 62C;FD84 644 62C 62C;FD85 644 62E 645;FD86 644 62E 645",
  "FD87 644 645 62D;FD88 644 645 62D;FD89 645 62D 62C;FD8A 645 62D 645;FD8B 645 62D 64A",
  "FD8C 645 62C 62D;FD8D 645 62C 645;FD8E 645 62E 62C;FD8F 645 62E 645;FD92 645 62C 62E",
  "FD93 647 645 62C;FD94 647 645 645;FD95 646 62D 645;FD96 646 62D 649;FD97 646 62C 645",
  "FD98 646 62C 645;FD99 646 62C 649;FD9A 646 645 64A;FD9B 646 645 649;FD9C 64A 645 645",
  "FD9D 64A 645 645;FD9E 628 62E 64A;FD9F 62A 62C 64A;FDA0 62A 62C 649;FDA1 62A 62E 64A",
  "FDA2 62A 62E 649;FDA3 62A 645 64A;FDA4 62A 645 649;FDA5 62C 645 64A;FDA6 62C 62D 649",
  "FDA7 62C 645 649;FDA8 633 62E 649;FDA9 635 62D 64A;FDAA 634 62D 64A;FDAB 636 62D 64A",
  "FDAC 644 62C 64A;FDAD 644 645 64A;FDAE 64A 62D 64A;FDAF 64A 62C 64A;FDB0 64A 645 64A",
  "FDB1 645 645 64A;FDB2 642 645 64A;FDB3 646 62D 64A;FDB4 642 645 62D;FDB5 644 62D 645",
  "FDB6 639 645 64A;FDB7 643 645 64A;FDB8 646 62C 62D;FDB9 645 62E 64A;FDBA 644 62C 645",
  "FDBB 643 645 645;FDBC 644 62C 645;FDBD 646 62C 62D;FDBE 62C 62D 64A;FDBF 62D 62C 64A",
  "FDC0 645 62C 64A;FDC1 641 645 64A;FDC2 628 62D 64A;FDC3 643 645 645;FDC4 639 62C 645",
  "FDC5 635 645 645;FDC6 633 62E 64A;FDC7 646 62C 64A;FDF0 635 644 6D2;FDF1 642 644 6D2",
  "FDF2 627 644 644 647;FDF3 627 643 628 631;FDF4 645 62D 645 62F;FDF5 635 644 639 645",
  "FDF6 631 633 648 644;FDF7 639 644 64A 647;FDF8 648 633 644 645;FDF9 635 644 649",
  "FDFA 635 644 649 20 627 644 644 647 20 639 644 64A 647 20 648 633 644 645",
  "FDFB 62C 644 20 62C 644 627 644 647;FDFC 631 6CC 627 644;FE49 20 305;FE4A 20 305;FE4B 20 305",
  "FE4C 20 305;FE70 20 64B;FE71 640 64B;FE72 20 64C;FE74 20 64D;FE76 20 64E;FE77 640 64E",
  "FE78 20 64F;FE79 640 64F;FE7A 20 650;FE7B 640 650;FE7C 20 651;FE7D 640 651;FE7E 20 652",
  "FE7F 640 652;FEF5 644 622;FEF6 644 622;FEF7 644 623;FEF8 644 623;FEF9 644 625;FEFA 644 625",
  "FEFB 644 627;FEFC 644 627;FFE3 20 304;1F101 30 2C;1F102 31 2C;1F103 32 2C;1F104 33 2C",
  "1F105 34 2C;1F106 35 2C;1F107 36 2C;1F108 37 2C;1F109 38 2C;1F10A 39 2C;1F110 28 61 29",
  "1F111 28 62 29;1F112 28 63 29;1F113 28 64 29;1F114 28 65 29;1F115 28 66 29;1F116 28 67 29",
  "1F117 28 68 29;1F118 28 69 29;1F119 28 6A 29;1F11A 28 6B 29;1F11B 28 6C 29;1F11C 28 6D 29",
  "1F11D 28 6E 29;1F11E 28 6F 29;1F11F 28 70 29;1F120 28 71 29;1F121 28 72 29;1F122 28 73 29",
  "1F123 28 74 29;1F124 28 75 29;1F125 28 76 29;1F126 28 77 29;1F127 28 78 29;1F128 28 79 29",
  "1F129 28 7A 29;1F12A 3014 73 3015;1F12D 63 64;1F12E 77 7A;1F14A 68 76;1F14B 6D 76",
  "1F14C 73 64;1F14D 73 73;1F14E 70 70 76;1F14F 77 63;1F16A 6D 63;1F16B 6D 64;1F16C 6D 72",
  "1F190 64 6A;1F200 307B 304B;1F201 30B3 30B3;1F240 3014 672C 3015;1F241 3014 4E09 3015",
  "1F242 3014 4E8C 3015;1F243 3014 5B89 3015;1F244 3014 70B9 3015;1F245 3014 6253 3015",
  "1F246 3014 76D7 3015;1F247 3014 52DD 3015;1F248 3014 6557 3015"]

/-- Switch points of the characters that are left out. -/
def ignoredSwitches : List Nat := [
  0xAD, 0xAE, 0x34F, 0x350, 0x115F, 0x1161, 0x17B4, 0x17B6, 0x180B, 0x1810, 0x200B, 0x200C,
  0x2060, 0x2065, 0x206A, 0x2070, 0x3164, 0x3165, 0xFE00, 0xFE10, 0xFEFF, 0xFF00, 0xFFA0, 0xFFA1,
  0x1BCA0, 0x1BCA4, 0x1D173, 0x1D17B, 0xE0100, 0xE01F0]

/-- Switch points of the characters that no domain has. -/
def refusedSwitches : List Nat := [
  0x80, 0xA0, 0x378, 0x37A, 0x380, 0x384, 0x38B, 0x38C, 0x38D, 0x38E, 0x3A2, 0x3A3, 0x530, 0x531,
  0x557, 0x559, 0x58B, 0x58D, 0x590, 0x591, 0x5C8, 0x5D0, 0x5EB, 0x5EF, 0x5F5, 0x606, 0x61C,
  0x61D, 0x6DD, 0x6DE, 0x70E, 0x710, 0x74B, 0x74D, 0x7B2, 0x7C0, 0x7FB, 0x7FD, 0x82E, 0x830,
  0x83F, 0x840, 0x85C, 0x85E, 0x85F, 0x860, 0x86B, 0x870, 0x890, 0x897, 0x8E2, 0x8E3, 0x984,
  0x985, 0x98D, 0x98F, 0x991, 0x993, 0x9A9, 0x9AA, 0x9B1, 0x9B2, 0x9B3, 0x9B6, 0x9BA, 0x9BC,
  0x9C5, 0x9C7, 0x9C9, 0x9CB, 0x9CF, 0x9D7, 0x9D8, 0x9DC, 0x9DE, 0x9DF, 0x9E4, 0x9E6, 0x9FF,
  0xA01, 0xA04, 0xA05, 0xA0B, 0xA0F, 0xA11, 0xA13, 0xA29, 0xA2A, 0xA31, 0xA32, 0xA34, 0xA35,
  0xA37, 0xA38, 0xA3A, 0xA3C, 0xA3D, 0xA3E, 0xA43, 0xA47, 0xA49, 0xA4B, 0xA4E, 0xA51, 0xA52,
  0xA59, 0xA5D, 0xA5E, 0xA5F, 0xA66, 0xA77, 0xA81, 0xA84, 0xA85, 0xA8E, 0xA8F, 0xA92, 0xA93,
  0xAA9, 0xAAA, 0xAB1, 0xAB2, 0xAB4, 0xAB5, 0xABA, 0xABC, 0xAC6, 0xAC7, 0xACA, 0xACB, 0xACE,
  0xAD0, 0xAD1, 0xAE0, 0xAE4, 0xAE6, 0xAF2, 0xAF9, 0xB00, 0xB01, 0xB04, 0xB05, 0xB0D, 0xB0F,
  0xB11, 0xB13, 0xB29, 0xB2A, 0xB31, 0xB32, 0xB34, 0xB35, 0xB3A, 0xB3C, 0xB45, 0xB47, 0xB49,
  0xB4B, 0xB4E, 0xB55, 0xB58, 0xB5C, 0xB5E, 0xB5F, 0xB64, 0xB66, 0xB78, 0xB82, 0xB84, 0xB85,
  0xB8B, 0xB8E, 0xB91, 0xB92, 0xB96, 0xB99, 0xB9B, 0xB9C, 0xB9D, 0xB9E, 0xBA0, 0xBA3, 0xBA5,
  0xBA8, 0xBAB, 0xBAE, 0xBBA, 0xBBE, 0xBC3, 0xBC6, 0xBC9, 0xBCA, 0xBCE, 0xBD0, 0xBD1, 0xBD7,
  0xBD8, 0xBE6, 0xBFB, 0xC00, 0xC0D, 0xC0E, 0xC11, 0xC12, 0xC29, 0xC2A, 0xC3A, 0xC3C, 0xC45,
  0xC46, 0xC49, 0xC4A, 0xC4E, 0xC55, 0xC57, 0xC58, 0xC5B, 0xC5C, 0xC5E, 0xC60, 0xC64, 0xC66,
  0xC70, 0xC77, 0xC8D, 0xC8E, 0xC91, 0xC92, 0xCA9, 0xCAA, 0xCB4, 0xCB5, 0xCBA, 0xCBC, 0xCC5,
  0xCC6, 0xCC9, 0xCCA, 0xCCE, 0xCD5, 0xCD7, 0xCDC, 0xCDF, 0xCE0, 0xCE4, 0xCE6, 0xCF0, 0xCF1,
  0xCF4, 0xD00, 0xD0D, 0xD0E, 0xD11, 0xD12, 0xD45, 0xD46, 0xD49, 0xD4A, 0xD50, 0xD54, 0xD64,
  0xD66, 0xD80, 0xD81, 0xD84, 0xD85, 0xD97, 0xD9A, 0xDB2, 0xDB3, 0xDBC, 0xDBD, 0xDBE, 0xDC0,
  0xDC7, 0xDCA, 0xDCB, 0xDCF, 0xDD5, 0xDD6, 0xDD7, 0xDD8, 0xDE0, 0xDE6, 0xDF0, 0xDF2, 0xDF5,
  0xE01, 0xE3B, 0xE3F, 0xE5C, 0xE81, 0xE83, 0xE84, 0xE85, 0xE86, 0xE8B, 0xE8C, 0xEA4, 0xEA5,
  0xEA6, 0xEA7, 0xEBE, 0xEC0, 0xEC5, 0xEC6, 0xEC7, 0xEC8, 0xECF, 0xED0, 0xEDA, 0xEDC, 0xEE0,
  0xF00, 0xF48, 0xF49, 0xF6D, 0xF71, 0xF98, 0xF99, 0xFBD, 0xFBE, 0xFCD, 0xFCE, 0xFDB, 0x1000,
  0x10C6, 0x10C7, 0x10C8, 0x10CD, 0x10CE, 0x10D0, 0x1249, 0x124A, 0x124E, 0x1250, 0x1257, 0x1258,
  0x1259, 0x125A, 0x125E, 0x1260, 0x1289, 0x128A, 0x128E, 0x1290, 0x12B1, 0x12B2, 0x12B6, 0x12B8,
  0x12BF, 0x12C0, 0x12C1, 0x12C2, 0x12C6, 0x12C8, 0x12D7, 0x12D8, 0x1311, 0x1312, 0x1316, 0x1318,
  0x135B, 0x135D, 0x137D, 0x1380, 0x139A, 0x13A0, 0x13F6, 0x13F8, 0x13FE, 0x1400, 0x1680, 0x1681,
  0x169D, 0x16A0, 0x16F9, 0x1700, 0x1716, 0x171F, 0x1737, 0x1740, 0x1754, 0x1760, 0x176D, 0x176E,
  0x1771, 0x1772, 0x1774, 0x1780, 0x17DE, 0x17E0, 0x17EA, 0x17F0, 0x17FA, 0x1800, 0x181A, 0x1820,
  0x1879, 0x1880, 0x18AB, 0x18B0, 0x18F6, 0x1900, 0x191F, 0x1920, 0x192C, 0x1930, 0x193C, 0x1940,
  0x1941, 0x1944, 0x196E, 0x1970, 0x1975, 0x1980, 0x19AC, 0x19B0, 0x19CA, 0x19D0, 0x19DB, 0x19DE,
  0x1A1C, 0x1A1E, 0x1A5F, 0x1A60, 0x1A7D, 0x1A7F, 0x1A8A, 0x1A90, 0x1A9A, 0x1AA0, 0x1AAE, 0x1AB0,
  0x1ADE, 0x1AE0, 0x1AEC, 0x1B00, 0x1B4D, 0x1B4E, 0x1BF4, 0x1BFC, 0x1C38, 0x1C3B, 0x1C4A, 0x1C4D,
  0x1C8B, 0x1C90, 0x1CBB, 0x1CBD, 0x1CC8, 0x1CD0, 0x1CFB, 0x1D00, 0x1F16, 0x1F18, 0x1F1E, 0x1F20,
  0x1F46, 0x1F48, 0x1F4E, 0x1F50, 0x1F58, 0x1F59, 0x1F5A, 0x1F5B, 0x1F5C, 0x1F5D, 0x1F5E, 0x1F5F,
  0x1F7E, 0x1F80, 0x1FB5, 0x1FB6, 0x1FC5, 0x1FC6, 0x1FD4, 0x1FD6, 0x1FDC, 0x1FDD, 0x1FF0, 0x1FF2,
  0x1FF5, 0x1FF6, 0x1FFF, 0x2000, 0x200E, 0x2010, 0x2024, 0x2027, 0x2028, 0x202F, 0x2065, 0x206A,
  0x2072, 0x2074, 0x208F, 0x2090, 0x209D, 0x20A0, 0x20C2, 0x20D0, 0x20F1, 0x2100, 0x218C, 0x2190,
  0x242A, 0x2440, 0x244B, 0x2460, 0x2488, 0x249C, 0x2B74, 0x2B76, 0x2CF4, 0x2CF9, 0x2D26, 0x2D27,
  0x2D28, 0x2D2D, 0x2D2E, 0x2D30, 0x2D68, 0x2D6F, 0x2D71, 0x2D7F, 0x2D97, 0x2DA0, 0x2DA7, 0x2DA8,
  0x2DAF, 0x2DB0, 0x2DB7, 0x2DB8, 0x2DBF, 0x2DC0, 0x2DC7, 0x2DC8, 0x2DCF, 0x2DD0, 0x2DD7, 0x2DD8,
  0x2DDF, 0x2DE0, 0x2E5E, 0x2E80, 0x2E9A, 0x2E9B, 0x2EF4, 0x2F00, 0x2FD6, 0x3000, 0x3040, 0x3041,
  0x3097, 0x3099, 0x3100, 0x3105, 0x3130, 0x3131, 0x318F, 0x3190, 0x31E6, 0x31F0, 0x321F, 0x3220,
  0x33C2, 0x33C3, 0x33C7, 0x33C8, 0x33D8, 0x33D9, 0xA48D, 0xA490, 0xA4C7, 0xA4D0, 0xA62C, 0xA640,
  0xA6F8, 0xA700, 0xA7DD, 0xA7F1, 0xA82D, 0xA830, 0xA83A, 0xA840, 0xA878, 0xA880, 0xA8C6, 0xA8CE,
  0xA8DA, 0xA8E0, 0xA954, 0xA95F, 0xA97D, 0xA980, 0xA9CE, 0xA9CF, 0xA9DA, 0xA9DE, 0xA9FF, 0xAA00,
  0xAA37, 0xAA40, 0xAA4E, 0xAA50, 0xAA5A, 0xAA5C, 0xAAC3, 0xAADB, 0xAAF7, 0xAB01, 0xAB07, 0xAB09,
  0xAB0F, 0xAB11, 0xAB17, 0xAB20, 0xAB27, 0xAB28, 0xAB2F, 0xAB30, 0xAB6C, 0xAB70, 0xABEE, 0xABF0,
  0xABFA, 0xAC00, 0xD7A4, 0xD7B0, 0xD7C7, 0xD7CB, 0xD7FC, 0xF900, 0xFA6E, 0xFA70, 0xFADA, 0xFB00,
  0xFB07, 0xFB13, 0xFB18, 0xFB1D, 0xFB37, 0xFB38, 0xFB3D, 0xFB3E, 0xFB3F, 0xFB40, 0xFB42, 0xFB43,
  0xFB45, 0xFB46, 0xFDD0, 0xFDF0, 0xFE12, 0xFE13, 0xFE19, 0xFE20, 0xFE30, 0xFE31, 0xFE52, 0xFE54,
  0xFE67, 0xFE68, 0xFE6C, 0xFE70, 0xFE75, 0xFE76, 0xFEFD, 0xFEFF, 0xFF00, 0xFF01, 0xFFBF, 0xFFC2,
  0xFFC8, 0xFFCA, 0xFFD0, 0xFFD2, 0xFFD8, 0xFFDA, 0xFFDD, 0xFFE0, 0xFFE7, 0xFFE8, 0xFFEF,
  0x10000, 0x1000C, 0x1000D, 0x10027, 0x10028, 0x1003B, 0x1003C, 0x1003E, 0x1003F, 0x1004E,
  0x10050, 0x1005E, 0x10080, 0x100FB, 0x10100, 0x10103, 0x10107, 0x10134, 0x10137, 0x1018F,
  0x10190, 0x1019D, 0x101A0, 0x101A1, 0x101D0, 0x101FE, 0x10280, 0x1029D, 0x102A0, 0x102D1,
  0x102E0, 0x102FC, 0x10300, 0x10324, 0x1032D, 0x1034B, 0x10350, 0x1037B, 0x10380, 0x1039E,
  0x1039F, 0x103C4, 0x103C8, 0x103D6, 0x10400, 0x1049E, 0x104A0, 0x104AA, 0x104B0, 0x104D4,
  0x104D8, 0x104FC, 0x10500, 0x10528, 0x10530, 0x10564, 0x1056F, 0x1057B, 0x1057C, 0x1058B,
  0x1058C, 0x10593, 0x10594, 0x10596, 0x10597, 0x105A2, 0x105A3, 0x105B2, 0x105B3, 0x105BA,
  0x105BB, 0x105BD, 0x105C0, 0x105F4, 0x10600, 0x10737, 0x10740, 0x10756, 0x10760, 0x10768,
  0x10780, 0x10786, 0x10787, 0x107B1, 0x107B2, 0x107BB, 0x10800, 0x10806, 0x10808, 0x10809,
  0x1080A, 0x10836, 0x10837, 0x10839, 0x1083C, 0x1083D, 0x1083F, 0x10856, 0x10857, 0x1089F,
  0x108A7, 0x108B0, 0x108E0, 0x108F3, 0x108F4, 0x108F6, 0x108FB, 0x1091C, 0x1091F, 0x1093A,
  0x1093F, 0x1095A, 0x10980, 0x109B8, 0x109BC, 0x109D0, 0x109D2, 0x10A04, 0x10A05, 0x10A07,
  0x10A0C, 0x10A14, 0x10A15, 0x10A18, 0x10A19, 0x10A36, 0x10A38, 0x10A3B, 0x10A3F, 0x10A49,
  0x10A50, 0x10A59, 0x10A60, 0x10AA0, 0x10AC0, 0x10AE7, 0x10AEB, 0x10AF7, 0x10B00, 0x10B36,
  0x10B39, 0x10B56, 0x10B58, 0x10B73, 0x10B78, 0x10B92, 0x10B99, 0x10B9D, 0x10BA9, 0x10BB0,
  0x10C00, 0x10C49, 0x10C80, 0x10CB3, 0x10CC0, 0x10CF3, 0x10CFA, 0x10D28, 0x10D30, 0x10D3A,
  0x10D40, 0x10D66, 0x10D69, 0x10D86, 0x10D8E, 0x10D90, 0x10E60, 0x10E7F, 0x10E80, 0x10EAA,
  0x10EAB, 0x10EAE, 0x10EB0, 0x10EB2, 0x10EC2, 0x10EC8, 0x10ED0, 0x10ED9, 0x10EFA, 0x10F28,
  0x10F30, 0x10F5A, 0x10F70, 0x10F8A, 0x10FB0, 0x10FCC, 0x10FE0, 0x10FF7, 0x11000, 0x1104E,
  0x11052, 0x11076, 0x1107F, 0x110BD, 0x110BE, 0x110C3, 0x110D0, 0x110E9, 0x110F0, 0x110FA,
  0x11100, 0x11135, 0x11136, 0x11148, 0x11150, 0x11177, 0x11180, 0x111E0, 0x111E1, 0x111F5,
  0x11200, 0x11212, 0x11213, 0x11242, 0x11280, 0x11287, 0x11288, 0x11289, 0x1128A, 0x1128E,
  0x1128F, 0x1129E, 0x1129F, 0x112AA, 0x112B0, 0x112EB, 0x112F0, 0x112FA, 0x11300, 0x11304,
  0x11305, 0x1130D, 0x1130F, 0x11311, 0x11313, 0x11329, 0x1132A, 0x11331, 0x11332, 0x11334,
  0x11335, 0x1133A, 0x1133B, 0x11345, 0x11347, 0x11349, 0x1134B, 0x1134E, 0x11350, 0x11351,
  0x11357, 0x11358, 0x1135D, 0x11364, 0x11366, 0x1136D, 0x11370, 0x11375, 0x11380, 0x1138A,
  0x1138B, 0x1138C, 0x1138E, 0x1138F, 0x11390, 0x113B6, 0x113B7, 0x113C1, 0x113C2, 0x113C3,
  0x113C5, 0x113C6, 0x113C7, 0x113CB, 0x113CC, 0x113D6, 0x113D7, 0x113D9, 0x113E1, 0x113E3,
  0x11400, 0x1145C, 0x1145D, 0x11462, 0x11480, 0x114C8, 0x114D0, 0x114DA, 0x11580, 0x115B6,
  0x115B8, 0x115DE, 0x11600, 0x11645, 0x11650, 0x1165A, 0x11660, 0x1166D, 0x11680, 0x116BA,
  0x116C0, 0x116CA, 0x116D0, 0x116E4, 0x11700, 0x1171B, 0x1171D, 0x1172C, 0x11730, 0x11747,
  0x11800, 0x1183C, 0x118A0, 0x118F3, 0x118FF, 0x11907, 0x11909, 0x1190A, 0x1190C, 0x11914,
  0x11915, 0x11917, 0x11918, 0x11936, 0x11937, 0x11939, 0x1193B, 0x11947, 0x11950, 0x1195A,
  0x119A0, 0x119A8, 0x119AA, 0x119D8, 0x119DA, 0x119E5, 0x11A00, 0x11A48, 0x11A50, 0x11AA3,
  0x11AB0, 0x11AF9, 0x11B00, 0x11B0A, 0x11B60, 0x11B68, 0x11BC0, 0x11BE2, 0x11BF0, 0x11BFA,
  0x11C00, 0x11C09, 0x11C0A, 0x11C37, 0x11C38, 0x11C46, 0x11C50, 0x11C6D, 0x11C70, 0x11C90,
  0x11C92, 0x11CA8, 0x11CA9, 0x11CB7, 0x11D00, 0x11D07, 0x11D08, 0x11D0A, 0x11D0B, 0x11D37,
  0x11D3A, 0x11D3B, 0x11D3C, 0x11D3E, 0x11D3F, 0x11D48, 0x11D50, 0x11D5A, 0x11D60, 0x11D66,
  0x11D67, 0x11D69, 0x11D6A, 0x11D8F, 0x11D90, 0x11D92, 0x11D93, 0x11D99, 0x11DA0, 0x11DAA,
  0x11DB0, 0x11DDC, 0x11DE0, 0x11DEA, 0x11EE0, 0x11EF9, 0x11F00, 0x11F11, 0x11F12, 0x11F3B,
  0x11F3E, 0x11F5B, 0x11FB0, 0x11FB1, 0x11FC0, 0x11FF2, 0x11FFF, 0x1239A, 0x12400, 0x1246F,
  0x12470, 0x12475, 0x12480, 0x12544, 0x12F90, 0x12FF3, 0x13000, 0x13430, 0x13440, 0x13456,
  0x13460, 0x143FB, 0x14400, 0x14647, 0x16100, 0x1613A, 0x16800, 0x16A39, 0x16A40, 0x16A5F,
  0x16A60, 0x16A6A, 0x16A6E, 0x16ABF, 0x16AC0, 0x16ACA, 0x16AD0, 0x16AEE, 0x16AF0, 0x16AF6,
  0x16B00, 0x16B46, 0x16B50, 0x16B5A, 0x16B5B, 0x16B62, 0x16B63, 0x16B78, 0x16B7D, 0x16B90,
  0x16D40, 0x16D7A, 0x16E40, 0x16E9B, 0x16EA0, 0x16EB9, 0x16EBB, 0x16ED4, 0x16F00, 0x16F4B,
  0x16F4F, 0x16F88, 0x16F8F, 0x16FA0, 0x16FE0, 0x16FE5, 0x16FF0, 0x16FF7, 0x17000, 0x18CD6,
  0x18CFF, 0x18D1F, 0x18D80, 0x18DF3, 0x1AFF0, 0x1AFF4, 0x1AFF5, 0x1AFFC, 0x1AFFD, 0x1AFFF,
  0x1B000, 0x1B123, 0x1B132, 0x1B133, 0x1B150, 0x1B153, 0x1B155, 0x1B156, 0x1B164, 0x1B168,
  0x1B170, 0x1B2FC, 0x1BC00, 0x1BC6B, 0x1BC70, 0x1BC7D, 0x1BC80, 0x1BC89, 0x1BC90, 0x1BC9A,
  0x1BC9C, 0x1BCA4, 0x1CC00, 0x1CCFD, 0x1CD00, 0x1CEB4, 0x1CEBA, 0x1CED1, 0x1CEE0, 0x1CEF1,
  0x1CF00, 0x1CF2E, 0x1CF30, 0x1CF47, 0x1CF50, 0x1CFC4, 0x1D000, 0x1D0F6, 0x1D100, 0x1D127,
  0x1D129, 0x1D1EB, 0x1D200, 0x1D246, 0x1D2C0, 0x1D2D4, 0x1D2E0, 0x1D2F4, 0x1D300, 0x1D357,
  0x1D360, 0x1D379, 0x1D400, 0x1D455, 0x1D456, 0x1D49D, 0x1D49E, 0x1D4A0, 0x1D4A2, 0x1D4A3,
  0x1D4A5, 0x1D4A7, 0x1D4A9, 0x1D4AD, 0x1D4AE, 0x1D4BA, 0x1D4BB, 0x1D4BC, 0x1D4BD, 0x1D4C4,
  0x1D4C5, 0x1D506, 0x1D507, 0x1D50B, 0x1D50D, 0x1D515, 0x1D516, 0x1D51D, 0x1D51E, 0x1D53A,
  0x1D53B, 0x1D53F, 0x1D540, 0x1D545, 0x1D546, 0x1D547, 0x1D54A, 0x1D551, 0x1D552, 0x1D6A6,
  0x1D6A8, 0x1D7CC, 0x1D7CE, 0x1DA8C, 0x1DA9B, 0x1DAA0, 0x1DAA1, 0x1DAB0, 0x1DF00, 0x1DF1F,
  0x1DF25, 0x1DF2B, 0x1E000, 0x1E007, 0x1E008, 0x1E019, 0x1E01B, 0x1E022, 0x1E023, 0x1E025,
  0x1E026, 0x1E02B, 0x1E030, 0x1E06E, 0x1E08F, 0x1E090, 0x1E100, 0x1E12D, 0x1E130, 0x1E13E,
  0x1E140, 0x1E14A, 0x1E14E, 0x1E150, 0x1E290, 0x1E2AF, 0x1E2C0, 0x1E2FA, 0x1E2FF, 0x1E300,
  0x1E4D0, 0x1E4FA, 0x1E5D0, 0x1E5FB, 0x1E5FF, 0x1E600, 0x1E6C0, 0x1E6DF, 0x1E6E0, 0x1E6F6,
  0x1E6FE, 0x1E700, 0x1E7E0, 0x1E7E7, 0x1E7E8, 0x1E7EC, 0x1E7ED, 0x1E7EF, 0x1E7F0, 0x1E7FF,
  0x1E800, 0x1E8C5, 0x1E8C7, 0x1E8D7, 0x1E900, 0x1E94C, 0x1E950, 0x1E95A, 0x1E95E, 0x1E960,
  0x1EC71, 0x1ECB5, 0x1ED01, 0x1ED3E, 0x1EE00, 0x1EE04, 0x1EE05, 0x1EE20, 0x1EE21, 0x1EE23,
  0x1EE24, 0x1EE25, 0x1EE27, 0x1EE28, 0x1EE29, 0x1EE33, 0x1EE34, 0x1EE38, 0x1EE39, 0x1EE3A,
  0x1EE3B, 0x1EE3C, 0x1EE42, 0x1EE43, 0x1EE47, 0x1EE48, 0x1EE49, 0x1EE4A, 0x1EE4B, 0x1EE4C,
  0x1EE4D, 0x1EE50, 0x1EE51, 0x1EE53, 0x1EE54, 0x1EE55, 0x1EE57, 0x1EE58, 0x1EE59, 0x1EE5A,
  0x1EE5B, 0x1EE5C, 0x1EE5D, 0x1EE5E, 0x1EE5F, 0x1EE60, 0x1EE61, 0x1EE63, 0x1EE64, 0x1EE65,
  0x1EE67, 0x1EE6B, 0x1EE6C, 0x1EE73, 0x1EE74, 0x1EE78, 0x1EE79, 0x1EE7D, 0x1EE7E, 0x1EE7F,
  0x1EE80, 0x1EE8A, 0x1EE8B, 0x1EE9C, 0x1EEA1, 0x1EEA4, 0x1EEA5, 0x1EEAA, 0x1EEAB, 0x1EEBC,
  0x1EEF0, 0x1EEF2, 0x1F000, 0x1F02C, 0x1F030, 0x1F094, 0x1F0A0, 0x1F0AF, 0x1F0B1, 0x1F0C0,
  0x1F0C1, 0x1F0D0, 0x1F0D1, 0x1F0F6, 0x1F101, 0x1F1AE, 0x1F1E6, 0x1F203, 0x1F210, 0x1F23C,
  0x1F240, 0x1F249, 0x1F250, 0x1F252, 0x1F260, 0x1F266, 0x1F300, 0x1F6D9, 0x1F6DC, 0x1F6ED,
  0x1F6F0, 0x1F6FD, 0x1F700, 0x1F7DA, 0x1F7E0, 0x1F7EC, 0x1F7F0, 0x1F7F1, 0x1F800, 0x1F80C,
  0x1F810, 0x1F848, 0x1F850, 0x1F85A, 0x1F860, 0x1F888, 0x1F890, 0x1F8AE, 0x1F8B0, 0x1F8BC,
  0x1F8C0, 0x1F8C2, 0x1F8D0, 0x1F8D9, 0x1F900, 0x1FA58, 0x1FA60, 0x1FA6E, 0x1FA70, 0x1FA7D,
  0x1FA80, 0x1FA8B, 0x1FA8E, 0x1FAC7, 0x1FAC8, 0x1FAC9, 0x1FACD, 0x1FADD, 0x1FADF, 0x1FAEB,
  0x1FAEF, 0x1FAF9, 0x1FB00, 0x1FB93, 0x1FB94, 0x1FBFB, 0x20000, 0x2A6E0, 0x2A700, 0x2B81E,
  0x2B820, 0x2CEAE, 0x2CEB0, 0x2EBE1, 0x2EBF0, 0x2EE5E, 0x2F800, 0x2FA1E, 0x30000, 0x3134B,
  0x31350, 0x3347A, 0xE0100, 0xE01F0]

end LintRelay.Domain

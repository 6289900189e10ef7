import Backtrack.Unicode.Run

/-!
# Letters

The code points with the derived property Alphabetic, in ascending order. A letter in the sense of
this library is any of them, so combining vowel signs and letter numbers count.
-/

namespace Backtrack.Unicode

open Run

/-- The code points with the property Alphabetic. -/
def alphabeticRuns : List Run := [
  .span 0x41 0x5A, .span 0x61 0x7A, .one 0xAA, .one 0xB5, .one 0xBA, .span 0xC0 0xD6,
  .span 0xD8 0xF6, .span 0xF8 0x2C1, .span 0x2C6 0x2D1, .span 0x2E0 0x2E4, .one 0x2EC,
  .one 0x2EE, .one 0x345, .span 0x363 0x374, .span 0x376 0x377, .span 0x37A 0x37D, .one 0x37F,
  .one 0x386, .span 0x388 0x38A, .one 0x38C, .span 0x38E 0x3A1, .span 0x3A3 0x3F5,
  .span 0x3F7 0x481, .span 0x48A 0x52F, .span 0x531 0x556, .one 0x559, .span 0x560 0x588,
  .span 0x5B0 0x5BD, .one 0x5BF, .span 0x5C1 0x5C2, .span 0x5C4 0x5C5, .one 0x5C7,
  .span 0x5D0 0x5EA, .span 0x5EF 0x5F2, .span 0x610 0x61A, .span 0x620 0x657, .span 0x659 0x65F,
  .span 0x66E 0x6D3, .span 0x6D5 0x6DC, .span 0x6E1 0x6E8, .span 0x6ED 0x6EF, .span 0x6FA 0x6FC,
  .one 0x6FF, .span 0x710 0x73F, .span 0x74D 0x7B1, .span 0x7CA 0x7EA, .span 0x7F4 0x7F5,
  .one 0x7FA, .span 0x800 0x817, .span 0x81A 0x82C, .span 0x840 0x858, .span 0x860 0x86A,
  .span 0x870 0x887, .span 0x889 0x88F, .one 0x897, .span 0x8A0 0x8C9, .span 0x8D4 0x8DF,
  .span 0x8E3 0x8E9, .span 0x8F0 0x93B, .span 0x93D 0x94C, .span 0x94E 0x950, .span 0x955 0x963,
  .span 0x971 0x983, .span 0x985 0x98C, .span 0x98F 0x990, .span 0x993 0x9A8, .span 0x9AA 0x9B0,
  .one 0x9B2, .span 0x9B6 0x9B9, .span 0x9BD 0x9C4, .span 0x9C7 0x9C8, .span 0x9CB 0x9CC,
  .one 0x9CE, .one 0x9D7, .span 0x9DC 0x9DD, .span 0x9DF 0x9E3, .span 0x9F0 0x9F1, .one 0x9FC,
  .span 0xA01 0xA03, .span 0xA05 0xA0A, .span 0xA0F 0xA10, .span 0xA13 0xA28, .span 0xA2A 0xA30,
  .span 0xA32 0xA33, .span 0xA35 0xA36, .span 0xA38 0xA39, .span 0xA3E 0xA42, .span 0xA47 0xA48,
  .span 0xA4B 0xA4C, .one 0xA51, .span 0xA59 0xA5C, .one 0xA5E, .span 0xA70 0xA75,
  .span 0xA81 0xA83, .span 0xA85 0xA8D, .span 0xA8F 0xA91, .span 0xA93 0xAA8, .span 0xAAA 0xAB0,
  .span 0xAB2 0xAB3, .span 0xAB5 0xAB9, .span 0xABD 0xAC5, .span 0xAC7 0xAC9, .span 0xACB 0xACC,
  .one 0xAD0, .span 0xAE0 0xAE3, .span 0xAF9 0xAFC, .span 0xB01 0xB03, .span 0xB05 0xB0C,
  .span 0xB0F 0xB10, .span 0xB13 0xB28, .span 0xB2A 0xB30, .span 0xB32 0xB33, .span 0xB35 0xB39,
  .span 0xB3D 0xB44, .span 0xB47 0xB48, .span 0xB4B 0xB4C, .span 0xB56 0xB57, .span 0xB5C 0xB5D,
  .span 0xB5F 0xB63, .one 0xB71, .span 0xB82 0xB83, .span 0xB85 0xB8A, .span 0xB8E 0xB90,
  .span 0xB92 0xB95, .span 0xB99 0xB9A, .one 0xB9C, .span 0xB9E 0xB9F, .span 0xBA3 0xBA4,
  .span 0xBA8 0xBAA, .span 0xBAE 0xBB9, .span 0xBBE 0xBC2, .span 0xBC6 0xBC8, .span 0xBCA 0xBCC,
  .one 0xBD0, .one 0xBD7, .span 0xC00 0xC0C, .span 0xC0E 0xC10, .span 0xC12 0xC28,
  .span 0xC2A 0xC39, .span 0xC3D 0xC44, .span 0xC46 0xC48, .span 0xC4A 0xC4C, .span 0xC55 0xC56,
  .span 0xC58 0xC5A, .span 0xC5C 0xC5D, .span 0xC60 0xC63, .span 0xC80 0xC83, .span 0xC85 0xC8C,
  .span 0xC8E 0xC90, .span 0xC92 0xCA8, .span 0xCAA 0xCB3, .span 0xCB5 0xCB9, .span 0xCBD 0xCC4,
  .span 0xCC6 0xCC8, .span 0xCCA 0xCCC, .span 0xCD5 0xCD6, .span 0xCDC 0xCDE, .span 0xCE0 0xCE3,
  .span 0xCF1 0xCF3, .span 0xD00 0xD0C, .span 0xD0E 0xD10, .span 0xD12 0xD3A, .span 0xD3D 0xD44,
  .span 0xD46 0xD48, .span 0xD4A 0xD4C, .one 0xD4E, .span 0xD54 0xD57, .span 0xD5F 0xD63,
  .span 0xD7A 0xD7F, .span 0xD81 0xD83, .span 0xD85 0xD96, .span 0xD9A 0xDB1, .span 0xDB3 0xDBB,
  .one 0xDBD, .span 0xDC0 0xDC6, .span 0xDCF 0xDD4, .one 0xDD6, .span 0xDD8 0xDDF,
  .span 0xDF2 0xDF3, .span 0xE01 0xE3A, .span 0xE40 0xE46, .one 0xE4D, .span 0xE81 0xE82,
  .one 0xE84, .span 0xE86 0xE8A, .span 0xE8C 0xEA3, .one 0xEA5, .span 0xEA7 0xEB9,
  .span 0xEBB 0xEBD, .span 0xEC0 0xEC4, .one 0xEC6, .one 0xECD, .span 0xEDC 0xEDF, .one 0xF00,
  .span 0xF40 0xF47, .span 0xF49 0xF6C, .span 0xF71 0xF83, .span 0xF88 0xF97, .span 0xF99 0xFBC,
  .span 0x1000 0x1036, .one 0x1038, .span 0x103B 0x103F, .span 0x1050 0x108F,
  .span 0x109A 0x109D, .span 0x10A0 0x10C5, .one 0x10C7, .one 0x10CD, .span 0x10D0 0x10FA,
  .span 0x10FC 0x1248, .span 0x124A 0x124D, .span 0x1250 0x1256, .one 0x1258,
  .span 0x125A 0x125D, .span 0x1260 0x1288, .span 0x128A 0x128D, .span 0x1290 0x12B0,
  .span 0x12B2 0x12B5, .span 0x12B8 0x12BE, .one 0x12C0, .span 0x12C2 0x12C5,
  .span 0x12C8 0x12D6, .span 0x12D8 0x1310, .span 0x1312 0x1315, .span 0x1318 0x135A,
  .span 0x1380 0x138F, .span 0x13A0 0x13F5, .span 0x13F8 0x13FD, .span 0x1401 0x166C,
  .span 0x166F 0x167F, .span 0x1681 0x169A, .span 0x16A0 0x16EA, .span 0x16EE 0x16F8,
  .span 0x1700 0x1713, .span 0x171F 0x1733, .span 0x1740 0x1753, .span 0x1760 0x176C,
  .span 0x176E 0x1770, .span 0x1772 0x1773, .span 0x1780 0x17B3, .span 0x17B6 0x17C8,
  .one 0x17D7, .one 0x17DC, .span 0x1820 0x1878, .span 0x1880 0x18AA, .span 0x18B0 0x18F5,
  .span 0x1900 0x191E, .span 0x1920 0x192B, .span 0x1930 0x1938, .span 0x1950 0x196D,
  .span 0x1970 0x1974, .span 0x1980 0x19AB, .span 0x19B0 0x19C9, .span 0x1A00 0x1A1B,
  .span 0x1A20 0x1A5E, .span 0x1A61 0x1A74, .one 0x1AA7, .span 0x1ABF 0x1AC0,
  .span 0x1ACC 0x1ACE, .span 0x1B00 0x1B33, .span 0x1B35 0x1B43, .span 0x1B45 0x1B4C,
  .span 0x1B80 0x1BA9, .span 0x1BAC 0x1BAF, .span 0x1BBA 0x1BE5, .span 0x1BE7 0x1BF1,
  .span 0x1C00 0x1C36, .span 0x1C4D 0x1C4F, .span 0x1C5A 0x1C7D, .span 0x1C80 0x1C8A,
  .span 0x1C90 0x1CBA, .span 0x1CBD 0x1CBF, .span 0x1CE9 0x1CEC, .span 0x1CEE 0x1CF3,
  .span 0x1CF5 0x1CF6, .one 0x1CFA, .span 0x1D00 0x1DBF, .span 0x1DD3 0x1DF4,
  .span 0x1E00 0x1F15, .span 0x1F18 0x1F1D, .span 0x1F20 0x1F45, .span 0x1F48 0x1F4D,
  .span 0x1F50 0x1F57, .every2 0x1F59 0x1F5D, .span 0x1F5F 0x1F7D, .span 0x1F80 0x1FB4,
  .span 0x1FB6 0x1FBC, .one 0x1FBE, .span 0x1FC2 0x1FC4, .span 0x1FC6 0x1FCC,
  .span 0x1FD0 0x1FD3, .span 0x1FD6 0x1FDB, .span 0x1FE0 0x1FEC, .span 0x1FF2 0x1FF4,
  .span 0x1FF6 0x1FFC, .one 0x2071, .one 0x207F, .span 0x2090 0x209C, .one 0x2102, .one 0x2107,
  .span 0x210A 0x2113, .one 0x2115, .span 0x2119 0x211D, .every2 0x2124 0x2128,
  .span 0x212A 0x212D, .span 0x212F 0x2139, .span 0x213C 0x213F, .span 0x2145 0x2149,
  .one 0x214E, .span 0x2160 0x2188, .span 0x24B6 0x24E9, .span 0x2C00 0x2CE4,
  .span 0x2CEB 0x2CEE, .span 0x2CF2 0x2CF3, .span 0x2D00 0x2D25, .one 0x2D27, .one 0x2D2D,
  .span 0x2D30 0x2D67, .one 0x2D6F, .span 0x2D80 0x2D96, .span 0x2DA0 0x2DA6,
  .span 0x2DA8 0x2DAE, .span 0x2DB0 0x2DB6, .span 0x2DB8 0x2DBE, .span 0x2DC0 0x2DC6,
  .span 0x2DC8 0x2DCE, .span 0x2DD0 0x2DD6, .span 0x2DD8 0x2DDE, .span 0x2DE0 0x2DFF,
  .one 0x2E2F, .span 0x3005 0x3007, .span 0x3021 0x3029, .span 0x3031 0x3035,
  .span 0x3038 0x303C, .span 0x3041 0x3096, .span 0x309D 0x309F, .span 0x30A1 0x30FA,
  .span 0x30FC 0x30FF, .span 0x3105 0x312F, .span 0x3131 0x318E, .span 0x31A0 0x31BF,
  .span 0x31F0 0x31FF, .span 0x3400 0x4DBF, .span 0x4E00 0xA48C, .span 0xA4D0 0xA4FD,
  .span 0xA500 0xA60C, .span 0xA610 0xA61F, .span 0xA62A 0xA62B, .span 0xA640 0xA66E,
  .span 0xA674 0xA67B, .span 0xA67F 0xA6EF, .span 0xA717 0xA71F, .span 0xA722 0xA788,
  .span 0xA78B 0xA7DC, .span 0xA7F1 0xA805, .span 0xA807 0xA827, .span 0xA840 0xA873,
  .span 0xA880 0xA8C3, .one 0xA8C5, .span 0xA8F2 0xA8F7, .one 0xA8FB, .span 0xA8FD 0xA8FF,
  .span 0xA90A 0xA92A, .span 0xA930 0xA952, .span 0xA960 0xA97C, .span 0xA980 0xA9B2,
  .span 0xA9B4 0xA9BF, .one 0xA9CF, .span 0xA9E0 0xA9EF, .span 0xA9FA 0xA9FE,
  .span 0xAA00 0xAA36, .span 0xAA40 0xAA4D, .span 0xAA60 0xAA76, .span 0xAA7A 0xAABE,
  .one 0xAAC0, .one 0xAAC2, .span 0xAADB 0xAADD, .span 0xAAE0 0xAAEF, .span 0xAAF2 0xAAF5,
  .span 0xAB01 0xAB06, .span 0xAB09 0xAB0E, .span 0xAB11 0xAB16, .span 0xAB20 0xAB26,
  .span 0xAB28 0xAB2E, .span 0xAB30 0xAB5A, .span 0xAB5C 0xAB69, .span 0xAB70 0xABEA,
  .span 0xAC00 0xD7A3, .span 0xD7B0 0xD7C6, .span 0xD7CB 0xD7FB, .span 0xF900 0xFA6D,
  .span 0xFA70 0xFAD9, .span 0xFB00 0xFB06, .span 0xFB13 0xFB17, .span 0xFB1D 0xFB28,
  .span 0xFB2A 0xFB36, .span 0xFB38 0xFB3C, .one 0xFB3E, .span 0xFB40 0xFB41,
  .span 0xFB43 0xFB44, .span 0xFB46 0xFBB1, .span 0xFBD3 0xFD3D, .span 0xFD50 0xFD8F,
  .span 0xFD92 0xFDC7, .span 0xFDF0 0xFDFB, .span 0xFE70 0xFE74, .span 0xFE76 0xFEFC,
  .span 0xFF21 0xFF3A, .span 0xFF41 0xFF5A, .span 0xFF66 0xFFBE, .span 0xFFC2 0xFFC7,
  .span 0xFFCA 0xFFCF, .span 0xFFD2 0xFFD7, .span 0xFFDA 0xFFDC, .span 0x10000 0x1000B,
  .span 0x1000D 0x10026, .span 0x10028 0x1003A, .span 0x1003C 0x1003D, .span 0x1003F 0x1004D,
  .span 0x10050 0x1005D, .span 0x10080 0x100FA, .span 0x10140 0x10174, .span 0x10280 0x1029C,
  .span 0x102A0 0x102D0, .span 0x10300 0x1031F, .span 0x1032D 0x1034A, .span 0x10350 0x1037A,
  .span 0x10380 0x1039D, .span 0x103A0 0x103C3, .span 0x103C8 0x103CF, .span 0x103D1 0x103D5,
  .span 0x10400 0x1049D, .span 0x104B0 0x104D3, .span 0x104D8 0x104FB, .span 0x10500 0x10527,
  .span 0x10530 0x10563, .span 0x10570 0x1057A, .span 0x1057C 0x1058A, .span 0x1058C 0x10592,
  .span 0x10594 0x10595, .span 0x10597 0x105A1, .span 0x105A3 0x105B1, .span 0x105B3 0x105B9,
  .span 0x105BB 0x105BC, .span 0x105C0 0x105F3, .span 0x10600 0x10736, .span 0x10740 0x10755,
  .span 0x10760 0x10767, .span 0x10780 0x10785, .span 0x10787 0x107B0, .span 0x107B2 0x107BA,
  .span 0x10800 0x10805, .one 0x10808, .span 0x1080A 0x10835, .span 0x10837 0x10838,
  .one 0x1083C, .span 0x1083F 0x10855, .span 0x10860 0x10876, .span 0x10880 0x1089E,
  .span 0x108E0 0x108F2, .span 0x108F4 0x108F5, .span 0x10900 0x10915, .span 0x10920 0x10939,
  .span 0x10940 0x10959, .span 0x10980 0x109B7, .span 0x109BE 0x109BF, .span 0x10A00 0x10A03,
  .span 0x10A05 0x10A06, .span 0x10A0C 0x10A13, .span 0x10A15 0x10A17, .span 0x10A19 0x10A35,
  .span 0x10A60 0x10A7C, .span 0x10A80 0x10A9C, .span 0x10AC0 0x10AC7, .span 0x10AC9 0x10AE4,
  .span 0x10B00 0x10B35, .span 0x10B40 0x10B55, .span 0x10B60 0x10B72, .span 0x10B80 0x10B91,
  .span 0x10C00 0x10C48, .span 0x10C80 0x10CB2, .span 0x10CC0 0x10CF2, .span 0x10D00 0x10D27,
  .span 0x10D4A 0x10D65, .one 0x10D69, .span 0x10D6F 0x10D85, .span 0x10E80 0x10EA9,
  .span 0x10EAB 0x10EAC, .span 0x10EB0 0x10EB1, .span 0x10EC2 0x10EC7, .span 0x10EFA 0x10EFC,
  .span 0x10F00 0x10F1C, .one 0x10F27, .span 0x10F30 0x10F45, .span 0x10F70 0x10F81,
  .span 0x10FB0 0x10FC4, .span 0x10FE0 0x10FF6, .span 0x11000 0x11045, .span 0x11071 0x11075,
  .span 0x11080 0x110B8, .one 0x110C2, .span 0x110D0 0x110E8, .span 0x11100 0x11132,
  .span 0x11144 0x11147, .span 0x11150 0x11172, .one 0x11176, .span 0x11180 0x111BF,
  .span 0x111C1 0x111C4, .span 0x111CE 0x111CF, .one 0x111DA, .one 0x111DC,
  .span 0x11200 0x11211, .span 0x11213 0x11234, .one 0x11237, .span 0x1123E 0x11241,
  .span 0x11280 0x11286, .one 0x11288, .span 0x1128A 0x1128D, .span 0x1128F 0x1129D,
  .span 0x1129F 0x112A8, .span 0x112B0 0x112E8, .span 0x11300 0x11303, .span 0x11305 0x1130C,
  .span 0x1130F 0x11310, .span 0x11313 0x11328, .span 0x1132A 0x11330, .span 0x11332 0x11333,
  .span 0x11335 0x11339, .span 0x1133D 0x11344, .span 0x11347 0x11348, .span 0x1134B 0x1134C,
  .one 0x11350, .one 0x11357, .span 0x1135D 0x11363, .span 0x11380 0x11389, .one 0x1138B,
  .one 0x1138E, .span 0x11390 0x113B5, .span 0x113B7 0x113C0, .one 0x113C2, .one 0x113C5,
  .span 0x113C7 0x113CA, .span 0x113CC 0x113CD, .one 0x113D1, .one 0x113D3,
  .span 0x11400 0x11441, .span 0x11443 0x11445, .span 0x11447 0x1144A, .span 0x1145F 0x11461,
  .span 0x11480 0x114C1, .span 0x114C4 0x114C5, .one 0x114C7, .span 0x11580 0x115B5,
  .span 0x115B8 0x115BE, .span 0x115D8 0x115DD, .span 0x11600 0x1163E, .one 0x11640,
  .one 0x11644, .span 0x11680 0x116B5, .one 0x116B8, .span 0x11700 0x1171A,
  .span 0x1171D 0x1172A, .span 0x11740 0x11746, .span 0x11800 0x11838, .span 0x118A0 0x118DF,
  .span 0x118FF 0x11906, .one 0x11909, .span 0x1190C 0x11913, .span 0x11915 0x11916,
  .span 0x11918 0x11935, .span 0x11937 0x11938, .span 0x1193B 0x1193C, .span 0x1193F 0x11942,
  .span 0x119A0 0x119A7, .span 0x119AA 0x119D7, .span 0x119DA 0x119DF, .one 0x119E1,
  .span 0x119E3 0x119E4, .span 0x11A00 0x11A32, .span 0x11A35 0x11A3E, .span 0x11A50 0x11A97,
  .one 0x11A9D, .span 0x11AB0 0x11AF8, .span 0x11B60 0x11B67, .span 0x11BC0 0x11BE0,
  .span 0x11C00 0x11C08, .span 0x11C0A 0x11C36, .span 0x11C38 0x11C3E, .one 0x11C40,
  .span 0x11C72 0x11C8F, .span 0x11C92 0x11CA7, .span 0x11CA9 0x11CB6, .span 0x11D00 0x11D06,
  .span 0x11D08 0x11D09, .span 0x11D0B 0x11D36, .one 0x11D3A, .span 0x11D3C 0x11D3D,
  .span 0x11D3F 0x11D41, .one 0x11D43, .span 0x11D46 0x11D47, .span 0x11D60 0x11D65,
  .span 0x11D67 0x11D68, .span 0x11D6A 0x11D8E, .span 0x11D90 0x11D91, .span 0x11D93 0x11D96,
  .one 0x11D98, .span 0x11DB0 0x11DDB, .span 0x11EE0 0x11EF6, .span 0x11F00 0x11F10,
  .span 0x11F12 0x11F3A, .span 0x11F3E 0x11F40, .one 0x11FB0, .span 0x12000 0x12399,
  .span 0x12400 0x1246E, .span 0x12480 0x12543, .span 0x12F90 0x12FF0, .span 0x13000 0x1342F,
  .span 0x13441 0x13446, .span 0x13460 0x143FA, .span 0x14400 0x14646, .span 0x16100 0x1612E,
  .span 0x16800 0x16A38, .span 0x16A40 0x16A5E, .span 0x16A70 0x16ABE, .span 0x16AD0 0x16AED,
  .span 0x16B00 0x16B2F, .span 0x16B40 0x16B43, .span 0x16B63 0x16B77, .span 0x16B7D 0x16B8F,
  .span 0x16D40 0x16D6C, .span 0x16E40 0x16E7F, .span 0x16EA0 0x16EB8, .span 0x16EBB 0x16ED3,
  .span 0x16F00 0x16F4A, .span 0x16F4F 0x16F87, .span 0x16F8F 0x16F9F, .span 0x16FE0 0x16FE1,
  .one 0x16FE3, .span 0x16FF0 0x16FF6, .span 0x17000 0x18CD5, .span 0x18CFF 0x18D1E,
  .span 0x18D80 0x18DF2, .span 0x1AFF0 0x1AFF3, .span 0x1AFF5 0x1AFFB, .span 0x1AFFD 0x1AFFE,
  .span 0x1B000 0x1B122, .one 0x1B132, .span 0x1B150 0x1B152, .one 0x1B155,
  .span 0x1B164 0x1B167, .span 0x1B170 0x1B2FB, .span 0x1BC00 0x1BC6A, .span 0x1BC70 0x1BC7C,
  .span 0x1BC80 0x1BC88, .span 0x1BC90 0x1BC99, .one 0x1BC9E, .span 0x1D400 0x1D454,
  .span 0x1D456 0x1D49C, .span 0x1D49E 0x1D49F, .one 0x1D4A2, .span 0x1D4A5 0x1D4A6,
  .span 0x1D4A9 0x1D4AC, .span 0x1D4AE 0x1D4B9, .one 0x1D4BB, .span 0x1D4BD 0x1D4C3,
  .span 0x1D4C5 0x1D505, .span 0x1D507 0x1D50A, .span 0x1D50D 0x1D514, .span 0x1D516 0x1D51C,
  .span 0x1D51E 0x1D539, .span 0x1D53B 0x1D53E, .span 0x1D540 0x1D544, .one 0x1D546,
  .span 0x1D54A 0x1D550, .span 0x1D552 0x1D6A5, .span 0x1D6A8 0x1D6C0, .span 0x1D6C2 0x1D6DA,
  .span 0x1D6DC 0x1D6FA, .span 0x1D6FC 0x1D714, .span 0x1D716 0x1D734, .span 0x1D736 0x1D74E,
  .span 0x1D750 0x1D76E, .span 0x1D770 0x1D788, .span 0x1D78A 0x1D7A8, .span 0x1D7AA 0x1D7C2,
  .span 0x1D7C4 0x1D7CB, .span 0x1DF00 0x1DF1E, .span 0x1DF25 0x1DF2A, .span 0x1E000 0x1E006,
  .span 0x1E008 0x1E018, .span 0x1E01B 0x1E021, .span 0x1E023 0x1E024, .span 0x1E026 0x1E02A,
  .span 0x1E030 0x1E06D, .one 0x1E08F, .span 0x1E100 0x1E12C, .span 0x1E137 0x1E13D,
  .one 0x1E14E, .span 0x1E290 0x1E2AD, .span 0x1E2C0 0x1E2EB, .span 0x1E4D0 0x1E4EB,
  .span 0x1E5D0 0x1E5ED, .one 0x1E5F0, .span 0x1E6C0 0x1E6DE, .span 0x1E6E0 0x1E6F5,
  .span 0x1E6FE 0x1E6FF, .span 0x1E7E0 0x1E7E6, .span 0x1E7E8 0x1E7EB, .span 0x1E7ED 0x1E7EE,
  .span 0x1E7F0 0x1E7FE, .span 0x1E800 0x1E8C4, .span 0x1E900 0x1E943, .one 0x1E947,
  .one 0x1E94B, .span 0x1EE00 0x1EE03, .span 0x1EE05 0x1EE1F, .span 0x1EE21 0x1EE22,
  .one 0x1EE24, .one 0x1EE27, .span 0x1EE29 0x1EE32, .span 0x1EE34 0x1EE37, .one 0x1EE39,
  .one 0x1EE3B, .one 0x1EE42, .every2 0x1EE47 0x1EE4B, .span 0x1EE4D 0x1EE4F,
  .span 0x1EE51 0x1EE52, .one 0x1EE54, .every2 0x1EE57 0x1EE5F, .span 0x1EE61 0x1EE62,
  .one 0x1EE64, .span 0x1EE67 0x1EE6A, .span 0x1EE6C 0x1EE72, .span 0x1EE74 0x1EE77,
  .span 0x1EE79 0x1EE7C, .one 0x1EE7E, .span 0x1EE80 0x1EE89, .span 0x1EE8B 0x1EE9B,
  .span 0x1EEA1 0x1EEA3, .span 0x1EEA5 0x1EEA9, .span 0x1EEAB 0x1EEBB, .span 0x1F130 0x1F149,
  .span 0x1F150 0x1F169, .span 0x1F170 0x1F189, .span 0x20000 0x2A6DF, .span 0x2A700 0x2B81D,
  .span 0x2B820 0x2CEAD, .span 0x2CEB0 0x2EBE0, .span 0x2EBF0 0x2EE5D, .span 0x2F800 0x2FA1D,
  .span 0x30000 0x3134A, .span 0x31350 0x33479]

end Backtrack.Unicode

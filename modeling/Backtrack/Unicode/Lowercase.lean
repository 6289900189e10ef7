import Backtrack.Unicode.Run

/-!
# Lower case

The code points with the derived property Lowercase, in ascending order. Feminine and masculine
ordinals and modifier letters are among them.
-/

namespace Backtrack.Unicode

open Run

/-- The code points with the property Lowercase. -/
def lowercaseRuns : List Run := [
  .span 0x61 0x7A, .one 0xAA, .one 0xB5, .one 0xBA, .span 0xDF 0xF6, .span 0xF8 0xFF,
  .every2 0x101 0x135, .span 0x137 0x138, .every2 0x13A 0x146, .span 0x148 0x149,
  .every2 0x14B 0x177, .one 0x17A, .one 0x17C, .span 0x17E 0x180, .one 0x183, .one 0x185,
  .one 0x188, .span 0x18C 0x18D, .one 0x192, .one 0x195, .span 0x199 0x19B, .one 0x19E,
  .every2 0x1A1 0x1A5, .one 0x1A8, .span 0x1AA 0x1AB, .one 0x1AD, .one 0x1B0, .one 0x1B4,
  .one 0x1B6, .span 0x1B9 0x1BA, .span 0x1BD 0x1BF, .one 0x1C6, .one 0x1C9, .every2 0x1CC 0x1DA,
  .span 0x1DC 0x1DD, .every2 0x1DF 0x1ED, .span 0x1EF 0x1F0, .one 0x1F3, .one 0x1F5,
  .every2 0x1F9 0x231, .span 0x233 0x239, .one 0x23C, .span 0x23F 0x240, .one 0x242,
  .every2 0x247 0x24D, .span 0x24F 0x293, .span 0x296 0x2B8, .span 0x2C0 0x2C1,
  .span 0x2E0 0x2E4, .one 0x345, .one 0x371, .one 0x373, .one 0x377, .span 0x37A 0x37D,
  .one 0x390, .span 0x3AC 0x3CE, .span 0x3D0 0x3D1, .span 0x3D5 0x3D7, .every2 0x3D9 0x3ED,
  .span 0x3EF 0x3F3, .one 0x3F5, .one 0x3F8, .span 0x3FB 0x3FC, .span 0x430 0x45F,
  .every2 0x461 0x481, .every2 0x48B 0x4BF, .every2 0x4C2 0x4CC, .span 0x4CE 0x4CF,
  .every2 0x4D1 0x52F, .span 0x560 0x588, .span 0x10D0 0x10FA, .span 0x10FC 0x10FF,
  .span 0x13F8 0x13FD, .span 0x1C80 0x1C88, .one 0x1C8A, .span 0x1D00 0x1DBF,
  .every2 0x1E01 0x1E93, .span 0x1E95 0x1E9D, .every2 0x1E9F 0x1EFD, .span 0x1EFF 0x1F07,
  .span 0x1F10 0x1F15, .span 0x1F20 0x1F27, .span 0x1F30 0x1F37, .span 0x1F40 0x1F45,
  .span 0x1F50 0x1F57, .span 0x1F60 0x1F67, .span 0x1F70 0x1F7D, .span 0x1F80 0x1F87,
  .span 0x1F90 0x1F97, .span 0x1FA0 0x1FA7, .span 0x1FB0 0x1FB4, .span 0x1FB6 0x1FB7,
  .one 0x1FBE, .span 0x1FC2 0x1FC4, .span 0x1FC6 0x1FC7, .span 0x1FD0 0x1FD3,
  .span 0x1FD6 0x1FD7, .span 0x1FE0 0x1FE7, .span 0x1FF2 0x1FF4, .span 0x1FF6 0x1FF7,
  .one 0x2071, .one 0x207F, .span 0x2090 0x209C, .one 0x210A, .span 0x210E 0x210F, .one 0x2113,
  .one 0x212F, .one 0x2134, .one 0x2139, .span 0x213C 0x213D, .span 0x2146 0x2149, .one 0x214E,
  .span 0x2170 0x217F, .one 0x2184, .span 0x24D0 0x24E9, .span 0x2C30 0x2C5F, .one 0x2C61,
  .span 0x2C65 0x2C66, .every2 0x2C68 0x2C6C, .one 0x2C71, .span 0x2C73 0x2C74,
  .span 0x2C76 0x2C7D, .every2 0x2C81 0x2CE1, .span 0x2CE3 0x2CE4, .one 0x2CEC, .one 0x2CEE,
  .one 0x2CF3, .span 0x2D00 0x2D25, .one 0x2D27, .one 0x2D2D, .every2 0xA641 0xA66D,
  .every2 0xA681 0xA699, .span 0xA69B 0xA69D, .every2 0xA723 0xA72D, .span 0xA72F 0xA731,
  .every2 0xA733 0xA76D, .span 0xA76F 0xA778, .one 0xA77A, .one 0xA77C, .every2 0xA77F 0xA787,
  .one 0xA78C, .one 0xA78E, .one 0xA791, .span 0xA793 0xA795, .every2 0xA797 0xA7A9,
  .one 0xA7AF, .every2 0xA7B5 0xA7C3, .one 0xA7C8, .one 0xA7CA, .every2 0xA7CD 0xA7DB,
  .span 0xA7F1 0xA7F4, .one 0xA7F6, .span 0xA7F8 0xA7FA, .span 0xAB30 0xAB5A,
  .span 0xAB5C 0xAB69, .span 0xAB70 0xABBF, .span 0xFB00 0xFB06, .span 0xFB13 0xFB17,
  .span 0xFF41 0xFF5A, .span 0x10428 0x1044F, .span 0x104D8 0x104FB, .span 0x10597 0x105A1,
  .span 0x105A3 0x105B1, .span 0x105B3 0x105B9, .span 0x105BB 0x105BC, .one 0x10780,
  .span 0x10783 0x10785, .span 0x10787 0x107B0, .span 0x107B2 0x107BA, .span 0x10CC0 0x10CF2,
  .span 0x10D70 0x10D85, .span 0x118C0 0x118DF, .span 0x16E60 0x16E7F, .span 0x16EBB 0x16ED3,
  .span 0x1D41A 0x1D433, .span 0x1D44E 0x1D454, .span 0x1D456 0x1D467, .span 0x1D482 0x1D49B,
  .span 0x1D4B6 0x1D4B9, .one 0x1D4BB, .span 0x1D4BD 0x1D4C3, .span 0x1D4C5 0x1D4CF,
  .span 0x1D4EA 0x1D503, .span 0x1D51E 0x1D537, .span 0x1D552 0x1D56B, .span 0x1D586 0x1D59F,
  .span 0x1D5BA 0x1D5D3, .span 0x1D5EE 0x1D607, .span 0x1D622 0x1D63B, .span 0x1D656 0x1D66F,
  .span 0x1D68A 0x1D6A5, .span 0x1D6C2 0x1D6DA, .span 0x1D6DC 0x1D6E1, .span 0x1D6FC 0x1D714,
  .span 0x1D716 0x1D71B, .span 0x1D736 0x1D74E, .span 0x1D750 0x1D755, .span 0x1D770 0x1D788,
  .span 0x1D78A 0x1D78F, .span 0x1D7AA 0x1D7C2, .span 0x1D7C4 0x1D7C9, .one 0x1D7CB,
  .span 0x1DF00 0x1DF09, .span 0x1DF0B 0x1DF1E, .span 0x1DF25 0x1DF2A, .span 0x1E030 0x1E06D,
  .span 0x1E922 0x1E943]

end Backtrack.Unicode

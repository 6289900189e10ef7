import Backtrack.Unicode.Run

/-!
# The full lower-case mapping

Every code point that changes when it is put in lower case lies in a run whose members all move by
one signed distance. The single exception is U+0130, the dotted capital I, whose lower case is the
two code points U+0069 U+0307. Conditions and locales play no part, so a final sigma is not treated
differently from any other.
-/

namespace Backtrack.Unicode

open Run

/-- A run of code points together with the distance to their lower case. -/
structure Shift where
  run : Run
  distance : Int
  deriving Repr, DecidableEq

/-- The code points whose lower case is a single other code point. -/
def lowerShifts : List Shift := [
  ⟨.span 0x41 0x5A, 32⟩, ⟨.span 0xC0 0xD6, 32⟩, ⟨.span 0xD8 0xDE, 32⟩, ⟨.every2 0x100 0x12E, 1⟩,
  ⟨.every2 0x132 0x136, 1⟩, ⟨.every2 0x139 0x147, 1⟩, ⟨.every2 0x14A 0x176, 1⟩,
  ⟨.one 0x178, -121⟩, ⟨.every2 0x179 0x17D, 1⟩, ⟨.one 0x181, 210⟩, ⟨.every2 0x182 0x184, 1⟩,
  ⟨.one 0x186, 206⟩, ⟨.one 0x187, 1⟩, ⟨.span 0x189 0x18A, 205⟩, ⟨.one 0x18B, 1⟩,
  ⟨.one 0x18E, 79⟩, ⟨.one 0x18F, 202⟩, ⟨.one 0x190, 203⟩, ⟨.one 0x191, 1⟩, ⟨.one 0x193, 205⟩,
  ⟨.one 0x194, 207⟩, ⟨.one 0x196, 211⟩, ⟨.one 0x197, 209⟩, ⟨.one 0x198, 1⟩, ⟨.one 0x19C, 211⟩,
  ⟨.one 0x19D, 213⟩, ⟨.one 0x19F, 214⟩, ⟨.every2 0x1A0 0x1A4, 1⟩, ⟨.one 0x1A6, 218⟩,
  ⟨.one 0x1A7, 1⟩, ⟨.one 0x1A9, 218⟩, ⟨.one 0x1AC, 1⟩, ⟨.one 0x1AE, 218⟩, ⟨.one 0x1AF, 1⟩,
  ⟨.span 0x1B1 0x1B2, 217⟩, ⟨.every2 0x1B3 0x1B5, 1⟩, ⟨.one 0x1B7, 219⟩, ⟨.one 0x1B8, 1⟩,
  ⟨.one 0x1BC, 1⟩, ⟨.one 0x1C4, 2⟩, ⟨.one 0x1C5, 1⟩, ⟨.one 0x1C7, 2⟩, ⟨.one 0x1C8, 1⟩,
  ⟨.one 0x1CA, 2⟩, ⟨.every2 0x1CB 0x1DB, 1⟩, ⟨.every2 0x1DE 0x1EE, 1⟩, ⟨.one 0x1F1, 2⟩,
  ⟨.every2 0x1F2 0x1F4, 1⟩, ⟨.one 0x1F6, -97⟩, ⟨.one 0x1F7, -56⟩, ⟨.every2 0x1F8 0x21E, 1⟩,
  ⟨.one 0x220, -130⟩, ⟨.every2 0x222 0x232, 1⟩, ⟨.one 0x23A, 10795⟩, ⟨.one 0x23B, 1⟩,
  ⟨.one 0x23D, -163⟩, ⟨.one 0x23E, 10792⟩, ⟨.one 0x241, 1⟩, ⟨.one 0x243, -195⟩,
  ⟨.one 0x244, 69⟩, ⟨.one 0x245, 71⟩, ⟨.every2 0x246 0x24E, 1⟩, ⟨.every2 0x370 0x372, 1⟩,
  ⟨.one 0x376, 1⟩, ⟨.one 0x37F, 116⟩, ⟨.one 0x386, 38⟩, ⟨.span 0x388 0x38A, 37⟩,
  ⟨.one 0x38C, 64⟩, ⟨.span 0x38E 0x38F, 63⟩, ⟨.span 0x391 0x3A1, 32⟩, ⟨.span 0x3A3 0x3AB, 32⟩,
  ⟨.one 0x3CF, 8⟩, ⟨.every2 0x3D8 0x3EE, 1⟩, ⟨.one 0x3F4, -60⟩, ⟨.one 0x3F7, 1⟩,
  ⟨.one 0x3F9, -7⟩, ⟨.one 0x3FA, 1⟩, ⟨.span 0x3FD 0x3FF, -130⟩, ⟨.span 0x400 0x40F, 80⟩,
  ⟨.span 0x410 0x42F, 32⟩, ⟨.every2 0x460 0x480, 1⟩, ⟨.every2 0x48A 0x4BE, 1⟩, ⟨.one 0x4C0, 15⟩,
  ⟨.every2 0x4C1 0x4CD, 1⟩, ⟨.every2 0x4D0 0x52E, 1⟩, ⟨.span 0x531 0x556, 48⟩,
  ⟨.span 0x10A0 0x10C5, 7264⟩, ⟨.one 0x10C7, 7264⟩, ⟨.one 0x10CD, 7264⟩,
  ⟨.span 0x13A0 0x13EF, 38864⟩, ⟨.span 0x13F0 0x13F5, 8⟩, ⟨.one 0x1C89, 1⟩,
  ⟨.span 0x1C90 0x1CBA, -3008⟩, ⟨.span 0x1CBD 0x1CBF, -3008⟩, ⟨.every2 0x1E00 0x1E94, 1⟩,
  ⟨.one 0x1E9E, -7615⟩, ⟨.every2 0x1EA0 0x1EFE, 1⟩, ⟨.span 0x1F08 0x1F0F, -8⟩,
  ⟨.span 0x1F18 0x1F1D, -8⟩, ⟨.span 0x1F28 0x1F2F, -8⟩, ⟨.span 0x1F38 0x1F3F, -8⟩,
  ⟨.span 0x1F48 0x1F4D, -8⟩, ⟨.every2 0x1F59 0x1F5F, -8⟩, ⟨.span 0x1F68 0x1F6F, -8⟩,
  ⟨.span 0x1F88 0x1F8F, -8⟩, ⟨.span 0x1F98 0x1F9F, -8⟩, ⟨.span 0x1FA8 0x1FAF, -8⟩,
  ⟨.span 0x1FB8 0x1FB9, -8⟩, ⟨.span 0x1FBA 0x1FBB, -74⟩, ⟨.one 0x1FBC, -9⟩,
  ⟨.span 0x1FC8 0x1FCB, -86⟩, ⟨.one 0x1FCC, -9⟩, ⟨.span 0x1FD8 0x1FD9, -8⟩,
  ⟨.span 0x1FDA 0x1FDB, -100⟩, ⟨.span 0x1FE8 0x1FE9, -8⟩, ⟨.span 0x1FEA 0x1FEB, -112⟩,
  ⟨.one 0x1FEC, -7⟩, ⟨.span 0x1FF8 0x1FF9, -128⟩, ⟨.span 0x1FFA 0x1FFB, -126⟩,
  ⟨.one 0x1FFC, -9⟩, ⟨.one 0x2126, -7517⟩, ⟨.one 0x212A, -8383⟩, ⟨.one 0x212B, -8262⟩,
  ⟨.one 0x2132, 28⟩, ⟨.span 0x2160 0x216F, 16⟩, ⟨.one 0x2183, 1⟩, ⟨.span 0x24B6 0x24CF, 26⟩,
  ⟨.span 0x2C00 0x2C2F, 48⟩, ⟨.one 0x2C60, 1⟩, ⟨.one 0x2C62, -10743⟩, ⟨.one 0x2C63, -3814⟩,
  ⟨.one 0x2C64, -10727⟩, ⟨.every2 0x2C67 0x2C6B, 1⟩, ⟨.one 0x2C6D, -10780⟩,
  ⟨.one 0x2C6E, -10749⟩, ⟨.one 0x2C6F, -10783⟩, ⟨.one 0x2C70, -10782⟩, ⟨.one 0x2C72, 1⟩,
  ⟨.one 0x2C75, 1⟩, ⟨.span 0x2C7E 0x2C7F, -10815⟩, ⟨.every2 0x2C80 0x2CE2, 1⟩,
  ⟨.every2 0x2CEB 0x2CED, 1⟩, ⟨.one 0x2CF2, 1⟩, ⟨.every2 0xA640 0xA66C, 1⟩,
  ⟨.every2 0xA680 0xA69A, 1⟩, ⟨.every2 0xA722 0xA72E, 1⟩, ⟨.every2 0xA732 0xA76E, 1⟩,
  ⟨.every2 0xA779 0xA77B, 1⟩, ⟨.one 0xA77D, -35332⟩, ⟨.every2 0xA77E 0xA786, 1⟩,
  ⟨.one 0xA78B, 1⟩, ⟨.one 0xA78D, -42280⟩, ⟨.every2 0xA790 0xA792, 1⟩,
  ⟨.every2 0xA796 0xA7A8, 1⟩, ⟨.one 0xA7AA, -42308⟩, ⟨.one 0xA7AB, -42319⟩,
  ⟨.one 0xA7AC, -42315⟩, ⟨.one 0xA7AD, -42305⟩, ⟨.one 0xA7AE, -42308⟩, ⟨.one 0xA7B0, -42258⟩,
  ⟨.one 0xA7B1, -42282⟩, ⟨.one 0xA7B2, -42261⟩, ⟨.one 0xA7B3, 928⟩, ⟨.every2 0xA7B4 0xA7C2, 1⟩,
  ⟨.one 0xA7C4, -48⟩, ⟨.one 0xA7C5, -42307⟩, ⟨.one 0xA7C6, -35384⟩, ⟨.every2 0xA7C7 0xA7C9, 1⟩,
  ⟨.one 0xA7CB, -42343⟩, ⟨.every2 0xA7CC 0xA7DA, 1⟩, ⟨.one 0xA7DC, -42561⟩, ⟨.one 0xA7F5, 1⟩,
  ⟨.span 0xFF21 0xFF3A, 32⟩, ⟨.span 0x10400 0x10427, 40⟩, ⟨.span 0x104B0 0x104D3, 40⟩,
  ⟨.span 0x10570 0x1057A, 39⟩, ⟨.span 0x1057C 0x1058A, 39⟩, ⟨.span 0x1058C 0x10592, 39⟩,
  ⟨.span 0x10594 0x10595, 39⟩, ⟨.span 0x10C80 0x10CB2, 64⟩, ⟨.span 0x10D50 0x10D65, 32⟩,
  ⟨.span 0x118A0 0x118BF, 32⟩, ⟨.span 0x16E40 0x16E5F, 32⟩, ⟨.span 0x16EA0 0x16EB8, 27⟩,
  ⟨.span 0x1E900 0x1E921, 34⟩]

/-- The lower case of a code point, which is a list because U+0130 expands. -/
def toLower (char : Char) : List Char :=
  if char = 'İ' then ['i', '\u0307']
  else
    match lowerShifts.find? fun shift => shift.run.contains char.toNat with
    | some shift => [Char.ofNat (char.toNat + shift.distance).toNat]
    | none => [char]

end Backtrack.Unicode

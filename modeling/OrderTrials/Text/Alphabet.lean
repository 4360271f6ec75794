import OrderTrials.Text.Printable
/-
# Letters, signs and capitals

Properties of the characters beyond the plain ones as tables of ranges in ascending order: which
are signs and no letters, which show nothing but take their place in a text, and which are the
capitals and the small letters that belong together.

Key definitions: `Text.Alphabet.isSign`, `Text.Alphabet.isFormat`, `Text.Alphabet.capital`,
`Text.Alphabet.small`.
Key theorems: `Text.Alphabet.shifted_nil`.
-/

namespace OrderTrials
namespace Text
namespace Alphabet

/-- The ranges of characters that are signs. Between two signs of one range there are no
letters. -/
def signRanges : Array (Nat × Nat) :=
  #[
    (0x00A0, 0x00A9), (0x00AB, 0x00B4), (0x00B6, 0x00B9), (0x00BB, 0x00BF), (0x00D7, 0x00D7),
    (0x00F7, 0x00F7), (0x02C2, 0x02C5), (0x02D2, 0x02DF), (0x02E5, 0x02EB), (0x02ED, 0x02ED),
    (0x02EF, 0x0344), (0x0346, 0x036F), (0x0375, 0x0375), (0x037E, 0x037E), (0x0384, 0x0385),
    (0x0387, 0x0387), (0x03F6, 0x03F6), (0x0482, 0x0489), (0x055A, 0x055F), (0x0589, 0x05AF),
    (0x05BE, 0x05BE), (0x05C0, 0x05C0), (0x05C3, 0x05C3), (0x05C6, 0x05C6), (0x05F3, 0x060F),
    (0x061B, 0x061F), (0x0658, 0x0658), (0x066A, 0x066D), (0x06D4, 0x06D4), (0x06DD, 0x06E0),
    (0x06E9, 0x06EC), (0x06FD, 0x06FE), (0x0700, 0x070F), (0x0740, 0x074A), (0x07EB, 0x07F3),
    (0x07F6, 0x07F9), (0x07FD, 0x07FF), (0x0818, 0x0819), (0x082D, 0x083E), (0x0859, 0x085E),
    (0x0888, 0x0888), (0x0890, 0x089F), (0x08CA, 0x08D3), (0x08E0, 0x08E2), (0x08EA, 0x08EF),
    (0x093C, 0x093C), (0x094D, 0x094D), (0x0951, 0x0954), (0x0964, 0x0965), (0x0970, 0x0970),
    (0x09BC, 0x09BC), (0x09CD, 0x09CD), (0x09F2, 0x09FB), (0x09FD, 0x09FE), (0x0A3C, 0x0A3C),
    (0x0A4D, 0x0A4D), (0x0A76, 0x0A76), (0x0ABC, 0x0ABC), (0x0ACD, 0x0ACD), (0x0AF0, 0x0AF1),
    (0x0AFD, 0x0AFF), (0x0B3C, 0x0B3C), (0x0B4D, 0x0B55), (0x0B70, 0x0B70), (0x0B72, 0x0B77),
    (0x0BCD, 0x0BCD), (0x0BF0, 0x0BFA), (0x0C3C, 0x0C3C), (0x0C4D, 0x0C4D), (0x0C77, 0x0C7F),
    (0x0C84, 0x0C84), (0x0CBC, 0x0CBC), (0x0CCD, 0x0CCD), (0x0D3B, 0x0D3C), (0x0D4D, 0x0D4D),
    (0x0D4F, 0x0D4F), (0x0D58, 0x0D5E), (0x0D70, 0x0D79), (0x0DCA, 0x0DCA), (0x0DF4, 0x0DF4),
    (0x0E3F, 0x0E3F), (0x0E47, 0x0E4C), (0x0E4E, 0x0E4F), (0x0E5A, 0x0E5B), (0x0EBA, 0x0EBA),
    (0x0EC8, 0x0ECC), (0x0ECE, 0x0ECE), (0x0F01, 0x0F1F), (0x0F2A, 0x0F3F), (0x0F84, 0x0F87),
    (0x0FBE, 0x0FDA), (0x1037, 0x1037), (0x1039, 0x103A), (0x104A, 0x104F), (0x109E, 0x109F),
    (0x10FB, 0x10FB), (0x135D, 0x137C), (0x1390, 0x1399), (0x1400, 0x1400), (0x166D, 0x166E),
    (0x1680, 0x1680), (0x169B, 0x169C), (0x16EB, 0x16ED), (0x1714, 0x1715), (0x1734, 0x1736),
    (0x17B4, 0x17B5), (0x17C9, 0x17D6), (0x17D8, 0x17DB), (0x17DD, 0x17DD), (0x17F0, 0x180F),
    (0x1939, 0x1945), (0x19DA, 0x19FF), (0x1A1E, 0x1A1F), (0x1A60, 0x1A60), (0x1A75, 0x1A7F),
    (0x1AA0, 0x1AA6), (0x1AA8, 0x1ABE), (0x1AC1, 0x1ACB), (0x1B34, 0x1B34), (0x1B44, 0x1B44),
    (0x1B5A, 0x1B7E), (0x1BAA, 0x1BAB), (0x1BE6, 0x1BE6), (0x1BF2, 0x1BFF), (0x1C37, 0x1C3F),
    (0x1C7E, 0x1C7F), (0x1CC0, 0x1CE8), (0x1CED, 0x1CED), (0x1CF4, 0x1CF4), (0x1CF7, 0x1CF9),
    (0x1DC0, 0x1DE6), (0x1DF5, 0x1DFF), (0x1FBD, 0x1FBD), (0x1FBF, 0x1FC1), (0x1FCD, 0x1FCF),
    (0x1FDD, 0x1FDF), (0x1FED, 0x1FEF), (0x1FFD, 0x2070), (0x2074, 0x207E), (0x2080, 0x208E),
    (0x20A0, 0x2101), (0x2103, 0x2106), (0x2108, 0x2109), (0x2114, 0x2114), (0x2116, 0x2118),
    (0x211E, 0x2123), (0x2125, 0x2125), (0x2127, 0x2127), (0x2129, 0x2129), (0x212E, 0x212E),
    (0x213A, 0x213B), (0x2140, 0x2144), (0x214A, 0x214D), (0x214F, 0x215F), (0x2189, 0x24B5),
    (0x24EA, 0x2BFF), (0x2CE5, 0x2CEA), (0x2CEF, 0x2CF1), (0x2CF9, 0x2CFF), (0x2D70, 0x2D7F),
    (0x2E00, 0x2E2E), (0x2E30, 0x3004), (0x3008, 0x3020), (0x302A, 0x3030), (0x3036, 0x3037),
    (0x303D, 0x303F), (0x3099, 0x309C), (0x30A0, 0x30A0), (0x30FB, 0x30FB), (0x3190, 0x319F),
    (0x31C0, 0x31EF), (0x3200, 0x33FF), (0x4DC0, 0x4DFF), (0xA490, 0xA4C6), (0xA4FE, 0xA4FF),
    (0xA60D, 0xA60F), (0xA66F, 0xA673), (0xA67C, 0xA67E), (0xA6F0, 0xA716), (0xA720, 0xA721),
    (0xA789, 0xA78A), (0xA806, 0xA806), (0xA828, 0xA839), (0xA874, 0xA877), (0xA8C4, 0xA8C4),
    (0xA8CE, 0xA8CF), (0xA8E0, 0xA8F1), (0xA8F8, 0xA8FA), (0xA8FC, 0xA8FC), (0xA92B, 0xA92F),
    (0xA953, 0xA95F), (0xA9B3, 0xA9B3), (0xA9C0, 0xA9CD), (0xA9DE, 0xA9DF), (0xAA5C, 0xAA5F),
    (0xAA77, 0xAA79), (0xAABF, 0xAABF), (0xAAC1, 0xAAC1), (0xAADE, 0xAADF), (0xAAF0, 0xAAF1),
    (0xAAF6, 0xAAF6), (0xAB5B, 0xAB5B), (0xAB6A, 0xAB6B), (0xABEB, 0xABED), (0xE000, 0xF8FF),
    (0xFB29, 0xFB29), (0xFBB2, 0xFBC2), (0xFD3E, 0xFD4F), (0xFDCF, 0xFDCF), (0xFDFC, 0xFE6B),
    (0xFEFF, 0xFF0F), (0xFF1A, 0xFF20), (0xFF3B, 0xFF40), (0xFF5B, 0xFF65), (0xFFE0, 0xFFFD),
    (0x10100, 0x1013F), (0x10175, 0x101FD), (0x102E0, 0x102FB), (0x10320, 0x10323),
    (0x1039F, 0x1039F), (0x103D0, 0x103D0), (0x1056F, 0x1056F), (0x10857, 0x1085F),
    (0x10877, 0x1087F), (0x108A7, 0x108AF), (0x108FB, 0x108FF), (0x10916, 0x1091F),
    (0x1093F, 0x1093F), (0x109BC, 0x109BD), (0x109C0, 0x109FF), (0x10A38, 0x10A58),
    (0x10A7D, 0x10A7F), (0x10A9D, 0x10A9F), (0x10AC8, 0x10AC8), (0x10AE5, 0x10AF6),
    (0x10B39, 0x10B3F), (0x10B58, 0x10B5F), (0x10B78, 0x10B7F), (0x10B99, 0x10BAF),
    (0x10CFA, 0x10CFF), (0x10E60, 0x10E7E), (0x10EAD, 0x10EAD), (0x10EFD, 0x10EFF),
    (0x10F1D, 0x10F26), (0x10F46, 0x10F59), (0x10F82, 0x10F89), (0x10FC5, 0x10FCB),
    (0x11046, 0x11065), (0x11070, 0x11070), (0x1107F, 0x1107F), (0x110B9, 0x110C1),
    (0x110CD, 0x110CD), (0x11133, 0x11134), (0x11140, 0x11143), (0x11173, 0x11175),
    (0x111C0, 0x111C0), (0x111C5, 0x111CD), (0x111DB, 0x111DB), (0x111DD, 0x111F4),
    (0x11235, 0x11236), (0x11238, 0x1123D), (0x112A9, 0x112A9), (0x112E9, 0x112EA),
    (0x1133B, 0x1133C), (0x1134D, 0x1134D), (0x11366, 0x11374), (0x11442, 0x11442),
    (0x11446, 0x11446), (0x1144B, 0x1144F), (0x1145A, 0x1145E), (0x114C2, 0x114C3),
    (0x114C6, 0x114C6), (0x115BF, 0x115D7), (0x1163F, 0x1163F), (0x11641, 0x11643),
    (0x11660, 0x1166C), (0x116B6, 0x116B7), (0x116B9, 0x116B9), (0x1172B, 0x1172B),
    (0x1173A, 0x1173F), (0x11839, 0x1183B), (0x118EA, 0x118F2), (0x1193D, 0x1193E),
    (0x11943, 0x11946), (0x119E0, 0x119E0), (0x119E2, 0x119E2), (0x11A33, 0x11A34),
    (0x11A3F, 0x11A47), (0x11A98, 0x11A9C), (0x11A9E, 0x11AA2), (0x11B00, 0x11B09),
    (0x11C3F, 0x11C3F), (0x11C41, 0x11C45), (0x11C5A, 0x11C71), (0x11D42, 0x11D42),
    (0x11D44, 0x11D45), (0x11D97, 0x11D97), (0x11EF7, 0x11EF8), (0x11F41, 0x11F4F),
    (0x11FC0, 0x11FFF), (0x12470, 0x12474), (0x12FF1, 0x12FF2), (0x13430, 0x13440),
    (0x13447, 0x13455), (0x16A6E, 0x16A6F), (0x16AF0, 0x16AF5), (0x16B30, 0x16B3F),
    (0x16B44, 0x16B45), (0x16B5B, 0x16B61), (0x16E80, 0x16E9A), (0x16FE2, 0x16FE2),
    (0x16FE4, 0x16FE4), (0x1BC9C, 0x1BC9D), (0x1BC9F, 0x1D378), (0x1D6C1, 0x1D6C1),
    (0x1D6DB, 0x1D6DB), (0x1D6FB, 0x1D6FB), (0x1D715, 0x1D715), (0x1D735, 0x1D735),
    (0x1D74F, 0x1D74F), (0x1D76F, 0x1D76F), (0x1D789, 0x1D789), (0x1D7A9, 0x1D7A9),
    (0x1D7C3, 0x1D7C3), (0x1D800, 0x1DAAF), (0x1E130, 0x1E136), (0x1E14F, 0x1E14F),
    (0x1E2AE, 0x1E2AE), (0x1E2EC, 0x1E2EF), (0x1E2FF, 0x1E2FF), (0x1E4EC, 0x1E4EF),
    (0x1E8C7, 0x1E8D6), (0x1E944, 0x1E946), (0x1E948, 0x1E94A), (0x1E95E, 0x1ED3D),
    (0x1EEF0, 0x1F12F), (0x1F14A, 0x1F14F), (0x1F16A, 0x1F16F), (0x1F18A, 0x1FBCA),
    (0xE0001, 0x10FFFD)]

/-- The ranges of characters that show nothing but take their place in a text. -/
def formatRanges : Array (Nat × Nat) :=
  #[
    (0x00A0, 0x00A0), (0x00AD, 0x00AD), (0x0600, 0x0605), (0x061C, 0x061C), (0x06DD, 0x06DD),
    (0x070F, 0x070F), (0x0890, 0x0891), (0x08E2, 0x08E2), (0x115F, 0x1160), (0x1680, 0x1680),
    (0x180E, 0x180E), (0x2000, 0x200F), (0x202A, 0x202F), (0x205F, 0x2064), (0x2066, 0x206F),
    (0x3000, 0x3000), (0x3164, 0x3164), (0xE000, 0xF8FF), (0xFEFF, 0xFEFF), (0xFFA0, 0xFFA0),
    (0xFFF9, 0xFFFB), (0x110BD, 0x110BD), (0x110CD, 0x110CD), (0x13430, 0x1343F),
    (0x1BCA0, 0x1BCA3), (0x1D173, 0x1D17A), (0xE0001, 0xE0001), (0xE0020, 0xE007F),
    (0xF0000, 0xFFFFD), (0x100000, 0x10FFFD)]

/-- Characters so many apart, from a first to a last one, and how far the others are to which they
belong. -/
abbrev Shift := Nat × Nat × Nat × Int

/-- The small letters, and how far away their capitals are. -/
def toCapitals : List Shift :=
  [
    (0x00B5, 0x00B5, 1, 743), (0x00E0, 0x00F6, 1, -32), (0x00F8, 0x00FE, 1, -32),
    (0x00FF, 0x00FF, 1, 121), (0x0101, 0x012F, 2, -1), (0x0131, 0x0131, 1, -232),
    (0x0133, 0x0137, 2, -1), (0x013A, 0x0148, 2, -1), (0x014B, 0x0177, 2, -1),
    (0x017A, 0x017E, 2, -1), (0x017F, 0x017F, 1, -300), (0x0180, 0x0180, 1, 195),
    (0x0183, 0x0185, 2, -1), (0x0188, 0x0188, 1, -1), (0x018C, 0x018C, 1, -1),
    (0x0192, 0x0192, 1, -1), (0x0195, 0x0195, 1, 97), (0x0199, 0x0199, 1, -1),
    (0x019A, 0x019A, 1, 163), (0x019E, 0x019E, 1, 130), (0x01A1, 0x01A5, 2, -1),
    (0x01A8, 0x01A8, 1, -1), (0x01AD, 0x01AD, 1, -1), (0x01B0, 0x01B0, 1, -1),
    (0x01B4, 0x01B6, 2, -1), (0x01B9, 0x01B9, 1, -1), (0x01BD, 0x01BD, 1, -1),
    (0x01BF, 0x01BF, 1, 56), (0x01C5, 0x01C5, 1, -1), (0x01C6, 0x01C6, 1, -2),
    (0x01C8, 0x01C8, 1, -1), (0x01C9, 0x01C9, 1, -2), (0x01CB, 0x01CB, 1, -1),
    (0x01CC, 0x01CC, 1, -2), (0x01CE, 0x01DC, 2, -1), (0x01DD, 0x01DD, 1, -79),
    (0x01DF, 0x01EF, 2, -1), (0x01F2, 0x01F2, 1, -1), (0x01F3, 0x01F3, 1, -2),
    (0x01F5, 0x01F5, 1, -1), (0x01F9, 0x021F, 2, -1), (0x0223, 0x0233, 2, -1),
    (0x023C, 0x023C, 1, -1), (0x023F, 0x0240, 1, 10815), (0x0242, 0x0242, 1, -1),
    (0x0247, 0x024F, 2, -1), (0x0250, 0x0250, 1, 10783), (0x0251, 0x0251, 1, 10780),
    (0x0252, 0x0252, 1, 10782), (0x0253, 0x0253, 1, -210), (0x0254, 0x0254, 1, -206),
    (0x0256, 0x0257, 1, -205), (0x0259, 0x0259, 1, -202), (0x025B, 0x025B, 1, -203),
    (0x025C, 0x025C, 1, 42319), (0x0260, 0x0260, 1, -205), (0x0261, 0x0261, 1, 42315),
    (0x0263, 0x0263, 1, -207), (0x0265, 0x0265, 1, 42280), (0x0266, 0x0266, 1, 42308),
    (0x0268, 0x0268, 1, -209), (0x0269, 0x0269, 1, -211), (0x026A, 0x026A, 1, 42308),
    (0x026B, 0x026B, 1, 10743), (0x026C, 0x026C, 1, 42305), (0x026F, 0x026F, 1, -211),
    (0x0271, 0x0271, 1, 10749), (0x0272, 0x0272, 1, -213), (0x0275, 0x0275, 1, -214),
    (0x027D, 0x027D, 1, 10727), (0x0280, 0x0280, 1, -218), (0x0282, 0x0282, 1, 42307),
    (0x0283, 0x0283, 1, -218), (0x0287, 0x0287, 1, 42282), (0x0288, 0x0288, 1, -218),
    (0x0289, 0x0289, 1, -69), (0x028A, 0x028B, 1, -217), (0x028C, 0x028C, 1, -71),
    (0x0292, 0x0292, 1, -219), (0x029D, 0x029D, 1, 42261), (0x029E, 0x029E, 1, 42258),
    (0x0345, 0x0345, 1, 84), (0x0371, 0x0373, 2, -1), (0x0377, 0x0377, 1, -1),
    (0x037B, 0x037D, 1, 130), (0x03AC, 0x03AC, 1, -38), (0x03AD, 0x03AF, 1, -37),
    (0x03B1, 0x03C1, 1, -32), (0x03C2, 0x03C2, 1, -31), (0x03C3, 0x03CB, 1, -32),
    (0x03CC, 0x03CC, 1, -64), (0x03CD, 0x03CE, 1, -63), (0x03D0, 0x03D0, 1, -62),
    (0x03D1, 0x03D1, 1, -57), (0x03D5, 0x03D5, 1, -47), (0x03D6, 0x03D6, 1, -54),
    (0x03D7, 0x03D7, 1, -8), (0x03D9, 0x03EF, 2, -1), (0x03F0, 0x03F0, 1, -86),
    (0x03F1, 0x03F1, 1, -80), (0x03F2, 0x03F2, 1, 7), (0x03F3, 0x03F3, 1, -116),
    (0x03F5, 0x03F5, 1, -96), (0x03F8, 0x03F8, 1, -1), (0x03FB, 0x03FB, 1, -1),
    (0x0430, 0x044F, 1, -32), (0x0450, 0x045F, 1, -80), (0x0461, 0x0481, 2, -1),
    (0x048B, 0x04BF, 2, -1), (0x04C2, 0x04CE, 2, -1), (0x04CF, 0x04CF, 1, -15),
    (0x04D1, 0x052F, 2, -1), (0x0561, 0x0586, 1, -48), (0x10D0, 0x10FA, 1, 3008),
    (0x10FD, 0x10FF, 1, 3008), (0x13F8, 0x13FD, 1, -8), (0x1C80, 0x1C80, 1, -6254),
    (0x1C81, 0x1C81, 1, -6253), (0x1C82, 0x1C82, 1, -6244), (0x1C83, 0x1C84, 1, -6242),
    (0x1C85, 0x1C85, 1, -6243), (0x1C86, 0x1C86, 1, -6236), (0x1C87, 0x1C87, 1, -6181),
    (0x1C88, 0x1C88, 1, 35266), (0x1D79, 0x1D79, 1, 35332), (0x1D7D, 0x1D7D, 1, 3814),
    (0x1D8E, 0x1D8E, 1, 35384), (0x1E01, 0x1E95, 2, -1), (0x1E9B, 0x1E9B, 1, -59),
    (0x1EA1, 0x1EFF, 2, -1), (0x1F00, 0x1F07, 1, 8), (0x1F10, 0x1F15, 1, 8), (0x1F20, 0x1F27, 1, 8),
    (0x1F30, 0x1F37, 1, 8), (0x1F40, 0x1F45, 1, 8), (0x1F51, 0x1F57, 2, 8), (0x1F60, 0x1F67, 1, 8),
    (0x1F70, 0x1F71, 1, 74), (0x1F72, 0x1F75, 1, 86), (0x1F76, 0x1F77, 1, 100),
    (0x1F78, 0x1F79, 1, 128), (0x1F7A, 0x1F7B, 1, 112), (0x1F7C, 0x1F7D, 1, 126),
    (0x1F80, 0x1F87, 1, 8), (0x1F90, 0x1F97, 1, 8), (0x1FA0, 0x1FA7, 1, 8), (0x1FB0, 0x1FB1, 1, 8),
    (0x1FB3, 0x1FB3, 1, 9), (0x1FBE, 0x1FBE, 1, -7205), (0x1FC3, 0x1FC3, 1, 9),
    (0x1FD0, 0x1FD1, 1, 8), (0x1FE0, 0x1FE1, 1, 8), (0x1FE5, 0x1FE5, 1, 7), (0x1FF3, 0x1FF3, 1, 9),
    (0x214E, 0x214E, 1, -28), (0x2170, 0x217F, 1, -16), (0x2184, 0x2184, 1, -1),
    (0x24D0, 0x24E9, 1, -26), (0x2C30, 0x2C5F, 1, -48), (0x2C61, 0x2C61, 1, -1),
    (0x2C65, 0x2C65, 1, -10795), (0x2C66, 0x2C66, 1, -10792), (0x2C68, 0x2C6C, 2, -1),
    (0x2C73, 0x2C73, 1, -1), (0x2C76, 0x2C76, 1, -1), (0x2C81, 0x2CE3, 2, -1),
    (0x2CEC, 0x2CEE, 2, -1), (0x2CF3, 0x2CF3, 1, -1), (0x2D00, 0x2D25, 1, -7264),
    (0x2D27, 0x2D27, 1, -7264), (0x2D2D, 0x2D2D, 1, -7264), (0xA641, 0xA66D, 2, -1),
    (0xA681, 0xA69B, 2, -1), (0xA723, 0xA72F, 2, -1), (0xA733, 0xA76F, 2, -1),
    (0xA77A, 0xA77C, 2, -1), (0xA77F, 0xA787, 2, -1), (0xA78C, 0xA78C, 1, -1),
    (0xA791, 0xA793, 2, -1), (0xA794, 0xA794, 1, 48), (0xA797, 0xA7A9, 2, -1),
    (0xA7B5, 0xA7C3, 2, -1), (0xA7C8, 0xA7CA, 2, -1), (0xA7D1, 0xA7D1, 1, -1),
    (0xA7D7, 0xA7D9, 2, -1), (0xA7F6, 0xA7F6, 1, -1), (0xAB53, 0xAB53, 1, -928),
    (0xAB70, 0xABBF, 1, -38864), (0xFF41, 0xFF5A, 1, -32), (0x10428, 0x1044F, 1, -40),
    (0x104D8, 0x104FB, 1, -40), (0x10597, 0x105BB, 2, -39), (0x10598, 0x105A0, 2, -39),
    (0x105A4, 0x105B0, 2, -39), (0x105B4, 0x105B8, 2, -39), (0x105BC, 0x105BC, 1, -39),
    (0x10CC0, 0x10CF2, 1, -64), (0x118C0, 0x118DF, 1, -32), (0x16E60, 0x16E7F, 1, -32),
    (0x1E922, 0x1E943, 1, -34)]

/-- The capitals, and how far away their small letters are. -/
def toSmall : List Shift :=
  [
    (0x00C0, 0x00D6, 1, 32), (0x00D8, 0x00DE, 1, 32), (0x0100, 0x012E, 2, 1),
    (0x0130, 0x0130, 1, -199), (0x0132, 0x0136, 2, 1), (0x0139, 0x0147, 2, 1),
    (0x014A, 0x0176, 2, 1), (0x0178, 0x0178, 1, -121), (0x0179, 0x017D, 2, 1),
    (0x0181, 0x0181, 1, 210), (0x0182, 0x0184, 2, 1), (0x0186, 0x0186, 1, 206),
    (0x0187, 0x0187, 1, 1), (0x0189, 0x018A, 1, 205), (0x018B, 0x018B, 1, 1),
    (0x018E, 0x018E, 1, 79), (0x018F, 0x018F, 1, 202), (0x0190, 0x0190, 1, 203),
    (0x0191, 0x0191, 1, 1), (0x0193, 0x0193, 1, 205), (0x0194, 0x0194, 1, 207),
    (0x0196, 0x0196, 1, 211), (0x0197, 0x0197, 1, 209), (0x0198, 0x0198, 1, 1),
    (0x019C, 0x019C, 1, 211), (0x019D, 0x019D, 1, 213), (0x019F, 0x019F, 1, 214),
    (0x01A0, 0x01A4, 2, 1), (0x01A6, 0x01A6, 1, 218), (0x01A7, 0x01A7, 1, 1),
    (0x01A9, 0x01A9, 1, 218), (0x01AC, 0x01AC, 1, 1), (0x01AE, 0x01AE, 1, 218),
    (0x01AF, 0x01AF, 1, 1), (0x01B1, 0x01B2, 1, 217), (0x01B3, 0x01B5, 2, 1),
    (0x01B7, 0x01B7, 1, 219), (0x01B8, 0x01B8, 1, 1), (0x01BC, 0x01BC, 1, 1),
    (0x01C4, 0x01C4, 1, 2), (0x01C5, 0x01C5, 1, 1), (0x01C7, 0x01C7, 1, 2), (0x01C8, 0x01C8, 1, 1),
    (0x01CA, 0x01CA, 1, 2), (0x01CB, 0x01DB, 2, 1), (0x01DE, 0x01EE, 2, 1), (0x01F1, 0x01F1, 1, 2),
    (0x01F2, 0x01F4, 2, 1), (0x01F6, 0x01F6, 1, -97), (0x01F7, 0x01F7, 1, -56),
    (0x01F8, 0x021E, 2, 1), (0x0220, 0x0220, 1, -130), (0x0222, 0x0232, 2, 1),
    (0x023A, 0x023A, 1, 10795), (0x023B, 0x023B, 1, 1), (0x023D, 0x023D, 1, -163),
    (0x023E, 0x023E, 1, 10792), (0x0241, 0x0241, 1, 1), (0x0243, 0x0243, 1, -195),
    (0x0244, 0x0244, 1, 69), (0x0245, 0x0245, 1, 71), (0x0246, 0x024E, 2, 1),
    (0x0370, 0x0372, 2, 1), (0x0376, 0x0376, 1, 1), (0x037F, 0x037F, 1, 116),
    (0x0386, 0x0386, 1, 38), (0x0388, 0x038A, 1, 37), (0x038C, 0x038C, 1, 64),
    (0x038E, 0x038F, 1, 63), (0x0391, 0x03A1, 1, 32), (0x03A3, 0x03AB, 1, 32),
    (0x03CF, 0x03CF, 1, 8), (0x03D8, 0x03EE, 2, 1), (0x03F4, 0x03F4, 1, -60),
    (0x03F7, 0x03F7, 1, 1), (0x03F9, 0x03F9, 1, -7), (0x03FA, 0x03FA, 1, 1),
    (0x03FD, 0x03FF, 1, -130), (0x0400, 0x040F, 1, 80), (0x0410, 0x042F, 1, 32),
    (0x0460, 0x0480, 2, 1), (0x048A, 0x04BE, 2, 1), (0x04C0, 0x04C0, 1, 15), (0x04C1, 0x04CD, 2, 1),
    (0x04D0, 0x052E, 2, 1), (0x0531, 0x0556, 1, 48), (0x10A0, 0x10C5, 1, 7264),
    (0x10C7, 0x10C7, 1, 7264), (0x10CD, 0x10CD, 1, 7264), (0x13A0, 0x13EF, 1, 38864),
    (0x13F0, 0x13F5, 1, 8), (0x1C90, 0x1CBA, 1, -3008), (0x1CBD, 0x1CBF, 1, -3008),
    (0x1E00, 0x1E94, 2, 1), (0x1E9E, 0x1E9E, 1, -7615), (0x1EA0, 0x1EFE, 2, 1),
    (0x1F08, 0x1F0F, 1, -8), (0x1F18, 0x1F1D, 1, -8), (0x1F28, 0x1F2F, 1, -8),
    (0x1F38, 0x1F3F, 1, -8), (0x1F48, 0x1F4D, 1, -8), (0x1F59, 0x1F5F, 2, -8),
    (0x1F68, 0x1F6F, 1, -8), (0x1F88, 0x1F8F, 1, -8), (0x1F98, 0x1F9F, 1, -8),
    (0x1FA8, 0x1FAF, 1, -8), (0x1FB8, 0x1FB9, 1, -8), (0x1FBA, 0x1FBB, 1, -74),
    (0x1FBC, 0x1FBC, 1, -9), (0x1FC8, 0x1FCB, 1, -86), (0x1FCC, 0x1FCC, 1, -9),
    (0x1FD8, 0x1FD9, 1, -8), (0x1FDA, 0x1FDB, 1, -100), (0x1FE8, 0x1FE9, 1, -8),
    (0x1FEA, 0x1FEB, 1, -112), (0x1FEC, 0x1FEC, 1, -7), (0x1FF8, 0x1FF9, 1, -128),
    (0x1FFA, 0x1FFB, 1, -126), (0x1FFC, 0x1FFC, 1, -9), (0x2126, 0x2126, 1, -7517),
    (0x212A, 0x212A, 1, -8383), (0x212B, 0x212B, 1, -8262), (0x2132, 0x2132, 1, 28),
    (0x2160, 0x216F, 1, 16), (0x2183, 0x2183, 1, 1), (0x24B6, 0x24CF, 1, 26),
    (0x2C00, 0x2C2F, 1, 48), (0x2C60, 0x2C60, 1, 1), (0x2C62, 0x2C62, 1, -10743),
    (0x2C63, 0x2C63, 1, -3814), (0x2C64, 0x2C64, 1, -10727), (0x2C67, 0x2C6B, 2, 1),
    (0x2C6D, 0x2C6D, 1, -10780), (0x2C6E, 0x2C6E, 1, -10749), (0x2C6F, 0x2C6F, 1, -10783),
    (0x2C70, 0x2C70, 1, -10782), (0x2C72, 0x2C72, 1, 1), (0x2C75, 0x2C75, 1, 1),
    (0x2C7E, 0x2C7F, 1, -10815), (0x2C80, 0x2CE2, 2, 1), (0x2CEB, 0x2CED, 2, 1),
    (0x2CF2, 0x2CF2, 1, 1), (0xA640, 0xA66C, 2, 1), (0xA680, 0xA69A, 2, 1), (0xA722, 0xA72E, 2, 1),
    (0xA732, 0xA76E, 2, 1), (0xA779, 0xA77B, 2, 1), (0xA77D, 0xA77D, 1, -35332),
    (0xA77E, 0xA786, 2, 1), (0xA78B, 0xA78B, 1, 1), (0xA78D, 0xA78D, 1, -42280),
    (0xA790, 0xA792, 2, 1), (0xA796, 0xA7A8, 2, 1), (0xA7AA, 0xA7AA, 1, -42308),
    (0xA7AB, 0xA7AB, 1, -42319), (0xA7AC, 0xA7AC, 1, -42315), (0xA7AD, 0xA7AD, 1, -42305),
    (0xA7AE, 0xA7AE, 1, -42308), (0xA7B0, 0xA7B0, 1, -42258), (0xA7B1, 0xA7B1, 1, -42282),
    (0xA7B2, 0xA7B2, 1, -42261), (0xA7B3, 0xA7B3, 1, 928), (0xA7B4, 0xA7C2, 2, 1),
    (0xA7C4, 0xA7C4, 1, -48), (0xA7C5, 0xA7C5, 1, -42307), (0xA7C6, 0xA7C6, 1, -35384),
    (0xA7C7, 0xA7C9, 2, 1), (0xA7D0, 0xA7D0, 1, 1), (0xA7D6, 0xA7D8, 2, 1), (0xA7F5, 0xA7F5, 1, 1),
    (0xFF21, 0xFF3A, 1, 32), (0x10400, 0x10427, 1, 40), (0x104B0, 0x104D3, 1, 40),
    (0x10570, 0x10594, 2, 39), (0x10571, 0x10579, 2, 39), (0x1057D, 0x10589, 2, 39),
    (0x1058D, 0x10591, 2, 39), (0x10595, 0x10595, 1, 39), (0x10C80, 0x10CB2, 1, 64),
    (0x118A0, 0x118BF, 1, 32), (0x16E40, 0x16E5F, 1, 32), (0x1E900, 0x1E921, 1, 34)]

/-- The character to which another one belongs; without one it is that itself. -/
def shifted (shifts : List Shift) (c : Char) : Char :=
  let n := c.toNat
  match shifts.find? fun (first, last, apart, _) =>
      decide (first ≤ n) && decide (n ≤ last) && (n - first) % apart == 0 with
  | some (_, _, _, distance) => Char.ofNat ((n : Int) + distance).toNat
  | none => c

theorem shifted_nil (c : Char) : shifted [] c = c := rfl

/-- The capital of a small letter. -/
def capital (c : Char) : Char := shifted toCapitals c

/-- The small letter of a capital. -/
def small (c : Char) : Char := shifted toSmall c

/-- Whether a character is a sign. -/
def isSign (c : Char) : Bool := inRanges signRanges c.toNat 0 signRanges.size

/-- Whether a character shows nothing but takes its place in a text. -/
def isFormat (c : Char) : Bool := inRanges formatRanges c.toNat 0 formatRanges.size

end Alphabet
end Text
end OrderTrials

import PolicyGate.Text.Span

/-!
# Marks, as data

The marks that combine with the character before them, and their classes: marks of different
classes may be written in any order, and are kept in the order of their classes (Unicode 17). The
tables are for the characters that the name of a host may have; spans may reach over others.
-/

namespace PolicyGate.Text

/-- The marks that take no room of their own. -/
def nonspacingSpans : List Span := [
  ⟨0x0300, 0x036F, 1⟩, ⟨0x0483, 0x0489, 1⟩, ⟨0x0591, 0x05BD, 1⟩, ⟨0x05BF, 0x05BF, 1⟩,
  ⟨0x05C1, 0x05C2, 1⟩, ⟨0x05C4, 0x05C5, 1⟩, ⟨0x05C7, 0x05C7, 1⟩, ⟨0x0610, 0x061A, 1⟩,
  ⟨0x064B, 0x065F, 1⟩, ⟨0x0670, 0x0670, 1⟩, ⟨0x06D6, 0x06DC, 1⟩, ⟨0x06DF, 0x06E4, 1⟩,
  ⟨0x06E7, 0x06E8, 1⟩, ⟨0x06EA, 0x06ED, 1⟩, ⟨0x0711, 0x0711, 1⟩, ⟨0x0730, 0x074A, 1⟩,
  ⟨0x07A6, 0x07B0, 1⟩, ⟨0x07EB, 0x07F3, 1⟩, ⟨0x07FD, 0x07FD, 1⟩, ⟨0x0816, 0x0819, 1⟩,
  ⟨0x081B, 0x0823, 1⟩, ⟨0x0825, 0x0827, 1⟩, ⟨0x0829, 0x082D, 1⟩, ⟨0x0859, 0x085B, 1⟩,
  ⟨0x0897, 0x089F, 1⟩, ⟨0x08CA, 0x0902, 1⟩, ⟨0x093A, 0x093A, 1⟩, ⟨0x093C, 0x093C, 1⟩,
  ⟨0x0941, 0x0948, 1⟩, ⟨0x094D, 0x094D, 1⟩, ⟨0x0951, 0x0957, 1⟩, ⟨0x0962, 0x0963, 1⟩,
  ⟨0x0981, 0x0981, 1⟩, ⟨0x09BC, 0x09BC, 1⟩, ⟨0x09C1, 0x09C4, 1⟩, ⟨0x09CD, 0x09CD, 1⟩,
  ⟨0x09E2, 0x09E3, 1⟩, ⟨0x09FE, 0x0A02, 1⟩, ⟨0x0A3C, 0x0A3C, 1⟩, ⟨0x0A41, 0x0A51, 1⟩,
  ⟨0x0A70, 0x0A71, 1⟩, ⟨0x0A75, 0x0A75, 1⟩, ⟨0x0A81, 0x0A82, 1⟩, ⟨0x0ABC, 0x0ABC, 1⟩,
  ⟨0x0AC1, 0x0AC8, 1⟩, ⟨0x0ACD, 0x0ACD, 1⟩, ⟨0x0AE2, 0x0AE3, 1⟩, ⟨0x0AFA, 0x0B01, 1⟩,
  ⟨0x0B3C, 0x0B3C, 1⟩, ⟨0x0B3F, 0x0B3F, 1⟩, ⟨0x0B41, 0x0B44, 1⟩, ⟨0x0B4D, 0x0B56, 1⟩,
  ⟨0x0B62, 0x0B63, 1⟩, ⟨0x0B82, 0x0B82, 1⟩, ⟨0x0BC0, 0x0BC0, 1⟩, ⟨0x0BCD, 0x0BCD, 1⟩,
  ⟨0x0C00, 0x0C00, 1⟩, ⟨0x0C04, 0x0C04, 1⟩, ⟨0x0C3C, 0x0C3C, 1⟩, ⟨0x0C3E, 0x0C40, 1⟩,
  ⟨0x0C46, 0x0C56, 1⟩, ⟨0x0C62, 0x0C63, 1⟩, ⟨0x0C81, 0x0C81, 1⟩, ⟨0x0CBC, 0x0CBC, 1⟩,
  ⟨0x0CBF, 0x0CBF, 1⟩, ⟨0x0CC6, 0x0CC6, 1⟩, ⟨0x0CCC, 0x0CCD, 1⟩, ⟨0x0CE2, 0x0CE3, 1⟩,
  ⟨0x0D00, 0x0D01, 1⟩, ⟨0x0D3B, 0x0D3C, 1⟩, ⟨0x0D41, 0x0D44, 1⟩, ⟨0x0D4D, 0x0D4D, 1⟩,
  ⟨0x0D62, 0x0D63, 1⟩, ⟨0x0D81, 0x0D81, 1⟩, ⟨0x0DCA, 0x0DCA, 1⟩, ⟨0x0DD2, 0x0DD6, 1⟩,
  ⟨0x0E31, 0x0E31, 1⟩, ⟨0x0E34, 0x0E3A, 1⟩, ⟨0x0E47, 0x0E4E, 1⟩, ⟨0x0EB1, 0x0EB1, 1⟩,
  ⟨0x0EB4, 0x0EBC, 1⟩, ⟨0x0EC8, 0x0ECE, 1⟩, ⟨0x0F18, 0x0F19, 1⟩, ⟨0x0F35, 0x0F39, 2⟩,
  ⟨0x0F71, 0x0F7E, 1⟩, ⟨0x0F80, 0x0F84, 1⟩, ⟨0x0F86, 0x0F87, 1⟩, ⟨0x0F8D, 0x0FBC, 1⟩,
  ⟨0x0FC6, 0x0FC6, 1⟩, ⟨0x102D, 0x1030, 1⟩, ⟨0x1032, 0x1037, 1⟩, ⟨0x1039, 0x103A, 1⟩,
  ⟨0x103D, 0x103E, 1⟩, ⟨0x1058, 0x1059, 1⟩, ⟨0x105E, 0x1060, 1⟩, ⟨0x1071, 0x1074, 1⟩,
  ⟨0x1082, 0x1082, 1⟩, ⟨0x1085, 0x1086, 1⟩, ⟨0x108D, 0x108D, 1⟩, ⟨0x109D, 0x109D, 1⟩,
  ⟨0x135D, 0x135F, 1⟩, ⟨0x1712, 0x1714, 1⟩, ⟨0x1732, 0x1733, 1⟩, ⟨0x1752, 0x1753, 1⟩,
  ⟨0x1772, 0x1773, 1⟩, ⟨0x17B7, 0x17BD, 1⟩, ⟨0x17C6, 0x17C6, 1⟩, ⟨0x17C9, 0x17D3, 1⟩,
  ⟨0x17DD, 0x17DD, 1⟩, ⟨0x1885, 0x1886, 1⟩, ⟨0x18A9, 0x18A9, 1⟩, ⟨0x1920, 0x1922, 1⟩,
  ⟨0x1927, 0x1928, 1⟩, ⟨0x1932, 0x1932, 1⟩, ⟨0x1939, 0x193B, 1⟩, ⟨0x1A17, 0x1A18, 1⟩,
  ⟨0x1A1B, 0x1A1B, 1⟩, ⟨0x1A56, 0x1A56, 1⟩, ⟨0x1A58, 0x1A60, 1⟩, ⟨0x1A62, 0x1A62, 1⟩,
  ⟨0x1A65, 0x1A6C, 1⟩, ⟨0x1A73, 0x1A7F, 1⟩, ⟨0x1AB0, 0x1B03, 1⟩, ⟨0x1B34, 0x1B34, 1⟩,
  ⟨0x1B36, 0x1B3A, 1⟩, ⟨0x1B3C, 0x1B3C, 1⟩, ⟨0x1B42, 0x1B42, 1⟩, ⟨0x1B6B, 0x1B73, 1⟩,
  ⟨0x1B80, 0x1B81, 1⟩, ⟨0x1BA2, 0x1BA5, 1⟩, ⟨0x1BA8, 0x1BA9, 1⟩, ⟨0x1BAB, 0x1BAD, 1⟩,
  ⟨0x1BE6, 0x1BE6, 1⟩, ⟨0x1BE8, 0x1BE9, 1⟩, ⟨0x1BED, 0x1BED, 1⟩, ⟨0x1BEF, 0x1BF1, 1⟩,
  ⟨0x1C2C, 0x1C33, 1⟩, ⟨0x1C36, 0x1C37, 1⟩, ⟨0x1CD0, 0x1CD2, 1⟩, ⟨0x1CD4, 0x1CE0, 1⟩,
  ⟨0x1CE2, 0x1CE8, 1⟩, ⟨0x1CED, 0x1CED, 1⟩, ⟨0x1CF4, 0x1CF4, 1⟩, ⟨0x1CF8, 0x1CF9, 1⟩,
  ⟨0x1DC0, 0x1DFF, 1⟩, ⟨0x20D0, 0x20F0, 1⟩, ⟨0x2CEF, 0x2CF1, 1⟩, ⟨0x2D7F, 0x2D7F, 1⟩,
  ⟨0x2DE0, 0x2DFF, 1⟩, ⟨0x302A, 0x302D, 1⟩, ⟨0x3099, 0x309A, 1⟩, ⟨0xA66F, 0xA672, 1⟩,
  ⟨0xA674, 0xA67D, 1⟩, ⟨0xA69E, 0xA69F, 1⟩, ⟨0xA6F0, 0xA6F1, 1⟩, ⟨0xA802, 0xA802, 1⟩,
  ⟨0xA806, 0xA806, 1⟩, ⟨0xA80B, 0xA80B, 1⟩, ⟨0xA825, 0xA826, 1⟩, ⟨0xA82C, 0xA82C, 1⟩,
  ⟨0xA8C4, 0xA8C5, 1⟩, ⟨0xA8E0, 0xA8F1, 1⟩, ⟨0xA8FF, 0xA8FF, 1⟩, ⟨0xA926, 0xA92D, 1⟩,
  ⟨0xA947, 0xA951, 1⟩, ⟨0xA980, 0xA982, 1⟩, ⟨0xA9B3, 0xA9B3, 1⟩, ⟨0xA9B6, 0xA9B9, 1⟩,
  ⟨0xA9BC, 0xA9BD, 1⟩, ⟨0xA9E5, 0xA9E5, 1⟩, ⟨0xAA29, 0xAA2E, 1⟩, ⟨0xAA31, 0xAA32, 1⟩,
  ⟨0xAA35, 0xAA36, 1⟩, ⟨0xAA43, 0xAA43, 1⟩, ⟨0xAA4C, 0xAA4C, 1⟩, ⟨0xAA7C, 0xAA7C, 1⟩,
  ⟨0xAAB0, 0xAAB0, 1⟩, ⟨0xAAB2, 0xAAB4, 1⟩, ⟨0xAAB7, 0xAAB8, 1⟩, ⟨0xAABE, 0xAABF, 1⟩,
  ⟨0xAAC1, 0xAAC1, 1⟩, ⟨0xAAEC, 0xAAED, 1⟩, ⟨0xAAF6, 0xAAF6, 1⟩, ⟨0xABE5, 0xABE5, 1⟩,
  ⟨0xABE8, 0xABE8, 1⟩, ⟨0xABED, 0xABED, 1⟩, ⟨0xFB1E, 0xFB1E, 1⟩, ⟨0xFE20, 0xFE2F, 1⟩,
  ⟨0x101FD, 0x101FD, 1⟩, ⟨0x102E0, 0x102E0, 1⟩, ⟨0x10376, 0x1037A, 1⟩, ⟨0x10A01, 0x10A0F, 1⟩,
  ⟨0x10A38, 0x10A3F, 1⟩, ⟨0x10AE5, 0x10AE6, 1⟩, ⟨0x10D24, 0x10D27, 1⟩, ⟨0x10D69, 0x10D6D, 1⟩,
  ⟨0x10EAB, 0x10EAC, 1⟩, ⟨0x10EFA, 0x10EFF, 1⟩, ⟨0x10F46, 0x10F50, 1⟩, ⟨0x10F82, 0x10F85, 1⟩,
  ⟨0x11001, 0x11001, 1⟩, ⟨0x11038, 0x11046, 1⟩, ⟨0x11070, 0x11070, 1⟩, ⟨0x11073, 0x11074, 1⟩,
  ⟨0x1107F, 0x11081, 1⟩, ⟨0x110B3, 0x110B6, 1⟩, ⟨0x110B9, 0x110BA, 1⟩, ⟨0x110C2, 0x110C2, 1⟩,
  ⟨0x11100, 0x11102, 1⟩, ⟨0x11127, 0x1112B, 1⟩, ⟨0x1112D, 0x11134, 1⟩, ⟨0x11173, 0x11173, 1⟩,
  ⟨0x11180, 0x11181, 1⟩, ⟨0x111B6, 0x111BE, 1⟩, ⟨0x111C9, 0x111CC, 1⟩, ⟨0x111CF, 0x111CF, 1⟩,
  ⟨0x1122F, 0x11231, 1⟩, ⟨0x11234, 0x11234, 1⟩, ⟨0x11236, 0x11237, 1⟩, ⟨0x1123E, 0x1123E, 1⟩,
  ⟨0x11241, 0x11241, 1⟩, ⟨0x112DF, 0x112DF, 1⟩, ⟨0x112E3, 0x112EA, 1⟩, ⟨0x11300, 0x11301, 1⟩,
  ⟨0x1133B, 0x1133C, 1⟩, ⟨0x11340, 0x11340, 1⟩, ⟨0x11366, 0x11374, 1⟩, ⟨0x113BB, 0x113C0, 1⟩,
  ⟨0x113CE, 0x113D2, 2⟩, ⟨0x113E1, 0x113E2, 1⟩, ⟨0x11438, 0x1143F, 1⟩, ⟨0x11442, 0x11444, 1⟩,
  ⟨0x11446, 0x11446, 1⟩, ⟨0x1145E, 0x1145E, 1⟩, ⟨0x114B3, 0x114B8, 1⟩, ⟨0x114BA, 0x114BA, 1⟩,
  ⟨0x114BF, 0x114C0, 1⟩, ⟨0x114C2, 0x114C3, 1⟩, ⟨0x115B2, 0x115B5, 1⟩, ⟨0x115BC, 0x115BD, 1⟩,
  ⟨0x115BF, 0x115C0, 1⟩, ⟨0x115DC, 0x115DD, 1⟩, ⟨0x11633, 0x1163A, 1⟩, ⟨0x1163D, 0x1163D, 1⟩,
  ⟨0x1163F, 0x11640, 1⟩, ⟨0x116AB, 0x116AB, 1⟩, ⟨0x116AD, 0x116AD, 1⟩, ⟨0x116B0, 0x116B5, 1⟩,
  ⟨0x116B7, 0x116B7, 1⟩, ⟨0x1171D, 0x1171D, 1⟩, ⟨0x1171F, 0x1171F, 1⟩, ⟨0x11722, 0x11725, 1⟩,
  ⟨0x11727, 0x1172B, 1⟩, ⟨0x1182F, 0x11837, 1⟩, ⟨0x11839, 0x1183A, 1⟩, ⟨0x1193B, 0x1193C, 1⟩,
  ⟨0x1193E, 0x1193E, 1⟩, ⟨0x11943, 0x11943, 1⟩, ⟨0x119D4, 0x119DB, 1⟩, ⟨0x119E0, 0x119E0, 1⟩,
  ⟨0x11A01, 0x11A0A, 1⟩, ⟨0x11A33, 0x11A38, 1⟩, ⟨0x11A3B, 0x11A3E, 1⟩, ⟨0x11A47, 0x11A47, 1⟩,
  ⟨0x11A51, 0x11A56, 1⟩, ⟨0x11A59, 0x11A5B, 1⟩, ⟨0x11A8A, 0x11A96, 1⟩, ⟨0x11A98, 0x11A99, 1⟩,
  ⟨0x11B60, 0x11B60, 1⟩, ⟨0x11B62, 0x11B64, 1⟩, ⟨0x11B66, 0x11B66, 1⟩, ⟨0x11C30, 0x11C3D, 1⟩,
  ⟨0x11C3F, 0x11C3F, 1⟩, ⟨0x11C92, 0x11CA7, 1⟩, ⟨0x11CAA, 0x11CB0, 1⟩, ⟨0x11CB2, 0x11CB3, 1⟩,
  ⟨0x11CB5, 0x11CB6, 1⟩, ⟨0x11D31, 0x11D45, 1⟩, ⟨0x11D47, 0x11D47, 1⟩, ⟨0x11D90, 0x11D91, 1⟩,
  ⟨0x11D95, 0x11D95, 1⟩, ⟨0x11D97, 0x11D97, 1⟩, ⟨0x11EF3, 0x11EF4, 1⟩, ⟨0x11F00, 0x11F01, 1⟩,
  ⟨0x11F36, 0x11F3A, 1⟩, ⟨0x11F40, 0x11F40, 1⟩, ⟨0x11F42, 0x11F42, 1⟩, ⟨0x11F5A, 0x11F5A, 1⟩,
  ⟨0x13440, 0x13440, 1⟩, ⟨0x13447, 0x13455, 1⟩, ⟨0x1611E, 0x16129, 1⟩, ⟨0x1612D, 0x1612F, 1⟩,
  ⟨0x16AF0, 0x16AF4, 1⟩, ⟨0x16B30, 0x16B36, 1⟩, ⟨0x16F4F, 0x16F4F, 1⟩, ⟨0x16F8F, 0x16F92, 1⟩,
  ⟨0x16FE4, 0x16FE4, 1⟩, ⟨0x1BC9D, 0x1BC9E, 1⟩, ⟨0x1CF00, 0x1CF46, 1⟩, ⟨0x1D167, 0x1D169, 1⟩,
  ⟨0x1D17B, 0x1D182, 1⟩, ⟨0x1D185, 0x1D18B, 1⟩, ⟨0x1D1AA, 0x1D1AD, 1⟩, ⟨0x1D242, 0x1D244, 1⟩,
  ⟨0x1DA00, 0x1DA36, 1⟩, ⟨0x1DA3B, 0x1DA6C, 1⟩, ⟨0x1DA75, 0x1DA75, 1⟩, ⟨0x1DA84, 0x1DA84, 1⟩,
  ⟨0x1DA9B, 0x1DAAF, 1⟩, ⟨0x1E000, 0x1E08F, 1⟩, ⟨0x1E130, 0x1E136, 1⟩, ⟨0x1E2AE, 0x1E2AE, 1⟩,
  ⟨0x1E2EC, 0x1E2EF, 1⟩, ⟨0x1E4EC, 0x1E4EF, 1⟩, ⟨0x1E5EE, 0x1E5EF, 1⟩, ⟨0x1E6E3, 0x1E6E3, 1⟩,
  ⟨0x1E6E6, 0x1E6E6, 1⟩, ⟨0x1E6EE, 0x1E6EF, 1⟩, ⟨0x1E6F5, 0x1E6F5, 1⟩, ⟨0x1E8D0, 0x1E8D6, 1⟩,
  ⟨0x1E944, 0x1E94A, 1⟩]

/-- The marks that take room of their own. -/
def spacingSpans : List Span := [
  ⟨0x0903, 0x0903, 1⟩, ⟨0x093B, 0x093B, 1⟩, ⟨0x093E, 0x0940, 1⟩, ⟨0x0949, 0x094C, 1⟩,
  ⟨0x094E, 0x094F, 1⟩, ⟨0x0982, 0x0983, 1⟩, ⟨0x09BE, 0x09C0, 1⟩, ⟨0x09C7, 0x09CC, 1⟩,
  ⟨0x09D7, 0x09D7, 1⟩, ⟨0x0A03, 0x0A03, 1⟩, ⟨0x0A3E, 0x0A40, 1⟩, ⟨0x0A83, 0x0A83, 1⟩,
  ⟨0x0ABE, 0x0AC0, 1⟩, ⟨0x0AC9, 0x0ACC, 1⟩, ⟨0x0B02, 0x0B03, 1⟩, ⟨0x0B3E, 0x0B3E, 1⟩,
  ⟨0x0B40, 0x0B40, 1⟩, ⟨0x0B47, 0x0B4C, 1⟩, ⟨0x0B57, 0x0B57, 1⟩, ⟨0x0BBE, 0x0BBF, 1⟩,
  ⟨0x0BC1, 0x0BCC, 1⟩, ⟨0x0BD7, 0x0BD7, 1⟩, ⟨0x0C01, 0x0C03, 1⟩, ⟨0x0C41, 0x0C44, 1⟩,
  ⟨0x0C82, 0x0C83, 1⟩, ⟨0x0CBE, 0x0CBE, 1⟩, ⟨0x0CC0, 0x0CC4, 1⟩, ⟨0x0CC7, 0x0CCB, 1⟩,
  ⟨0x0CD5, 0x0CD6, 1⟩, ⟨0x0CF3, 0x0CF3, 1⟩, ⟨0x0D02, 0x0D03, 1⟩, ⟨0x0D3E, 0x0D40, 1⟩,
  ⟨0x0D46, 0x0D4C, 1⟩, ⟨0x0D57, 0x0D57, 1⟩, ⟨0x0D82, 0x0D83, 1⟩, ⟨0x0DCF, 0x0DD1, 1⟩,
  ⟨0x0DD8, 0x0DDF, 1⟩, ⟨0x0DF2, 0x0DF3, 1⟩, ⟨0x0F3E, 0x0F3F, 1⟩, ⟨0x0F7F, 0x0F7F, 1⟩,
  ⟨0x102B, 0x102C, 1⟩, ⟨0x1031, 0x1031, 1⟩, ⟨0x1038, 0x1038, 1⟩, ⟨0x103B, 0x103C, 1⟩,
  ⟨0x1056, 0x1057, 1⟩, ⟨0x1062, 0x1064, 1⟩, ⟨0x1067, 0x106D, 1⟩, ⟨0x1083, 0x1084, 1⟩,
  ⟨0x1087, 0x108C, 1⟩, ⟨0x108F, 0x108F, 1⟩, ⟨0x109A, 0x109C, 1⟩, ⟨0x1715, 0x1715, 1⟩,
  ⟨0x1734, 0x1734, 1⟩, ⟨0x17B6, 0x17B6, 1⟩, ⟨0x17BE, 0x17C5, 1⟩, ⟨0x17C7, 0x17C8, 1⟩,
  ⟨0x1923, 0x1926, 1⟩, ⟨0x1929, 0x1931, 1⟩, ⟨0x1933, 0x1938, 1⟩, ⟨0x1A19, 0x1A1A, 1⟩,
  ⟨0x1A55, 0x1A55, 1⟩, ⟨0x1A57, 0x1A57, 1⟩, ⟨0x1A61, 0x1A61, 1⟩, ⟨0x1A63, 0x1A64, 1⟩,
  ⟨0x1A6D, 0x1A72, 1⟩, ⟨0x1B04, 0x1B04, 1⟩, ⟨0x1B35, 0x1B35, 1⟩, ⟨0x1B3B, 0x1B3B, 1⟩,
  ⟨0x1B3D, 0x1B41, 1⟩, ⟨0x1B43, 0x1B44, 1⟩, ⟨0x1B82, 0x1B82, 1⟩, ⟨0x1BA1, 0x1BA1, 1⟩,
  ⟨0x1BA6, 0x1BA7, 1⟩, ⟨0x1BAA, 0x1BAA, 1⟩, ⟨0x1BE7, 0x1BE7, 1⟩, ⟨0x1BEA, 0x1BEC, 1⟩,
  ⟨0x1BEE, 0x1BEE, 1⟩, ⟨0x1BF2, 0x1BF3, 1⟩, ⟨0x1C24, 0x1C2B, 1⟩, ⟨0x1C34, 0x1C35, 1⟩,
  ⟨0x1CE1, 0x1CE1, 1⟩, ⟨0x1CF7, 0x1CF7, 1⟩, ⟨0x302E, 0x302F, 1⟩, ⟨0xA823, 0xA824, 1⟩,
  ⟨0xA827, 0xA827, 1⟩, ⟨0xA880, 0xA881, 1⟩, ⟨0xA8B4, 0xA8C3, 1⟩, ⟨0xA952, 0xA953, 1⟩,
  ⟨0xA983, 0xA983, 1⟩, ⟨0xA9B4, 0xA9B5, 1⟩, ⟨0xA9BA, 0xA9BB, 1⟩, ⟨0xA9BE, 0xA9C0, 1⟩,
  ⟨0xAA2F, 0xAA30, 1⟩, ⟨0xAA33, 0xAA34, 1⟩, ⟨0xAA4D, 0xAA4D, 1⟩, ⟨0xAA7B, 0xAA7B, 1⟩,
  ⟨0xAA7D, 0xAA7D, 1⟩, ⟨0xAAEB, 0xAAEB, 1⟩, ⟨0xAAEE, 0xAAEF, 1⟩, ⟨0xAAF5, 0xAAF5, 1⟩,
  ⟨0xABE3, 0xABE4, 1⟩, ⟨0xABE6, 0xABE7, 1⟩, ⟨0xABE9, 0xABEA, 1⟩, ⟨0xABEC, 0xABEC, 1⟩,
  ⟨0x11000, 0x11000, 1⟩, ⟨0x11002, 0x11002, 1⟩, ⟨0x11082, 0x11082, 1⟩, ⟨0x110B0, 0x110B2, 1⟩,
  ⟨0x110B7, 0x110B8, 1⟩, ⟨0x1112C, 0x1112C, 1⟩, ⟨0x11145, 0x11146, 1⟩, ⟨0x11182, 0x11182, 1⟩,
  ⟨0x111B3, 0x111B5, 1⟩, ⟨0x111BF, 0x111C0, 1⟩, ⟨0x111CE, 0x111CE, 1⟩, ⟨0x1122C, 0x1122E, 1⟩,
  ⟨0x11232, 0x11233, 1⟩, ⟨0x11235, 0x11235, 1⟩, ⟨0x112E0, 0x112E2, 1⟩, ⟨0x11302, 0x11303, 1⟩,
  ⟨0x1133E, 0x1133F, 1⟩, ⟨0x11341, 0x1134D, 1⟩, ⟨0x11357, 0x11357, 1⟩, ⟨0x11362, 0x11363, 1⟩,
  ⟨0x113B8, 0x113BA, 1⟩, ⟨0x113C2, 0x113CD, 1⟩, ⟨0x113CF, 0x113CF, 1⟩, ⟨0x11435, 0x11437, 1⟩,
  ⟨0x11440, 0x11441, 1⟩, ⟨0x11445, 0x11445, 1⟩, ⟨0x114B0, 0x114B2, 1⟩, ⟨0x114B9, 0x114B9, 1⟩,
  ⟨0x114BB, 0x114BE, 1⟩, ⟨0x114C1, 0x114C1, 1⟩, ⟨0x115AF, 0x115B1, 1⟩, ⟨0x115B8, 0x115BB, 1⟩,
  ⟨0x115BE, 0x115BE, 1⟩, ⟨0x11630, 0x11632, 1⟩, ⟨0x1163B, 0x1163C, 1⟩, ⟨0x1163E, 0x1163E, 1⟩,
  ⟨0x116AC, 0x116AC, 1⟩, ⟨0x116AE, 0x116AF, 1⟩, ⟨0x116B6, 0x116B6, 1⟩, ⟨0x1171E, 0x1171E, 1⟩,
  ⟨0x11720, 0x11721, 1⟩, ⟨0x11726, 0x11726, 1⟩, ⟨0x1182C, 0x1182E, 1⟩, ⟨0x11838, 0x11838, 1⟩,
  ⟨0x11930, 0x11938, 1⟩, ⟨0x1193D, 0x1193D, 1⟩, ⟨0x11940, 0x11940, 1⟩, ⟨0x11942, 0x11942, 1⟩,
  ⟨0x119D1, 0x119D3, 1⟩, ⟨0x119DC, 0x119DF, 1⟩, ⟨0x119E4, 0x119E4, 1⟩, ⟨0x11A39, 0x11A39, 1⟩,
  ⟨0x11A57, 0x11A58, 1⟩, ⟨0x11A97, 0x11A97, 1⟩, ⟨0x11B61, 0x11B61, 1⟩, ⟨0x11B65, 0x11B65, 1⟩,
  ⟨0x11B67, 0x11B67, 1⟩, ⟨0x11C2F, 0x11C2F, 1⟩, ⟨0x11C3E, 0x11C3E, 1⟩, ⟨0x11CA9, 0x11CA9, 1⟩,
  ⟨0x11CB1, 0x11CB1, 1⟩, ⟨0x11CB4, 0x11CB4, 1⟩, ⟨0x11D8A, 0x11D8E, 1⟩, ⟨0x11D93, 0x11D94, 1⟩,
  ⟨0x11D96, 0x11D96, 1⟩, ⟨0x11EF5, 0x11EF6, 1⟩, ⟨0x11F03, 0x11F03, 1⟩, ⟨0x11F34, 0x11F35, 1⟩,
  ⟨0x11F3E, 0x11F3F, 1⟩, ⟨0x11F41, 0x11F41, 1⟩, ⟨0x1612A, 0x1612C, 1⟩, ⟨0x16F51, 0x16F87, 1⟩,
  ⟨0x16FF0, 0x16FF1, 1⟩, ⟨0x1D165, 0x1D166, 1⟩, ⟨0x1D16D, 0x1D172, 1⟩]

/-- The marks of a class. -/
structure MarkClass where
  number : Nat
  spans : List Span
  deriving DecidableEq, Repr

/-- The classes of marks; all other characters have class zero. -/
def markClasses : List MarkClass := [
  ⟨1, [
    ⟨0x0334, 0x0338, 1⟩, ⟨0x1CD4, 0x1CD4, 1⟩, ⟨0x1CE2, 0x1CE8, 1⟩, ⟨0x20D2, 0x20D3, 1⟩,
    ⟨0x20D8, 0x20DA, 1⟩, ⟨0x20E5, 0x20E6, 1⟩, ⟨0x20EA, 0x20EB, 1⟩, ⟨0x10A39, 0x10A39, 1⟩,
    ⟨0x16AF0, 0x16AF4, 1⟩, ⟨0x1BC9E, 0x1BC9E, 1⟩, ⟨0x1D167, 0x1D169, 1⟩]⟩,
  ⟨6, [⟨0x16FF0, 0x16FF1, 1⟩]⟩,
  ⟨7, [
    ⟨0x093C, 0x093C, 1⟩, ⟨0x09BC, 0x09BC, 1⟩, ⟨0x0A3C, 0x0A3C, 1⟩, ⟨0x0ABC, 0x0ABC, 1⟩,
    ⟨0x0B3C, 0x0B3C, 1⟩, ⟨0x0C3C, 0x0C3C, 1⟩, ⟨0x0CBC, 0x0CBC, 1⟩, ⟨0x1037, 0x1037, 1⟩,
    ⟨0x1B34, 0x1B34, 1⟩, ⟨0x1BE6, 0x1BE6, 1⟩, ⟨0x1C37, 0x1C37, 1⟩, ⟨0xA9B3, 0xA9B3, 1⟩,
    ⟨0x110BA, 0x110BA, 1⟩, ⟨0x11173, 0x11173, 1⟩, ⟨0x111CA, 0x111CA, 1⟩, ⟨0x11236, 0x11236, 1⟩,
    ⟨0x112E9, 0x112E9, 1⟩, ⟨0x1133B, 0x1133C, 1⟩, ⟨0x11446, 0x11446, 1⟩, ⟨0x114C3, 0x114C3, 1⟩,
    ⟨0x115C0, 0x115C0, 1⟩, ⟨0x116B7, 0x116B7, 1⟩, ⟨0x1183A, 0x1183A, 1⟩, ⟨0x11943, 0x11943, 1⟩,
    ⟨0x11D42, 0x11D42, 1⟩, ⟨0x1E94A, 0x1E94A, 1⟩]⟩,
  ⟨8, [⟨0x3099, 0x309A, 1⟩]⟩,
  ⟨9, [
    ⟨0x094D, 0x094D, 1⟩, ⟨0x09CD, 0x09CD, 1⟩, ⟨0x0A4D, 0x0A4D, 1⟩, ⟨0x0ACD, 0x0ACD, 1⟩,
    ⟨0x0B4D, 0x0B4D, 1⟩, ⟨0x0BCD, 0x0BCD, 1⟩, ⟨0x0C4D, 0x0C4D, 1⟩, ⟨0x0CCD, 0x0CCD, 1⟩,
    ⟨0x0D3B, 0x0D3C, 1⟩, ⟨0x0D4D, 0x0D4D, 1⟩, ⟨0x0DCA, 0x0DCA, 1⟩, ⟨0x0E3A, 0x0E3A, 1⟩,
    ⟨0x0EBA, 0x0EBA, 1⟩, ⟨0x0F84, 0x0F84, 1⟩, ⟨0x1039, 0x103A, 1⟩, ⟨0x1714, 0x1715, 1⟩,
    ⟨0x1734, 0x1734, 1⟩, ⟨0x17D2, 0x17D2, 1⟩, ⟨0x1A60, 0x1A60, 1⟩, ⟨0x1B44, 0x1B44, 1⟩,
    ⟨0x1BAA, 0x1BAB, 1⟩, ⟨0x1BF2, 0x1BF3, 1⟩, ⟨0x2D7F, 0x2D7F, 1⟩, ⟨0xA806, 0xA806, 1⟩,
    ⟨0xA82C, 0xA82C, 1⟩, ⟨0xA8C4, 0xA8C4, 1⟩, ⟨0xA953, 0xA953, 1⟩, ⟨0xA9C0, 0xA9C0, 1⟩,
    ⟨0xAAF6, 0xAAF6, 1⟩, ⟨0xABED, 0xABED, 1⟩, ⟨0x10A3F, 0x10A3F, 1⟩, ⟨0x11046, 0x11046, 1⟩,
    ⟨0x11070, 0x11070, 1⟩, ⟨0x1107F, 0x1107F, 1⟩, ⟨0x110B9, 0x110B9, 1⟩, ⟨0x11133, 0x11134, 1⟩,
    ⟨0x111C0, 0x111C0, 1⟩, ⟨0x11235, 0x11235, 1⟩, ⟨0x112EA, 0x112EA, 1⟩, ⟨0x1134D, 0x1134D, 1⟩,
    ⟨0x113CE, 0x113D0, 1⟩, ⟨0x11442, 0x11442, 1⟩, ⟨0x114C2, 0x114C2, 1⟩, ⟨0x115BF, 0x115BF, 1⟩,
    ⟨0x1163F, 0x1163F, 1⟩, ⟨0x116B6, 0x116B6, 1⟩, ⟨0x1172B, 0x1172B, 1⟩, ⟨0x11839, 0x11839, 1⟩,
    ⟨0x1193D, 0x1193E, 1⟩, ⟨0x119E0, 0x119E0, 1⟩, ⟨0x11A34, 0x11A34, 1⟩, ⟨0x11A47, 0x11A47, 1⟩,
    ⟨0x11A99, 0x11A99, 1⟩, ⟨0x11C3F, 0x11C3F, 1⟩, ⟨0x11D44, 0x11D45, 1⟩, ⟨0x11D97, 0x11D97, 1⟩,
    ⟨0x11F41, 0x11F42, 1⟩, ⟨0x1612F, 0x1612F, 1⟩]⟩,
  ⟨10, [⟨0x05B0, 0x05B0, 1⟩]⟩,
  ⟨11, [⟨0x05B1, 0x05B1, 1⟩]⟩,
  ⟨12, [⟨0x05B2, 0x05B2, 1⟩]⟩,
  ⟨13, [⟨0x05B3, 0x05B3, 1⟩]⟩,
  ⟨14, [⟨0x05B4, 0x05B4, 1⟩]⟩,
  ⟨15, [⟨0x05B5, 0x05B5, 1⟩]⟩,
  ⟨16, [⟨0x05B6, 0x05B6, 1⟩]⟩,
  ⟨17, [⟨0x05B7, 0x05B7, 1⟩]⟩,
  ⟨18, [⟨0x05B8, 0x05B8, 1⟩, ⟨0x05C7, 0x05C7, 1⟩]⟩,
  ⟨19, [⟨0x05B9, 0x05BA, 1⟩]⟩,
  ⟨20, [⟨0x05BB, 0x05BB, 1⟩]⟩,
  ⟨21, [⟨0x05BC, 0x05BC, 1⟩]⟩,
  ⟨22, [⟨0x05BD, 0x05BD, 1⟩]⟩,
  ⟨23, [⟨0x05BF, 0x05BF, 1⟩]⟩,
  ⟨24, [⟨0x05C1, 0x05C1, 1⟩]⟩,
  ⟨25, [⟨0x05C2, 0x05C2, 1⟩]⟩,
  ⟨26, [⟨0xFB1E, 0xFB1E, 1⟩]⟩,
  ⟨27, [⟨0x064B, 0x064B, 1⟩, ⟨0x08F0, 0x08F0, 1⟩]⟩,
  ⟨28, [⟨0x064C, 0x064C, 1⟩, ⟨0x08F1, 0x08F1, 1⟩]⟩,
  ⟨29, [⟨0x064D, 0x064D, 1⟩, ⟨0x08F2, 0x08F2, 1⟩]⟩,
  ⟨30, [⟨0x0618, 0x0618, 1⟩, ⟨0x064E, 0x064E, 1⟩]⟩,
  ⟨31, [⟨0x0619, 0x0619, 1⟩, ⟨0x064F, 0x064F, 1⟩]⟩,
  ⟨32, [⟨0x061A, 0x061A, 1⟩, ⟨0x0650, 0x0650, 1⟩]⟩,
  ⟨33, [⟨0x0651, 0x0651, 1⟩]⟩,
  ⟨34, [⟨0x0652, 0x0652, 1⟩]⟩,
  ⟨35, [⟨0x0670, 0x0670, 1⟩]⟩,
  ⟨36, [⟨0x0711, 0x0711, 1⟩]⟩,
  ⟨84, [⟨0x0C55, 0x0C55, 1⟩]⟩,
  ⟨91, [⟨0x0C56, 0x0C56, 1⟩]⟩,
  ⟨103, [⟨0x0E38, 0x0E39, 1⟩]⟩,
  ⟨107, [⟨0x0E48, 0x0E4B, 1⟩]⟩,
  ⟨118, [⟨0x0EB8, 0x0EB9, 1⟩]⟩,
  ⟨122, [⟨0x0EC8, 0x0ECB, 1⟩]⟩,
  ⟨129, [⟨0x0F71, 0x0F71, 1⟩]⟩,
  ⟨130, [⟨0x0F72, 0x0F72, 1⟩, ⟨0x0F7A, 0x0F7D, 1⟩, ⟨0x0F80, 0x0F80, 1⟩]⟩,
  ⟨132, [⟨0x0F74, 0x0F74, 1⟩]⟩,
  ⟨202, [⟨0x0321, 0x0322, 1⟩, ⟨0x0327, 0x0328, 1⟩, ⟨0x1DD0, 0x1DD0, 1⟩]⟩,
  ⟨214, [⟨0x1DCE, 0x1DCE, 1⟩]⟩,
  ⟨216, [⟨0x031B, 0x031B, 1⟩, ⟨0x0F39, 0x0F39, 1⟩, ⟨0x1D165, 0x1D166, 1⟩, ⟨0x1D16E, 0x1D172, 1⟩]⟩,
  ⟨218, [⟨0x1DFA, 0x1DFA, 1⟩, ⟨0x302A, 0x302A, 1⟩]⟩,
  ⟨220, [
    ⟨0x0316, 0x0319, 1⟩, ⟨0x031C, 0x0320, 1⟩, ⟨0x0323, 0x0326, 1⟩, ⟨0x0329, 0x0333, 1⟩,
    ⟨0x0339, 0x033C, 1⟩, ⟨0x0347, 0x0349, 1⟩, ⟨0x034D, 0x034E, 1⟩, ⟨0x0353, 0x0356, 1⟩,
    ⟨0x0359, 0x035A, 1⟩, ⟨0x0591, 0x0591, 1⟩, ⟨0x0596, 0x0596, 1⟩, ⟨0x059B, 0x059B, 1⟩,
    ⟨0x05A2, 0x05A7, 1⟩, ⟨0x05AA, 0x05AA, 1⟩, ⟨0x05C5, 0x05C5, 1⟩, ⟨0x0655, 0x0656, 1⟩,
    ⟨0x065C, 0x065C, 1⟩, ⟨0x065F, 0x065F, 1⟩, ⟨0x06E3, 0x06E3, 1⟩, ⟨0x06EA, 0x06EA, 1⟩,
    ⟨0x06ED, 0x06ED, 1⟩, ⟨0x0731, 0x0731, 1⟩, ⟨0x0734, 0x0734, 1⟩, ⟨0x0737, 0x0739, 1⟩,
    ⟨0x073B, 0x073C, 1⟩, ⟨0x073E, 0x073E, 1⟩, ⟨0x0742, 0x0748, 2⟩, ⟨0x07F2, 0x07F2, 1⟩,
    ⟨0x07FD, 0x07FD, 1⟩, ⟨0x0859, 0x085B, 1⟩, ⟨0x0899, 0x089B, 1⟩, ⟨0x08CF, 0x08D3, 1⟩,
    ⟨0x08E3, 0x08E3, 1⟩, ⟨0x08E6, 0x08E6, 1⟩, ⟨0x08E9, 0x08E9, 1⟩, ⟨0x08ED, 0x08EF, 1⟩,
    ⟨0x08F6, 0x08F6, 1⟩, ⟨0x08F9, 0x08FA, 1⟩, ⟨0x0952, 0x0952, 1⟩, ⟨0x0F18, 0x0F19, 1⟩,
    ⟨0x0F35, 0x0F35, 1⟩, ⟨0x0F37, 0x0F37, 1⟩, ⟨0x0FC6, 0x0FC6, 1⟩, ⟨0x108D, 0x108D, 1⟩,
    ⟨0x193B, 0x193B, 1⟩, ⟨0x1A18, 0x1A18, 1⟩, ⟨0x1A7F, 0x1A7F, 1⟩, ⟨0x1AB5, 0x1ABA, 1⟩,
    ⟨0x1ABD, 0x1ABD, 1⟩, ⟨0x1ABF, 0x1AC0, 1⟩, ⟨0x1AC3, 0x1AC4, 1⟩, ⟨0x1ACA, 0x1ACA, 1⟩,
    ⟨0x1ADD, 0x1ADD, 1⟩, ⟨0x1AE6, 0x1AE6, 1⟩, ⟨0x1B6C, 0x1B6C, 1⟩, ⟨0x1CD5, 0x1CD9, 1⟩,
    ⟨0x1CDC, 0x1CDF, 1⟩, ⟨0x1CED, 0x1CED, 1⟩, ⟨0x1DC2, 0x1DC2, 1⟩, ⟨0x1DCA, 0x1DCA, 1⟩,
    ⟨0x1DCF, 0x1DCF, 1⟩, ⟨0x1DF9, 0x1DF9, 1⟩, ⟨0x1DFD, 0x1DFD, 1⟩, ⟨0x1DFF, 0x1DFF, 1⟩,
    ⟨0x20E8, 0x20E8, 1⟩, ⟨0x20EC, 0x20EF, 1⟩, ⟨0xA92B, 0xA92D, 1⟩, ⟨0xAAB4, 0xAAB4, 1⟩,
    ⟨0xFE27, 0xFE2D, 1⟩, ⟨0x101FD, 0x101FD, 1⟩, ⟨0x102E0, 0x102E0, 1⟩, ⟨0x10A0D, 0x10A0D, 1⟩,
    ⟨0x10A3A, 0x10A3A, 1⟩, ⟨0x10AE6, 0x10AE6, 1⟩, ⟨0x10EFA, 0x10EFB, 1⟩, ⟨0x10EFD, 0x10EFF, 1⟩,
    ⟨0x10F46, 0x10F47, 1⟩, ⟨0x10F4B, 0x10F4B, 1⟩, ⟨0x10F4D, 0x10F50, 1⟩, ⟨0x10F83, 0x10F83, 1⟩,
    ⟨0x10F85, 0x10F85, 1⟩, ⟨0x1D17B, 0x1D182, 1⟩, ⟨0x1D18A, 0x1D18B, 1⟩, ⟨0x1E4EE, 0x1E4EE, 1⟩,
    ⟨0x1E5EF, 0x1E5EF, 1⟩, ⟨0x1E8D0, 0x1E8D6, 1⟩]⟩,
  ⟨222, [⟨0x059A, 0x059A, 1⟩, ⟨0x05AD, 0x05AD, 1⟩, ⟨0x1939, 0x1939, 1⟩, ⟨0x302D, 0x302D, 1⟩]⟩,
  ⟨224, [⟨0x302E, 0x302F, 1⟩]⟩,
  ⟨226, [⟨0x1D16D, 0x1D16D, 1⟩]⟩,
  ⟨228, [⟨0x05AE, 0x05AE, 1⟩, ⟨0x18A9, 0x18A9, 1⟩, ⟨0x1DF7, 0x1DF8, 1⟩, ⟨0x302B, 0x302B, 1⟩]⟩,
  ⟨230, [
    ⟨0x0300, 0x0314, 1⟩, ⟨0x033D, 0x0346, 1⟩, ⟨0x034A, 0x034C, 1⟩, ⟨0x0350, 0x0352, 1⟩,
    ⟨0x0357, 0x0357, 1⟩, ⟨0x035B, 0x035B, 1⟩, ⟨0x0363, 0x036F, 1⟩, ⟨0x0483, 0x0487, 1⟩,
    ⟨0x0592, 0x0595, 1⟩, ⟨0x0597, 0x0599, 1⟩, ⟨0x059C, 0x05A1, 1⟩, ⟨0x05A8, 0x05A9, 1⟩,
    ⟨0x05AB, 0x05AC, 1⟩, ⟨0x05AF, 0x05AF, 1⟩, ⟨0x05C4, 0x05C4, 1⟩, ⟨0x0610, 0x0617, 1⟩,
    ⟨0x0653, 0x0654, 1⟩, ⟨0x0657, 0x065B, 1⟩, ⟨0x065D, 0x065E, 1⟩, ⟨0x06D6, 0x06DC, 1⟩,
    ⟨0x06DF, 0x06E2, 1⟩, ⟨0x06E4, 0x06E4, 1⟩, ⟨0x06E7, 0x06E8, 1⟩, ⟨0x06EB, 0x06EC, 1⟩,
    ⟨0x0730, 0x0730, 1⟩, ⟨0x0732, 0x0733, 1⟩, ⟨0x0735, 0x0736, 1⟩, ⟨0x073A, 0x073A, 1⟩,
    ⟨0x073D, 0x073D, 1⟩, ⟨0x073F, 0x0741, 1⟩, ⟨0x0743, 0x0747, 2⟩, ⟨0x0749, 0x074A, 1⟩,
    ⟨0x07EB, 0x07F1, 1⟩, ⟨0x07F3, 0x07F3, 1⟩, ⟨0x0816, 0x0819, 1⟩, ⟨0x081B, 0x0823, 1⟩,
    ⟨0x0825, 0x0827, 1⟩, ⟨0x0829, 0x082D, 1⟩, ⟨0x0897, 0x0898, 1⟩, ⟨0x089C, 0x089F, 1⟩,
    ⟨0x08CA, 0x08CE, 1⟩, ⟨0x08D4, 0x08E1, 1⟩, ⟨0x08E4, 0x08E5, 1⟩, ⟨0x08E7, 0x08E8, 1⟩,
    ⟨0x08EA, 0x08EC, 1⟩, ⟨0x08F3, 0x08F5, 1⟩, ⟨0x08F7, 0x08F8, 1⟩, ⟨0x08FB, 0x08FF, 1⟩,
    ⟨0x0951, 0x0951, 1⟩, ⟨0x0953, 0x0954, 1⟩, ⟨0x09FE, 0x09FE, 1⟩, ⟨0x0F82, 0x0F83, 1⟩,
    ⟨0x0F86, 0x0F87, 1⟩, ⟨0x135D, 0x135F, 1⟩, ⟨0x17DD, 0x17DD, 1⟩, ⟨0x193A, 0x193A, 1⟩,
    ⟨0x1A17, 0x1A17, 1⟩, ⟨0x1A75, 0x1A7C, 1⟩, ⟨0x1AB0, 0x1AB4, 1⟩, ⟨0x1ABB, 0x1ABC, 1⟩,
    ⟨0x1AC1, 0x1AC2, 1⟩, ⟨0x1AC5, 0x1AC9, 1⟩, ⟨0x1ACB, 0x1ADC, 1⟩, ⟨0x1AE0, 0x1AE5, 1⟩,
    ⟨0x1AE7, 0x1AEA, 1⟩, ⟨0x1B6B, 0x1B6B, 1⟩, ⟨0x1B6D, 0x1B73, 1⟩, ⟨0x1CD0, 0x1CD2, 1⟩,
    ⟨0x1CDA, 0x1CDB, 1⟩, ⟨0x1CE0, 0x1CE0, 1⟩, ⟨0x1CF4, 0x1CF4, 1⟩, ⟨0x1CF8, 0x1CF9, 1⟩,
    ⟨0x1DC0, 0x1DC1, 1⟩, ⟨0x1DC3, 0x1DC9, 1⟩, ⟨0x1DCB, 0x1DCC, 1⟩, ⟨0x1DD1, 0x1DF5, 1⟩,
    ⟨0x1DFB, 0x1DFB, 1⟩, ⟨0x1DFE, 0x1DFE, 1⟩, ⟨0x20D0, 0x20D1, 1⟩, ⟨0x20D4, 0x20D7, 1⟩,
    ⟨0x20DB, 0x20DC, 1⟩, ⟨0x20E1, 0x20E1, 1⟩, ⟨0x20E7, 0x20E7, 1⟩, ⟨0x20E9, 0x20E9, 1⟩,
    ⟨0x20F0, 0x20F0, 1⟩, ⟨0x2CEF, 0x2CF1, 1⟩, ⟨0x2DE0, 0x2DFF, 1⟩, ⟨0xA66F, 0xA66F, 1⟩,
    ⟨0xA674, 0xA67D, 1⟩, ⟨0xA69E, 0xA69F, 1⟩, ⟨0xA6F0, 0xA6F1, 1⟩, ⟨0xA8E0, 0xA8F1, 1⟩,
    ⟨0xAAB0, 0xAAB0, 1⟩, ⟨0xAAB2, 0xAAB3, 1⟩, ⟨0xAAB7, 0xAAB8, 1⟩, ⟨0xAABE, 0xAABF, 1⟩,
    ⟨0xAAC1, 0xAAC1, 1⟩, ⟨0xFE20, 0xFE26, 1⟩, ⟨0xFE2E, 0xFE2F, 1⟩, ⟨0x10376, 0x1037A, 1⟩,
    ⟨0x10A0F, 0x10A0F, 1⟩, ⟨0x10A38, 0x10A38, 1⟩, ⟨0x10AE5, 0x10AE5, 1⟩, ⟨0x10D24, 0x10D27, 1⟩,
    ⟨0x10D69, 0x10D6D, 1⟩, ⟨0x10EAB, 0x10EAC, 1⟩, ⟨0x10F48, 0x10F4A, 1⟩, ⟨0x10F4C, 0x10F4C, 1⟩,
    ⟨0x10F82, 0x10F82, 1⟩, ⟨0x10F84, 0x10F84, 1⟩, ⟨0x11100, 0x11102, 1⟩, ⟨0x11366, 0x11374, 1⟩,
    ⟨0x1145E, 0x1145E, 1⟩, ⟨0x16B30, 0x16B36, 1⟩, ⟨0x1D185, 0x1D189, 1⟩, ⟨0x1D1AA, 0x1D1AD, 1⟩,
    ⟨0x1D242, 0x1D244, 1⟩, ⟨0x1E000, 0x1E08F, 1⟩, ⟨0x1E130, 0x1E136, 1⟩, ⟨0x1E2AE, 0x1E2AE, 1⟩,
    ⟨0x1E2EC, 0x1E2EF, 1⟩, ⟨0x1E4EF, 0x1E4EF, 1⟩, ⟨0x1E5EE, 0x1E5EE, 1⟩, ⟨0x1E6E3, 0x1E6E3, 1⟩,
    ⟨0x1E6E6, 0x1E6E6, 1⟩, ⟨0x1E6EE, 0x1E6EF, 1⟩, ⟨0x1E6F5, 0x1E6F5, 1⟩, ⟨0x1E944, 0x1E949, 1⟩]⟩,
  ⟨232, [
    ⟨0x0315, 0x0315, 1⟩, ⟨0x031A, 0x031A, 1⟩, ⟨0x0358, 0x0358, 1⟩, ⟨0x1DF6, 0x1DF6, 1⟩,
    ⟨0x302C, 0x302C, 1⟩, ⟨0x1E4EC, 0x1E4ED, 1⟩]⟩,
  ⟨233, [⟨0x035C, 0x035C, 1⟩, ⟨0x035F, 0x035F, 1⟩, ⟨0x0362, 0x0362, 1⟩, ⟨0x1DFC, 0x1DFC, 1⟩]⟩,
  ⟨234, [⟨0x035D, 0x035E, 1⟩, ⟨0x0360, 0x0361, 1⟩, ⟨0x1AEB, 0x1AEB, 1⟩, ⟨0x1DCD, 0x1DCD, 1⟩]⟩]

end PolicyGate.Text

import PolicyGate.Text.Span

/-!
# Directions of writing, as data

In which direction characters are written (the Unicode property Bidi_Class, Unicode 17). Characters
in no table are written from left to right. The tables are for the characters that the name of a
host may have; spans may reach over others.
-/

namespace PolicyGate.Text

/-- Letters that are written from right to left. -/
def rightSpans : List Span := [
  ⟨0x05BE, 0x05BE, 1⟩, ⟨0x05C0, 0x05C0, 1⟩, ⟨0x05C3, 0x05C3, 1⟩, ⟨0x05C6, 0x05C6, 1⟩,
  ⟨0x05D0, 0x05F4, 1⟩, ⟨0x07C0, 0x07EA, 1⟩, ⟨0x07F4, 0x07F5, 1⟩, ⟨0x07FA, 0x07FA, 1⟩,
  ⟨0x07FE, 0x0815, 1⟩, ⟨0x081A, 0x081A, 1⟩, ⟨0x0824, 0x0824, 1⟩, ⟨0x0828, 0x0828, 1⟩,
  ⟨0x0830, 0x0858, 1⟩, ⟨0x085E, 0x085E, 1⟩, ⟨0x10800, 0x1091B, 1⟩, ⟨0x10920, 0x10A00, 1⟩,
  ⟨0x10A10, 0x10A35, 1⟩, ⟨0x10A40, 0x10AE4, 1⟩, ⟨0x10AEB, 0x10B35, 1⟩, ⟨0x10B40, 0x10CFF, 1⟩,
  ⟨0x10D4A, 0x10D4F, 1⟩, ⟨0x10D6F, 0x10D8F, 1⟩, ⟨0x10E80, 0x10EA9, 1⟩, ⟨0x10EAD, 0x10EB1, 1⟩,
  ⟨0x10F00, 0x10F27, 1⟩, ⟨0x10F70, 0x10F81, 1⟩, ⟨0x10F86, 0x10FF6, 1⟩, ⟨0x1E800, 0x1E8CF, 1⟩,
  ⟨0x1E922, 0x1E943, 1⟩, ⟨0x1E94B, 0x1E95F, 1⟩]

/-- Letters of the Arabic and related scripts. -/
def arabicSpans : List Span := [
  ⟨0x0608, 0x0608, 1⟩, ⟨0x060B, 0x060B, 1⟩, ⟨0x060D, 0x060D, 1⟩, ⟨0x061B, 0x064A, 1⟩,
  ⟨0x066D, 0x066F, 1⟩, ⟨0x0671, 0x06D5, 1⟩, ⟨0x06E5, 0x06E6, 1⟩, ⟨0x06EE, 0x06EF, 1⟩,
  ⟨0x06FA, 0x0710, 1⟩, ⟨0x0712, 0x072F, 1⟩, ⟨0x074D, 0x07A5, 1⟩, ⟨0x07B1, 0x07B1, 1⟩,
  ⟨0x0860, 0x088F, 1⟩, ⟨0x08A0, 0x08C9, 1⟩, ⟨0xFBB2, 0xFBC2, 1⟩, ⟨0xFE73, 0xFE73, 1⟩,
  ⟨0x10D00, 0x10D23, 1⟩, ⟨0x10EC2, 0x10EC7, 1⟩, ⟨0x10F30, 0x10F45, 1⟩, ⟨0x10F51, 0x10F59, 1⟩,
  ⟨0x1EC71, 0x1ED3D, 1⟩]

/-- Digits of the Arabic and related scripts. -/
def arabicNumberSpans : List Span := [
  ⟨0x0660, 0x0669, 1⟩, ⟨0x066B, 0x066C, 1⟩, ⟨0x10D30, 0x10D49, 1⟩, ⟨0x10E60, 0x10E7E, 1⟩]

/-- Digits that are written from left to right in every script. -/
def digitSpans : List Span := [
  ⟨0x0030, 0x0039, 1⟩, ⟨0x06F0, 0x06F9, 1⟩, ⟨0x102E1, 0x102FB, 1⟩]

/-- Signs of numbers. -/
def signSpans : List Span := [
  ⟨0x002B, 0x002B, 1⟩, ⟨0x002D, 0x002D, 1⟩, ⟨0x2212, 0x2212, 1⟩]

/-- Separators within numbers. -/
def separatorSpans : List Span := [
  ⟨0x002C, 0x002C, 1⟩, ⟨0x002E, 0x002F, 1⟩, ⟨0x003A, 0x003A, 1⟩, ⟨0x060C, 0x060C, 1⟩,
  ⟨0x2044, 0x2044, 1⟩]

/-- Characters that end numbers. -/
def terminatorSpans : List Span := [
  ⟨0x0023, 0x0025, 1⟩, ⟨0x00A2, 0x00A5, 1⟩, ⟨0x00B0, 0x00B1, 1⟩, ⟨0x058F, 0x058F, 1⟩,
  ⟨0x0609, 0x060A, 1⟩, ⟨0x066A, 0x066A, 1⟩, ⟨0x09F2, 0x09F3, 1⟩, ⟨0x09FB, 0x09FB, 1⟩,
  ⟨0x0AF1, 0x0AF1, 1⟩, ⟨0x0BF9, 0x0BF9, 1⟩, ⟨0x0E3F, 0x0E3F, 1⟩, ⟨0x17DB, 0x17DB, 1⟩,
  ⟨0x2030, 0x2032, 1⟩, ⟨0x20A0, 0x20C1, 1⟩, ⟨0x212E, 0x212E, 1⟩, ⟨0x2213, 0x2213, 1⟩,
  ⟨0xA838, 0xA839, 1⟩, ⟨0x11FDD, 0x11FE0, 1⟩, ⟨0x1E2FF, 0x1E2FF, 1⟩]

/-- Controls that are not shown. -/
def boundarySpans : List Span := [
  ⟨0x0000, 0x0008, 1⟩, ⟨0x000E, 0x001B, 1⟩, ⟨0x007F, 0x007F, 1⟩, ⟨0x200C, 0x200D, 1⟩]

/-- Characters that are written in the direction of those around them. -/
def neutralSpans : List Span := [
  ⟨0x0021, 0x0022, 1⟩, ⟨0x0026, 0x002A, 1⟩, ⟨0x003B, 0x0060, 1⟩, ⟨0x007B, 0x007E, 1⟩,
  ⟨0x00A1, 0x00A1, 1⟩, ⟨0x00A6, 0x00AE, 1⟩, ⟨0x00B6, 0x00D7, 1⟩, ⟨0x00F7, 0x00F7, 1⟩,
  ⟨0x02B9, 0x02BA, 1⟩, ⟨0x02C2, 0x02CF, 1⟩, ⟨0x02D2, 0x02ED, 1⟩, ⟨0x02EF, 0x02FF, 1⟩,
  ⟨0x0375, 0x0375, 1⟩, ⟨0x03F6, 0x03F6, 1⟩, ⟨0x058A, 0x058E, 1⟩, ⟨0x0606, 0x0607, 1⟩,
  ⟨0x060E, 0x060F, 1⟩, ⟨0x06DE, 0x06DE, 1⟩, ⟨0x06E9, 0x06E9, 1⟩, ⟨0x07F6, 0x07F9, 1⟩,
  ⟨0x0BF3, 0x0BF8, 1⟩, ⟨0x0BFA, 0x0BFA, 1⟩, ⟨0x0C78, 0x0C7E, 1⟩, ⟨0x0F3A, 0x0F3D, 1⟩,
  ⟨0x1390, 0x1399, 1⟩, ⟨0x1400, 0x1400, 1⟩, ⟨0x169B, 0x169C, 1⟩, ⟨0x17F0, 0x180A, 1⟩,
  ⟨0x1940, 0x1945, 1⟩, ⟨0x19DE, 0x19FF, 1⟩, ⟨0x2010, 0x2027, 1⟩, ⟨0x2035, 0x2043, 1⟩,
  ⟨0x2045, 0x205E, 1⟩, ⟨0x2104, 0x2129, 1⟩, ⟨0x213A, 0x214D, 1⟩, ⟨0x218A, 0x2211, 1⟩,
  ⟨0x2214, 0x2335, 1⟩, ⟨0x237B, 0x2394, 1⟩, ⟨0x2396, 0x26AB, 1⟩, ⟨0x26AD, 0x27FF, 1⟩,
  ⟨0x2900, 0x2BFF, 1⟩, ⟨0x2CE5, 0x2CEA, 1⟩, ⟨0x2CF9, 0x2CFF, 1⟩, ⟨0x2E00, 0x3004, 1⟩,
  ⟨0x3008, 0x3020, 1⟩, ⟨0x3030, 0x3030, 1⟩, ⟨0x3037, 0x3037, 1⟩, ⟨0x303D, 0x303F, 1⟩,
  ⟨0x30A0, 0x30A0, 1⟩, ⟨0x30FB, 0x30FB, 1⟩, ⟨0x31C0, 0x31E5, 1⟩, ⟨0x4DC0, 0x4DFF, 1⟩,
  ⟨0xA490, 0xA4C6, 1⟩, ⟨0xA60D, 0xA60F, 1⟩, ⟨0xA673, 0xA673, 1⟩, ⟨0xA67E, 0xA67F, 1⟩,
  ⟨0xA700, 0xA721, 1⟩, ⟨0xA788, 0xA788, 1⟩, ⟨0xA828, 0xA82B, 1⟩, ⟨0xA874, 0xA877, 1⟩,
  ⟨0xAB6A, 0xAB6B, 1⟩, ⟨0xFBC3, 0xFDFF, 1⟩, ⟨0xFE45, 0xFE46, 1⟩, ⟨0x10101, 0x10101, 1⟩,
  ⟨0x10140, 0x1018C, 1⟩, ⟨0x10190, 0x101A0, 1⟩, ⟨0x1091F, 0x1091F, 1⟩, ⟨0x10B39, 0x10B3F, 1⟩,
  ⟨0x10D6E, 0x10D6E, 1⟩, ⟨0x10ED0, 0x10ED8, 1⟩, ⟨0x11052, 0x11065, 1⟩, ⟨0x11660, 0x1166C, 1⟩,
  ⟨0x11FD5, 0x11FDC, 1⟩, ⟨0x11FE1, 0x11FF1, 1⟩, ⟨0x16FE2, 0x16FE2, 1⟩, ⟨0x1CC00, 0x1CEF0, 1⟩,
  ⟨0x1D1E9, 0x1D241, 1⟩, ⟨0x1D245, 0x1D245, 1⟩, ⟨0x1D300, 0x1D356, 1⟩, ⟨0x1EEF0, 0x1F12F, 1⟩,
  ⟨0x1F16D, 0x1F16F, 1⟩, ⟨0x1F1AD, 0x1F1AD, 1⟩, ⟨0x1F260, 0x1FBFA, 1⟩]

/-- The marks that take no room and yet count as written from left to right. -/
def leftMarkSpans : List Span := [
  ⟨0x0CBF, 0x0CBF, 1⟩, ⟨0x0CC6, 0x0CC6, 1⟩, ⟨0x11A07, 0x11A07, 1⟩, ⟨0x11A08, 0x11A08, 1⟩,
  ⟨0x11C3F, 0x11C3F, 1⟩]

end PolicyGate.Text

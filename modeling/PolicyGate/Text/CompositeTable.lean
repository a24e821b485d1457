/-!
# Composed characters, as data

The characters that stand for a character and a mark after it, or for two characters in a row
(Unicode 17, the primary composites). Syllables of Hangul are not among them, since they are
computed.
-/

namespace PolicyGate.Text

/-- The pairs that a character and those that follow it stand for, one by one. -/
structure Composites where
  first : Nat
  pairs : List (Nat × Nat)
  deriving DecidableEq, Repr

/-- The characters that stand for two. -/
def composites : List Composites := [
  ⟨0x00C0, [(0x0041, 0x0300), (0x0041, 0x0301), (0x0041, 0x0302), (0x0041, 0x0303),
    (0x0041, 0x0308), (0x0041, 0x030A)]⟩,
  ⟨0x00C7, [(0x0043, 0x0327), (0x0045, 0x0300), (0x0045, 0x0301), (0x0045, 0x0302),
    (0x0045, 0x0308), (0x0049, 0x0300), (0x0049, 0x0301), (0x0049, 0x0302), (0x0049, 0x0308)]⟩,
  ⟨0x00D1, [(0x004E, 0x0303), (0x004F, 0x0300), (0x004F, 0x0301), (0x004F, 0x0302),
    (0x004F, 0x0303), (0x004F, 0x0308)]⟩,
  ⟨0x00D9, [(0x0055, 0x0300), (0x0055, 0x0301), (0x0055, 0x0302), (0x0055, 0x0308),
    (0x0059, 0x0301)]⟩,
  ⟨0x00E0, [(0x0061, 0x0300), (0x0061, 0x0301), (0x0061, 0x0302), (0x0061, 0x0303),
    (0x0061, 0x0308), (0x0061, 0x030A)]⟩,
  ⟨0x00E7, [(0x0063, 0x0327), (0x0065, 0x0300), (0x0065, 0x0301), (0x0065, 0x0302),
    (0x0065, 0x0308), (0x0069, 0x0300), (0x0069, 0x0301), (0x0069, 0x0302), (0x0069, 0x0308)]⟩,
  ⟨0x00F1, [(0x006E, 0x0303), (0x006F, 0x0300), (0x006F, 0x0301), (0x006F, 0x0302),
    (0x006F, 0x0303), (0x006F, 0x0308)]⟩,
  ⟨0x00F9, [(0x0075, 0x0300), (0x0075, 0x0301), (0x0075, 0x0302), (0x0075, 0x0308),
    (0x0079, 0x0301)]⟩,
  ⟨0x00FF, [(0x0079, 0x0308), (0x0041, 0x0304), (0x0061, 0x0304), (0x0041, 0x0306),
    (0x0061, 0x0306), (0x0041, 0x0328), (0x0061, 0x0328), (0x0043, 0x0301), (0x0063, 0x0301),
    (0x0043, 0x0302), (0x0063, 0x0302), (0x0043, 0x0307), (0x0063, 0x0307), (0x0043, 0x030C),
    (0x0063, 0x030C), (0x0044, 0x030C), (0x0064, 0x030C)]⟩,
  ⟨0x0112, [(0x0045, 0x0304), (0x0065, 0x0304), (0x0045, 0x0306), (0x0065, 0x0306),
    (0x0045, 0x0307), (0x0065, 0x0307), (0x0045, 0x0328), (0x0065, 0x0328), (0x0045, 0x030C),
    (0x0065, 0x030C), (0x0047, 0x0302), (0x0067, 0x0302), (0x0047, 0x0306), (0x0067, 0x0306),
    (0x0047, 0x0307), (0x0067, 0x0307), (0x0047, 0x0327), (0x0067, 0x0327), (0x0048, 0x0302),
    (0x0068, 0x0302)]⟩,
  ⟨0x0128, [(0x0049, 0x0303), (0x0069, 0x0303), (0x0049, 0x0304), (0x0069, 0x0304),
    (0x0049, 0x0306), (0x0069, 0x0306), (0x0049, 0x0328), (0x0069, 0x0328), (0x0049, 0x0307)]⟩,
  ⟨0x0134, [(0x004A, 0x0302), (0x006A, 0x0302), (0x004B, 0x0327), (0x006B, 0x0327)]⟩,
  ⟨0x0139, [(0x004C, 0x0301), (0x006C, 0x0301), (0x004C, 0x0327), (0x006C, 0x0327),
    (0x004C, 0x030C), (0x006C, 0x030C)]⟩,
  ⟨0x0143, [(0x004E, 0x0301), (0x006E, 0x0301), (0x004E, 0x0327), (0x006E, 0x0327),
    (0x004E, 0x030C), (0x006E, 0x030C)]⟩,
  ⟨0x014C, [(0x004F, 0x0304), (0x006F, 0x0304), (0x004F, 0x0306), (0x006F, 0x0306),
    (0x004F, 0x030B), (0x006F, 0x030B)]⟩,
  ⟨0x0154, [(0x0052, 0x0301), (0x0072, 0x0301), (0x0052, 0x0327), (0x0072, 0x0327),
    (0x0052, 0x030C), (0x0072, 0x030C), (0x0053, 0x0301), (0x0073, 0x0301), (0x0053, 0x0302),
    (0x0073, 0x0302), (0x0053, 0x0327), (0x0073, 0x0327), (0x0053, 0x030C), (0x0073, 0x030C),
    (0x0054, 0x0327), (0x0074, 0x0327), (0x0054, 0x030C), (0x0074, 0x030C)]⟩,
  ⟨0x0168, [(0x0055, 0x0303), (0x0075, 0x0303), (0x0055, 0x0304), (0x0075, 0x0304),
    (0x0055, 0x0306), (0x0075, 0x0306), (0x0055, 0x030A), (0x0075, 0x030A), (0x0055, 0x030B),
    (0x0075, 0x030B), (0x0055, 0x0328), (0x0075, 0x0328), (0x0057, 0x0302), (0x0077, 0x0302),
    (0x0059, 0x0302), (0x0079, 0x0302), (0x0059, 0x0308), (0x005A, 0x0301), (0x007A, 0x0301),
    (0x005A, 0x0307), (0x007A, 0x0307), (0x005A, 0x030C), (0x007A, 0x030C)]⟩,
  ⟨0x01A0, [(0x004F, 0x031B), (0x006F, 0x031B)]⟩, ⟨0x01AF, [(0x0055, 0x031B), (0x0075, 0x031B)]⟩,
  ⟨0x01CD, [(0x0041, 0x030C), (0x0061, 0x030C), (0x0049, 0x030C), (0x0069, 0x030C),
    (0x004F, 0x030C), (0x006F, 0x030C), (0x0055, 0x030C), (0x0075, 0x030C), (0x00DC, 0x0304),
    (0x00FC, 0x0304), (0x00DC, 0x0301), (0x00FC, 0x0301), (0x00DC, 0x030C), (0x00FC, 0x030C),
    (0x00DC, 0x0300), (0x00FC, 0x0300)]⟩,
  ⟨0x01DE, [(0x00C4, 0x0304), (0x00E4, 0x0304), (0x0226, 0x0304), (0x0227, 0x0304),
    (0x00C6, 0x0304), (0x00E6, 0x0304)]⟩,
  ⟨0x01E6, [(0x0047, 0x030C), (0x0067, 0x030C), (0x004B, 0x030C), (0x006B, 0x030C),
    (0x004F, 0x0328), (0x006F, 0x0328), (0x01EA, 0x0304), (0x01EB, 0x0304), (0x01B7, 0x030C),
    (0x0292, 0x030C), (0x006A, 0x030C)]⟩,
  ⟨0x01F4, [(0x0047, 0x0301), (0x0067, 0x0301)]⟩,
  ⟨0x01F8, [(0x004E, 0x0300), (0x006E, 0x0300), (0x00C5, 0x0301), (0x00E5, 0x0301),
    (0x00C6, 0x0301), (0x00E6, 0x0301), (0x00D8, 0x0301), (0x00F8, 0x0301), (0x0041, 0x030F),
    (0x0061, 0x030F), (0x0041, 0x0311), (0x0061, 0x0311), (0x0045, 0x030F), (0x0065, 0x030F),
    (0x0045, 0x0311), (0x0065, 0x0311), (0x0049, 0x030F), (0x0069, 0x030F), (0x0049, 0x0311),
    (0x0069, 0x0311), (0x004F, 0x030F), (0x006F, 0x030F), (0x004F, 0x0311), (0x006F, 0x0311),
    (0x0052, 0x030F), (0x0072, 0x030F), (0x0052, 0x0311), (0x0072, 0x0311), (0x0055, 0x030F),
    (0x0075, 0x030F), (0x0055, 0x0311), (0x0075, 0x0311), (0x0053, 0x0326), (0x0073, 0x0326),
    (0x0054, 0x0326), (0x0074, 0x0326)]⟩,
  ⟨0x021E, [(0x0048, 0x030C), (0x0068, 0x030C)]⟩,
  ⟨0x0226, [(0x0041, 0x0307), (0x0061, 0x0307), (0x0045, 0x0327), (0x0065, 0x0327),
    (0x00D6, 0x0304), (0x00F6, 0x0304), (0x00D5, 0x0304), (0x00F5, 0x0304), (0x004F, 0x0307),
    (0x006F, 0x0307), (0x022E, 0x0304), (0x022F, 0x0304), (0x0059, 0x0304), (0x0079, 0x0304)]⟩,
  ⟨0x0385, [(0x00A8, 0x0301), (0x0391, 0x0301)]⟩,
  ⟨0x0388, [(0x0395, 0x0301), (0x0397, 0x0301), (0x0399, 0x0301)]⟩, ⟨0x038C, [(0x039F, 0x0301)]⟩,
  ⟨0x038E, [(0x03A5, 0x0301), (0x03A9, 0x0301), (0x03CA, 0x0301)]⟩,
  ⟨0x03AA, [(0x0399, 0x0308), (0x03A5, 0x0308), (0x03B1, 0x0301), (0x03B5, 0x0301),
    (0x03B7, 0x0301), (0x03B9, 0x0301), (0x03CB, 0x0301)]⟩,
  ⟨0x03CA, [(0x03B9, 0x0308), (0x03C5, 0x0308), (0x03BF, 0x0301), (0x03C5, 0x0301),
    (0x03C9, 0x0301)]⟩,
  ⟨0x03D3, [(0x03D2, 0x0301), (0x03D2, 0x0308)]⟩, ⟨0x0400, [(0x0415, 0x0300), (0x0415, 0x0308)]⟩,
  ⟨0x0403, [(0x0413, 0x0301)]⟩, ⟨0x0407, [(0x0406, 0x0308)]⟩,
  ⟨0x040C, [(0x041A, 0x0301), (0x0418, 0x0300), (0x0423, 0x0306)]⟩, ⟨0x0419, [(0x0418, 0x0306)]⟩,
  ⟨0x0439, [(0x0438, 0x0306)]⟩, ⟨0x0450, [(0x0435, 0x0300), (0x0435, 0x0308)]⟩,
  ⟨0x0453, [(0x0433, 0x0301)]⟩, ⟨0x0457, [(0x0456, 0x0308)]⟩,
  ⟨0x045C, [(0x043A, 0x0301), (0x0438, 0x0300), (0x0443, 0x0306)]⟩,
  ⟨0x0476, [(0x0474, 0x030F), (0x0475, 0x030F)]⟩, ⟨0x04C1, [(0x0416, 0x0306), (0x0436, 0x0306)]⟩,
  ⟨0x04D0, [(0x0410, 0x0306), (0x0430, 0x0306), (0x0410, 0x0308), (0x0430, 0x0308)]⟩,
  ⟨0x04D6, [(0x0415, 0x0306), (0x0435, 0x0306)]⟩,
  ⟨0x04DA, [(0x04D8, 0x0308), (0x04D9, 0x0308), (0x0416, 0x0308), (0x0436, 0x0308),
    (0x0417, 0x0308), (0x0437, 0x0308)]⟩,
  ⟨0x04E2, [(0x0418, 0x0304), (0x0438, 0x0304), (0x0418, 0x0308), (0x0438, 0x0308),
    (0x041E, 0x0308), (0x043E, 0x0308)]⟩,
  ⟨0x04EA, [(0x04E8, 0x0308), (0x04E9, 0x0308), (0x042D, 0x0308), (0x044D, 0x0308),
    (0x0423, 0x0304), (0x0443, 0x0304), (0x0423, 0x0308), (0x0443, 0x0308), (0x0423, 0x030B),
    (0x0443, 0x030B), (0x0427, 0x0308), (0x0447, 0x0308)]⟩,
  ⟨0x04F8, [(0x042B, 0x0308), (0x044B, 0x0308)]⟩,
  ⟨0x0622, [(0x0627, 0x0653), (0x0627, 0x0654), (0x0648, 0x0654), (0x0627, 0x0655),
    (0x064A, 0x0654)]⟩,
  ⟨0x06C0, [(0x06D5, 0x0654)]⟩, ⟨0x06C2, [(0x06C1, 0x0654)]⟩, ⟨0x06D3, [(0x06D2, 0x0654)]⟩,
  ⟨0x0929, [(0x0928, 0x093C)]⟩, ⟨0x0931, [(0x0930, 0x093C)]⟩, ⟨0x0934, [(0x0933, 0x093C)]⟩,
  ⟨0x09CB, [(0x09C7, 0x09BE), (0x09C7, 0x09D7)]⟩, ⟨0x0B48, [(0x0B47, 0x0B56)]⟩,
  ⟨0x0B4B, [(0x0B47, 0x0B3E), (0x0B47, 0x0B57)]⟩, ⟨0x0B94, [(0x0B92, 0x0BD7)]⟩,
  ⟨0x0BCA, [(0x0BC6, 0x0BBE), (0x0BC7, 0x0BBE), (0x0BC6, 0x0BD7)]⟩, ⟨0x0C48, [(0x0C46, 0x0C56)]⟩,
  ⟨0x0CC0, [(0x0CBF, 0x0CD5)]⟩, ⟨0x0CC7, [(0x0CC6, 0x0CD5), (0x0CC6, 0x0CD6)]⟩,
  ⟨0x0CCA, [(0x0CC6, 0x0CC2), (0x0CCA, 0x0CD5)]⟩,
  ⟨0x0D4A, [(0x0D46, 0x0D3E), (0x0D47, 0x0D3E), (0x0D46, 0x0D57)]⟩, ⟨0x0DDA, [(0x0DD9, 0x0DCA)]⟩,
  ⟨0x0DDC, [(0x0DD9, 0x0DCF), (0x0DDC, 0x0DCA), (0x0DD9, 0x0DDF)]⟩, ⟨0x1026, [(0x1025, 0x102E)]⟩,
  ⟨0x1B06, [(0x1B05, 0x1B35)]⟩, ⟨0x1B08, [(0x1B07, 0x1B35)]⟩, ⟨0x1B0A, [(0x1B09, 0x1B35)]⟩,
  ⟨0x1B0C, [(0x1B0B, 0x1B35)]⟩, ⟨0x1B0E, [(0x1B0D, 0x1B35)]⟩, ⟨0x1B12, [(0x1B11, 0x1B35)]⟩,
  ⟨0x1B3B, [(0x1B3A, 0x1B35)]⟩, ⟨0x1B3D, [(0x1B3C, 0x1B35)]⟩,
  ⟨0x1B40, [(0x1B3E, 0x1B35), (0x1B3F, 0x1B35)]⟩, ⟨0x1B43, [(0x1B42, 0x1B35)]⟩,
  ⟨0x1E00, [(0x0041, 0x0325), (0x0061, 0x0325), (0x0042, 0x0307), (0x0062, 0x0307),
    (0x0042, 0x0323), (0x0062, 0x0323), (0x0042, 0x0331), (0x0062, 0x0331), (0x00C7, 0x0301),
    (0x00E7, 0x0301), (0x0044, 0x0307), (0x0064, 0x0307), (0x0044, 0x0323), (0x0064, 0x0323),
    (0x0044, 0x0331), (0x0064, 0x0331), (0x0044, 0x0327), (0x0064, 0x0327), (0x0044, 0x032D),
    (0x0064, 0x032D), (0x0112, 0x0300), (0x0113, 0x0300), (0x0112, 0x0301), (0x0113, 0x0301),
    (0x0045, 0x032D), (0x0065, 0x032D), (0x0045, 0x0330), (0x0065, 0x0330), (0x0228, 0x0306),
    (0x0229, 0x0306), (0x0046, 0x0307), (0x0066, 0x0307), (0x0047, 0x0304), (0x0067, 0x0304),
    (0x0048, 0x0307), (0x0068, 0x0307), (0x0048, 0x0323), (0x0068, 0x0323), (0x0048, 0x0308),
    (0x0068, 0x0308), (0x0048, 0x0327), (0x0068, 0x0327), (0x0048, 0x032E), (0x0068, 0x032E),
    (0x0049, 0x0330), (0x0069, 0x0330), (0x00CF, 0x0301), (0x00EF, 0x0301), (0x004B, 0x0301),
    (0x006B, 0x0301), (0x004B, 0x0323), (0x006B, 0x0323), (0x004B, 0x0331), (0x006B, 0x0331),
    (0x004C, 0x0323), (0x006C, 0x0323), (0x1E36, 0x0304), (0x1E37, 0x0304), (0x004C, 0x0331),
    (0x006C, 0x0331), (0x004C, 0x032D), (0x006C, 0x032D), (0x004D, 0x0301), (0x006D, 0x0301),
    (0x004D, 0x0307), (0x006D, 0x0307), (0x004D, 0x0323), (0x006D, 0x0323), (0x004E, 0x0307),
    (0x006E, 0x0307), (0x004E, 0x0323), (0x006E, 0x0323), (0x004E, 0x0331), (0x006E, 0x0331),
    (0x004E, 0x032D), (0x006E, 0x032D), (0x00D5, 0x0301), (0x00F5, 0x0301), (0x00D5, 0x0308),
    (0x00F5, 0x0308), (0x014C, 0x0300), (0x014D, 0x0300), (0x014C, 0x0301), (0x014D, 0x0301),
    (0x0050, 0x0301), (0x0070, 0x0301), (0x0050, 0x0307), (0x0070, 0x0307), (0x0052, 0x0307),
    (0x0072, 0x0307), (0x0052, 0x0323), (0x0072, 0x0323), (0x1E5A, 0x0304), (0x1E5B, 0x0304),
    (0x0052, 0x0331), (0x0072, 0x0331), (0x0053, 0x0307), (0x0073, 0x0307), (0x0053, 0x0323),
    (0x0073, 0x0323), (0x015A, 0x0307), (0x015B, 0x0307), (0x0160, 0x0307), (0x0161, 0x0307),
    (0x1E62, 0x0307), (0x1E63, 0x0307), (0x0054, 0x0307), (0x0074, 0x0307), (0x0054, 0x0323),
    (0x0074, 0x0323), (0x0054, 0x0331), (0x0074, 0x0331), (0x0054, 0x032D), (0x0074, 0x032D),
    (0x0055, 0x0324), (0x0075, 0x0324), (0x0055, 0x0330), (0x0075, 0x0330), (0x0055, 0x032D),
    (0x0075, 0x032D), (0x0168, 0x0301), (0x0169, 0x0301), (0x016A, 0x0308), (0x016B, 0x0308),
    (0x0056, 0x0303), (0x0076, 0x0303), (0x0056, 0x0323), (0x0076, 0x0323), (0x0057, 0x0300),
    (0x0077, 0x0300), (0x0057, 0x0301), (0x0077, 0x0301), (0x0057, 0x0308), (0x0077, 0x0308),
    (0x0057, 0x0307), (0x0077, 0x0307), (0x0057, 0x0323), (0x0077, 0x0323), (0x0058, 0x0307),
    (0x0078, 0x0307), (0x0058, 0x0308), (0x0078, 0x0308), (0x0059, 0x0307), (0x0079, 0x0307),
    (0x005A, 0x0302), (0x007A, 0x0302), (0x005A, 0x0323), (0x007A, 0x0323), (0x005A, 0x0331),
    (0x007A, 0x0331), (0x0068, 0x0331), (0x0074, 0x0308), (0x0077, 0x030A), (0x0079, 0x030A)]⟩,
  ⟨0x1E9B, [(0x017F, 0x0307)]⟩,
  ⟨0x1EA0, [(0x0041, 0x0323), (0x0061, 0x0323), (0x0041, 0x0309), (0x0061, 0x0309),
    (0x00C2, 0x0301), (0x00E2, 0x0301), (0x00C2, 0x0300), (0x00E2, 0x0300), (0x00C2, 0x0309),
    (0x00E2, 0x0309), (0x00C2, 0x0303), (0x00E2, 0x0303), (0x1EA0, 0x0302), (0x1EA1, 0x0302),
    (0x0102, 0x0301), (0x0103, 0x0301), (0x0102, 0x0300), (0x0103, 0x0300), (0x0102, 0x0309),
    (0x0103, 0x0309), (0x0102, 0x0303), (0x0103, 0x0303), (0x1EA0, 0x0306), (0x1EA1, 0x0306),
    (0x0045, 0x0323), (0x0065, 0x0323), (0x0045, 0x0309), (0x0065, 0x0309), (0x0045, 0x0303),
    (0x0065, 0x0303), (0x00CA, 0x0301), (0x00EA, 0x0301), (0x00CA, 0x0300), (0x00EA, 0x0300),
    (0x00CA, 0x0309), (0x00EA, 0x0309), (0x00CA, 0x0303), (0x00EA, 0x0303), (0x1EB8, 0x0302),
    (0x1EB9, 0x0302), (0x0049, 0x0309), (0x0069, 0x0309), (0x0049, 0x0323), (0x0069, 0x0323),
    (0x004F, 0x0323), (0x006F, 0x0323), (0x004F, 0x0309), (0x006F, 0x0309), (0x00D4, 0x0301),
    (0x00F4, 0x0301), (0x00D4, 0x0300), (0x00F4, 0x0300), (0x00D4, 0x0309), (0x00F4, 0x0309),
    (0x00D4, 0x0303), (0x00F4, 0x0303), (0x1ECC, 0x0302), (0x1ECD, 0x0302), (0x01A0, 0x0301),
    (0x01A1, 0x0301), (0x01A0, 0x0300), (0x01A1, 0x0300), (0x01A0, 0x0309), (0x01A1, 0x0309),
    (0x01A0, 0x0303), (0x01A1, 0x0303), (0x01A0, 0x0323), (0x01A1, 0x0323), (0x0055, 0x0323),
    (0x0075, 0x0323), (0x0055, 0x0309), (0x0075, 0x0309), (0x01AF, 0x0301), (0x01B0, 0x0301),
    (0x01AF, 0x0300), (0x01B0, 0x0300), (0x01AF, 0x0309), (0x01B0, 0x0309), (0x01AF, 0x0303),
    (0x01B0, 0x0303), (0x01AF, 0x0323), (0x01B0, 0x0323), (0x0059, 0x0300), (0x0079, 0x0300),
    (0x0059, 0x0323), (0x0079, 0x0323), (0x0059, 0x0309), (0x0079, 0x0309), (0x0059, 0x0303),
    (0x0079, 0x0303)]⟩,
  ⟨0x1F00, [(0x03B1, 0x0313), (0x03B1, 0x0314), (0x1F00, 0x0300), (0x1F01, 0x0300),
    (0x1F00, 0x0301), (0x1F01, 0x0301), (0x1F00, 0x0342), (0x1F01, 0x0342), (0x0391, 0x0313),
    (0x0391, 0x0314), (0x1F08, 0x0300), (0x1F09, 0x0300), (0x1F08, 0x0301), (0x1F09, 0x0301),
    (0x1F08, 0x0342), (0x1F09, 0x0342), (0x03B5, 0x0313), (0x03B5, 0x0314), (0x1F10, 0x0300),
    (0x1F11, 0x0300), (0x1F10, 0x0301), (0x1F11, 0x0301)]⟩,
  ⟨0x1F18, [(0x0395, 0x0313), (0x0395, 0x0314), (0x1F18, 0x0300), (0x1F19, 0x0300),
    (0x1F18, 0x0301), (0x1F19, 0x0301)]⟩,
  ⟨0x1F20, [(0x03B7, 0x0313), (0x03B7, 0x0314), (0x1F20, 0x0300), (0x1F21, 0x0300),
    (0x1F20, 0x0301), (0x1F21, 0x0301), (0x1F20, 0x0342), (0x1F21, 0x0342), (0x0397, 0x0313),
    (0x0397, 0x0314), (0x1F28, 0x0300), (0x1F29, 0x0300), (0x1F28, 0x0301), (0x1F29, 0x0301),
    (0x1F28, 0x0342), (0x1F29, 0x0342), (0x03B9, 0x0313), (0x03B9, 0x0314), (0x1F30, 0x0300),
    (0x1F31, 0x0300), (0x1F30, 0x0301), (0x1F31, 0x0301), (0x1F30, 0x0342), (0x1F31, 0x0342),
    (0x0399, 0x0313), (0x0399, 0x0314), (0x1F38, 0x0300), (0x1F39, 0x0300), (0x1F38, 0x0301),
    (0x1F39, 0x0301), (0x1F38, 0x0342), (0x1F39, 0x0342), (0x03BF, 0x0313), (0x03BF, 0x0314),
    (0x1F40, 0x0300), (0x1F41, 0x0300), (0x1F40, 0x0301), (0x1F41, 0x0301)]⟩,
  ⟨0x1F48, [(0x039F, 0x0313), (0x039F, 0x0314), (0x1F48, 0x0300), (0x1F49, 0x0300),
    (0x1F48, 0x0301), (0x1F49, 0x0301)]⟩,
  ⟨0x1F50, [(0x03C5, 0x0313), (0x03C5, 0x0314), (0x1F50, 0x0300), (0x1F51, 0x0300),
    (0x1F50, 0x0301), (0x1F51, 0x0301), (0x1F50, 0x0342), (0x1F51, 0x0342)]⟩,
  ⟨0x1F59, [(0x03A5, 0x0314)]⟩, ⟨0x1F5B, [(0x1F59, 0x0300)]⟩, ⟨0x1F5D, [(0x1F59, 0x0301)]⟩,
  ⟨0x1F5F, [(0x1F59, 0x0342), (0x03C9, 0x0313), (0x03C9, 0x0314), (0x1F60, 0x0300),
    (0x1F61, 0x0300), (0x1F60, 0x0301), (0x1F61, 0x0301), (0x1F60, 0x0342), (0x1F61, 0x0342),
    (0x03A9, 0x0313), (0x03A9, 0x0314), (0x1F68, 0x0300), (0x1F69, 0x0300), (0x1F68, 0x0301),
    (0x1F69, 0x0301), (0x1F68, 0x0342), (0x1F69, 0x0342), (0x03B1, 0x0300)]⟩,
  ⟨0x1F72, [(0x03B5, 0x0300)]⟩, ⟨0x1F74, [(0x03B7, 0x0300)]⟩, ⟨0x1F76, [(0x03B9, 0x0300)]⟩,
  ⟨0x1F78, [(0x03BF, 0x0300)]⟩, ⟨0x1F7A, [(0x03C5, 0x0300)]⟩, ⟨0x1F7C, [(0x03C9, 0x0300)]⟩,
  ⟨0x1F80, [(0x1F00, 0x0345), (0x1F01, 0x0345), (0x1F02, 0x0345), (0x1F03, 0x0345),
    (0x1F04, 0x0345), (0x1F05, 0x0345), (0x1F06, 0x0345), (0x1F07, 0x0345), (0x1F08, 0x0345),
    (0x1F09, 0x0345), (0x1F0A, 0x0345), (0x1F0B, 0x0345), (0x1F0C, 0x0345), (0x1F0D, 0x0345),
    (0x1F0E, 0x0345), (0x1F0F, 0x0345), (0x1F20, 0x0345), (0x1F21, 0x0345), (0x1F22, 0x0345),
    (0x1F23, 0x0345), (0x1F24, 0x0345), (0x1F25, 0x0345), (0x1F26, 0x0345), (0x1F27, 0x0345),
    (0x1F28, 0x0345), (0x1F29, 0x0345), (0x1F2A, 0x0345), (0x1F2B, 0x0345), (0x1F2C, 0x0345),
    (0x1F2D, 0x0345), (0x1F2E, 0x0345), (0x1F2F, 0x0345), (0x1F60, 0x0345), (0x1F61, 0x0345),
    (0x1F62, 0x0345), (0x1F63, 0x0345), (0x1F64, 0x0345), (0x1F65, 0x0345), (0x1F66, 0x0345),
    (0x1F67, 0x0345), (0x1F68, 0x0345), (0x1F69, 0x0345), (0x1F6A, 0x0345), (0x1F6B, 0x0345),
    (0x1F6C, 0x0345), (0x1F6D, 0x0345), (0x1F6E, 0x0345), (0x1F6F, 0x0345), (0x03B1, 0x0306),
    (0x03B1, 0x0304), (0x1F70, 0x0345), (0x03B1, 0x0345), (0x03AC, 0x0345)]⟩,
  ⟨0x1FB6, [(0x03B1, 0x0342), (0x1FB6, 0x0345), (0x0391, 0x0306), (0x0391, 0x0304),
    (0x0391, 0x0300)]⟩,
  ⟨0x1FBC, [(0x0391, 0x0345)]⟩,
  ⟨0x1FC1, [(0x00A8, 0x0342), (0x1F74, 0x0345), (0x03B7, 0x0345), (0x03AE, 0x0345)]⟩,
  ⟨0x1FC6, [(0x03B7, 0x0342), (0x1FC6, 0x0345), (0x0395, 0x0300)]⟩, ⟨0x1FCA, [(0x0397, 0x0300)]⟩,
  ⟨0x1FCC, [(0x0397, 0x0345), (0x1FBF, 0x0300), (0x1FBF, 0x0301), (0x1FBF, 0x0342),
    (0x03B9, 0x0306), (0x03B9, 0x0304), (0x03CA, 0x0300)]⟩,
  ⟨0x1FD6, [(0x03B9, 0x0342), (0x03CA, 0x0342), (0x0399, 0x0306), (0x0399, 0x0304),
    (0x0399, 0x0300)]⟩,
  ⟨0x1FDD, [(0x1FFE, 0x0300), (0x1FFE, 0x0301), (0x1FFE, 0x0342), (0x03C5, 0x0306),
    (0x03C5, 0x0304), (0x03CB, 0x0300)]⟩,
  ⟨0x1FE4, [(0x03C1, 0x0313), (0x03C1, 0x0314), (0x03C5, 0x0342), (0x03CB, 0x0342),
    (0x03A5, 0x0306), (0x03A5, 0x0304), (0x03A5, 0x0300)]⟩,
  ⟨0x1FEC, [(0x03A1, 0x0314), (0x00A8, 0x0300)]⟩,
  ⟨0x1FF2, [(0x1F7C, 0x0345), (0x03C9, 0x0345), (0x03CE, 0x0345)]⟩,
  ⟨0x1FF6, [(0x03C9, 0x0342), (0x1FF6, 0x0345), (0x039F, 0x0300)]⟩, ⟨0x1FFA, [(0x03A9, 0x0300)]⟩,
  ⟨0x1FFC, [(0x03A9, 0x0345)]⟩, ⟨0x219A, [(0x2190, 0x0338), (0x2192, 0x0338)]⟩,
  ⟨0x21AE, [(0x2194, 0x0338)]⟩, ⟨0x21CD, [(0x21D0, 0x0338), (0x21D4, 0x0338), (0x21D2, 0x0338)]⟩,
  ⟨0x2204, [(0x2203, 0x0338)]⟩, ⟨0x2209, [(0x2208, 0x0338)]⟩, ⟨0x220C, [(0x220B, 0x0338)]⟩,
  ⟨0x2224, [(0x2223, 0x0338)]⟩, ⟨0x2226, [(0x2225, 0x0338)]⟩, ⟨0x2241, [(0x223C, 0x0338)]⟩,
  ⟨0x2244, [(0x2243, 0x0338)]⟩, ⟨0x2247, [(0x2245, 0x0338)]⟩, ⟨0x2249, [(0x2248, 0x0338)]⟩,
  ⟨0x2260, [(0x003D, 0x0338)]⟩, ⟨0x2262, [(0x2261, 0x0338)]⟩,
  ⟨0x226D, [(0x224D, 0x0338), (0x003C, 0x0338), (0x003E, 0x0338), (0x2264, 0x0338),
    (0x2265, 0x0338)]⟩,
  ⟨0x2274, [(0x2272, 0x0338), (0x2273, 0x0338)]⟩, ⟨0x2278, [(0x2276, 0x0338), (0x2277, 0x0338)]⟩,
  ⟨0x2280, [(0x227A, 0x0338), (0x227B, 0x0338)]⟩, ⟨0x2284, [(0x2282, 0x0338), (0x2283, 0x0338)]⟩,
  ⟨0x2288, [(0x2286, 0x0338), (0x2287, 0x0338)]⟩,
  ⟨0x22AC, [(0x22A2, 0x0338), (0x22A8, 0x0338), (0x22A9, 0x0338), (0x22AB, 0x0338)]⟩,
  ⟨0x22E0, [(0x227C, 0x0338), (0x227D, 0x0338), (0x2291, 0x0338), (0x2292, 0x0338)]⟩,
  ⟨0x22EA, [(0x22B2, 0x0338), (0x22B3, 0x0338), (0x22B4, 0x0338), (0x22B5, 0x0338)]⟩,
  ⟨0x304C, [(0x304B, 0x3099)]⟩, ⟨0x304E, [(0x304D, 0x3099)]⟩, ⟨0x3050, [(0x304F, 0x3099)]⟩,
  ⟨0x3052, [(0x3051, 0x3099)]⟩, ⟨0x3054, [(0x3053, 0x3099)]⟩, ⟨0x3056, [(0x3055, 0x3099)]⟩,
  ⟨0x3058, [(0x3057, 0x3099)]⟩, ⟨0x305A, [(0x3059, 0x3099)]⟩, ⟨0x305C, [(0x305B, 0x3099)]⟩,
  ⟨0x305E, [(0x305D, 0x3099)]⟩, ⟨0x3060, [(0x305F, 0x3099)]⟩, ⟨0x3062, [(0x3061, 0x3099)]⟩,
  ⟨0x3065, [(0x3064, 0x3099)]⟩, ⟨0x3067, [(0x3066, 0x3099)]⟩, ⟨0x3069, [(0x3068, 0x3099)]⟩,
  ⟨0x3070, [(0x306F, 0x3099), (0x306F, 0x309A)]⟩, ⟨0x3073, [(0x3072, 0x3099), (0x3072, 0x309A)]⟩,
  ⟨0x3076, [(0x3075, 0x3099), (0x3075, 0x309A)]⟩, ⟨0x3079, [(0x3078, 0x3099), (0x3078, 0x309A)]⟩,
  ⟨0x307C, [(0x307B, 0x3099), (0x307B, 0x309A)]⟩, ⟨0x3094, [(0x3046, 0x3099)]⟩,
  ⟨0x309E, [(0x309D, 0x3099)]⟩, ⟨0x30AC, [(0x30AB, 0x3099)]⟩, ⟨0x30AE, [(0x30AD, 0x3099)]⟩,
  ⟨0x30B0, [(0x30AF, 0x3099)]⟩, ⟨0x30B2, [(0x30B1, 0x3099)]⟩, ⟨0x30B4, [(0x30B3, 0x3099)]⟩,
  ⟨0x30B6, [(0x30B5, 0x3099)]⟩, ⟨0x30B8, [(0x30B7, 0x3099)]⟩, ⟨0x30BA, [(0x30B9, 0x3099)]⟩,
  ⟨0x30BC, [(0x30BB, 0x3099)]⟩, ⟨0x30BE, [(0x30BD, 0x3099)]⟩, ⟨0x30C0, [(0x30BF, 0x3099)]⟩,
  ⟨0x30C2, [(0x30C1, 0x3099)]⟩, ⟨0x30C5, [(0x30C4, 0x3099)]⟩, ⟨0x30C7, [(0x30C6, 0x3099)]⟩,
  ⟨0x30C9, [(0x30C8, 0x3099)]⟩, ⟨0x30D0, [(0x30CF, 0x3099), (0x30CF, 0x309A)]⟩,
  ⟨0x30D3, [(0x30D2, 0x3099), (0x30D2, 0x309A)]⟩, ⟨0x30D6, [(0x30D5, 0x3099), (0x30D5, 0x309A)]⟩,
  ⟨0x30D9, [(0x30D8, 0x3099), (0x30D8, 0x309A)]⟩, ⟨0x30DC, [(0x30DB, 0x3099), (0x30DB, 0x309A)]⟩,
  ⟨0x30F4, [(0x30A6, 0x3099)]⟩,
  ⟨0x30F7, [(0x30EF, 0x3099), (0x30F0, 0x3099), (0x30F1, 0x3099), (0x30F2, 0x3099)]⟩,
  ⟨0x30FE, [(0x30FD, 0x3099)]⟩, ⟨0x105C9, [(0x105D2, 0x0307)]⟩, ⟨0x105E4, [(0x105DA, 0x0307)]⟩,
  ⟨0x1109A, [(0x11099, 0x110BA)]⟩, ⟨0x1109C, [(0x1109B, 0x110BA)]⟩,
  ⟨0x110AB, [(0x110A5, 0x110BA)]⟩, ⟨0x1112E, [(0x11131, 0x11127), (0x11132, 0x11127)]⟩,
  ⟨0x1134B, [(0x11347, 0x1133E), (0x11347, 0x11357)]⟩, ⟨0x11383, [(0x11382, 0x113C9)]⟩,
  ⟨0x11385, [(0x11384, 0x113BB)]⟩, ⟨0x1138E, [(0x1138B, 0x113C2)]⟩,
  ⟨0x11391, [(0x11390, 0x113C9)]⟩, ⟨0x113C5, [(0x113C2, 0x113C2)]⟩,
  ⟨0x113C7, [(0x113C2, 0x113B8), (0x113C2, 0x113C9)]⟩,
  ⟨0x114BB, [(0x114B9, 0x114BA), (0x114B9, 0x114B0)]⟩, ⟨0x114BE, [(0x114B9, 0x114BD)]⟩,
  ⟨0x115BA, [(0x115B8, 0x115AF), (0x115B9, 0x115AF)]⟩, ⟨0x11938, [(0x11935, 0x11930)]⟩,
  ⟨0x16121, [(0x1611E, 0x1611E), (0x1611E, 0x16129), (0x1611E, 0x1611F), (0x16129, 0x1611F),
    (0x1611E, 0x16120), (0x16121, 0x1611F), (0x16122, 0x1611F), (0x16121, 0x16120)]⟩,
  ⟨0x16D68, [(0x16D67, 0x16D67), (0x16D63, 0x16D67), (0x16D69, 0x16D67)]⟩]

end PolicyGate.Text

import PolicyGate.Text.Span

/-!
# Joining letters, as data

Which letters of a cursive script join their neighbours (the Unicode property Joining_Type, Unicode
17). The tables are for the characters that the name of a host may have; spans may reach over
others.
-/

namespace PolicyGate.Text

/-- Letters that join both their neighbours. -/
def joinsBothSpans : List Span := [
  ⟨0x0620, 0x0620, 1⟩, ⟨0x0626, 0x0626, 1⟩, ⟨0x0628, 0x0628, 1⟩, ⟨0x062A, 0x062E, 1⟩,
  ⟨0x0633, 0x063F, 1⟩, ⟨0x0641, 0x0647, 1⟩, ⟨0x0649, 0x064A, 1⟩, ⟨0x066E, 0x066F, 1⟩,
  ⟨0x0679, 0x0687, 1⟩, ⟨0x069A, 0x06BF, 1⟩, ⟨0x06C1, 0x06C2, 1⟩, ⟨0x06CC, 0x06CC, 1⟩,
  ⟨0x06CE, 0x06CE, 1⟩, ⟨0x06D0, 0x06D1, 1⟩, ⟨0x06FA, 0x06FC, 1⟩, ⟨0x06FF, 0x06FF, 1⟩,
  ⟨0x0712, 0x0714, 1⟩, ⟨0x071A, 0x071D, 1⟩, ⟨0x071F, 0x0727, 1⟩, ⟨0x0729, 0x0729, 1⟩,
  ⟨0x072B, 0x072B, 1⟩, ⟨0x072D, 0x072E, 1⟩, ⟨0x074E, 0x0758, 1⟩, ⟨0x075C, 0x076A, 1⟩,
  ⟨0x076D, 0x0770, 1⟩, ⟨0x0772, 0x0772, 1⟩, ⟨0x0775, 0x0777, 1⟩, ⟨0x077A, 0x077F, 1⟩,
  ⟨0x07CA, 0x07EA, 1⟩, ⟨0x0841, 0x0845, 1⟩, ⟨0x0848, 0x0848, 1⟩, ⟨0x084A, 0x0853, 1⟩,
  ⟨0x0855, 0x0855, 1⟩, ⟨0x0860, 0x0860, 1⟩, ⟨0x0862, 0x0865, 1⟩, ⟨0x0868, 0x0868, 1⟩,
  ⟨0x0886, 0x0886, 1⟩, ⟨0x0889, 0x088D, 1⟩, ⟨0x088F, 0x088F, 1⟩, ⟨0x08A0, 0x08A9, 1⟩,
  ⟨0x08AF, 0x08B0, 1⟩, ⟨0x08B3, 0x08B8, 1⟩, ⟨0x08BA, 0x08C8, 1⟩, ⟨0x1807, 0x1807, 1⟩,
  ⟨0x1820, 0x1878, 1⟩, ⟨0x1887, 0x18A8, 1⟩, ⟨0x18AA, 0x18AA, 1⟩, ⟨0xA840, 0xA871, 1⟩,
  ⟨0x10AC0, 0x10AC4, 1⟩, ⟨0x10AD3, 0x10AD6, 1⟩, ⟨0x10AD8, 0x10ADC, 1⟩, ⟨0x10ADE, 0x10AE0, 1⟩,
  ⟨0x10AEB, 0x10AEE, 1⟩, ⟨0x10B80, 0x10B80, 1⟩, ⟨0x10B82, 0x10B82, 1⟩, ⟨0x10B86, 0x10B88, 1⟩,
  ⟨0x10B8A, 0x10B8B, 1⟩, ⟨0x10B8D, 0x10B8D, 1⟩, ⟨0x10B90, 0x10B90, 1⟩, ⟨0x10BAD, 0x10BAE, 1⟩,
  ⟨0x10D01, 0x10D21, 1⟩, ⟨0x10D23, 0x10D23, 1⟩, ⟨0x10EC3, 0x10EC4, 1⟩, ⟨0x10EC6, 0x10EC7, 1⟩,
  ⟨0x10F30, 0x10F32, 1⟩, ⟨0x10F34, 0x10F44, 1⟩, ⟨0x10F51, 0x10F53, 1⟩, ⟨0x10F70, 0x10F73, 1⟩,
  ⟨0x10F76, 0x10F81, 1⟩, ⟨0x10FB0, 0x10FB0, 1⟩, ⟨0x10FB2, 0x10FB3, 1⟩, ⟨0x10FB8, 0x10FB8, 1⟩,
  ⟨0x10FBB, 0x10FBC, 1⟩, ⟨0x10FBE, 0x10FBF, 1⟩, ⟨0x10FC1, 0x10FC1, 1⟩, ⟨0x10FC4, 0x10FC4, 1⟩,
  ⟨0x10FCA, 0x10FCA, 1⟩, ⟨0x1E922, 0x1E943, 1⟩]

/-- Letters that join only the letter before them. -/
def joinsPreviousSpans : List Span := [
  ⟨0x0622, 0x0625, 1⟩, ⟨0x0627, 0x0627, 1⟩, ⟨0x0629, 0x0629, 1⟩, ⟨0x062F, 0x0632, 1⟩,
  ⟨0x0648, 0x0648, 1⟩, ⟨0x0671, 0x0673, 1⟩, ⟨0x0688, 0x0699, 1⟩, ⟨0x06C0, 0x06C0, 1⟩,
  ⟨0x06C3, 0x06CB, 1⟩, ⟨0x06CD, 0x06CD, 1⟩, ⟨0x06CF, 0x06CF, 1⟩, ⟨0x06D2, 0x06D3, 1⟩,
  ⟨0x06D5, 0x06D5, 1⟩, ⟨0x06EE, 0x06EF, 1⟩, ⟨0x0710, 0x0710, 1⟩, ⟨0x0715, 0x0719, 1⟩,
  ⟨0x071E, 0x071E, 1⟩, ⟨0x0728, 0x072C, 2⟩, ⟨0x072F, 0x072F, 1⟩, ⟨0x074D, 0x074D, 1⟩,
  ⟨0x0759, 0x075B, 1⟩, ⟨0x076B, 0x076C, 1⟩, ⟨0x0771, 0x0771, 1⟩, ⟨0x0773, 0x0774, 1⟩,
  ⟨0x0778, 0x0779, 1⟩, ⟨0x0840, 0x0840, 1⟩, ⟨0x0846, 0x0847, 1⟩, ⟨0x0849, 0x0849, 1⟩,
  ⟨0x0854, 0x0854, 1⟩, ⟨0x0856, 0x0858, 1⟩, ⟨0x0867, 0x0867, 1⟩, ⟨0x0869, 0x0882, 1⟩,
  ⟨0x088E, 0x088E, 1⟩, ⟨0x08AA, 0x08AC, 1⟩, ⟨0x08AE, 0x08AE, 1⟩, ⟨0x08B1, 0x08B2, 1⟩,
  ⟨0x08B9, 0x08B9, 1⟩, ⟨0x10AC5, 0x10AC5, 1⟩, ⟨0x10AC7, 0x10AC7, 1⟩, ⟨0x10AC9, 0x10ACA, 1⟩,
  ⟨0x10ACE, 0x10AD2, 1⟩, ⟨0x10ADD, 0x10ADD, 1⟩, ⟨0x10AE1, 0x10AE1, 1⟩, ⟨0x10AE4, 0x10AE4, 1⟩,
  ⟨0x10AEF, 0x10AEF, 1⟩, ⟨0x10B81, 0x10B81, 1⟩, ⟨0x10B83, 0x10B85, 1⟩, ⟨0x10B89, 0x10B89, 1⟩,
  ⟨0x10B8C, 0x10B8C, 1⟩, ⟨0x10B8E, 0x10B8F, 1⟩, ⟨0x10B91, 0x10B91, 1⟩, ⟨0x10BA9, 0x10BAC, 1⟩,
  ⟨0x10D22, 0x10D22, 1⟩, ⟨0x10EC2, 0x10EC2, 1⟩, ⟨0x10F33, 0x10F33, 1⟩, ⟨0x10F54, 0x10F54, 1⟩,
  ⟨0x10F74, 0x10F75, 1⟩, ⟨0x10FB4, 0x10FB6, 1⟩, ⟨0x10FB9, 0x10FBA, 1⟩, ⟨0x10FBD, 0x10FBD, 1⟩,
  ⟨0x10FC2, 0x10FC3, 1⟩, ⟨0x10FC9, 0x10FC9, 1⟩]

/-- Letters that join only the letter after them. -/
def joinsNextSpans : List Span := [
  ⟨0xA872, 0xA872, 1⟩, ⟨0x10ACD, 0x10ACD, 1⟩, ⟨0x10AD7, 0x10AD7, 1⟩, ⟨0x10D00, 0x10D00, 1⟩,
  ⟨0x10FCB, 0x10FCB, 1⟩]

end PolicyGate.Text

import PolicyGate.Proofs.Text.Octets
import PolicyGate.Text.Utf8

/-!
# UTF-8 — octets decoded again

The octets of a text are decoded as the text (`decode?_octets`), and no
other octets are (`decode?_eq_some_iff`). Whatever the octets are,
decoding takes none of them for nothing: the text is empty only if there
are none (`decodeLossy_eq_empty_iff`).
-/

namespace PolicyGate.Text.Utf8

/-! ## One octet -/

theorem toNat_octet {b : Nat} (h : b < 256) : (UInt8.ofNat b).toNat = b :=
  UInt8.toNat_ofNat_of_lt' h

theorem scan_whole {b : UInt8} {c : Char} (h : start b = .whole c) (bs : List UInt8) :
    scan none (b :: bs) = some c :: scan none bs := by
  simp only [scan, h]

theorem scan_lead {b : UInt8} {p : Partial} (h : start b = .lead p) (bs : List UInt8) :
    scan none (b :: bs) = scan (some p) bs := by
  simp only [scan, h]

/-- An octet that is due and not the last. -/
theorem scan_owed {p : Partial} {b : Nat} (hb : b < 256) (hlow : p.low ≤ b) (hhigh : b ≤ p.high)
    (howed : 1 < p.owed) (bs : List UInt8) :
    scan (some p) (UInt8.ofNat b :: bs) =
      scan (some ⟨p.owed - 1, 0x80, 0xBF, p.bits * 64 + (b - 0x80)⟩) bs := by
  rw [scan, toNat_octet hb, if_pos (by simp [hlow, hhigh]), if_neg (by omega)]

/-- The last octet that is due. -/
theorem scan_last {p : Partial} {b : Nat} (hb : b < 256) (hlow : p.low ≤ b) (hhigh : b ≤ p.high)
    (howed : p.owed = 1) (bs : List UInt8) :
    scan (some p) (UInt8.ofNat b :: bs) =
      some (Char.ofNat (p.bits * 64 + (b - 0x80))) :: scan none bs := by
  rw [scan, toNat_octet hb, if_pos (by simp [hlow, hhigh]), if_pos (by omega)]

/-! ## The octets of a character -/

theorem start_one {v : Nat} (h : v ≤ 0x7F) : start (UInt8.ofNat v) = .whole (Char.ofNat v) := by
  simp only [start, toNat_octet (show v < 256 by omega), if_pos h]

theorem start_two {v : Nat} (hlow : 0x80 ≤ v) (hhigh : v ≤ 0x7FF) :
    start (UInt8.ofNat (v / 64 % 32 + 192)) = .lead ⟨1, 0x80, 0xBF, v / 64⟩ := by
  have hnat : (UInt8.ofNat (v / 64 % 32 + 192)).toNat = v / 64 + 192 := by
    rw [toNat_octet (by omega)]
    omega
  simp only [start, hnat]
  rw [if_neg (by omega), if_pos (by simp; omega), Nat.add_sub_cancel]

/-- The second octet is due between bounds that rule out the characters
of two octets and the surrogates. -/
theorem start_three {v : Nat} (hlow : 0x800 ≤ v) (hhigh : v ≤ 0xFFFF)
    (hvalid : v < 0xD800 ∨ 0xDFFF < v) :
    ∃ low high, start (UInt8.ofNat (v / 4096 % 16 + 224)) = .lead ⟨2, low, high, v / 4096⟩ ∧
      low ≤ v / 64 % 64 + 128 ∧ v / 64 % 64 + 128 ≤ high := by
  have hnat : (UInt8.ofNat (v / 4096 % 16 + 224)).toNat = v / 4096 + 224 := by
    rw [toNat_octet (by omega)]
    omega
  simp only [start, hnat]
  rw [if_neg (by omega), if_neg (by simp)]
  by_cases hzero : v / 4096 = 0
  · rw [if_pos (by omega), hzero]
    exact ⟨_, _, rfl, by omega, by omega⟩
  · rw [if_neg (by omega)]
    by_cases hsurrogates : v / 4096 = 13
    · rw [if_pos (by omega), hsurrogates]
      exact ⟨_, _, rfl, by omega, by omega⟩
    · rw [if_neg (by omega), if_pos (by simp; omega), Nat.add_sub_cancel]
      exact ⟨_, _, rfl, by omega, by omega⟩

/-- The second octet is due between bounds that rule out the characters
of three octets and what is beyond all characters. -/
theorem start_four {v : Nat} (hlow : 0x10000 ≤ v) (hhigh : v < 0x110000) :
    ∃ low high, start (UInt8.ofNat (v / 262144 % 8 + 240)) = .lead ⟨3, low, high, v / 262144⟩ ∧
      low ≤ v / 4096 % 64 + 128 ∧ v / 4096 % 64 + 128 ≤ high := by
  have hnat : (UInt8.ofNat (v / 262144 % 8 + 240)).toNat = v / 262144 + 240 := by
    rw [toNat_octet (by omega)]
    omega
  simp only [start, hnat]
  rw [if_neg (by omega), if_neg (by simp), if_neg (by omega), if_neg (by omega),
    if_neg (by simp)]
  by_cases hzero : v / 262144 = 0
  · rw [if_pos (by omega), hzero]
    exact ⟨_, _, rfl, by omega, by omega⟩
  · rw [if_neg (by omega)]
    by_cases hlast : v / 262144 = 4
    · rw [if_neg (by simp; omega), if_pos (by omega), hlast]
      exact ⟨_, _, rfl, by omega, by omega⟩
    · rw [if_pos (by simp; omega), Nat.add_sub_cancel]
      exact ⟨_, _, rfl, by omega, by omega⟩

/-- The octets of a character are read as that character. -/
theorem scan_encodeChar (c : Char) (bs : List UInt8) :
    scan none (String.utf8EncodeChar c ++ bs) = some c :: scan none bs := by
  have hvalid : c.val.toNat < 0xD800 ∨ 0xDFFF < c.val.toNat ∧ c.val.toNat < 0x110000 := c.valid
  have hchar : Char.ofNat c.val.toNat = c := Char.ofNat_toNat c
  simp only [String.utf8EncodeChar]
  generalize c.val.toNat = v at hvalid hchar
  by_cases hone : v ≤ 0x7F
  · rw [if_pos hone, List.singleton_append, scan_whole (start_one hone), hchar]
  by_cases htwo : v ≤ 0x7FF
  · have hbits : v / 64 * 64 + (v % 64 + 128 - 0x80) = v := by omega
    rw [if_neg hone, if_pos htwo, List.cons_append, List.singleton_append,
      scan_lead (start_two (by omega) htwo),
      scan_last (by omega) (by simp) (by simp; omega) rfl, hbits, hchar]
  by_cases hthree : v ≤ 0xFFFF
  · obtain ⟨low, high, hstart, hlow, hhigh⟩ :=
      start_three (by omega) hthree (hvalid.imp_right And.left)
    have hbits : (v / 4096 * 64 + (v / 64 % 64 + 128 - 0x80)) * 64 + (v % 64 + 128 - 0x80) = v := by
      omega
    rw [if_neg hone, if_neg htwo, if_pos hthree, List.cons_append, List.cons_append,
      List.singleton_append, scan_lead hstart, scan_owed (by omega) hlow hhigh (by simp),
      scan_last (by omega) (by simp) (by simp; omega) rfl, hbits, hchar]
  · obtain ⟨low, high, hstart, hlow, hhigh⟩ := start_four (v := v) (by omega) (by omega)
    have hbits : ((v / 262144 * 64 + (v / 4096 % 64 + 128 - 0x80)) * 64 +
        (v / 64 % 64 + 128 - 0x80)) * 64 + (v % 64 + 128 - 0x80) = v := by
      omega
    rw [if_neg hone, if_neg htwo, if_neg hthree, List.cons_append, List.cons_append,
      List.cons_append, List.singleton_append, scan_lead hstart,
      scan_owed (by omega) hlow hhigh (by simp),
      scan_owed (by omega) (by simp) (by simp; omega) (by simp),
      scan_last (by omega) (by simp) (by simp; omega) rfl, hbits, hchar]

/-! ## The octets of a text -/

theorem scan_octets (cs : List Char) :
    scan none (cs.flatMap String.utf8EncodeChar) = cs.map some := by
  induction cs with
  | nil => rfl
  | cons c cs ih => rw [List.flatMap_cons, scan_encodeChar, ih, List.map_cons]

/-- **Octets decoded again**: those of a text are decoded as it. -/
theorem decode?_octets (s : String) : decode? (octets s) = some s := by
  have hall : (s.toList.map some).mapM id = some s.toList := by
    rw [List.mapM_map]
    exact (List.mapM_pure (m := Option)).trans (congrArg some (List.map_id' _))
  rw [decode?, octets, scan_octets, hall, Option.map_some, String.ofList_toList]

/-! ## Malformed octets -/

/-- Every octet is read as part of something. -/
theorem scan_eq_nil {p : Option Partial} {bs : List UInt8} :
    scan p bs = [] ↔ p = none ∧ bs = [] := by
  fun_induction scan p bs <;> simp_all

/-- Decoding comes to the empty text only if there are no octets. -/
theorem decodeLossy_eq_empty_iff {bs : List UInt8} : decodeLossy bs = "" ↔ bs = [] := by
  rw [decodeLossy, ← String.toList_eq_nil_iff, String.toList_ofList, List.map_eq_nil_iff,
    scan_eq_nil]
  simp

/-! ## Only the octets of texts -/

/-- These octets and no fewer complete the character under construction,
which then has the number `v`. -/
inductive Completes : Partial → List UInt8 → Nat → Prop
  | last {p : Partial} {b : UInt8} : p.low ≤ b.toNat → b.toNat ≤ p.high → p.owed ≤ 1 →
      Completes p [b] (p.bits * 64 + (b.toNat - 0x80))
  | more {p : Partial} {b : UInt8} {bs : List UInt8} {v : Nat} :
      p.low ≤ b.toNat → b.toNat ≤ p.high → 1 < p.owed →
      Completes ⟨p.owed - 1, 0x80, 0xBF, p.bits * 64 + (b.toNat - 0x80)⟩ bs v →
      Completes p (b :: bs) v

theorem completes_of_scan {p : Partial} {bs : List UInt8} {cs : List Char}
    (h : scan (some p) bs = cs.map some) :
    ∃ own v rest later, Completes p own v ∧ bs = own ++ rest ∧ cs = Char.ofNat v :: later ∧
      scan none rest = later.map some := by
  induction bs generalizing p with
  | nil => cases cs <;> simp [scan] at h
  | cons b bs ih =>
    by_cases hb : p.low ≤ b.toNat ∧ b.toNat ≤ p.high
    · rw [scan, if_pos (by simp [hb])] at h
      by_cases howed : p.owed ≤ 1
      · rw [if_pos howed] at h
        cases cs with
        | nil => simp at h
        | cons c later =>
          obtain ⟨hc, hlater⟩ := List.cons.inj h
          obtain rfl := Option.some.inj hc
          exact ⟨[b], _, bs, later, .last hb.1 hb.2 howed, rfl, rfl, hlater⟩
      · rw [if_neg howed] at h
        obtain ⟨own, v, rest, later, hown, rfl, hcs, hrest⟩ := ih h
        exact ⟨b :: own, v, rest, later, .more hb.1 hb.2 (by omega) hown, rfl, hcs, hrest⟩
    · -- an octet that is not the one due leaves a malformed place
      rw [scan, if_neg (by simpa using hb)] at h
      cases cs <;> cases hs : start b <;> simp [hs] at h

/-- What the first octet says of those due after it: no number has two
encodings, and none is that of a surrogate or beyond all characters. -/
theorem start_eq_lead {b : UInt8} {p : Partial} (h : start b = .lead p) :
    0x80 ≤ p.low ∧ p.high ≤ 0xBF ∧
    (p.owed = 1 ∧ b.toNat = p.bits + 0xC0 ∧ 2 ≤ p.bits ∧ p.bits < 0x20 ∨
      p.owed = 2 ∧ b.toNat = p.bits + 0xE0 ∧ p.bits < 0x10 ∧
        (p.bits = 0 → 0xA0 ≤ p.low) ∧ (p.bits = 0xD → p.high ≤ 0x9F) ∨
      p.owed = 3 ∧ b.toNat = p.bits + 0xF0 ∧ p.bits ≤ 4 ∧
        (p.bits = 0 → 0x90 ≤ p.low) ∧ (p.bits = 4 → p.high ≤ 0x8F)) := by
  simp only [start, Bool.and_eq_true, decide_eq_true_eq] at h
  repeat' split at h
  any_goals cases h
  all_goals
    dsimp only
    omega

theorem octet_eq {n : Nat} {b : UInt8} (h : n = b.toNat) : UInt8.ofNat n = b := by
  rw [h, UInt8.ofNat_toNat]

theorem val_ofNat_toNat {v : Nat} (h : v.isValidChar) : (Char.ofNat v).val.toNat = v := by
  rw [Char.ofNat, dif_pos h]
  rfl

/-- Octets read as one character are the octets of that character. -/
theorem encodeChar_of_completes {b : UInt8} {p : Partial} {bs : List UInt8} {v : Nat}
    (hstart : start b = .lead p) (h : Completes p bs v) :
    String.utf8EncodeChar (Char.ofNat v) = b :: bs := by
  obtain ⟨hlow, hhigh, ⟨howed, hb, hbits⟩ | ⟨howed, hb, hbits⟩ | ⟨howed, hb, hbits⟩⟩ :=
    start_eq_lead hstart
  · cases h with
    | more _ _ hmore _ => omega
    | @last _ b₁ hlow₁ hhigh₁ _ =>
      have hvalid : (p.bits * 64 + (b₁.toNat - 0x80)).isValidChar := .inl (by omega)
      rw [String.utf8EncodeChar, val_ofNat_toNat hvalid, if_neg (by omega), if_pos (by omega),
        octet_eq (b := b) (by omega), octet_eq (b := b₁) (by omega)]
  · cases h with
    | last _ _ hlast => omega
    | @more _ b₁ _ _ hlow₁ hhigh₁ _ h =>
      cases h with
      | more _ _ hmore _ => dsimp only at hmore; omega
      | @last _ b₂ hlow₂ hhigh₂ _ =>
        dsimp only at hlow₂ hhigh₂ ⊢
        have hvalid : ((p.bits * 64 + (b₁.toNat - 0x80)) * 64 + (b₂.toNat - 0x80)).isValidChar := by
          unfold Nat.isValidChar
          omega
        rw [String.utf8EncodeChar, val_ofNat_toNat hvalid, if_neg (by omega), if_neg (by omega),
          if_pos (by omega), octet_eq (b := b) (by omega), octet_eq (b := b₁) (by omega),
          octet_eq (b := b₂) (by omega)]
  · cases h with
    | last _ _ hlast => omega
    | @more _ b₁ _ _ hlow₁ hhigh₁ _ h =>
      cases h with
      | last _ _ hlast => dsimp only at hlast; omega
      | @more _ b₂ _ _ hlow₂ hhigh₂ _ h =>
        cases h with
        | more _ _ hmore _ => dsimp only at hmore; omega
        | @last _ b₃ hlow₃ hhigh₃ _ =>
          dsimp only at hlow₂ hhigh₂ hlow₃ hhigh₃ ⊢
          have hvalid : (((p.bits * 64 + (b₁.toNat - 0x80)) * 64 + (b₂.toNat - 0x80)) * 64 +
              (b₃.toNat - 0x80)).isValidChar := by
            unfold Nat.isValidChar
            omega
          rw [String.utf8EncodeChar, val_ofNat_toNat hvalid, if_neg (by omega),
            if_neg (by omega), if_neg (by omega), octet_eq (b := b) (by omega),
            octet_eq (b := b₁) (by omega), octet_eq (b := b₂) (by omega),
            octet_eq (b := b₃) (by omega)]

theorem encodeChar_of_whole {b : UInt8} {c : Char} (h : start b = .whole c) :
    String.utf8EncodeChar c = [b] := by
  simp only [start] at h
  split at h
  · rename_i hb
    obtain rfl := Start.whole.inj h
    rw [String.utf8EncodeChar, val_ofNat_toNat (.inl (by omega)), if_pos hb, octet_eq rfl]
  · repeat' split at h
    all_goals cases h

/-- Octets without a malformed place are those of the characters read. -/
theorem eq_octets_of_scan {bs : List UInt8} {cs : List Char} (h : scan none bs = cs.map some) :
    bs = cs.flatMap String.utf8EncodeChar := by
  induction cs generalizing bs with
  | nil => exact (scan_eq_nil.mp h).2
  | cons c cs ih =>
    cases bs with
    | nil => simp [scan] at h
    | cons b bs =>
      cases hb : start b with
      | whole d =>
        rw [scan_whole hb, List.map_cons] at h
        obtain ⟨hd, hrest⟩ := List.cons.inj h
        obtain rfl := Option.some.inj hd
        rw [ih hrest, List.flatMap_cons, encodeChar_of_whole hb, List.singleton_append]
      | lead p =>
        rw [scan_lead hb] at h
        obtain ⟨own, v, rest, later, hown, rfl, hcs, hrest⟩ := completes_of_scan h
        obtain ⟨rfl, rfl⟩ := List.cons.inj hcs
        rw [ih hrest, List.flatMap_cons, encodeChar_of_completes hb hown, List.cons_append]
      | malformed => simp [scan, hb] at h

theorem eq_map_some_of_mapM {os : List (Option Char)} {cs : List Char}
    (h : os.mapM id = some cs) : os = cs.map some := by
  induction os generalizing cs with
  | nil =>
    obtain rfl : [] = cs := by simpa using h
    rfl
  | cons o os ih =>
    rw [List.mapM_cons, Option.bind_eq_bind, Option.bind_eq_some_iff] at h
    obtain ⟨c, hc, h⟩ := h
    obtain rfl : o = some c := hc
    rw [Option.bind_eq_bind, Option.bind_eq_some_iff] at h
    obtain ⟨later, hlater, h⟩ := h
    obtain rfl : c :: later = cs := Option.some.inj h
    rw [ih hlater, List.map_cons]

/-- **Octets of texts**: octets are decoded as a text exactly if they are
the octets of that text. -/
theorem decode?_eq_some_iff {bs : List UInt8} {s : String} :
    decode? bs = some s ↔ bs = octets s := by
  constructor
  · intro h
    obtain ⟨cs, hcs, rfl⟩ := Option.map_eq_some_iff.mp h
    rw [octets, String.toList_ofList]
    exact eq_octets_of_scan (eq_map_some_of_mapM hcs)
  · rintro rfl
    exact decode?_octets s

/-- Octets that cannot be decoded are those of no text. -/
theorem decode?_eq_none_iff {bs : List UInt8} : decode? bs = none ↔ ∀ s, bs ≠ octets s := by
  rw [Option.eq_none_iff_forall_ne_some]
  simp only [ne_eq, decode?_eq_some_iff]

end PolicyGate.Text.Utf8

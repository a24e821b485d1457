import PolicyGate.Json.Basic
import PolicyGate.Text.Utf8

/-!
# Octets — the order of keys

Keys are compared character by character. UTF-8 keeps that order: of two
characters the lesser has the lesser encoding, whatever follows either
(`encodeChar_append_lt`), so that sorting by characters is sorting by
octets.
-/

namespace PolicyGate.Text

/-- These are the octets that the text consists of. -/
theorem octets_toByteArray (s : String) : (octets s).toByteArray = s.toUTF8 :=
  String.utf8Encode_toList

/-- Lists of octets compare at the first place where they differ. -/
theorem octet_cons_lt {a b : Nat} {xs ys : List UInt8} (hb : b < 256)
    (h : a < b ∨ a = b ∧ xs < ys) : UInt8.ofNat a :: xs < UInt8.ofNat b :: ys := by
  rcases h with h | ⟨rfl, h⟩
  · refine List.Lex.rel ?_
    rw [UInt8.lt_iff_toNat_lt, UInt8.toNat_ofNat', UInt8.toNat_ofNat']
    omega
  · exact List.Lex.cons h

theorem encodeChar_append_lt {c d : Char} (h : c < d) (xs ys : List UInt8) :
    String.utf8EncodeChar c ++ xs < String.utf8EncodeChar d ++ ys := by
  have hlt : c.val.toNat < d.val.toNat := h
  have hd : d.val.toNat < 0x110000 := by
    have := d.valid
    simp only [UInt32.isValidChar, Nat.isValidChar] at this
    omega
  simp only [String.utf8EncodeChar]
  generalize c.val.toNat = v at hlt
  generalize d.val.toNat = w at hlt hd
  -- the first octet grows with the number of octets, so only equal numbers need a closer look
  split
  · split
    · exact octet_cons_lt (by omega) (.inl hlt)
    · split
      · exact octet_cons_lt (by omega) (.inl (by omega))
      · split <;> exact octet_cons_lt (by omega) (.inl (by omega))
  · split
    · rw [if_neg (by omega)]
      split
      · refine octet_cons_lt (by omega) ?_
        rcases Nat.lt_or_ge (v / 64) (w / 64) with h₁ | h₁
        · exact .inl (by omega)
        · exact .inr ⟨by omega, octet_cons_lt (by omega) (.inl (by omega))⟩
      · split <;> exact octet_cons_lt (by omega) (.inl (by omega))
    · split
      · rw [if_neg (by omega), if_neg (by omega)]
        split
        · refine octet_cons_lt (by omega) ?_
          rcases Nat.lt_or_ge (v / 4096) (w / 4096) with h₁ | h₁
          · exact .inl (by omega)
          · refine .inr ⟨by omega, octet_cons_lt (by omega) ?_⟩
            rcases Nat.lt_or_ge (v / 64) (w / 64) with h₂ | h₂
            · exact .inl (by omega)
            · exact .inr ⟨by omega, octet_cons_lt (by omega) (.inl (by omega))⟩
        · exact octet_cons_lt (by omega) (.inl (by omega))
      · rw [if_neg (by omega), if_neg (by omega), if_neg (by omega)]
        refine octet_cons_lt (by omega) ?_
        rcases Nat.lt_or_ge (v / 262144) (w / 262144) with h₁ | h₁
        · exact .inl (by omega)
        · refine .inr ⟨by omega, octet_cons_lt (by omega) ?_⟩
          rcases Nat.lt_or_ge (v / 4096) (w / 4096) with h₂ | h₂
          · exact .inl (by omega)
          · refine .inr ⟨by omega, octet_cons_lt (by omega) ?_⟩
            rcases Nat.lt_or_ge (v / 64) (w / 64) with h₃ | h₃
            · exact .inl (by omega)
            · exact .inr ⟨by omega, octet_cons_lt (by omega) (.inl (by omega))⟩

theorem append_lt_append_left (xs : List UInt8) {ys zs : List UInt8} (h : ys < zs) :
    xs ++ ys < xs ++ zs := by
  induction xs with
  | nil => exact h
  | cons x xs ih => exact List.Lex.cons ih

/-- A lesser text has lesser octets. -/
theorem octets_lt {s t : String} (h : s < t) : octets s < octets t := by
  have hl : ∀ cs ds : List Char, cs < ds →
      cs.flatMap String.utf8EncodeChar < ds.flatMap String.utf8EncodeChar := by
    intro cs ds hlt
    induction hlt with
    | @nil d ds =>
      rw [List.flatMap_cons]
      cases he : String.utf8EncodeChar d with
      | nil => exact absurd he String.utf8EncodeChar_ne_nil
      | cons b bs => exact List.Lex.nil
    | cons _ ih => exact append_lt_append_left _ ih
    | rel h => exact encodeChar_append_lt h _ _
  exact hl _ _ h

end PolicyGate.Text

import Mathlib.Data.List.DropRight
import PolicyGate.Endpoint

/-!
# Endpoints — what joining leaves of an address

Trimming the slashes off the end of an address never cuts into anything
else, but it does not stop at the two slashes of the scheme. An address
of nothing but a scheme loses them, and joined with a path it is no
longer one that can be reached over HTTP (`isWeb_join_iff`).
-/

namespace PolicyGate.Endpoint

/-! ## Trimming -/

theorem trimStart_ne_cons (cs ds : List Char) : trimStart cs ≠ '/' :: ds := by
  intro h
  have hhead := List.head?_dropWhile_not (· == '/') cs
  rw [← trimStart, h] at hhead
  simp at hhead

theorem trimEnd_eq_rdropWhile (cs : List Char) : trimEnd cs = cs.rdropWhile (· == '/') := rfl

theorem trimEnd_eq_nil_iff {cs : List Char} : trimEnd cs = [] ↔ ∀ c ∈ cs, c = '/' := by
  simp only [trimEnd_eq_rdropWhile, List.rdropWhile_eq_nil_iff, beq_iff_eq]

theorem trimEnd_ne_nil_iff {cs : List Char} : trimEnd cs ≠ [] ↔ ∃ c ∈ cs, c ≠ '/' := by
  simp [trimEnd_eq_nil_iff]

/-- Trimming reaches the first part only through a second part of
slashes. -/
theorem trimEnd_append (cs ds : List Char) :
    trimEnd (cs ++ ds) = if trimEnd ds = [] then trimEnd cs else cs ++ trimEnd ds := by
  simp only [trimEnd, trimStart, List.reverse_append, List.dropWhile_append,
    List.reverse_eq_nil_iff, List.isEmpty_iff]
  by_cases h : ds.reverse.dropWhile (· == '/') = []
  · rw [if_pos h, if_pos h]
  · rw [if_neg h, if_neg h, List.reverse_append, List.reverse_reverse]

theorem toList_join (base path : String) :
    (join base path).toList = trimEnd base.toList ++ '/' :: trimStart path.toList := by
  rw [join, String.toList_ofList, joinChars]

/-! ## Addresses that can be reached over HTTP -/

theorem isWeb_iff {url : String} :
    isWeb url = true ↔ ∃ scheme ∈ webSchemes, ∃ rest, url.toList = scheme.toList ++ rest := by
  simp only [isWeb, List.any_eq_true, List.isPrefixOf_iff_prefix, List.IsPrefix,
    eq_comm (a := url.toList)]

theorem isWeb_iff_http_or_https {url : String} :
    isWeb url = true ↔
      (∃ rest, url.toList = "http://".toList ++ rest) ∨
        ∃ rest, url.toList = "https://".toList ++ rest := by
  simp only [isWeb_iff, webSchemes, List.mem_cons, List.not_mem_nil, or_false, exists_eq_or_imp,
    exists_eq_left]

section Join

variable {base path : String}

/-- What starts with another character stays out of reach. -/
theorem not_isWeb_join_of_head {c : Char} {cs : List Char} (hbase : base.toList = c :: cs)
    (hc : c ≠ 'h') (hslash : ∃ d ∈ cs, d ≠ '/') : isWeb (join base path) = false := by
  have hcs : trimEnd cs ≠ [] := trimEnd_ne_nil_iff.mpr hslash
  have hjoin : (join base path).toList = c :: (trimEnd cs ++ '/' :: trimStart path.toList) := by
    rw [toList_join, hbase, ← List.singleton_append, trimEnd_append, if_neg hcs]
    rfl
  rw [← Bool.not_eq_true, isWeb_iff_http_or_https, hjoin]
  rintro (⟨rest, he⟩ | ⟨rest, he⟩)
  · exact hc (List.cons.inj he).1
  · exact hc (List.cons.inj he).1

/-- Behind a scheme anything but slashes keeps the scheme whole. -/
theorem isWeb_join_of_rest {scheme : String} {rest : List Char} (hs : scheme ∈ webSchemes)
    (hbase : base.toList = scheme.toList ++ rest) (hrest : ∃ c ∈ rest, c ≠ '/') :
    isWeb (join base path) = true := by
  have hne : trimEnd rest ≠ [] := trimEnd_ne_nil_iff.mpr hrest
  refine isWeb_iff.mpr ⟨scheme, hs, trimEnd rest ++ '/' :: trimStart path.toList, ?_⟩
  rw [toList_join, hbase, trimEnd_append, if_neg hne, List.append_assoc]

/-- Behind a scheme nothing but slashes leaves one slash of it. -/
theorem not_isWeb_join_of_slashes {scheme : String} {rest : List Char} (hs : scheme ∈ webSchemes)
    (hbase : base.toList = scheme.toList ++ rest) (hrest : ∀ c ∈ rest, c = '/') :
    isWeb (join base path) = false := by
  have hjoin : (join base path).toList =
      trimEnd scheme.toList ++ '/' :: trimStart path.toList := by
    rw [toList_join, hbase, trimEnd_append, if_pos (trimEnd_eq_nil_iff.mpr hrest)]
  rw [← Bool.not_eq_true, isWeb_iff_http_or_https, hjoin]
  simp only [webSchemes, List.mem_cons, List.not_mem_nil, or_false] at hs
  rcases hs with rfl | rfl
  · have htrim : trimEnd "http://".toList = ['h', 't', 't', 'p', ':'] := by decide
    rw [htrim]
    rintro (⟨rest, he⟩ | ⟨rest, he⟩)
    · exact trimStart_ne_cons path.toList rest (by simpa using he)
    · simp at he
  · have htrim : trimEnd "https://".toList = ['h', 't', 't', 'p', 's', ':'] := by decide
    rw [htrim]
    rintro (⟨rest, he⟩ | ⟨rest, he⟩)
    · simp at he
    · exact trimStart_ne_cons path.toList rest (by simpa using he)

/-- **Joining and the scheme**: an address that has a scheme after some
other characters is reached over HTTP exactly if there are none of these
and something but slashes follows. -/
theorem isWeb_join_iff {scheme : String} {before rest : List Char} (hs : scheme ∈ webSchemes)
    (hbefore : ∀ c ∈ before, c ≠ 'h')
    (hbase : base.toList = before ++ scheme.toList ++ rest) :
    isWeb (join base path) = true ↔ before = [] ∧ ∃ c ∈ rest, c ≠ '/' := by
  cases before with
  | nil =>
    by_cases hrest : ∃ c ∈ rest, c ≠ '/'
    · exact iff_of_true (isWeb_join_of_rest hs hbase hrest) ⟨rfl, hrest⟩
    · have hslashes : ∀ c ∈ rest, c = '/' := by
        intro c hc
        by_contra hne
        exact hrest ⟨c, hc, hne⟩
      rw [not_isWeb_join_of_slashes hs hbase hslashes]
      simp [hrest]
  | cons c cs =>
    -- a scheme has a colon, which is no slash
    have hcolon : ':' ∈ scheme.toList := by
      simp only [webSchemes, List.mem_cons, List.not_mem_nil, or_false] at hs
      rcases hs with rfl | rfl
      all_goals decide
    have hslash : ∃ d ∈ cs ++ scheme.toList ++ rest, d ≠ '/' :=
      ⟨':', List.mem_append_left _ (List.mem_append_right _ hcolon), by decide⟩
    rw [not_isWeb_join_of_head hbase (hbefore c List.mem_cons_self) hslash]
    simp

end Join

end PolicyGate.Endpoint

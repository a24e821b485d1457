import PolicyGate.Proofs.Endpoint
import PolicyGate.Settings

/-!
# Settings — what validation promises

Validation looks at the address without the blanks around it, and the
gate uses the address with them. Where the two come apart is stated
exactly: a validated address is posted to over HTTP if it has no blanks
in front and more than slashes behind its scheme.
-/

namespace PolicyGate

namespace Text

/-- Blanks and nothing else are stripped. -/
theorem toList_eq_strip (s : String) :
    ∃ before after, s.toList = before ++ (strip s).toList ++ after ∧
      (∀ c ∈ before, isBlank c = true) ∧ ∀ c ∈ after, isBlank c = true := by
  have hback : (s.toList.dropWhile isBlank).rdropWhile isBlank ++
      (s.toList.dropWhile isBlank).rtakeWhile isBlank = s.toList.dropWhile isBlank :=
    List.rdropWhile_append_rtakeWhile ..
  have hstrip : (strip s).toList = (s.toList.dropWhile isBlank).rdropWhile isBlank := by
    rw [strip, String.toList_ofList]
    rfl
  refine ⟨s.toList.takeWhile isBlank, (s.toList.dropWhile isBlank).rtakeWhile isBlank, ?_, ?_, ?_⟩
  · rw [hstrip, List.append_assoc, hback, List.takeWhile_append_dropWhile]
  · intro c hc
    exact List.mem_takeWhile_imp hc
  · intro c hc
    exact List.mem_rtakeWhile_imp hc

end Text

namespace Settings

/-- Validation asks something of settings that are on, and only of
them. -/
theorem validate_eq_ok_iff {s : Settings} :
    s.validate = .ok () ↔ (s.enabled = true →
      Endpoint.isWeb (Text.strip s.url) = true ∧
        (s.proxy = true ∨ Text.strip s.resultKey ≠ "")) := by
  have hempty : Endpoint.isWeb "" = false := by decide
  unfold validate
  cases s.enabled with
  | false => simp
  | true =>
    by_cases hurl : Text.strip s.url = ""
    · simp [hurl, hempty]
    · cases hweb : Endpoint.isWeb (Text.strip s.url) with
      | false => simp [hurl, hweb]
      | true =>
        by_cases hkey : Text.strip s.resultKey = ""
        · cases s.proxy <;> simp [hurl, hweb, hkey]
        · cases s.proxy <;> simp [hurl, hweb, hkey]

/-- **What a validated address is joined to**: behind blanks there is a
scheme, and with any path the whole is reached over HTTP exactly if
there are no such blanks and something but slashes follows the
scheme. -/
theorem isWeb_join_of_validate {s : Settings} (hon : s.enabled = true)
    (hok : s.validate = .ok ()) :
    ∃ blanks scheme rest, s.url.toList = blanks ++ scheme.toList ++ rest ∧
      (∀ c ∈ blanks, Text.isBlank c = true) ∧ scheme ∈ Endpoint.webSchemes ∧
      ∀ path, Endpoint.isWeb (Endpoint.join s.url path) = true ↔
        blanks = [] ∧ ∃ c ∈ rest, c ≠ '/' := by
  obtain ⟨hweb, -⟩ := validate_eq_ok_iff.mp hok hon
  obtain ⟨scheme, hs, rest, hrest⟩ := Endpoint.isWeb_iff.mp hweb
  obtain ⟨before, after, hurl, hbefore, -⟩ := Text.toList_eq_strip s.url
  rw [hrest, ← List.append_assoc, List.append_assoc] at hurl
  refine ⟨before, scheme, rest ++ after, hurl, hbefore, hs, ?_⟩
  intro path
  refine Endpoint.isWeb_join_iff hs ?_ hurl
  rintro c hc rfl
  have hblank : Text.isBlank 'h' = false := by decide
  rw [hbefore _ hc] at hblank
  cases hblank

/-- An address with a no-break space in front. -/
def blankInFront : Settings :=
  { default with
    enabled := true, url := "\u00a0http://127.0.0.1:8181", policyLocation := "/v1/data" }

/-- Its settings are valid, and what is posted to is no address that can
be reached over HTTP. -/
theorem validated_not_isWeb :
    ¬∀ s : Settings, s.enabled = true → s.validate = .ok () →
      ∀ path, Endpoint.isWeb (Endpoint.join s.url path) = true := by
  intro h
  have hnot : Endpoint.isWeb (Endpoint.join blankInFront.url "/v1/data") = false := by
    decide +kernel
  rw [h blankInFront rfl (by decide +kernel)] at hnot
  cases hnot

theorem isWeb_join_blankInFront :
    ∃ blanks scheme rest, blankInFront.url.toList = blanks ++ scheme.toList ++ rest ∧
      (∀ c ∈ blanks, Text.isBlank c = true) ∧ scheme ∈ Endpoint.webSchemes ∧
      ∀ path, Endpoint.isWeb (Endpoint.join blankInFront.url path) = true ↔
        blanks = [] ∧ ∃ c ∈ rest, c ≠ '/' :=
  isWeb_join_of_validate rfl (by decide +kernel)

end Settings

end PolicyGate

import PolicyGate.Proofs.Pipeline.Encoding

/-!
# Pipelines — the keys that are written back

A name or a list of stages that is null is written as null and one that
is left out is left out, and every other member is written as it came.
The application has no such distinction: a null one is read as none and
is not written. The document written is the document read if and only if
this does not arise (`decoded_written_back`).
-/

namespace PolicyGate.Pipeline

variable {ms : List Member} {key : String} {v : Json}

/-- What is written, whatever the spelling of the values. -/
theorem mem_canonicalMembers_ofMembers (h : Admissible ms) (hd : (Members.keys ms).Nodup) :
    (key, v) ∈ Json.canonicalMembers (ofMembers ms).members ↔
      (key, v) ∈ Json.canonicalMembers ms ∧ (key = "application" → v ≠ .null) := by
  simp only [Json.mem_canonicalMembers, mem_members_of_nodup h hd]
  constructor
  · rintro ⟨w, ⟨hw, hnull⟩, rfl⟩
    exact ⟨⟨w, hw, rfl⟩, fun hk he => hnull hk (Json.canonical_eq_null.mp he)⟩
  · rintro ⟨⟨w, hw, rfl⟩, hnull⟩
    exact ⟨w, ⟨hw, fun hk he => hnull hk (Json.canonical_eq_null.mpr he)⟩, rfl⟩

/-- An object comes back unless its application is null, for then a key
is missing from what is written. -/
theorem canonical_toJson_iff (h : Admissible ms) (hd : (Members.keys ms).Nodup) :
    (ofMembers ms).toJson.canonical = (Json.object ms).canonical ↔
      ("application", Json.null) ∉ ms := by
  constructor
  · intro hsame hmem
    have hfind := (Json.canonical_object_eq_iff (ofMembers_wellKept ms).nodup hd).mp hsame
      "application"
    rw [(Members.find?_eq_some hd).mpr hmem] at hfind
    obtain ⟨w, hw, hnull⟩ := Option.map_eq_some_iff.mp hfind
    have hwritten := ((mem_members_of_nodup h hd).mp (Members.mem_of_find? hw)).2 rfl
    exact hwritten (Json.canonical_eq_null.mp hnull)
  · intro hmem
    refine canonical_toJson h hd fun hnull => hmem ?_
    exact (Members.find?_eq_some hd).mp hnull

/-- **The keys that are written back**: of a document that decodes,
without repeated keys, every member is written and no other, those
holding null included, except an application that is null; so the
document written is the document read just if the application is not
null. -/
theorem decoded_written_back {document : Json} {p : Pipeline} (h : DecodedFrom document p)
    (hd : document.KeysDistinct) :
    ∃ ms, document = .object ms ∧ p.toJson.KeysDistinct ∧
      (∀ key v, (key, v) ∈ Json.canonicalMembers p.members ↔
        (key, v) ∈ Json.canonicalMembers ms ∧ (key = "application" → v ≠ .null)) ∧
      (p.toJson.canonical = document.canonical ↔ ("application", Json.null) ∉ ms) := by
  obtain ⟨ms, ns, rfl, hns, hadm, hkeys, hvalues, rfl⟩ := h.distinct_members hd
  refine ⟨ms, rfl, keysDistinct_toJson hadm hvalues, ?_, ?_⟩
  · intro key v
    rw [mem_canonicalMembers_ofMembers hadm hkeys, hns]
  · have hcanonical : (Json.object ns).canonical = (Json.object ms).canonical := by
      rw [Json.canonical, hns, ← Json.canonical]
    rw [← hcanonical, canonical_toJson_iff hadm hkeys, ← Json.mem_null_canonicalMembers, hns,
      Json.mem_null_canonicalMembers]

/-! ## Null under each of the typed keys -/

/-- A document whose name and stages are null, with further members. -/
def draftMembers : List Member :=
  [("stages", .null), ("name", .null), ("application", .string "shop"),
    ("triggers", .array [.null, .object [("on", .bool true)]])]

theorem draft_written_back :
    (ofMembers draftMembers).toJson.canonical = (Json.object draftMembers).canonical := by
  have hdecoded : DecodedFrom (.object draftMembers) (ofMembers draftMembers) :=
    .inl (decode_object_eq_ok.mpr ⟨⟨by decide, by simp [draftMembers], by simp [draftMembers],
      by simp [draftMembers]⟩, rfl⟩)
  have hdistinct : (Json.object draftMembers).KeysDistinct := by
    simp [draftMembers, Json.KeysDistinct, Json.KeysDistinctMembers, Json.KeysDistinctItems]
  obtain ⟨ms, hms, -, -, hsame⟩ := decoded_written_back hdecoded hdistinct
  obtain rfl := Json.object.inj hms
  exact hsame.mpr (by simp [draftMembers])

/-- A null application does not come back. -/
theorem null_application_not_written_back :
    ¬∀ (document : Json) (p : Pipeline), DecodedFrom document p → document.KeysDistinct →
      p.toJson.canonical = document.canonical := by
  intro h
  have hdecoded : DecodedFrom (.object [("application", .null)]) empty :=
    .inl (decode_object_eq_ok.mpr ⟨⟨by decide, by simp, by simp, by simp⟩, rfl⟩)
  have hdistinct : (Json.object [("application", .null)]).KeysDistinct := by
    simp [Json.KeysDistinct, Json.KeysDistinctMembers]
  cases h _ _ hdecoded hdistinct

end PolicyGate.Pipeline

import PolicyGate.Proofs.Gate.Course
import PolicyGate.Proofs.Pipeline.Encoding
import PolicyGate.Proofs.Store

/-!
# The gate — the service judges whole documents

What is sent holds the submitted document and, if there is one, a stored
document as they were decoded: nothing is dropped, added or given twice
on the way through the typed pipeline, the store and the request.
Documents are compared by their canonical forms, that is without regard
to the order of members (`Json.canonical_object_eq_iff`).
-/

namespace PolicyGate

namespace Request

theorem keysDistinct_alone {new : Json} (h : new.KeysDistinct) :
    (Json.object [("input", .object [("new", new)])]).KeysDistinct := by
  simpa [Json.keysDistinct_object] using h

theorem keysDistinct_pair {new current : Json} (h : new.KeysDistinct)
    (hc : current.KeysDistinct) :
    (Json.object [("input", .object [("new", new), ("current", current)])]).KeysDistinct := by
  simpa [Json.keysDistinct_object] using ⟨h, hc⟩

end Request

namespace Gate

variable {σ : Type}

/-- **The service judges the whole document**: whatever is sent for a
pipeline decoded from `document`, by a gate over a store of pipelines
decoded from `documents`, holds that document and at most one of those,
and repeats no key. -/
theorem sent_whole_document {settings : Settings} {client : Client σ} {state : σ}
    {document : Json} {documents : List Json} {p : Pipeline} {stored : List Pipeline}
    (hdistinct : ∀ j ∈ document :: documents, j.KeysDistinct)
    (hp : p.DecodedFrom document)
    (hstored : ∀ q ∈ stored, ∃ j ∈ documents, Pipeline.DecodedFrom j q) :
    ∀ d ∈ ((Gate.mk settings client (Store.lookup ⟨stored⟩)).evaluate p state).trace.sent,
      ∃ body new : Json, d.body = body.compact ∧ body.KeysDistinct ∧
        new.canonical = document.canonical ∧
        (body = .object [("input", .object [("new", new)])] ∨
          ∃ current : Json, ∃ j ∈ documents, current.canonical = j.canonical ∧
            body = .object [("input", .object [("new", new), ("current", current)])]) := by
  intro d hd
  rcases (evaluate_course _ p state).sent_eq with ⟨-, request, hbuilt, hsent⟩ | ⟨-, hsent⟩
  · rw [hsent, List.mem_singleton] at hd
    obtain ⟨hnew, application, happ, hcurrent⟩ := Request.of_build_eq_ok hbuilt
    obtain ⟨new, current⟩ := request
    obtain rfl : new = p := hnew
    obtain ⟨hsame, hkeys⟩ :=
      hp.same_document (hdistinct _ List.mem_cons_self) (Option.isSome_of_mem happ)
    cases current with
    | none =>
      exact ⟨_, new.toJson, congrArg Dispatch.body hd, Request.keysDistinct_alone hkeys, hsame,
        .inl rfl⟩
    | some q =>
      obtain ⟨found, hfound, hq⟩ := hcurrent q rfl
      obtain ⟨hstore, happ'⟩ := Store.mem_lookup hfound hq
      obtain ⟨j, hj, hdecoded⟩ := hstored q hstore
      have hj' := hdistinct j (List.mem_cons_of_mem _ hj)
      obtain ⟨hsame', hkeys'⟩ := hdecoded.same_document hj' (Option.isSome_of_mem happ')
      exact ⟨_, new.toJson, congrArg Dispatch.body hd, Request.keysDistinct_pair hkeys hkeys',
        hsame, .inr ⟨q.toJson, j, hj, hsame', rfl⟩⟩
  · rw [hsent] at hd
    cases hd

/-! ## A save that is compared with a stored pipeline -/

/-- A document with a null member, submitted for a save. -/
def submittedMembers : List Member :=
  [("zone", .null), ("name", .string "Web"), ("application", .string "shop")]

/-- The document stored under its name, written in another case. -/
def savedMembers : List Member :=
  [("application", .string "shop"), ("name", .string "web"), ("stages", .null)]

/-- A gate that compares, over a store with that document. -/
def comparingGate : Gate Script :=
  ⟨{ Settings.default with enabled := true, deltaVerification := true }, Client.scripted,
    Store.lookup ⟨[.ofMembers savedMembers]⟩⟩

theorem built_comparingGate :
    (comparingGate.built (.ofMembers submittedMembers)).result =
      .ok ⟨.ofMembers submittedMembers, some (.ofMembers savedMembers)⟩ := by
  have happ : (Pipeline.ofMembers submittedMembers).application = some "shop" := rfl
  have hwants : Request.WantsStored (.ofMembers submittedMembers) true := ⟨rfl, nofun⟩
  have hfound : comparingGate.lookup ⟨"shop", true⟩ =
      .ok ([] ++ .ofMembers savedMembers :: []) := rfl
  have hnamed : (Pipeline.ofMembers savedMembers).isNamed
      (Pipeline.ofMembers submittedMembers).nameOrEmpty = true := by decide +kernel
  exact congrArg Request.Built.result
    (Request.builds_iff.mp (.paired happ hwants hfound nofun hnamed))

theorem decodedFrom_submittedMembers :
    Pipeline.DecodedFrom (.object submittedMembers) (.ofMembers submittedMembers) :=
  .inl (Pipeline.decode_object_eq_ok.mpr
    ⟨⟨by decide, by simp [submittedMembers], by simp [submittedMembers],
      by simp [submittedMembers]⟩, rfl⟩)

theorem decodedFrom_savedMembers :
    Pipeline.DecodedFrom (.object savedMembers) (.ofMembers savedMembers) :=
  .inl (Pipeline.decode_object_eq_ok.mpr
    ⟨⟨by decide, by simp [savedMembers], by simp [savedMembers], by simp [savedMembers]⟩, rfl⟩)

theorem sent_comparingGate :
    ∃ d, (comparingGate.evaluate (.ofMembers submittedMembers) []).trace.sent = [d] ∧
      ∃ body new : Json, d.body = body.compact ∧ body.KeysDistinct ∧
        new.canonical = (Json.object submittedMembers).canonical ∧
        (body = .object [("input", .object [("new", new)])] ∨
          ∃ current : Json, ∃ j ∈ [Json.object savedMembers], current.canonical = j.canonical ∧
            body = .object [("input", .object [("new", new), ("current", current)])]) := by
  have hsent : (comparingGate.evaluate (.ofMembers submittedMembers) []).trace.sent = [_] :=
    sent_evaluate rfl built_comparingGate
  refine ⟨_, hsent, sent_whole_document ?_ decodedFrom_submittedMembers ?_ _
    (hsent ▸ List.mem_cons_self)⟩
  · simp [submittedMembers, savedMembers, Json.KeysDistinct, Json.KeysDistinctMembers]
  · simpa using decodedFrom_savedMembers

end Gate

end PolicyGate

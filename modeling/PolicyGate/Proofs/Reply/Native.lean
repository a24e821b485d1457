import PolicyGate.Proofs.Json.RoundTrip
import PolicyGate.Proofs.Reply

/-!
# Replies — what a native body says

In native mode the body alone is judged, by the first check that it
fails or by the first reason that it lists. `Judges` says for every text
what that comes to, on the document as it is written, with its keys in
any order and given more than once; the decision and its wording follow
it and nothing else (`native_judges`).
-/

namespace PolicyGate

/-! ## Fields of a document in canonical form -/

namespace Json

variable {key : String} {v : Json} {ms rs : List Member} {items : List Json}

/-- The members in the order of the canonical form. -/
def canonicalOrder (ms : List Member) : List Member := Members.sort (canonicalMembers ms)

theorem objectField_absent (h : key ∉ Members.keys ms) :
    objectField (canonicalOrder ms) key = .error .absent := by
  rw [objectField, canonicalOrder, find?_canonical, Members.find?_reverse_eq_none.mpr h]
  rfl

theorem objectField_other (h : Members.Last key v ms) (hv : ∀ rs, v ≠ .object rs) :
    objectField (canonicalOrder ms) key = .error (.wrongShape .object) := by
  rw [objectField, canonicalOrder, find?_canonical, Members.find?_reverse_eq_some.mpr h]
  cases v with
  | object rs => exact absurd rfl (hv rs)
  | _ => rfl

theorem objectField_last (h : Members.Last key (.object rs) ms) :
    objectField (canonicalOrder ms) key = .ok (canonicalOrder rs) := by
  rw [objectField, canonicalOrder, find?_canonical, Members.find?_reverse_eq_some.mpr h]
  rfl

theorem arrayField_absent (h : key ∉ Members.keys ms) :
    arrayField (canonicalOrder ms) key = .error .absent := by
  rw [arrayField, canonicalOrder, find?_canonical, Members.find?_reverse_eq_none.mpr h]
  rfl

theorem arrayField_other (h : Members.Last key v ms) (hv : ∀ items, v ≠ .array items) :
    arrayField (canonicalOrder ms) key = .error (.wrongShape .array) := by
  rw [arrayField, canonicalOrder, find?_canonical, Members.find?_reverse_eq_some.mpr h]
  cases v with
  | array items => exact absurd rfl (hv items)
  | _ => rfl

theorem arrayField_last (h : Members.Last key (.array items) ms) :
    arrayField (canonicalOrder ms) key = .ok (items.map canonical) := by
  rw [arrayField, canonicalOrder, find?_canonical, Members.find?_reverse_eq_some.mpr h,
    ← canonicalItems_eq_map]
  rfl

end Json

namespace Reply

variable {key body : String} {w v : Json} {ms rs : List Member} {items : List Json}

/-! ## The checks, in order -/

/-- The body is the text of an object with these members. -/
def Opens (body : String) (ms : List Member) : Prop := Json.parseWritten body = .ok (.object ms)

/-- Its result is an object with these members. -/
def Results (body : String) (rs : List Member) : Prop :=
  ∃ ms, Opens body ms ∧ Members.Last "result" (.object rs) ms

/-- The result lists these reasons under the key. -/
def Writes (key body : String) (items : List Json) : Prop :=
  ∃ rs, Results body rs ∧ Members.Last key (.array items) rs

theorem reasons_notJson {e : Json.Error} (h : Json.parseWritten body = .error e) :
    reasons key body = .error (.notJson e) := by
  rw [reasons, Json.parse_eq_error h]
  rfl

theorem reasons_notObject (h : Json.parseWritten body = .ok w) (hw : ∀ ms, w ≠ .object ms) :
    reasons key body = .error .notObject := by
  rw [reasons, Json.parse_eq_ok.mpr ⟨w, h, rfl⟩]
  cases w with
  | object ms => exact absurd rfl (hw ms)
  | _ => rfl

theorem reasons_of_opens (h : Opens body ms) :
    reasons key body =
      ((Json.objectField (Json.canonicalOrder ms) "result").mapError (.badField "result")).bind
        fun result => (Json.arrayField result key).mapError (.badField key) := by
  rw [reasons, Json.parse_eq_ok.mpr ⟨_, h, rfl⟩]
  rfl

theorem reasons_of_results (h : Results body rs) :
    reasons key body =
      (Json.arrayField (Json.canonicalOrder rs) key).mapError (.badField key) := by
  obtain ⟨ms, hopens, hlast⟩ := h
  rw [reasons_of_opens hopens, Json.objectField_last hlast]
  rfl

theorem reasons_of_writes (h : Writes key body items) :
    reasons key body = .ok (items.map Json.canonical) := by
  obtain ⟨rs, hresults, hlast⟩ := h
  rw [reasons_of_results hresults, Json.arrayField_last hlast]
  rfl

/-! ## What a body comes to -/

/-- What is decided on a body, and what it then means for the save. The
checks are made in this order, and each case is for the bodies that pass
the ones before it. -/
inductive Judges (key body : String) : Except GateError Unit → Outcome → Prop
  | notJson {e : Json.Error} : Json.parseWritten body = .error e →
      Judges key body (.error (.malformedResponse (.notJson e)))
        (.reject ("the OPA response is not valid JSON: " ++ e.message))
  | notObject {w : Json} : Json.parseWritten body = .ok w → (∀ ms, w ≠ .object ms) →
      Judges key body (.error (.malformedResponse .notObject))
        (.reject "the OPA response is not a JSON object")
  | noResult {ms : List Member} : Opens body ms → "result" ∉ Members.keys ms →
      Judges key body (.error (.malformedResponse (.badField "result" .absent)))
        (.reject "there is no 'result' field in the OPA response")
  | otherResult {ms : List Member} {v : Json} : Opens body ms → Members.Last "result" v ms →
      (∀ rs, v ≠ .object rs) →
      Judges key body (.error (.malformedResponse (.badField "result" (.wrongShape .object))))
        (.reject "the 'result' field in the OPA response is not an object")
  | noReasons {rs : List Member} : Results body rs → key ∉ Members.keys rs →
      Judges key body (.error (.malformedResponse (.badField key .absent)))
        (.reject ("there is no '" ++ key ++ "' field in the OPA response"))
  | otherReasons {rs : List Member} {v : Json} : Results body rs → Members.Last key v rs →
      (∀ items, v ≠ .array items) →
      Judges key body (.error (.malformedResponse (.badField key (.wrongShape .array))))
        (.reject ("the '" ++ key ++ "' field in the OPA response is not an array"))
  | allows : Writes key body [] → Judges key body (.ok ()) .allow
  | deniesVerbatim {s : String} {later : List Json} : Writes key body (.string s :: later) →
      Judges key body (.error (.policyDenied s)) (.reject s)
  | denies {first : Json} {later : List Json} : Writes key body (first :: later) →
      (∀ s, first ≠ .string s) →
      Judges key body (.error (.policyDenied first.canonical.compact))
        (.reject first.canonical.compact)

/-- Every body is judged in one of the ways. -/
theorem exists_judges (key body : String) : ∃ d o, Judges key body d o := by
  cases hw : Json.parseWritten body with
  | error e => exact ⟨_, _, .notJson hw⟩
  | ok w =>
    cases w with
    | object ms =>
      cases hresult : Members.find? "result" ms.reverse with
      | none => exact ⟨_, _, .noResult hw (Members.find?_reverse_eq_none.mp hresult)⟩
      | some v =>
        rw [Members.find?_reverse_eq_some] at hresult
        cases v with
        | object rs =>
          have hresults : Results body rs := ⟨ms, hw, hresult⟩
          cases hreasons : Members.find? key rs.reverse with
          | none => exact ⟨_, _, .noReasons hresults (Members.find?_reverse_eq_none.mp hreasons)⟩
          | some v =>
            rw [Members.find?_reverse_eq_some] at hreasons
            cases v with
            | array items =>
              have hwrites : Writes key body items := ⟨rs, hresults, hreasons⟩
              cases items with
              | nil => exact ⟨_, _, .allows hwrites⟩
              | cons first later =>
                cases first with
                | string s => exact ⟨_, _, .deniesVerbatim hwrites⟩
                | _ => exact ⟨_, _, .denies hwrites nofun⟩
            | _ => exact ⟨_, _, .otherReasons hresults hreasons nofun⟩
        | _ => exact ⟨_, _, .otherResult hw hresult nofun⟩
    | _ => exact ⟨_, _, .notObject hw nofun⟩

theorem Judges.decides {d : Except GateError Unit} {o : Outcome} (h : Judges key body d o) :
    decideNative key body = d := by
  unfold decideNative
  cases h with
  | notJson he => rw [reasons_notJson he]
  | notObject hw hobject => rw [reasons_notObject hw hobject]
  | noResult hopens habsent =>
    rw [reasons_of_opens hopens, Json.objectField_absent habsent]
    rfl
  | otherResult hopens hlast hobject =>
    rw [reasons_of_opens hopens, Json.objectField_other hlast hobject]
    rfl
  | noReasons hresults habsent =>
    rw [reasons_of_results hresults, Json.arrayField_absent habsent]
    rfl
  | otherReasons hresults hlast harray =>
    rw [reasons_of_results hresults, Json.arrayField_other hlast harray]
    rfl
  | allows hwrites =>
    rw [reasons_of_writes hwrites]
    rfl
  | deniesVerbatim hwrites =>
    rw [reasons_of_writes hwrites]
    rfl
  | @denies first later hwrites hstring =>
    rw [reasons_of_writes hwrites]
    cases first with
    | string s => exact absurd rfl (hstring s)
    | _ => rfl

theorem message_otherReasons (key : String) :
    (ReplyFault.badField key (.wrongShape .array)).message =
      "the '" ++ key ++ "' field in the OPA response is not an array" := by
  have htail : "' field in the OPA response is not an " ++ "array" =
      "' field in the OPA response is not an array" := by decide
  rw [← htail, ← String.append_assoc]
  rfl

theorem Judges.interprets {reply : Reply} {d : Except GateError Unit} {o : Outcome}
    (h : Judges key reply.body d o) : reply.interpret .native key = o := by
  rw [interpret, decide, h.decides]
  cases h with
  | otherReasons =>
    dsimp only [Outcome.ofError, GateError.message]
    rw [message_otherReasons]
  | _ => rfl

/-! ## The first reason alone -/

/-- Both bodies list reasons under the key, and both lists begin with the
same one or are empty. -/
def SameFirst (key body other : String) : Prop :=
  ∃ items items', Writes key body items ∧ Writes key other items' ∧
    items.head?.map Json.canonical = items'.head?.map Json.canonical

theorem decideNative_of_sameFirst {other : String} (h : SameFirst key body other) :
    decideNative key other = decideNative key body := by
  obtain ⟨items, items', hwrites, hwrites', hfirst⟩ := h
  rw [decideNative, decideNative, reasons_of_writes hwrites, reasons_of_writes hwrites']
  cases items with
  | nil =>
    cases items' with
    | nil => rfl
    | cons first' later' => cases hfirst
  | cons first later =>
    cases items' with
    | nil => cases hfirst
    | cons first' later' =>
      have hsame : first.canonical = first'.canonical := Option.some.inj hfirst
      simp only [List.map_cons, hsame]

/-- **What a native body says**: for every key and every text, whatever
the status, a body is decided on and worded as it is judged and in no
other way, and bodies whose lists begin alike come to the same. -/
theorem native_judges (key : String) (reply : Reply) :
    (∀ d o, reply.decide .native key = d ∧ reply.interpret .native key = o ↔
      Judges key reply.body d o) ∧
    ∀ other : Reply, SameFirst key reply.body other.body →
      other.decide .native key = reply.decide .native key ∧
        other.interpret .native key = reply.interpret .native key := by
  refine ⟨?_, ?_⟩
  · intro d o
    constructor
    · rintro ⟨rfl, rfl⟩
      obtain ⟨d, o, h⟩ := exists_judges key reply.body
      have hdecide : reply.decide .native key = d := h.decides
      rw [hdecide, h.interprets]
      exact h
    · intro h
      exact ⟨h.decides, h.interprets⟩
  · intro other h
    have hdecide : other.decide .native key = reply.decide .native key :=
      decideNative_of_sameFirst h
    exact ⟨hdecide, by rw [interpret, interpret, hdecide]⟩

/-! ## A list that is given again -/

/-- A body that gives its result twice and, in the second one, the list
twice. -/
def corrected : Reply where
  status := 500
  body := (Json.object [
    ("result", .object [("deny", .array [])]),
    ("result", .object [
      ("deny", .null),
      ("deny", .array [.object [("rule", .string "owner"), ("code", .bool true)], .null])])]).compact

/-- A body that lists what counts in it, once. -/
def plain : Reply where
  status := 200
  body := (Json.object [("result", .object [
    ("allow", .bool true),
    ("deny", .array [.object [("code", .bool true), ("rule", .string "owner")]])])]).compact

theorem writes_corrected : Writes "deny" corrected.body
    [.object [("rule", .string "owner"), ("code", .bool true)], .null] := by
  refine ⟨_, ⟨_, Json.parseWritten_compact ?_ ?_, [_], [], rfl, List.not_mem_nil⟩,
    [_], [], rfl, List.not_mem_nil⟩
  · simp [Json.Integral, Json.IntegralItems, Json.IntegralMembers]
  · decide

theorem writes_plain : Writes "deny" plain.body
    [.object [("code", .bool true), ("rule", .string "owner")]] := by
  refine ⟨_, ⟨_, Json.parseWritten_compact ?_ ?_, [], [], rfl, List.not_mem_nil⟩,
    [_], [], rfl, List.not_mem_nil⟩
  · simp [Json.Integral, Json.IntegralItems, Json.IntegralMembers]
  · decide

theorem corrected_judged :
    corrected.interpret .native "deny" = .reject "\x7b\"code\":true,\"rule\":\"owner\"\x7d" ∧
      plain.decide .native "deny" = corrected.decide .native "deny" := by
  obtain ⟨hjudges, hsame⟩ := native_judges "deny" corrected
  refine ⟨((hjudges _ _).mpr (.denies writes_corrected nofun)).2, (hsame plain ?_).1⟩
  exact ⟨_, _, writes_corrected, writes_plain, rfl⟩

end Reply

end PolicyGate

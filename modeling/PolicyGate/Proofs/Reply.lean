import PolicyGate.Decision
import PolicyGate.Proofs.Json.Reading

/-!
# Replies — when one approves

A reply approves in one way for each format and in no other: by the
status alone, or by an empty list in its one place in the document.
Every fault on the way to that list is an error, and an error never
approves.
-/

namespace PolicyGate.Reply

theorem mapError_eq_ok {ε δ α : Type} {x : Except ε α} {f : ε → δ} {a : α} :
    x.mapError f = .ok a ↔ x = .ok a := by
  cases x <;> simp [Except.mapError]

theorem asObject_eq_ok {j : Json} {ms : List Member} :
    j.asObject = .ok ms ↔ j = .object ms := by
  cases j <;> simp [Json.asObject]

theorem objectField_eq_ok {ms rs : List Member} {key : String} :
    Json.objectField ms key = .ok rs ↔ Members.find? key ms = some (.object rs) := by
  unfold Json.objectField
  cases Members.find? key ms with
  | none => simp
  | some j => simp [asObject_eq_ok]

theorem arrayField_eq_ok {ms : List Member} {key : String} {items : List Json} :
    Json.arrayField ms key = .ok items ↔ Members.find? key ms = some (.array items) := by
  unfold Json.arrayField
  cases Members.find? key ms with
  | none => simp
  | some j => cases j <;> simp

/-- The body lists `items` as the reasons under `key` of its result. -/
def Lists (key body : String) (items : List Json) : Prop :=
  ∃ document result, Json.parse body = .ok (.object document) ∧
    Members.find? "result" document = some (.object result) ∧
    Members.find? key result = some (.array items)

theorem reasons_eq_ok {key body : String} {items : List Json} :
    reasons key body = .ok items ↔ Lists key body items := by
  unfold reasons Lists
  simp only [Json.bind_eq_ok, mapError_eq_ok, asObject_eq_ok, objectField_eq_ok,
    arrayField_eq_ok]
  constructor
  · intro h
    obtain ⟨j, hj, document, rfl, result, hr, hi⟩ := h
    exact ⟨document, result, hj, hr, hi⟩
  · intro h
    obtain ⟨document, result, hj, hr, hi⟩ := h
    exact ⟨_, hj, document, rfl, result, hr, hi⟩

theorem decideNative_eq_ok {key body : String} :
    decideNative key body = .ok () ↔ Lists key body [] := by
  rw [← reasons_eq_ok, decideNative]
  cases reasons key body with
  | error fault => simp
  | ok items => cases items <;> simp

/-- **When a reply approves.** -/
theorem decide_eq_ok {mode : ResponseMode} {key : String} {reply : Reply} :
    reply.decide mode key = .ok () ↔
      mode = .proxy ∧ reply.status = 200 ∨ mode = .native ∧ Lists key reply.body [] := by
  cases mode with
  | proxy => simp [decide]
  | native => simp [decide, decideNative_eq_ok]

end PolicyGate.Reply

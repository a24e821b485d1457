import PolicyGate.Proofs.Gate.Course
import PolicyGate.Proofs.Reply

/-!
# The gate — when a save is allowed

The gate fails closed. Of the five courses two end in approval, and what
the second of them takes is spelled out here down to the submitted
pipeline, the store, the answer of the service and the settings.
-/

namespace PolicyGate.Gate

variable {σ : Type}

/-- Of the five courses the first and the last end in approval. -/
theorem outcome_eq_allow_iff {g : Gate σ} {p : Pipeline} {client : σ} :
    (g.evaluate p client).outcome = .allow ↔
      g.settings.enabled = false ∨
        ∃ request reply, (g.built p).result = .ok request ∧
          (g.client (g.dispatch request) client).answer = .ok reply ∧
          g.decision reply = .ok () := by
  cases hen : g.settings.enabled with
  | false => simp [evaluate_disabled hen]
  | true =>
    cases hb : (g.built p).result with
    | error e => simp [evaluate_unbuilt hen hb]
    | ok request =>
      cases ha : (g.client (g.dispatch request) client).answer with
      | error e => simp [evaluate_unsent hen hb ha, ha]
      | ok reply =>
        rw [evaluate_replied hen hb ha]
        cases hd : g.decision reply with
        | error e => simp [interpret_of_error hd, ha, hd]
        | ok _ => simp [interpret_of_ok hd, ha, hd]

theorem decision_eq_ok {g : Gate σ} {reply : Reply} :
    g.decision reply = .ok () ↔
      g.settings.proxy = true ∧ reply.status = 200 ∨
        g.settings.proxy = false ∧ Reply.Lists g.settings.resultKey reply.body [] := by
  rw [decision, Reply.decide_eq_ok, Settings.responseMode]
  cases g.settings.proxy <;> simp

end PolicyGate.Gate

import PolicyGate.Json.Writer

/-!
# Writing — the text of an object

The compact text of an object is the texts of its members, in the order
in which the value lists them, with commas between them.
-/

namespace PolicyGate.Json

/-- A key and its value, with the colon between them. -/
def memberChars (m : Member) : List Char := writeString m.1 ++ ':' :: m.2.compactChars

theorem compactMembers_eq (m : Member) (ms : List Member) :
    memberChars m ++ compactMembers ms =
      List.intercalate [','] ((m :: ms).map memberChars) ++ ['}'] := by
  induction ms generalizing m with
  | nil => simp [compactMembers]
  | cons n ms ih =>
    have hn := ih n
    rw [List.map_cons] at hn ⊢
    rw [List.map_cons, List.intercalate_cons_cons, List.append_assoc, List.append_assoc, ← hn]
    obtain ⟨k, v⟩ := n
    simp [compactMembers, memberChars]

theorem compact_object (ms : List Member) :
    (Json.object ms).compact =
      String.ofList ('{' :: List.intercalate [','] (ms.map memberChars) ++ ['}']) := by
  rw [compact]
  congr 1
  cases ms with
  | nil => rfl
  | cons m ms =>
    rw [List.cons_append, ← compactMembers_eq]
    obtain ⟨k, v⟩ := m
    simp [compactChars, memberChars]

end PolicyGate.Json

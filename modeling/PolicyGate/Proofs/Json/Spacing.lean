import PolicyGate.Json.Reader
import PolicyGate.Json.Writer

/-!
# Spacing — the two forms as one

The compact and the pretty form differ in where they put blanks and in
nothing else. `Spacing.text` writes a value with any blanks in those
places, and both forms are cases of it (`compact_text`, `pretty_text`).
What is said about reading a written value back is said of values with
no floating-point numbers (`Integral`), for which the reader does not
always find the number that was written, and depends on how deep their
brackets are nested (`depth`).
-/

namespace PolicyGate.Json

/-! ## Numbers and brackets of a value -/

mutual

/-- Every number is an integer. -/
def Integral : Json → Prop
  | .number (.float _) => False
  | .array items => IntegralItems items
  | .object members => IntegralMembers members
  | _ => True

/-- Every number in the items of an array is an integer. -/
def IntegralItems : List Json → Prop
  | [] => True
  | j :: js => j.Integral ∧ IntegralItems js

/-- Every number in the values of members is an integer. -/
def IntegralMembers : List Member → Prop
  | [] => True
  | (_, v) :: ms => v.Integral ∧ IntegralMembers ms

end

mutual

/-- How deep the brackets of a value are nested. -/
def depth : Json → Nat
  | .array items => depthItems items + 1
  | .object members => depthMembers members + 1
  | _ => 0

/-- How deep the brackets in the items of an array are nested. -/
def depthItems : List Json → Nat
  | [] => 0
  | j :: js => max j.depth (depthItems js)

/-- How deep the brackets in the values of members are nested. -/
def depthMembers : List Member → Nat
  | [] => 0
  | (_, v) :: ms => max v.depth (depthMembers ms)

end

theorem integralItems_iff {items : List Json} :
    IntegralItems items ↔ ∀ j ∈ items, j.Integral := by
  induction items with
  | nil => simp [IntegralItems]
  | cons j js ih => simp [IntegralItems, ih]

theorem integralMembers_iff {ms : List Member} :
    IntegralMembers ms ↔ ∀ m ∈ ms, m.2.Integral := by
  induction ms with
  | nil => simp [IntegralMembers]
  | cons m ms ih => simp [IntegralMembers, ih]

theorem depthItems_le_iff {items : List Json} {n : Nat} :
    depthItems items ≤ n ↔ ∀ j ∈ items, j.depth ≤ n := by
  induction items with
  | nil => simp [depthItems]
  | cons j js ih => rw [depthItems, Nat.max_le, ih, List.forall_mem_cons]

theorem depthMembers_le_iff {ms : List Member} {n : Nat} :
    depthMembers ms ≤ n ↔ ∀ m ∈ ms, m.2.depth ≤ n := by
  induction ms with
  | nil => simp [depthMembers]
  | cons m ms ih => rw [depthMembers, Nat.max_le, ih, List.forall_mem_cons]

/-! ## Writing with blanks -/

/-- Where a writer puts blanks: at the start of a line, by the depth of
the brackets there, and between a colon and the value. -/
structure Spacing where
  line : Nat → List Char
  gap : List Char
  line_blank : ∀ depth, ∀ c ∈ line depth, isSpace c = true
  gap_blank : ∀ c ∈ gap, isSpace c = true

namespace Spacing

mutual

/-- The text of a value whose brackets stand at `depth`. -/
def text (sp : Spacing) (depth : Nat) : Json → List Char
  | .array [] => ['[', ']']
  | .array (j :: js) =>
    '[' :: sp.line (depth + 1) ++ sp.text (depth + 1) j ++ sp.textItems depth js
  | .object [] => ['{', '}']
  | .object ((k, v) :: ms) =>
    '{' :: sp.line (depth + 1) ++ writeString k ++ ':' :: (sp.gap ++ sp.text (depth + 1) v) ++
      sp.textMembers depth ms
  | .null => compactChars .null
  | .bool b => compactChars (.bool b)
  | .number n => compactChars (.number n)
  | .string s => compactChars (.string s)

/-- The items after the first and the closing bracket, which stands at
`depth`. -/
def textItems (sp : Spacing) (depth : Nat) : List Json → List Char
  | [] => sp.line depth ++ [']']
  | j :: js => ',' :: sp.line (depth + 1) ++ sp.text (depth + 1) j ++ sp.textItems depth js

/-- The members after the first and the closing brace, which stands at
`depth`. -/
def textMembers (sp : Spacing) (depth : Nat) : List Member → List Char
  | [] => sp.line depth ++ ['}']
  | (k, v) :: ms =>
    ',' :: sp.line (depth + 1) ++ writeString k ++ ':' :: (sp.gap ++ sp.text (depth + 1) v) ++
      sp.textMembers depth ms

end

/-- No blanks at all. -/
def compact : Spacing where
  line _ := []
  gap := []
  line_blank := by simp
  gap_blank := by simp

/-- Every item and member on a line of its own. -/
def pretty : Spacing where
  line := newLine
  gap := [' ']
  line_blank := by
    intro depth c hc
    rcases List.mem_cons.mp hc with rfl | hc
    · rfl
    · rw [List.eq_of_mem_replicate hc]
      rfl
  gap_blank := by simp [isSpace]

mutual

/-- The compact form is the one without blanks. -/
theorem compact_text (depth : Nat) : ∀ j : Json, compact.text depth j = j.compactChars
  | .null => rfl
  | .bool _ => rfl
  | .number _ => rfl
  | .string _ => rfl
  | .array [] => rfl
  | .array (j :: js) => by
    rw [text, compactChars, compact_text (depth + 1) j, compact_textItems depth js]
    rfl
  | .object [] => rfl
  | .object ((k, v) :: ms) => by
    rw [text, compactChars, compact_text (depth + 1) v, compact_textMembers depth ms]
    rfl

theorem compact_textItems (depth : Nat) :
    ∀ items : List Json, compact.textItems depth items = compactItems items
  | [] => rfl
  | j :: js => by
    rw [textItems, compactItems, compact_text (depth + 1) j, compact_textItems depth js]
    rfl

theorem compact_textMembers (depth : Nat) :
    ∀ ms : List Member, compact.textMembers depth ms = compactMembers ms
  | [] => rfl
  | (k, v) :: ms => by
    rw [textMembers, compactMembers, compact_text (depth + 1) v, compact_textMembers depth ms]
    rfl

end

mutual

/-- The pretty form is the one with a line for every item and member. -/
theorem pretty_text (depth : Nat) : ∀ j : Json, pretty.text depth j = j.prettyChars depth
  | .null => rfl
  | .bool true => rfl
  | .bool false => rfl
  | .number _ => rfl
  | .string _ => rfl
  | .array [] => rfl
  | .array (j :: js) => by
    rw [text, prettyChars, pretty_text (depth + 1) j, pretty_textItems depth js]
    rfl
  | .object [] => rfl
  | .object ((k, v) :: ms) => by
    rw [text, prettyChars, pretty_text (depth + 1) v, pretty_textMembers depth ms]
    rfl

theorem pretty_textItems (depth : Nat) :
    ∀ items : List Json, pretty.textItems depth items = prettyItems depth items
  | [] => rfl
  | j :: js => by
    rw [textItems, prettyItems, pretty_text (depth + 1) j, pretty_textItems depth js]
    rfl

theorem pretty_textMembers (depth : Nat) :
    ∀ ms : List Member, pretty.textMembers depth ms = prettyMembers depth ms
  | [] => rfl
  | (k, v) :: ms => by
    rw [textMembers, prettyMembers, pretty_text (depth + 1) v, pretty_textMembers depth ms]
    rfl

end

/-! ### How long a text is -/

theorem length_lt_textItems (sp : Spacing) (depth : Nat) (items : List Json) :
    items.length < (sp.textItems depth items).length := by
  induction items with
  | nil => simp [textItems]
  | cons j js ih =>
    simp only [textItems, List.length_append, List.length_cons]
    omega

theorem length_text_lt_textItems (sp : Spacing) (depth : Nat) {items : List Json} {j : Json}
    (hj : j ∈ items) :
    (sp.text (depth + 1) j).length < (sp.textItems depth items).length := by
  induction items with
  | nil => simp at hj
  | cons i is ih =>
    simp only [textItems, List.length_append, List.length_cons]
    rcases List.mem_cons.mp hj with rfl | hj
    · omega
    · have := ih hj
      omega

theorem length_lt_textMembers (sp : Spacing) (depth : Nat) (ms : List Member) :
    ms.length < (sp.textMembers depth ms).length := by
  induction ms with
  | nil => simp [textMembers]
  | cons m ms ih =>
    simp only [textMembers, List.length_append, List.length_cons]
    omega

theorem length_text_lt_textMembers (sp : Spacing) (depth : Nat) {ms : List Member} {m : Member}
    (hm : m ∈ ms) :
    (writeString m.1).length + (sp.text (depth + 1) m.2).length <
      (sp.textMembers depth ms).length := by
  induction ms with
  | nil => simp at hm
  | cons n ns ih =>
    simp only [textMembers, List.length_append, List.length_cons]
    rcases List.mem_cons.mp hm with rfl | hm
    · omega
    · have := ih hm
      omega

theorem length_text_le_array (sp : Spacing) {depth : Nat} {items : List Json} {j : Json}
    (hj : j ∈ items) :
    (sp.text (depth + 1) j).length ≤ (sp.text depth (.array items)).length := by
  cases items with
  | nil => simp at hj
  | cons i is =>
    simp only [text, List.length_append, List.length_cons]
    rcases List.mem_cons.mp hj with rfl | hj
    · omega
    · have := sp.length_text_lt_textItems depth hj
      omega

theorem length_text_le_object (sp : Spacing) {depth : Nat} {ms : List Member} {m : Member}
    (hm : m ∈ ms) :
    (sp.text (depth + 1) m.2).length ≤ (sp.text depth (.object ms)).length := by
  cases ms with
  | nil => simp at hm
  | cons n ns =>
    simp only [text, List.length_append, List.length_cons]
    rcases List.mem_cons.mp hm with rfl | hm
    · omega
    · have := sp.length_text_lt_textMembers depth hm
      omega

end Spacing

end PolicyGate.Json

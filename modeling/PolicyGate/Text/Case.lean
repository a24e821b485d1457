import PolicyGate.Text.CaseTable

/-!
# Letter case

Which characters are upper- or lowercase letters, and the lowercase form of a text taken character
by character. A lowercase form may be longer than its character: `İ` becomes `i` and a dot above.
-/

namespace PolicyGate.Text

/-- Whether `c` has the property Uppercase. -/
def isUpper (c : Char) : Bool := inSpans uppercaseSpans c

/-- Whether `c` has the property Lowercase. -/
def isLower (c : Char) : Bool := inSpans lowercaseSpans c

/-- Whether `c` is an upper- or lowercase character. -/
def isCased (c : Char) : Bool := isUpper c || isLower c

/-- The lowercase form of one character. -/
def lowerChar (c : Char) : List Char :=
  if c = 'İ' then ['i', '\u0307']
  else [(lowercaseShifts.findSome? (·.image? c)).getD c]

/-- The lowercase form of a text, one character at a time and without regard to its neighbours. -/
def lower (cs : List Char) : List Char := cs.flatMap lowerChar

/-- Two texts with the same lowercase form. -/
def sameFolded (s t : String) : Bool := lower s.toList == lower t.toList

theorem sameFolded_iff {s t : String} :
    sameFolded s t = true ↔ lower s.toList = lower t.toList := by
  simp [sameFolded]

theorem lower_append (s t : List Char) : lower (s ++ t) = lower s ++ lower t := by
  simp [lower]

theorem lowerChar_ne_nil (c : Char) : lowerChar c ≠ [] := by
  unfold lowerChar
  split <;> simp

/-- Nothing but the empty text has an empty lowercase form. -/
theorem lower_eq_nil {cs : List Char} : lower cs = [] ↔ cs = [] := by
  cases cs with
  | nil => simp [lower]
  | cons c cs => simp [lower, lowerChar_ne_nil]

end PolicyGate.Text

import PolicyGate.Text.Case

/-!
# Words in identifiers

An identifier in camel case is respelled in snake case: a new word starts at a capital after a
small letter, and at the last capital of a run that a small letter follows, so that `HTTPProxy`
has the words `http` and `proxy`. Capitals are found in every alphabet; only ASCII capitals are
made small.
-/

namespace PolicyGate.Text

/-- Whether a word starts at `c`, between the characters `prev` and `next`. -/
def startsWord (prev c : Char) (next : Option Char) : Bool :=
  isUpper c && (isLower prev || (isUpper prev && next.any isLower))

/-- The snake-case spelling of what follows the character `prev` in an identifier. -/
def snakeAfter (prev : Char) : List Char → List Char
  | [] => []
  | c :: rest =>
    if startsWord prev c rest.head? then '_' :: c.toLower :: snakeAfter c rest
    else c.toLower :: snakeAfter c rest

/-- The snake-case spelling of an identifier, as characters. -/
def snakeChars : List Char → List Char
  | [] => []
  | c :: rest => c.toLower :: snakeAfter c rest

/-- The snake-case spelling of an identifier. -/
def snakeCase (name : String) : String := String.ofList (snakeChars name.toList)

end PolicyGate.Text

import PolicyGate.Http

/-!
# Requests and answers as octets

A request is written as one message that asks for the connection to be closed after the answer.
What a service did is read off the octets that it sent up to then: an answer that ends before its
announced end is truncated, and a connection closed before the head of an answer is complete means
that there was none.
-/

namespace PolicyGate

/-- A request as octets. -/
def HttpRequest.octets (r : HttpRequest) : List UInt8 :=
  let lines := [
    r.method ++ " " ++ r.target ++ " HTTP/1.1",
    "host: " ++ String.ofList ((r.url.authority.map (·.hostText)).getD []),
    "content-type: " ++ r.contentType,
    "content-length: " ++ Json.decimal r.body.utf8ByteSize,
    "accept: */*",
    "connection: close"]
  (String.join (lines.map (· ++ "\r\n")) ++ "\r\n" ++ r.body).toUTF8.toList

namespace Http

/-- The first line of a message and what follows it, if the line is complete. -/
def takeLine : List UInt8 → Option (List Char × List UInt8)
  | [] => none
  | 13 :: 10 :: rest => some ([], rest)
  | b :: rest => (takeLine rest).map fun (line, rest) => (Char.ofNat b.toNat :: line, rest)

/-- The lines up to an empty one and what follows that, if they are complete. -/
def takeHead : Nat → List UInt8 → Option (List (List Char) × List UInt8)
  | 0, _ => none
  | lines + 1, octets => do
    let (line, rest) ← takeLine octets
    if line.isEmpty then return ([], rest)
    let (more, rest) ← takeHead lines rest
    return (line :: more, rest)

/-- A text without the spaces around it. -/
def trim (cs : List Char) : List Char := Text.stripBoth (· == ' ') cs

/-- The value of a header. -/
def header? (name : String) : List (List Char) → Option (List Char)
  | [] => none
  | line :: lines =>
    if (line.takeWhile (· != ':')).map Char.toLower == name.toList then
      some (trim ((line.dropWhile (· != ':')).drop 1))
    else header? name lines

/-- The status in the first line of an answer. -/
def status? (line : List Char) : Option Nat :=
  (String.ofList (((line.dropWhile (· != ' ')).drop 1).takeWhile Char.isDigit)).toNat?

/-- The data of a body sent in chunks, and whether its end is missing. -/
def takeChunks : Nat → List UInt8 → List UInt8 × Bool
  | 0, _ => ([], true)
  | chunks + 1, octets =>
    match takeLine octets with
    | none => ([], true)
    | some (line, rest) =>
      match Text.number? 16 (trim (line.takeWhile (· != ';'))) with
      | none => ([], true)
      | some 0 => ([], false)
      | some size =>
        if rest.length < size + 2 then (rest.take size, true)
        else
          let (more, truncated) := takeChunks chunks (rest.drop (size + 2))
          (rest.take size ++ more, truncated)

/-- The body of an answer with these headers, and whether its end is missing. -/
def takeBody (headers : List (List Char)) (octets : List UInt8) : List UInt8 × Bool :=
  if (header? "transfer-encoding" headers).any fun v => v.map Char.toLower == "chunked".toList then
    takeChunks (octets.length + 1) octets
  else
    match (header? "content-length" headers).bind fun v => (String.ofList v).toNat? with
    | some size => (octets.take size, octets.length < size)
    | none => (octets, false)

/-- The status, headers and rest of the first message that is an answer. -/
def finalHead : Nat → List UInt8 → Option (Nat × List (List Char) × List UInt8)
  | 0, _ => none
  | heads + 1, octets => do
    let (lines, rest) ← takeHead (octets.length + 1) octets
    let status ← status? (lines.headD [])
    if isFinal status then return (status, lines.drop 1, rest)
    else finalHead heads rest

end Http

/-- What a service did that sent these octets before the plain connection was closed. -/
def Service.ofOctets (octets : List UInt8) : Service :=
  match Http.finalHead (octets.length + 1) octets with
  | none => .silent
  | some (status, headers, rest) =>
    let (body, truncated) := Http.takeBody headers rest
    .answering status body truncated

end PolicyGate

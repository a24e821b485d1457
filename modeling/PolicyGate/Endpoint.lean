/-!
# Where requests go

The address of the service and the path of a policy are joined by exactly one slash, whatever
slashes either brings to the joint.
-/

namespace PolicyGate.Endpoint

/-- A text without the slashes it starts with. -/
def trimStart (cs : List Char) : List Char := cs.dropWhile (· == '/')

/-- A text without the slashes it ends with. -/
def trimEnd (cs : List Char) : List Char := (trimStart cs.reverse).reverse

/-- The address of a policy, as characters. -/
def joinChars (base path : List Char) : List Char := trimEnd base ++ '/' :: trimStart path

/-- The address of a policy: that of the service, a slash, and the path. -/
def join (base path : String) : String := String.ofList (joinChars base.toList path.toList)

/-- The beginnings of an address that can be reached over HTTP. -/
def webSchemes : List String := ["http://", "https://"]

/-- Whether an address begins as one that can be reached over HTTP does. -/
def isWeb (url : String) : Bool := webSchemes.any fun s => s.toList.isPrefixOf url.toList

end PolicyGate.Endpoint

import PolicyGate.Pipeline

/-!
# Stored pipelines

The gate reads stored pipelines and never writes them. It finds the revision of a pipeline that is
stored now by asking for all pipelines of the application.
-/

namespace PolicyGate

/-- A store that cannot be queried, with its own description of the cause. -/
structure StoreError where
  detail : String
  deriving DecidableEq, Repr

/-- The wording of a store error. -/
def StoreError.message (e : StoreError) : String := "pipeline store unavailable: " ++ e.detail

/-- A query for the pipelines of an application. A store that keeps copies is asked to bypass them
by `refresh`. -/
structure Query where
  application : String
  refresh : Bool
  deriving DecidableEq, Repr

/-- How a store answers queries. -/
abbrev Lookup := Query → Except StoreError (List Pipeline)

/-- A store that holds fixed pipelines in memory. -/
structure Store where
  pipelines : List Pipeline

namespace Store

/-- The store without pipelines. -/
def empty : Store := ⟨[]⟩

/-- The number of pipelines of all applications. -/
def size (s : Store) : Nat := s.pipelines.length

/-- Whether the store holds no pipeline. -/
def isEmpty (s : Store) : Bool := s.pipelines.isEmpty

/-- The pipelines of exactly this application, in the order of the store. -/
def ofApplication (s : Store) (application : String) : List Pipeline :=
  s.pipelines.filter (·.application == some application)

/-- A store in memory answers every query from what it holds. -/
def lookup (s : Store) : Lookup := fun q => .ok (s.ofApplication q.application)

/-- How the pipelines of a store are read. -/
def codec : Json.Codec (List Pipeline) := .list Pipeline.codec

/-- The store in a text. -/
def parse (text : String) : Except Json.Error Store := (codec.parse text).map Store.mk

end Store

/-- A store that fails every query. -/
def Lookup.failing (detail : String) : Lookup := fun _ => .error ⟨detail⟩

end PolicyGate

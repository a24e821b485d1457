import PolicyGate.Command
import PolicyGate.Proofs.Reply

/-!
# Commands — what a file holds

A command takes the text of a file and then what the text holds, for the
pipeline and for the store alike (`readFile`). A file can be at fault in
two ways, and the error of the command names the file and the fault.
-/

namespace PolicyGate

/-- How a file can be at fault: it cannot be read, or its text is not
what is looked for. -/
inductive FileSystem.Faulty {α : Type} (fs : FileSystem) (path : String)
    (parse : String → Except Json.Error α) : FileFault → Prop
  | unreadable {e : ReadError} : fs.readText path = .error e → Faulty fs path parse (.unreadable e)
  | malformed {text : String} {e : Json.Error} : fs.readText path = .ok text →
      parse text = .error e → Faulty fs path parse (.malformed e)

namespace Command

section Read

variable {α : Type} {fs : FileSystem} {path : String} {parse : String → Except Json.Error α}

/-- What a file holds, or its fault. -/
def readFile (fs : FileSystem) (path : String) (parse : String → Except Json.Error α) :
    Except FileFault α :=
  ((fs.readText path).mapError .unreadable).bind fun text => (parse text).mapError .malformed

theorem readFile_of_text {text : String} (htext : fs.readText path = .ok text) :
    readFile fs path parse = (parse text).mapError .malformed := by
  rw [readFile, htext]
  rfl

theorem readFile_eq_error {fault : FileFault} :
    readFile fs path parse = .error fault ↔ fs.Faulty path parse fault := by
  constructor
  · intro h
    cases htext : fs.readText path with
    | error e =>
      rw [readFile, htext] at h
      obtain rfl := Except.error.inj h
      exact .unreadable htext
    | ok text =>
      rw [readFile_of_text htext] at h
      cases hparse : parse text with
      | error e =>
        rw [hparse] at h
        obtain rfl := Except.error.inj h
        exact .malformed htext hparse
      | ok a =>
        rw [hparse] at h
        cases h
  · intro h
    cases h with
    | unreadable htext =>
      rw [readFile, htext]
      rfl
    | malformed htext hparse =>
      rw [readFile_of_text htext, hparse]
      rfl

theorem readPipeline_eq (fs : FileSystem) (path : String) :
    readPipeline fs path = (readFile fs path Pipeline.parse).mapError (.pipelineFile path) := by
  unfold readPipeline
  cases htext : fs.readText path with
  | error e =>
    rw [readFile, htext]
    rfl
  | ok text =>
    rw [readFile_of_text htext]
    dsimp only
    cases Pipeline.parse text <;> rfl

theorem readStore_eq (fs : FileSystem) (path : String) :
    readStore fs (some path) = (readFile fs path Store.parse).mapError (.storeFile path) := by
  unfold readStore
  cases htext : fs.readText path with
  | error e =>
    rw [readFile, htext]
    simp only [htext]
    rfl
  | ok text =>
    rw [readFile_of_text htext]
    simp only [htext]
    cases Store.parse text <;> rfl

end Read

section Text

variable {fs : FileSystem} {path text : String} (htext : fs.readText path = .ok text)
include htext

theorem readPipeline_eq_ok {p : Pipeline} :
    readPipeline fs path = .ok p ↔ Pipeline.parse text = .ok p := by
  rw [readPipeline_eq, Reply.mapError_eq_ok, readFile_of_text htext, Reply.mapError_eq_ok]

theorem readStore_eq_ok {store : Store} :
    readStore fs (some path) = .ok store ↔ Store.parse text = .ok store := by
  rw [readStore_eq, Reply.mapError_eq_ok, readFile_of_text htext, Reply.mapError_eq_ok]

theorem readStore_eq_error_iff :
    (∃ e, readStore fs (some path) = .error (.storeFile path (.malformed e))) ↔
      ¬∃ store, Store.parse text = .ok store := by
  rw [readStore_eq, readFile_of_text htext]
  cases Store.parse text <;> simp [Except.mapError]

end Text

/-! ## No file rejects a pipeline -/

theorem readPipeline_ne_rejected {fs : FileSystem} {path : String} {e : CommandError}
    (h : readPipeline fs path = .error e) (reason : String) : e ≠ .rejected reason := by
  rintro rfl
  rw [readPipeline_eq] at h
  cases hread : readFile fs path Pipeline.parse <;> rw [hread] at h <;> cases h

theorem readStore_ne_rejected {fs : FileSystem} {path : Option String} {e : CommandError}
    (h : readStore fs path = .error e) (reason : String) : e ≠ .rejected reason := by
  rintro rfl
  cases path with
  | none => cases h
  | some path =>
    rw [readStore_eq] at h
    cases hread : readFile fs path Store.parse <;> rw [hread] at h <;> cases h

end Command

end PolicyGate

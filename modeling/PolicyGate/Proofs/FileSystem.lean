import PolicyGate.FileSystem

/-!
# Files — what is at a path

Whether something is at a path is a matter of places alone: the names on
it lead from one directory to the next, up to something that is there
(`Present`). Whether the system lets it be looked up is another matter
(`Searchable`). A program finds what is there and may be looked up, and
nothing else (`exists?_iff_reached`).
-/

namespace PolicyGate.FileSystem

/-! ## Places -/

/-- Something is at a place. -/
def Filled (fs : FileSystem) (place : List String) : Prop :=
  fs.hasFile place = true ∨ fs.hasDirectory place = true

/-- There is a directory at a place, and nothing else. -/
structure Directory (fs : FileSystem) (place : List String) : Prop where
  listed : fs.hasDirectory place = true
  alone : fs.hasFile place = false

/-- Names lead from a place to a goal, each of them from a directory. -/
inductive Leads (fs : FileSystem) (goal : List String) : List String → List String → Prop
  | here : Leads fs goal goal []
  | on {place names : List String} {name : String} : fs.Directory place →
      Leads fs goal (follow place name) names → Leads fs goal place (name :: names)

/-- No name on the way from a place meets an obstacle. -/
inductive Unobstructed (fs : FileSystem) : List String → List String → Prop
  | here {place : List String} : Unobstructed fs place []
  | on {place names : List String} {name : String} : fs.obstacle? place name = none →
      Unobstructed fs (follow place name) names → Unobstructed fs place (name :: names)

/-! ## Paths -/

/-- Something is at a path, whether it can be looked up or not. If nothing
follows the last slash, it has to be a directory. -/
def Present (fs : FileSystem) (path : String) : Prop :=
  path ≠ "" ∧ ∃ place, fs.Leads place [] (pathNames path) ∧ fs.Filled place ∧
    (leadsToDirectory path = true → fs.hasFile place = false)

/-- The system lets a path be looked up, whether something is there or
not. -/
def Searchable (fs : FileSystem) (path : String) : Prop :=
  path.utf8ByteSize ≤ maxPath ∧ fs.Unobstructed [] (pathNames path)

/-- Something is at a path and may be looked up. -/
structure Reached (fs : FileSystem) (path : String) : Prop where
  present : fs.Present path
  searchable : fs.Searchable path

variable {fs : FileSystem}

theorem hasDirectory_iff {place : List String} :
    fs.hasDirectory place = true ↔
      (∃ d ∈ fs.directories ++ fs.closed.map Prod.fst, place <+: d) ∨
        ∃ f ∈ fs.files.map Prod.fst ++ fs.refused.map Prod.fst, place <+: f ∧ place ≠ f := by
  simp only [hasDirectory, Bool.or_eq_true, List.any_eq_true, Bool.and_eq_true,
    List.isPrefixOf_iff_prefix, bne_iff_ne]

theorem mem_of_hasFile {place : List String} (h : fs.hasFile place = true) :
    place ∈ fs.files.map Prod.fst ++ fs.refused.map Prod.fst := by
  simp only [hasFile, file?, refusal?, Bool.or_eq_true, Bool.and_eq_true, Option.isSome_map,
    List.find?_isSome] at h
  rcases h with ⟨entry, hmem, hplace⟩ | ⟨⟨entry, hmem, hplace⟩, -⟩
  · rw [← eq_of_beq hplace]
    exact List.mem_append_left _ (List.mem_map_of_mem hmem)
  · rw [← eq_of_beq hplace]
    exact List.mem_append_right _ (List.mem_map_of_mem hmem)

/-- What is at a place is in a directory. -/
theorem hasDirectory_of_filled {place : List String} {name : String}
    (h : fs.Filled (place ++ [name])) : fs.hasDirectory place = true := by
  have hprefix : place <+: place ++ [name] := List.prefix_append _ _
  have hne : place ≠ place ++ [name] := by simp
  refine hasDirectory_iff.mpr ?_
  rcases h with hfile | hdirectory
  · exact .inr ⟨_, mem_of_hasFile hfile, hprefix, hne⟩
  · rcases hasDirectory_iff.mp hdirectory with ⟨d, hmem, hd⟩ | ⟨f, hmem, hf, -⟩
    · exact .inl ⟨d, hmem, hprefix.trans hd⟩
    · refine .inr ⟨f, hmem, hprefix.trans hf, ?_⟩
      rintro rfl
      exact absurd hf.length_le (by simp)

theorem hasDirectory_of_follow {place : List String} {name : String}
    (h : fs.Filled (follow place name)) (hfile : fs.hasFile place = false)
    (hup : name = ".." → fs.hasDirectory place = true) : fs.hasDirectory place = true := by
  by_cases hdot : name = "."
  · rw [follow, if_pos hdot] at h
    exact h.resolve_left (by simp [hfile])
  · by_cases hdots : name = ".."
    · exact hup hdots
    · rw [follow, if_neg hdot, if_pos (by simpa using hdots)] at h
      exact hasDirectory_of_filled h

/-- One step of a walk, and the conditions on it. -/
theorem walk_cons_eq_ok {goal place names : List String} {name : String} :
    fs.walk place (name :: names) = .ok goal ↔
      fs.hasFile place = false ∧ fs.obstacle? place name = none ∧
        (name = ".." → fs.hasDirectory place = true) ∧
        fs.walk (follow place name) names = .ok goal := by
  rw [walk]
  cases fs.hasFile place with
  | true => simp
  | false =>
    cases fs.obstacle? place name with
    | some e => simp
    | none =>
      by_cases hup : name = ".." <;> cases fs.hasDirectory place <;> simp [hup]

theorem walk_of_leads {goal place names : List String} (h : fs.Leads goal place names)
    (ho : fs.Unobstructed place names) : fs.walk place names = .ok goal := by
  induction h with
  | here => rfl
  | on hdirectory _ ih =>
    cases ho with
    | on hnone hrest =>
      exact walk_cons_eq_ok.mpr ⟨hdirectory.alone, hnone, fun _ => hdirectory.listed, ih hrest⟩

/-- A walk that ends where something is has led through directories. -/
theorem leads_of_walk {goal place names : List String} (h : fs.walk place names = .ok goal)
    (hgoal : fs.Filled goal) :
    fs.Filled place ∧ fs.Leads goal place names ∧ fs.Unobstructed place names := by
  induction names generalizing place with
  | nil =>
    obtain rfl := Except.ok.inj h
    exact ⟨hgoal, .here, .here⟩
  | cons name names ih =>
    obtain ⟨hfile, hnone, hup, hwalk⟩ := walk_cons_eq_ok.mp h
    obtain ⟨hfilled, hleads, hrest⟩ := ih hwalk
    have hdirectory : fs.Directory place := ⟨hasDirectory_of_follow hfilled hfile hup, hfile⟩
    exact ⟨.inr hdirectory.listed, .on hdirectory hleads, .on hnone hrest⟩

theorem foundAt_ne_error_iff {place : List String} :
    (∀ e, fs.foundAt place ≠ .error e) ↔ fs.Filled place := by
  simp only [foundAt, Filled, hasFile]
  cases fs.file? place <;> cases fs.refusal? place <;> cases fs.hasDirectory place <;> simp

theorem exists?_iff_found {path : String} :
    fs.exists? path = true ↔ ∀ e, fs.find path ≠ .error e := by
  rw [exists?]
  cases fs.find path <;> simp

/-- What is found at the end of a walk. -/
theorem find_of_walk {path : String} {place : List String} (hne : path ≠ "")
    (hsize : path.utf8ByteSize ≤ maxPath) (hwalk : fs.walk [] (pathNames path) = .ok place)
    (hplain : leadsToDirectory path = true → fs.hasFile place = false) :
    fs.find path = fs.foundAt place := by
  have hno : ¬(fs.hasFile place && leadsToDirectory path) = true := by
    intro h
    obtain ⟨hfile, hdirectory⟩ := Bool.and_eq_true_iff.mp h
    rw [hplain hdirectory] at hfile
    cases hfile
  simp only [find, if_neg hne, if_neg (Nat.not_lt_of_le hsize), hwalk, if_neg hno]

/-- Nothing is found in another way. -/
theorem walk_of_find {path : String} (h : ∀ e, fs.find path ≠ .error e) :
    path ≠ "" ∧ path.utf8ByteSize ≤ maxPath ∧ ∃ place, fs.walk [] (pathNames path) = .ok place ∧
      (leadsToDirectory path = true → fs.hasFile place = false) := by
  have hne : path ≠ "" := by
    intro he
    exact h _ (if_pos he)
  have hsize : ¬maxPath < path.utf8ByteSize := by
    intro hlong
    simp [find, hne, hlong] at h
  refine ⟨hne, Nat.le_of_not_lt hsize, ?_⟩
  cases hwalk : fs.walk [] (pathNames path) with
  | error e => simp [find, hne, hsize, hwalk] at h
  | ok place =>
    refine ⟨place, rfl, ?_⟩
    intro hdirectory
    cases hfile : fs.hasFile place with
    | false => rfl
    | true => simp [find, hne, hsize, hwalk, hfile, hdirectory] at h

/-- **What a program finds** is what is there and may be looked up. -/
theorem exists?_iff_reached {path : String} : fs.exists? path = true ↔ fs.Reached path := by
  rw [exists?_iff_found]
  constructor
  · intro h
    obtain ⟨hne, hsize, place, hwalk, hplain⟩ := walk_of_find h
    rw [find_of_walk hne hsize hwalk hplain, foundAt_ne_error_iff] at h
    obtain ⟨-, hleads, hopen⟩ := leads_of_walk hwalk h
    exact ⟨⟨hne, place, hleads, h, hplain⟩, hsize, hopen⟩
  · rintro ⟨⟨hne, place, hleads, hfilled, hplain⟩, hsize, hopen⟩
    rw [find_of_walk hne hsize (walk_of_leads hleads hopen) hplain, foundAt_ne_error_iff]
    exact hfilled

theorem exists?_eq_false_iff {path : String} : fs.exists? path = false ↔ ¬fs.Reached path := by
  rw [← exists?_iff_reached, Bool.not_eq_true]

/-! ## Dots -/

/-- A dot in front of a path that does not begin at the root. -/
theorem pathNames_dot {path : String} (h : path.toList.head? ≠ some '/') :
    pathNames ("./" ++ path) = "." :: pathNames path ∧
      leadsToDirectory ("./" ++ path) = leadsToDirectory path := by
  have htext : ("./" ++ path).toList = '.' :: '/' :: path.toList := String.toList_append
  have hsplit : ('.' :: '/' :: path.toList).splitOnP (· == '/') =
      ['.'] :: path.toList.splitOnP (· == '/') := rfl
  have hne : path.toList.splitOnP (· == '/') ≠ [] := List.splitOnP_ne_nil _ _
  simp only [pathNames, leadsToDirectory, htext, hsplit]
  constructor
  · simp [h]
  · rw [List.getLast?_cons_of_ne_nil hne]

theorem Present.dot {path : String} (h : fs.Present path) (hrelative : path.toList.head? ≠ some '/')
    (hdirectory : fs.Directory []) : fs.Present ("./" ++ path) := by
  obtain ⟨hne, place, hleads, hfilled, hplain⟩ := h
  obtain ⟨hnames, hslash⟩ := pathNames_dot hrelative
  refine ⟨by simp, place, ?_, hfilled, hslash ▸ hplain⟩
  rw [hnames]
  exact .on hdirectory hleads

end PolicyGate.FileSystem
